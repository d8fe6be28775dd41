import Mathlib.Tactic.Common
import Mathlib.Data.List.Lex
import Mathlib.Data.Char
import Mathlib.Algebra.Group.Nat.Defs

/-!
# UTC instants and the order of their ISO text

The stores keep every timestamp as the text `datetime.isoformat()` gives it and
compare timestamps *as text* inside SQL, while the Python side compares parsed
`datetime` values. Whether a lease is live must not depend on which of the two
comparisons is asked.

This file is the calendar both sides rest on: an instant is a number of
microseconds since `0001-01-01T00:00:00+00:00` (the whole range of Python's
`datetime`), `ord2ymd` is CPython's proleptic Gregorian split of a day ordinal,
and `isoformat` writes the text, *without* a fraction when the microsecond is
zero. The payoff is

> `isoformat_lt_iff`: text order is time order.

The one delicate point is the last character class: a text without a fraction
continues with `+` where one with a fraction continues with `.`, and `+` sorts
before `.`, so the missing fraction behaves like the zero it stands for.
-/

namespace SafeFsOps

/-! ## Lexicographic order of fixed-width blocks -/

/-- Blocks of one length compare first; the rest only breaks ties. -/
theorem lt_append_iff : ∀ {a b x y : List Char}, a.length = b.length →
    (a ++ x < b ++ y ↔ a < b ∨ a = b ∧ x < y)
  | [], [], x, y, _ => by simp
  | c :: a, d :: b, x, y, h => by
    have ih := lt_append_iff (x := x) (y := y) (Nat.succ.inj h)
    simp only [List.cons_append, List.cons_lt_cons_iff, ih, List.cons.injEq]
    tauto

/-- The decimal digit of `n`'s last place. -/
def digit (n : Nat) : Char := Char.ofNat (48 + n % 10)

theorem digit_lt_iff (a b : Nat) : digit a < digit b ↔ a % 10 < b % 10 := by
  have h : ∀ i < 10, ∀ j < 10, digit i < digit j ↔ i < j := by decide
  have := h (a % 10) (by omega) (b % 10) (by omega)
  simpa [digit] using this

theorem digit_inj {a b : Nat} (h : digit a = digit b) : a % 10 = b % 10 := by
  rcases Nat.lt_trichotomy (a % 10) (b % 10) with hlt | heq | hgt
  · exact absurd ((digit_lt_iff a b).2 hlt) (by rw [h]; exact Char.lt_irrefl _)
  · exact heq
  · exact absurd ((digit_lt_iff b a).2 hgt) (by rw [h]; exact Char.lt_irrefl _)

/-- `n` in exactly `k` decimal places, as `'{:0k}'` writes it. -/
def pad : Nat → Nat → List Char
  | 0, _ => []
  | k + 1, n => pad k (n / 10) ++ [digit n]

@[simp] theorem pad_length : ∀ k n, (pad k n).length = k
  | 0, _ => rfl
  | k + 1, n => by simp [pad, pad_length k]

theorem pad_inj : ∀ {k a b : Nat}, a < 10 ^ k → b < 10 ^ k → pad k a = pad k b → a = b
  | 0, a, b, ha, hb, _ => by simp at ha hb; omega
  | k + 1, a, b, ha, hb, h => by
    obtain ⟨hq, hd⟩ := List.append_inj h (by simp)
    have hq' := pad_inj (a := a / 10) (b := b / 10) (by omega) (by omega) hq
    have hd' := digit_inj (List.cons.inj hd).1
    omega

/-- Fixed-width decimals compare as the numbers they write. -/
theorem pad_lt_iff : ∀ {k a b : Nat}, a < 10 ^ k → b < 10 ^ k → (pad k a < pad k b ↔ a < b)
  | 0, a, b, ha, hb => by simp at ha hb; simp [ha, hb]
  | k + 1, a, b, ha, hb => by
    have ih := pad_lt_iff (k := k) (a := a / 10) (b := b / 10) (by omega) (by omega)
    rw [pad, pad, lt_append_iff (by simp), ih]
    constructor
    · rintro (h | ⟨h, hd⟩)
      · omega
      · have hq := pad_inj (a := a / 10) (b := b / 10) (by omega) (by omega) h
        have : digit a < digit b := by simpa [List.cons_lt_cons_iff] using hd
        have := (digit_lt_iff a b).1 this
        omega
    · intro h
      rcases Nat.lt_or_ge (a / 10) (b / 10) with hq | hq
      · exact Or.inl hq
      · have heq : a / 10 = b / 10 := by omega
        refine Or.inr ⟨by rw [heq], ?_⟩
        have : digit a < digit b := (digit_lt_iff a b).2 (by omega)
        simpa [List.cons_lt_cons_iff] using this

/-- A padded field in front: the field decides, the rest breaks ties. -/
theorem pad_append_lt_iff {k a b : Nat} {x y : List Char} (ha : a < 10 ^ k) (hb : b < 10 ^ k) :
    pad k a ++ x < pad k b ++ y ↔ a < b ∨ a = b ∧ x < y := by
  rw [lt_append_iff (by simp), pad_lt_iff ha hb]
  constructor
  · rintro (h | ⟨h, hx⟩)
    · exact Or.inl h
    · exact Or.inr ⟨pad_inj ha hb h, hx⟩
  · rintro (h | ⟨rfl, hx⟩)
    · exact Or.inl h
    · exact Or.inr ⟨rfl, hx⟩

/-! ## The proleptic Gregorian calendar -/

/-- `calendar.isleap`. -/
def isLeap (y : Nat) : Bool := y % 4 = 0 && (y % 100 ≠ 0 || y % 400 = 0)

/-- Days in year `y`. -/
def yearLength (y : Nat) : Nat := if isLeap y then 366 else 365

/-- Days before January 1st of year `y`. -/
def daysBeforeYear (y : Nat) : Nat := (y - 1) * 365 + (y - 1) / 4 - (y - 1) / 100 + (y - 1) / 400

/-- A year number split as CPython splits it fixes all three quotients. -/
theorem daysBeforeYear_split {a b c e : Nat} (hb : b < 4) (hc : c < 25) (he : e < 4) :
    daysBeforeYear (a * 400 + b * 100 + c * 4 + e + 1)
      = a * 146097 + b * 36524 + c * 1461 + e * 365 := by
  have h4 : (a * 400 + b * 100 + c * 4 + e) / 4 = a * 100 + b * 25 + c := by omega
  have h100 : (a * 400 + b * 100 + c * 4 + e) / 100 = a * 4 + b := by omega
  have h400 : (a * 400 + b * 100 + c * 4 + e) / 400 = a := by omega
  rw [daysBeforeYear, Nat.add_sub_cancel, h4, h100, h400]
  omega

theorem isLeap_iff (y : Nat) : isLeap y = true ↔ y % 4 = 0 ∧ (y % 100 ≠ 0 ∨ y % 400 = 0) := by
  simp [isLeap]

theorem daysBeforeYear_succ (y : Nat) (hy : 1 ≤ y) :
    daysBeforeYear (y + 1) = daysBeforeYear y + yearLength y := by
  have h4 : y / 4 = (y - 1) / 4 + if y % 4 = 0 then 1 else 0 := by split <;> omega
  have h100 : y / 100 = (y - 1) / 100 + if y % 100 = 0 then 1 else 0 := by split <;> omega
  have h400 : y / 400 = (y - 1) / 400 + if y % 400 = 0 then 1 else 0 := by split <;> omega
  have hle : (y - 1) / 100 ≤ (y - 1) / 4 := by omega
  rw [daysBeforeYear, Nat.add_sub_cancel, h4, h100, h400, daysBeforeYear, yearLength]
  simp only [isLeap_iff]
  have hdvd : y % 400 = 0 → y % 100 = 0 := by omega
  have hdvd' : y % 100 = 0 → y % 4 = 0 := by omega
  generalize (y - 1) / 4 = q4, (y - 1) / 100 = q100, (y - 1) / 400 = q400 at *
  split <;> split <;> split <;> split <;> omega

theorem daysBeforeYear_mono {y y' : Nat} (hy : 1 ≤ y) (h : y < y') :
    daysBeforeYear y + yearLength y ≤ daysBeforeYear y' := by
  obtain ⟨k, rfl⟩ := Nat.exists_eq_add_of_le h
  clear h
  induction k with
  | zero => exact Nat.le_of_eq (daysBeforeYear_succ y hy).symm
  | succ k ih =>
    rw [← Nat.add_assoc, daysBeforeYear_succ (y.succ + k) (by omega)]
    exact Nat.le_trans ih (Nat.le_add_right _ _)

/-- Days of the (possibly leap) year before month `m`. -/
def daysBeforeMonth (leap : Bool) (m : Nat) : Nat :=
  [0, 0, 31, 59, 90, 120, 151, 181, 212, 243, 273, 304, 334].getD m 365
    + (if 2 < m && leap then 1 else 0)

/-- Month and day of day `r` (from zero) of a year; CPython's estimate
`(r + 50) >> 5` is one too large when the month has not begun. -/
def monthDay (leap : Bool) (r : Nat) : Nat × Nat :=
  let est := (r + 50) / 32
  let m := if r < daysBeforeMonth leap est then est - 1 else est
  (m, r - daysBeforeMonth leap m + 1)

/-- Month and day in range, and they lead back to the day of the year. -/
def MonthDayOk (leap : Bool) (r : Nat) : Prop :=
  (monthDay leap r).1 < 13 ∧ 1 ≤ (monthDay leap r).1 ∧
  (monthDay leap r).2 < 32 ∧ 1 ≤ (monthDay leap r).2 ∧
  daysBeforeMonth leap (monthDay leap r).1 + (monthDay leap r).2 = r + 1 ∧
  r < daysBeforeMonth leap ((monthDay leap r).1 + 1)

instance (leap : Bool) (r : Nat) : Decidable (MonthDayOk leap r) :=
  inferInstanceAs (Decidable (_ ∧ _))

theorem monthDay_ok (leap : Bool) (r : Nat) (h : r < if leap then 366 else 365) :
    MonthDayOk leap r := by
  have common : ∀ i < 365, MonthDayOk false i := by decide +kernel
  have leapy : ∀ i < 366, MonthDayOk true i := by decide +kernel
  cases leap
  · exact common r (by simpa using h)
  · exact leapy r (by simpa using h)

theorem daysBeforeMonth_mono (leap : Bool) {m m' : Nat} (hm : m < m') (hm' : m' < 13) :
    daysBeforeMonth leap (m + 1) ≤ daysBeforeMonth leap m' := by
  have h : ∀ l, ∀ j < 13, ∀ i < j, daysBeforeMonth l (i + 1) ≤ daysBeforeMonth l j := by decide
  exact h leap m' hm' m hm

/-- Within one year, later days have later (month, day) pairs. -/
theorem monthDay_lt_iff (leap : Bool) {r r' : Nat} (h : r < if leap then 366 else 365)
    (h' : r' < if leap then 366 else 365) :
    r < r' ↔ (monthDay leap r).1 < (monthDay leap r').1 ∨
      (monthDay leap r).1 = (monthDay leap r').1 ∧ (monthDay leap r).2 < (monthDay leap r').2 := by
  obtain ⟨hm, hm1, _, hd1, hr, hend⟩ := monthDay_ok leap r h
  obtain ⟨hm', hm1', _, hd1', hr', hend'⟩ := monthDay_ok leap r' h'
  rcases Nat.lt_trichotomy (monthDay leap r).1 (monthDay leap r').1 with hlt | heq | hgt
  · have := daysBeforeMonth_mono leap hlt hm'
    omega
  · rw [heq] at hr
    omega
  · have := daysBeforeMonth_mono leap hgt hm
    omega

/-- CPython's `_ord2ymd`: year, month and day of day ordinal `n` (from zero). -/
def ord2ymd (n : Nat) : Nat × Nat × Nat :=
  let n400 := n / 146097
  let r := n % 146097
  let n100 := r / 36524
  let r := r % 36524
  let n4 := r / 1461
  let r := r % 1461
  let n1 := r / 365
  let year := n400 * 400 + n100 * 100 + n4 * 4 + n1 + 1
  if n1 = 4 ∨ n100 = 4 then (year - 1, 12, 31)
  else (year, monthDay (isLeap year) (r % 365))

/-- The split is exact: the year begins `r` days before ordinal `n`, and `r` is
a day of that year. The last day of a leap year is the branch CPython singles
out, because there the quotients overshoot by one. -/
theorem ord2ymd_spec (n : Nat) : ∃ y r, 1 ≤ y ∧ r < yearLength y ∧ daysBeforeYear y + r = n ∧
    ord2ymd n = (y, monthDay (isLeap y) r) := by
  obtain ⟨a, ha⟩ : ∃ a, a = n / 146097 := ⟨_, rfl⟩
  obtain ⟨b, hb⟩ : ∃ b, b = n % 146097 / 36524 := ⟨_, rfl⟩
  obtain ⟨c, hc⟩ : ∃ c, c = n % 146097 % 36524 / 1461 := ⟨_, rfl⟩
  obtain ⟨e, he⟩ : ∃ e, e = n % 146097 % 36524 % 1461 / 365 := ⟨_, rfl⟩
  have hn : n = a * 146097 + b * 36524 + c * 1461 + n % 146097 % 36524 % 1461 := by omega
  have hb4 : b ≤ 4 := by omega
  have hc25 : c < 25 := by omega
  have he4 : e ≤ 4 := by omega
  simp only [ord2ymd, ← ha, ← hb, ← hc, ← he]
  by_cases hlast : e = 4 ∨ b = 4
  · rw [if_pos hlast, Nat.add_sub_cancel]
    have hy : isLeap (a * 400 + b * 100 + c * 4 + e) = true := by rw [isLeap_iff]; omega
    have hlen : yearLength (a * 400 + b * 100 + c * 4 + e) = 366 := by rw [yearLength, if_pos hy]
    have hnext := daysBeforeYear_succ (a * 400 + b * 100 + c * 4 + e) (by omega)
    refine ⟨a * 400 + b * 100 + c * 4 + e, 365, by omega, by omega, ?_, by rw [hy]; rfl⟩
    rcases hlast with rfl | rfl
    · have hsplit := daysBeforeYear_split (a := a) (b := b) (c := c + 1) (e := 0)
        (by omega) (by omega) (by omega)
      rw [show a * 400 + b * 100 + (c + 1) * 4 + 0 + 1 = a * 400 + b * 100 + c * 4 + 4 + 1 by omega]
        at hsplit
      omega
    · obtain ⟨rfl, rfl⟩ : c = 0 ∧ e = 0 := by omega
      have hsplit := daysBeforeYear_split (a := a + 1) (b := 0) (c := 0) (e := 0)
        (by omega) (by omega) (by omega)
      rw [show (a + 1) * 400 + 0 * 100 + 0 * 4 + 0 + 1 = a * 400 + 4 * 100 + 0 * 4 + 0 + 1 by omega]
        at hsplit
      omega
  · rw [if_neg hlast]
    refine ⟨a * 400 + b * 100 + c * 4 + e + 1, n % 146097 % 36524 % 1461 % 365, by omega, ?_, ?_, rfl⟩
    · unfold yearLength
      split <;> omega
    · rw [daysBeforeYear_split (by omega) hc25 (by omega)]
      omega

/-- Years of ordinals within Python's range fit in four digits. -/
theorem ord2ymd_year_lt {n : Nat} (h : n < 3652059) : (ord2ymd n).1 < 10000 := by
  obtain ⟨y, r, hy, -, hn, hsplit⟩ := ord2ymd_spec n
  rw [hsplit]
  show y < 10000
  by_contra hge
  unfold daysBeforeYear at hn
  omega

theorem ord2ymd_monthDay_lt (n : Nat) : (ord2ymd n).2.1 < 100 ∧ (ord2ymd n).2.2 < 100 := by
  obtain ⟨y, r, -, hr, -, hsplit⟩ := ord2ymd_spec n
  obtain ⟨hm, -, hd, -⟩ := monthDay_ok (isLeap y) r (by unfold yearLength at hr; exact hr)
  rw [hsplit]
  exact ⟨by show (monthDay (isLeap y) r).1 < 100; omega, by show (monthDay (isLeap y) r).2 < 100; omega⟩

/-- Calendar dates compare like day ordinals. -/
theorem ord2ymd_lt_iff (n n' : Nat) : n < n' ↔ (ord2ymd n).1 < (ord2ymd n').1 ∨
    (ord2ymd n).1 = (ord2ymd n').1 ∧ ((ord2ymd n).2.1 < (ord2ymd n').2.1 ∨
      (ord2ymd n).2.1 = (ord2ymd n').2.1 ∧ (ord2ymd n).2.2 < (ord2ymd n').2.2) := by
  obtain ⟨y, r, hy, hr, rfl, hsplit⟩ := ord2ymd_spec n
  obtain ⟨y', r', hy', hr', rfl, hsplit'⟩ := ord2ymd_spec n'
  rw [hsplit, hsplit']
  show _ ↔ y < y' ∨ y = y' ∧ _
  rcases Nat.lt_trichotomy y y' with hlt | rfl | hgt
  · have := daysBeforeYear_mono hy hlt
    omega
  · have := @monthDay_lt_iff (isLeap y) r r'
      (by unfold yearLength at hr; exact hr) (by unfold yearLength at hr'; exact hr')
    simp only [Nat.lt_irrefl, true_and, false_or, Nat.add_lt_add_iff_left]
    exact this
  · have := daysBeforeYear_mono hy' hgt
    omega

/-! ## Instants and their text -/

/-- Microseconds in a day. -/
def microsPerDay : Nat := 86400000000

/-- A UTC `datetime`, as microseconds since the start of year 1. Python's
`datetime` ends with year 9999, which the field records. -/
structure DateTime where
  micros : Nat
  inRange : micros < 3652059 * microsPerDay
deriving DecidableEq

namespace DateTime

instance : LT DateTime := ⟨fun a b => a.micros < b.micros⟩
instance : LE DateTime := ⟨fun a b => a.micros ≤ b.micros⟩
instance (a b : DateTime) : Decidable (a < b) := inferInstanceAs (Decidable (a.micros < b.micros))
instance (a b : DateTime) : Decidable (a ≤ b) := inferInstanceAs (Decidable (a.micros ≤ b.micros))

theorem lt_def (a b : DateTime) : a < b ↔ a.micros < b.micros := Iff.rfl

@[ext] theorem ext {a b : DateTime} (h : a.micros = b.micros) : a = b := by
  cases a; cases b; cases h; rfl

/-- The instant so many microseconds after the start of year 1, counted from there again past the end of year 9999. -/
def soon (n : Nat) : DateTime := ⟨n % (3652059 * microsPerDay), Nat.mod_lt n (by decide)⟩

/-- `datetime + timedelta`; `none` is Python's `OverflowError`. -/
def add (t : DateTime) (delta : Int) : Option DateTime :=
  if h : 0 ≤ t.micros + delta ∧ (t.micros + delta).toNat < 3652059 * microsPerDay then
    some ⟨(t.micros + delta).toNat, h.2⟩
  else none

/-- A positive delta that does not overflow leads to a later instant. -/
theorem lt_of_add {t u : DateTime} {delta : Int} (hpos : 0 < delta) (h : t.add delta = some u) :
    t < u := by
  unfold add at h
  split at h
  · obtain rfl := Option.some.inj h
    show t.micros < (t.micros + delta).toNat
    omega
  · cases h

def day (t : DateTime) : Nat := t.micros / microsPerDay
def hour (t : DateTime) : Nat := t.micros / 3600000000 % 24
def minute (t : DateTime) : Nat := t.micros / 60000000 % 60
def second (t : DateTime) : Nat := t.micros / 1000000 % 60
def microsecond (t : DateTime) : Nat := t.micros % 1000000

/-- The end of the text: `isoformat` leaves a zero fraction out. -/
def fraction (micro : Nat) : List Char :=
  (if micro = 0 then [] else '.' :: pad 6 micro) ++ "+00:00".toList

/-- `datetime.isoformat()` of a UTC instant. -/
def isoformat (t : DateTime) : List Char :=
  pad 4 (ord2ymd t.day).1 ++ ('-' :: (pad 2 (ord2ymd t.day).2.1 ++ ('-' :: (pad 2 (ord2ymd t.day).2.2 ++
    ('T' :: (pad 2 t.hour ++ (':' :: (pad 2 t.minute ++ (':' :: (pad 2 t.second ++
      fraction t.microsecond))))))))))

theorem micros_split (t : DateTime) :
    t.micros = t.day * microsPerDay + t.hour * 3600000000 + t.minute * 60000000
      + t.second * 1000000 + t.microsecond := by
  simp only [day, hour, minute, second, microsecond, microsPerDay]
  omega

theorem fraction_lt_iff {a b : Nat} (ha : a < 1000000) (hb : b < 1000000) :
    fraction a < fraction b ↔ a < b := by
  unfold fraction
  by_cases ha0 : a = 0 <;> by_cases hb0 : b = 0
  · simp [ha0, hb0]
  · simp only [ha0, hb0, if_true, if_false]
    have : ('+' : Char) < '.' := by decide
    simp [List.cons_lt_cons_iff, this, Nat.pos_of_ne_zero hb0]
  · simp only [ha0, hb0, if_true, if_false]
    have : ¬ ('.' : Char) < '+' := by decide
    simp [List.cons_lt_cons_iff, this]
  · simp only [ha0, hb0, if_false, List.cons_append, List.cons_lt_cons_iff]
    rw [pad_append_lt_iff (by omega) (by omega)]
    simp

/-- **Text order is time order**: comparing stored timestamps as text, as the
SQL conditions do, agrees with comparing the instants. -/
theorem isoformat_lt_iff (a b : DateTime) : a.isoformat < b.isoformat ↔ a < b := by
  have hda : a.day < 3652059 := Nat.div_lt_of_lt_mul (by rw [Nat.mul_comm]; exact a.inRange)
  have hdb : b.day < 3652059 := Nat.div_lt_of_lt_mul (by rw [Nat.mul_comm]; exact b.inRange)
  have hma := ord2ymd_monthDay_lt a.day
  have hmb := ord2ymd_monthDay_lt b.day
  have hsep : ∀ (c : Char) (x y : List Char), c :: x < c :: y ↔ x < y := by
    intro c x y; simp
  have hclock : a.hour < 24 ∧ b.hour < 24 ∧ a.minute < 60 ∧ b.minute < 60 ∧ a.second < 60 ∧
      b.second < 60 ∧ a.microsecond < 1000000 ∧ b.microsecond < 1000000 := by
    simp only [hour, minute, second, microsecond]; omega
  unfold isoformat
  rw [pad_append_lt_iff (ord2ymd_year_lt hda) (ord2ymd_year_lt hdb), hsep,
    pad_append_lt_iff hma.1 hmb.1, hsep, pad_append_lt_iff hma.2 hmb.2, hsep,
    pad_append_lt_iff (by omega) (by omega), hsep, pad_append_lt_iff (by omega) (by omega), hsep,
    pad_append_lt_iff (by omega) (by omega), fraction_lt_iff (by omega) (by omega)]
  have hdate := ord2ymd_lt_iff a.day b.day
  have hdate' := ord2ymd_lt_iff b.day a.day
  -- the calendar part collapses to the day ordinals, the rest is arithmetic
  have hcollapse : ∀ clock : Prop,
      ((ord2ymd a.day).1 < (ord2ymd b.day).1 ∨ (ord2ymd a.day).1 = (ord2ymd b.day).1 ∧
        ((ord2ymd a.day).2.1 < (ord2ymd b.day).2.1 ∨ (ord2ymd a.day).2.1 = (ord2ymd b.day).2.1 ∧
          ((ord2ymd a.day).2.2 < (ord2ymd b.day).2.2 ∨
            (ord2ymd a.day).2.2 = (ord2ymd b.day).2.2 ∧ clock)))
        ↔ a.day < b.day ∨ a.day = b.day ∧ clock := by
    intro clock
    rcases Nat.lt_trichotomy a.day b.day with hlt | heq | hgt
    · have := hdate.1 hlt
      by_cases hc : clock <;> simp only [hc] <;> omega
    · rw [heq]
      simp
    · have := hdate'.1 hgt
      by_cases hc : clock <;> simp only [hc] <;> omega
  rw [hcollapse, lt_def, micros_split a, micros_split b]
  generalize a.hour = ah, a.minute = am, a.second = as, a.microsecond = au,
    b.hour = bh, b.minute = bm, b.second = bs, b.microsecond = bu at *
  rw [show microsPerDay = 86400000000 from rfl]
  omega

end DateTime

end SafeFsOps
