import Mathlib.Data.List.Perm.Basic
import Mathlib.Data.List.Sort
import Mathlib.Data.String.Basic

/-!
# JSON

What Python's `json` writes with `sort_keys=True, separators=(",", ":")`, and reads
again: values whose objects are lists of members, the compact text of a value, and a
reader for such texts.

- `Same`: two values are the same up to the order of members.
- `dumps`: the members sorted by key, without blanks, in ASCII.
- `loads`: the value of a compact text.

> `loads_dumps`: what was written is read back, its members sorted.
> `dumps_eq_iff`: two values have one text exactly if they are the same.
> `get_stored`: under a key there is, once stored, what was there.

A float is the text that `repr` gives it, so that two floats are the same where their
texts are. A text of Python is a sequence of Unicode scalar values.
-/

namespace SafeFsOps

/-- A hexadecimal digit. -/
def hexDigit (n : Nat) : Char := "0123456789abcdef".toList.getD n '0'

/-! ## Words: what stands without quotes -/

/-- What ends a word. -/
def isDelimiter (c : Char) : Bool := c = ',' || c = ']' || c = '}'

/-- The number that digits write; there must be one. -/
def readDigits (cs : List Char) : Option Nat :=
  if cs ≠ [] ∧ cs.all Char.isDigit = true then some (Nat.ofDigitChars 10 cs 0) else none

/-- `int(text)` of a JSON number. -/
def readInt : List Char → Option Int
  | '-' :: cs => (readDigits cs).map fun n : Nat => -(n : Int)
  | cs => (readDigits cs).map Int.ofNat

/-- `int.__repr__`. -/
def writeInt (n : Int) : List Char :=
  if 0 ≤ n then Nat.toDigits 10 n.natAbs else '-' :: Nat.toDigits 10 n.natAbs

/-- What the texts of floats are made of, those that are no numbers included. -/
def floatAlphabet : List Char := "0123456789+-.eNaInfity".toList

/-- The text of a float, and of no integer. -/
def isFloatText (cs : List Char) : Bool := cs ≠ [] && cs.all (· ∈ floatAlphabet) && readInt cs = none

/-- `float.__repr__`. -/
structure FloatText where
  text : List Char
  ok : isFloatText text = true
deriving DecidableEq

/-! ## Values -/

/-- A JSON value. -/
inductive Json where
  | null
  | bool (b : Bool)
  | int (n : Int)
  | float (x : FloatText)
  | str (s : String)
  | arr (items : List Json)
  | obj (members : List (String × Json))

namespace Json

mutual

/-- The members of every object have keys of their own, as those of a `dict` do. -/
def WellFormed : Json → Prop
  | arr items => WellFormedItems items
  | obj members => (members.map Prod.fst).Nodup ∧ WellFormedMembers members
  | _ => True

def WellFormedItems : List Json → Prop
  | [] => True
  | x :: xs => x.WellFormed ∧ WellFormedItems xs

def WellFormedMembers : List (String × Json) → Prop
  | [] => True
  | (_, v) :: ms => v.WellFormed ∧ WellFormedMembers ms

end

mutual

/-- The same value, up to the order of members. -/
def Same : Json → Json → Prop
  | null, b => b = null
  | bool x, b => b = bool x
  | int n, b => b = int n
  | float x, b => b = float x
  | str s, b => b = str s
  | arr items, b => ∃ items', b = arr items' ∧ SameItems items items'
  | obj members, b => ∃ members' reordered, b = obj members' ∧ reordered.Perm members' ∧ SameMembers members reordered

def SameItems : List Json → List Json → Prop
  | [], ys => ys = []
  | x :: xs, ys => ∃ y ys', ys = y :: ys' ∧ x.Same y ∧ SameItems xs ys'

def SameMembers : List (String × Json) → List (String × Json) → Prop
  | [], ms' => ms' = []
  | (k, v) :: ms, ms' => ∃ v' ms'', ms' = (k, v') :: ms'' ∧ v.Same v' ∧ SameMembers ms ms''

end

mutual

/-- The value with the members of every object sorted by key. -/
def sorted : Json → Json
  | arr items => arr (sortedItems items)
  | obj members => obj ((sortedMembers members).insertionSort fun p q => p.1 ≤ q.1)
  | null => null
  | bool b => bool b
  | int n => int n
  | float x => float x
  | str s => str s

def sortedItems : List Json → List Json
  | [] => []
  | x :: xs => x.sorted :: sortedItems xs

def sortedMembers : List (String × Json) → List (String × Json)
  | [] => []
  | (k, v) :: ms => (k, v.sorted) :: sortedMembers ms

end

/-! ## Writing -/

/-- `\uXXXX`. -/
def hexEscape (n : Nat) : List Char :=
  ['\\', 'u', hexDigit (n / 4096), hexDigit (n / 256 % 16), hexDigit (n / 16 % 16), hexDigit (n % 16)]

/-- A character of a text: ASCII only. -/
def escape (c : Char) : List Char :=
  if c = '"' ∨ c = '\\' then ['\\', c]
  else if c = '\n' then ['\\', 'n']
  else if c = '\r' then ['\\', 'r']
  else if c = '\t' then ['\\', 't']
  else if c.toNat = 8 then ['\\', 'b']
  else if c.toNat = 12 then ['\\', 'f']
  else if 32 ≤ c.toNat ∧ c.toNat < 127 then [c]
  else if c.toNat < 65536 then hexEscape c.toNat
  -- beyond the basic plane: a surrogate pair
  else hexEscape (55296 + (c.toNat - 65536) / 1024) ++ hexEscape (56320 + (c.toNat - 65536) % 1024)

/-- A text in double quotes. -/
def writeText (s : List Char) : List Char := '"' :: (s.flatMap escape ++ ['"'])

/-- Written items between brackets, with commas. -/
def writeSeq (first last : Char) : List (List Char) → List Char
  | [] => [first, last]
  | x :: xs => first :: (x ++ (xs.flatMap fun y => ',' :: y) ++ [last])

mutual

/-- The text of a value, its members as they stand. -/
def write : Json → List Char
  | null => "null".toList
  | bool true => "true".toList
  | bool false => "false".toList
  | int n => writeInt n
  | float x => x.text
  | str s => writeText s.toList
  | arr items => writeSeq '[' ']' (writeItems items)
  | obj members => writeSeq '{' '}' (writeMembers members)

def writeItems : List Json → List (List Char)
  | [] => []
  | x :: xs => x.write :: writeItems xs

def writeMembers : List (String × Json) → List (List Char)
  | [] => []
  | (k, v) :: ms => (writeText k.toList ++ ':' :: v.write) :: writeMembers ms

end

/-- `json.dumps(…, sort_keys=True, separators=(",", ":"))`. -/
def dumps (j : Json) : List Char := j.sorted.write

/-! ## Reading -/

/-- The value of a hexadecimal digit. -/
def hexValue (c : Char) : Option Nat :=
  if ("0123456789abcdef".toList.idxOf c) < 16 then some ("0123456789abcdef".toList.idxOf c) else none

/-- The four digits after `\u`. -/
def readHex : List Char → Option (Nat × List Char)
  | a :: b :: c :: d :: cs => do
    let a ← hexValue a
    let b ← hexValue b
    let c ← hexValue c
    let d ← hexValue d
    return (a * 4096 + b * 256 + c * 16 + d, cs)
  | _ => none

/-- What follows `\u`: a character, or the first half of a surrogate pair, and then the other. -/
def readUnicode (cs : List Char) : Option (Char × List Char) := do
  let (n, cs) ← readHex cs
  if 55296 ≤ n ∧ n < 56320 then
    match cs with
    | '\\' :: 'u' :: cs => do
      let (m, cs) ← readHex cs
      return (Char.ofNat (65536 + (n - 55296) * 1024 + (m - 56320)), cs)
    | _ => none
  else return (Char.ofNat n, cs)

/-- What follows a backslash. -/
def readEscape : List Char → Option (Char × List Char)
  | [] => none
  | c :: cs =>
    if c = '"' ∨ c = '\\' ∨ c = '/' then some (c, cs)
    else if c = 'n' then some ('\n', cs)
    else if c = 'r' then some ('\r', cs)
    else if c = 't' then some ('\t', cs)
    else if c = 'b' then some (Char.ofNat 8, cs)
    else if c = 'f' then some (Char.ofNat 12, cs)
    else if c = 'u' then readUnicode cs
    else none

/-- A character inside of quotes. -/
def readCharacter (c : Char) (cs : List Char) : Option (Char × List Char) :=
  if c = '\\' then readEscape cs else some (c, cs)

/-- A text, after its first quote; no text is longer than what is written there. -/
def readText : Nat → List Char → Option (List Char × List Char)
  | 0, _ => none
  | _ + 1, [] => none
  | n + 1, c :: cs =>
    if c = '"' then some ([], cs)
    else (readCharacter c cs).bind fun r => (readText n r.2).map fun q => (r.1 :: q.1, q.2)

section Seq

variable {α : Type}

/-- Further items, each after a comma, and the last bracket. -/
def readRest (last : Char) (one : List Char → Option (α × List Char)) : Nat → List Char → Option (List α × List Char)
  | 0, _ => none
  | _ + 1, [] => none
  | n + 1, c :: cs =>
    if c = last then some ([], cs)
    else if c = ',' then do
      let (x, cs) ← one cs
      let (xs, cs) ← readRest last one n cs
      return (x :: xs, cs)
    else none

/-- Items, after the first bracket. -/
def readSeq (last : Char) (one : List Char → Option (α × List Char)) : List Char → Option (List α × List Char)
  | [] => none
  | c :: cs =>
    if c = last then some ([], cs)
    else do
      let (x, cs) ← one (c :: cs)
      let (xs, cs) ← readRest last one (cs.length + 1) cs
      return (x :: xs, cs)

end Seq

/-- What a word means. -/
def ofWord (w : List Char) : Option Json :=
  if w = "null".toList then some null
  else if w = "true".toList then some (bool true)
  else if w = "false".toList then some (bool false)
  else match readInt w with
    | some n => some (int n)
    | none => if h : isFloatText w = true then some (float ⟨w, h⟩) else none

/-- A member: its key, a colon, and its value. -/
def readMember (value : List Char → Option (Json × List Char)) : List Char → Option ((String × Json) × List Char)
  | '"' :: cs => do
    let (k, cs) ← readText (cs.length + 1) cs
    match cs with
    | ':' :: cs => do
      let (v, cs) ← value cs
      return ((String.ofList k, v), cs)
    | _ => none
  | _ => none

/-- A value, nested no deeper than `n`. -/
def readValue : Nat → List Char → Option (Json × List Char)
  | 0, _ => none
  | _ + 1, [] => none
  | n + 1, c :: cs =>
    if c = '"' then (readText (cs.length + 1) cs).map fun r => (str (String.ofList r.1), r.2)
    else if c = '[' then (readSeq ']' (readValue n) cs).map fun r => (arr r.1, r.2)
    else if c = '{' then (readSeq '}' (readMember (readValue n)) cs).map fun r => (obj r.1, r.2)
    else (ofWord ((c :: cs).takeWhile fun c => !isDelimiter c)).map fun j =>
      (j, (c :: cs).dropWhile fun c => !isDelimiter c)

/-- `json.loads`, of compact texts; no value is nested deeper than its text is long. -/
def loads (cs : List Char) : Option Json :=
  match readValue cs.length cs with
  | some (j, []) => some j
  | _ => none

/-! ## Texts are read back -/

theorem hexValue_hexDigit {n : Nat} (h : n < 16) : hexValue (hexDigit n) = some n := by
  have hall : ∀ i < 16, hexValue (hexDigit i) = some i := by decide
  exact hall n h

theorem readHex_hexEscape {n : Nat} (h : n < 65536) (cs : List Char) :
    readHex ((hexEscape n).drop 2 ++ cs) = some (n, cs) := by
  show readHex (hexDigit (n / 4096) :: hexDigit (n / 256 % 16) :: hexDigit (n / 16 % 16) :: hexDigit (n % 16) :: cs) = _
  rw [readHex, hexValue_hexDigit (by omega), hexValue_hexDigit (by omega), hexValue_hexDigit (by omega),
    hexValue_hexDigit (by omega)]
  show some (n / 4096 * 4096 + n / 256 % 16 * 256 + n / 16 % 16 * 16 + n % 16, cs) = some (n, cs)
  rw [show n / 4096 * 4096 + n / 256 % 16 * 256 + n / 16 % 16 * 16 + n % 16 = n by omega]

/-- No character is half of a surrogate pair. -/
theorem not_surrogate (c : Char) : ¬ (55296 ≤ c.toNat ∧ c.toNat < 57344) := by
  rcases c.valid with h | ⟨h, -⟩
  · have : c.toNat < 55296 := h
    omega
  · have : 57343 < c.toNat := h
    omega

theorem readUnicode_basic {c : Char} (h : c.toNat < 65536) (cs : List Char) :
    readUnicode ((hexEscape c.toNat).drop 2 ++ cs) = some (c, cs) := by
  have hpair : ¬ (55296 ≤ c.toNat ∧ c.toNat < 56320) := fun hc => not_surrogate c ⟨hc.1, by omega⟩
  rw [readUnicode, readHex_hexEscape h]
  show (if 55296 ≤ c.toNat ∧ c.toNat < 56320 then _ else some (Char.ofNat c.toNat, cs)) = _
  rw [if_neg hpair, Char.ofNat_toNat]

theorem readUnicode_pair {c : Char} (h : 65536 ≤ c.toNat) (cs : List Char) :
    readUnicode ((hexEscape (55296 + (c.toNat - 65536) / 1024)).drop 2 ++
      (hexEscape (56320 + (c.toNat - 65536) % 1024) ++ cs)) = some (c, cs) := by
  have hmax : c.toNat < 1114112 := by
    rcases c.valid with h | ⟨-, h⟩
    · have : c.toNat < 55296 := h
      omega
    · exact h
  obtain ⟨high, hhigh⟩ : ∃ k, k = (c.toNat - 65536) / 1024 := ⟨_, rfl⟩
  obtain ⟨low, hlow⟩ : ∃ k, k = (c.toNat - 65536) % 1024 := ⟨_, rfl⟩
  rw [← hhigh, ← hlow, readUnicode, readHex_hexEscape (by omega)]
  show (if 55296 ≤ 55296 + high ∧ 55296 + high < 56320 then _ else _) = _
  rw [if_pos (by omega)]
  show (readHex ((hexEscape (56320 + low)).drop 2 ++ cs) >>= fun r =>
    some (Char.ofNat (65536 + (55296 + high - 55296) * 1024 + (r.1 - 56320)), r.2)) = _
  rw [readHex_hexEscape (by omega)]
  show some (Char.ofNat (65536 + (55296 + high - 55296) * 1024 + (56320 + low - 56320)), cs) = _
  rw [show 65536 + (55296 + high - 55296) * 1024 + (56320 + low - 56320) = c.toNat by omega, Char.ofNat_toNat]

/-- An escaped character is read as the character. -/
theorem readText_escape (c : Char) (n : Nat) (cs : List Char) :
    readText (n + 1) (escape c ++ cs) = (readText n cs).map fun r => (c :: r.1, r.2) := by
  have hslash : ∀ {d : Char} {tail : List Char}, readEscape tail = some (d, cs) →
      readText (n + 1) ('\\' :: tail) = (readText n cs).map fun r => (d :: r.1, r.2) := by
    intro d tail h
    rw [readText, if_neg (by decide), readCharacter, if_pos rfl, h]
    rfl
  unfold escape
  split
  · next hc =>
    have hread : readEscape (c :: cs) = some (c, cs) := if_pos (hc.imp_right Or.inl)
    exact hslash hread
  · next hquote =>
    split
    · next hc => rw [hc]; exact hslash rfl
    · split
      · next hc => rw [hc]; exact hslash rfl
      · split
        · next hc => rw [hc]; exact hslash rfl
        · split
          · next hc => rw [← Char.ofNat_toNat c, hc]; exact hslash rfl
          · split
            · next hc => rw [← Char.ofNat_toNat c, hc]; exact hslash rfl
            · split
              · -- a plain character stands for itself
                rw [List.singleton_append, readText, if_neg fun hc => hquote (Or.inl hc), readCharacter,
                  if_neg fun hc => hquote (Or.inr hc)]
                rfl
              · split
                · next hbasic => exact hslash (readUnicode_basic hbasic cs)
                · next hbasic =>
                  rw [List.append_assoc]
                  exact hslash (readUnicode_pair (by omega) cs)

/-- **A text is read back**, whatever follows its quote. -/
theorem readText_writeText : ∀ (s : List Char) {n : Nat} (cs : List Char), s.length < n →
    readText n (s.flatMap escape ++ '"' :: cs) = some (s, cs)
  | [], n + 1, cs, _ => by
    show readText (n + 1) ('"' :: cs) = _
    rw [readText, if_pos rfl]
  | c :: s, n + 1, cs, h => by
    have ih := readText_writeText s (n := n) cs (Nat.lt_of_succ_lt_succ h)
    rw [List.flatMap_cons, List.append_assoc, readText_escape, ih]
    rfl

/-- A text is no longer than what is written for it. -/
theorem length_le_flatMap_escape : ∀ s : List Char, s.length ≤ (s.flatMap escape).length
  | [] => Nat.le_refl _
  | c :: s => by
    have ih := length_le_flatMap_escape s
    have hc : 1 ≤ (escape c).length := by
      unfold escape hexEscape
      repeat' split
      all_goals simp
    rw [List.flatMap_cons, List.length_append, List.length_cons]
    omega

/-! ## Words are read back -/

theorem readDigits_toDigits (n : Nat) : readDigits (Nat.toDigits 10 n) = some n := by
  have hall : (Nat.toDigits 10 n).all Char.isDigit = true :=
    List.all_eq_true.2 fun c hc => Nat.isDigit_of_mem_toDigits (by decide) (by decide) hc
  rw [readDigits, if_pos ⟨Nat.toDigits_ne_nil, hall⟩, Nat.ofDigitChars_ten_toDigits]

theorem readInt_writeInt (n : Int) : readInt (writeInt n) = some n := by
  unfold writeInt
  split
  · next hn =>
    unfold readInt
    split
    · next cs hminus =>
      -- a digit is no minus
      have hdigit : '-'.isDigit = true :=
        Nat.isDigit_of_mem_toDigits (b := 10) (n := n.natAbs) (by decide) (by decide) (by rw [hminus]; exact List.mem_cons_self)
      cases hdigit
    · rw [readDigits_toDigits, Option.map_some]
      exact congrArg some (Int.natAbs_of_nonneg hn)
  · next hn =>
    rw [readInt, readDigits_toDigits, Option.map_some]
    exact congrArg some (by omega)

/-- What words are made of. -/
def wordAlphabet : List Char := floatAlphabet ++ "nulltruefalse".toList

/-- Characters are checked one by one. -/
theorem forall_of_all {p : Char → Prop} [DecidablePred p] {cs : List Char} (h : cs.all (fun c => p c) = true) :
    ∀ c ∈ cs, p c := fun c hc => of_decide_eq_true (List.all_eq_true.1 h c hc)

theorem mem_wordAlphabet {c : Char} (h : c ∈ wordAlphabet) : isDelimiter c = false ∧ c ≠ '"' ∧ c ≠ '[' ∧ c ≠ '{' := by
  have hall : ∀ c ∈ wordAlphabet, isDelimiter c = false ∧ c ≠ '"' ∧ c ≠ '[' ∧ c ≠ '{' := forall_of_all (by decide)
  exact hall c h

theorem digit_mem_floatAlphabet {c : Char} (h : c.isDigit = true) : c ∈ floatAlphabet := by
  have hall : ∀ n < 58, 48 ≤ n → Char.ofNat n ∈ floatAlphabet := by decide
  simp only [Char.isDigit, Bool.and_eq_true, decide_eq_true_eq] at h
  have hlow : 48 ≤ c.toNat := h.1
  have hhigh : c.toNat ≤ 57 := h.2
  have hc := hall c.toNat (by omega) hlow
  rw [Char.ofNat_toNat] at hc
  exact hc

theorem writeInt_alphabet {n : Int} {c : Char} (h : c ∈ writeInt n) : c ∈ floatAlphabet := by
  have hdigits : c ∈ Nat.toDigits 10 n.natAbs → c ∈ floatAlphabet := fun hc =>
    digit_mem_floatAlphabet (Nat.isDigit_of_mem_toDigits (by decide) (by decide) hc)
  unfold writeInt at h
  split at h
  · exact hdigits h
  · rcases List.mem_cons.1 h with rfl | h
    · decide
    · exact hdigits h

/-- The words `null`, `true` and `false` are no numbers. -/
theorem word_ne {w : List Char} (h : ∀ c ∈ w, c ∈ floatAlphabet) :
    w ≠ "null".toList ∧ w ≠ "true".toList ∧ w ≠ "false".toList := by
  refine ⟨?_, ?_, ?_⟩
  · rintro rfl
    exact absurd (h 'u' (by decide)) (by decide)
  · rintro rfl
    exact absurd (h 'u' (by decide)) (by decide)
  · rintro rfl
    exact absurd (h 'l' (by decide)) (by decide)

/-- The value is written as a word. -/
def IsWord (j : Json) : Prop := j.write ≠ [] ∧ (∀ c ∈ j.write, c ∈ wordAlphabet) ∧ ofWord j.write = some j

theorem isWord_null : IsWord null := ⟨by decide, forall_of_all (by decide), rfl⟩

theorem isWord_bool (b : Bool) : IsWord (bool b) := by
  cases b with
  | true => exact ⟨by decide, forall_of_all (by decide), rfl⟩
  | false => exact ⟨by decide, forall_of_all (by decide), rfl⟩

theorem isWord_int (n : Int) : IsWord (int n) := by
  have hnumber : ∀ c ∈ writeInt n, c ∈ floatAlphabet := fun c hc => writeInt_alphabet hc
  obtain ⟨hnull, htrue, hfalse⟩ := word_ne hnumber
  refine ⟨?_, fun c hc => List.mem_append_left _ (hnumber c hc), ?_⟩
  · show writeInt n ≠ []
    unfold writeInt
    split
    · exact Nat.toDigits_ne_nil
    · exact List.cons_ne_nil _ _
  · show ofWord (writeInt n) = some (int n)
    rw [ofWord, if_neg hnull, if_neg htrue, if_neg hfalse, readInt_writeInt]

theorem isWord_float (x : FloatText) : IsWord (float x) := by
  have hok := x.ok
  simp only [isFloatText, Bool.and_eq_true, decide_eq_true_eq, List.all_eq_true] at hok
  obtain ⟨⟨hne, hnumber⟩, hint⟩ := hok
  obtain ⟨hnull, htrue, hfalse⟩ := word_ne hnumber
  refine ⟨show x.text ≠ [] by simpa using hne, fun c hc => List.mem_append_left _ (hnumber c hc), ?_⟩
  show ofWord x.text = some (float x)
  rw [ofWord, if_neg hnull, if_neg htrue, if_neg hfalse, hint]
  exact dif_pos x.ok

/-- What follows a value in a text: nothing, a comma, or a bracket. -/
def Stops (cs : List Char) : Prop := ∀ c ∈ cs.head?, isDelimiter c = true

theorem takeWhile_word {w cs : List Char} (hw : ∀ c ∈ w, isDelimiter c = false) (hcs : Stops cs) :
    (w ++ cs).takeWhile (fun c => !isDelimiter c) = w ∧ (w ++ cs).dropWhile (fun c => !isDelimiter c) = cs := by
  have hall : ∀ c ∈ w, (fun c => !isDelimiter c) c = true := fun c hc => by simp [hw c hc]
  rw [List.takeWhile_append_of_pos hall, List.dropWhile_append_of_pos hall]
  cases cs with
  | nil => exact ⟨List.append_nil w, rfl⟩
  | cons c cs =>
    have hc : isDelimiter c = true := hcs c rfl
    rw [List.takeWhile_cons, List.dropWhile_cons, hc]
    exact ⟨List.append_nil w, rfl⟩

/-- A word is read back where it ends. -/
theorem readValue_word {j : Json} (h : IsWord j) (n : Nat) {cs : List Char} (hcs : Stops cs) :
    readValue (n + 1) (j.write ++ cs) = some (j, cs) := by
  obtain ⟨hne, halphabet, hword⟩ := h
  obtain ⟨htake, hdrop⟩ := takeWhile_word (fun c hc => (mem_wordAlphabet (halphabet c hc)).1) hcs
  cases hw : j.write with
  | nil => exact absurd hw hne
  | cons c w =>
    rw [hw] at halphabet hword htake hdrop
    obtain ⟨-, hquote, hbracket, hbrace⟩ := mem_wordAlphabet (halphabet c List.mem_cons_self)
    rw [List.cons_append] at htake hdrop ⊢
    rw [readValue, if_neg hquote, if_neg hbracket, if_neg hbrace, htake, hdrop, hword]
    rfl

/-! ## Sequences are read back -/

section Seq

variable {α : Type} {last : Char} {one : List Char → Option (α × List Char)} (text : α → List Char)

theorem stops_cons {c : Char} {cs : List Char} (h : isDelimiter c = true) : Stops (c :: cs) := by
  intro d hd
  cases hd
  exact h

theorem readRest_written (hlast : isDelimiter last = true) (hcomma : last ≠ ',') : ∀ {xs : List α} {n : Nat} (cs : List Char),
    (∀ x ∈ xs, ∀ cs, Stops cs → one (text x ++ cs) = some (x, cs)) → xs.length < n →
      readRest last one n (((xs.map text).flatMap fun y => ',' :: y) ++ last :: cs) = some (xs, cs)
  | [], n + 1, cs, _, _ => by
    show readRest last one (n + 1) (last :: cs) = _
    rw [readRest, if_pos rfl]
  | x :: xs, n + 1, cs, hone, hn => by
    have ih := readRest_written hlast hcomma (n := n) cs (fun y hy => hone y (List.mem_cons_of_mem _ hy))
      (Nat.lt_of_succ_lt_succ hn)
    have hstops : Stops (((xs.map text).flatMap fun y => ',' :: y) ++ last :: cs) := by
      cases xs with
      | nil => exact stops_cons hlast
      | cons y ys => exact stops_cons rfl
    rw [List.map_cons, List.flatMap_cons, List.append_assoc]
    show readRest last one (n + 1) (',' :: (text x ++ _)) = _
    rw [readRest, if_neg fun h => hcomma h.symm, if_pos rfl, hone x List.mem_cons_self _ hstops]
    show ((readRest last one n _) >>= fun r => some (x :: r.1, r.2)) = _
    rw [ih]
    rfl

theorem readSeq_written (first : Char) (hlast : isDelimiter last = true) (hcomma : last ≠ ',') (xs : List α) (cs : List Char)
    (hone : ∀ x ∈ xs, ∀ cs, Stops cs → one (text x ++ cs) = some (x, cs))
    (hhead : ∀ x ∈ xs, ∃ c w, text x = c :: w ∧ c ≠ last) :
    ∃ tail, writeSeq first last (xs.map text) ++ cs = first :: tail ∧ readSeq last one tail = some (xs, cs) := by
  cases xs with
  | nil => exact ⟨last :: cs, rfl, if_pos rfl⟩
  | cons x xs =>
    obtain ⟨c, w, htext, hc⟩ := hhead x List.mem_cons_self
    have hstops : Stops (((xs.map text).flatMap fun y => ',' :: y) ++ last :: cs) := by
      cases xs with
      | nil => exact stops_cons hlast
      | cons y ys => exact stops_cons rfl
    refine ⟨text x ++ (((xs.map text).flatMap fun y => ',' :: y) ++ last :: cs), ?_, ?_⟩
    · rw [List.map_cons, writeSeq]
      simp only [List.cons_append, List.append_assoc, List.nil_append]
    · have hfirst := hone x List.mem_cons_self _ hstops
      have hlength : xs.length < (((xs.map text).flatMap fun y => ',' :: y) ++ last :: cs).length + 1 := by
        have hcommas : ∀ ys : List α, ys.length ≤ ((ys.map text).flatMap fun y => ',' :: y).length := by
          intro ys
          induction ys with
          | nil => exact Nat.le_refl _
          | cons y ys ih =>
            rw [List.map_cons, List.flatMap_cons, List.length_append, List.length_cons, List.length_cons]
            omega
        have := hcommas xs
        rw [List.length_append]
        omega
      have hrest := readRest_written text hlast hcomma cs (fun y hy => hone y (List.mem_cons_of_mem _ hy)) hlength
      rw [htext, List.cons_append] at hfirst ⊢
      rw [readSeq, if_neg hc, hfirst]
      show ((readRest last one _ _) >>= fun r => some (x :: r.1, r.2)) = _
      rw [hrest]
      rfl

end Seq

/-! ## Values are read back -/

theorem writeItems_eq : ∀ items : List Json, writeItems items = items.map write
  | [] => rfl
  | x :: xs => by rw [writeItems, writeItems_eq xs, List.map_cons]

/-- A member as it is written. -/
def writeMember (m : String × Json) : List Char := writeText m.1.toList ++ ':' :: m.2.write

theorem writeMembers_eq : ∀ members : List (String × Json), writeMembers members = members.map writeMember
  | [] => rfl
  | (k, v) :: ms => by
    rw [writeMembers, writeMembers_eq ms, List.map_cons]
    rfl

theorem length_lt_flatMap : ∀ {ws : List (List Char)} {w : List Char}, w ∈ ws →
    w.length < (ws.flatMap fun y => ',' :: y).length
  | x :: xs, w, h => by
    rw [List.flatMap_cons, List.length_append, List.length_cons]
    rcases List.mem_cons.1 h with rfl | h
    · omega
    · have ih := length_lt_flatMap h
      omega

/-- What is written between brackets is shorter than the sequence. -/
theorem length_lt_writeSeq (first last : Char) : ∀ {ws : List (List Char)} {w : List Char}, w ∈ ws →
    w.length < (writeSeq first last ws).length
  | x :: xs, w, h => by
    rw [writeSeq]
    simp only [List.length_cons, List.length_append, List.length_nil]
    rcases List.mem_cons.1 h with rfl | h
    · omega
    · have hlt := length_lt_flatMap h
      omega

/-- The first character of a written value is none that closes a sequence. -/
theorem write_head (j : Json) : ∃ c w, j.write = c :: w ∧ c ≠ ']' := by
  have hword : IsWord j → ∃ c w, j.write = c :: w ∧ c ≠ ']' := by
    intro h
    cases hw : j.write with
    | nil => exact absurd hw h.1
    | cons c w =>
      refine ⟨c, w, rfl, ?_⟩
      rintro rfl
      have hbracket := h.2.1 ']' (by rw [hw]; exact List.mem_cons_self)
      exact absurd (mem_wordAlphabet hbracket).1 (by decide)
  cases j with
  | null => exact ⟨'n', _, rfl, by decide⟩
  | bool b => cases b <;> exact ⟨_, _, rfl, by decide⟩
  | int n => exact hword (isWord_int n)
  | float x => exact hword (isWord_float x)
  | str s => exact ⟨'"', _, rfl, by decide⟩
  | arr items =>
    rw [write]
    cases writeItems items <;> exact ⟨'[', _, rfl, by decide⟩
  | obj members =>
    rw [write]
    cases writeMembers members <;> exact ⟨'{', _, rfl, by decide⟩

theorem readText_written (s : String) (cs : List Char) :
    readText ((s.toList.flatMap escape ++ '"' :: cs).length + 1) (s.toList.flatMap escape ++ '"' :: cs) =
      some (s.toList, cs) := by
  refine readText_writeText s.toList cs ?_
  have hle := length_le_flatMap_escape s.toList
  rw [List.length_append]
  omega

theorem readMember_written {value : List Char → Option (Json × List Char)} {m : String × Json} {cs : List Char}
    (h : value (m.2.write ++ cs) = some (m.2, cs)) : readMember value (writeMember m ++ cs) = some (m, cs) := by
  have hshape : writeMember m ++ cs = '"' :: (m.1.toList.flatMap escape ++ '"' :: (':' :: (m.2.write ++ cs))) := by
    simp [writeMember, writeText]
  rw [hshape, readMember]
  show ((readText _ _).bind _) = _
  rw [readText_written, Option.bind_some]
  show ((value (m.2.write ++ cs)).bind _) = _
  rw [h, Option.bind_some]
  show some ((String.ofList m.1.toList, m.2), cs) = some (m, cs)
  rw [String.ofList_toList]

theorem readValue_arr {n : Nat} {items : List Json}
    (h : ∀ x ∈ items, ∀ cs, Stops cs → readValue n (x.write ++ cs) = some (x, cs)) (cs : List Char) :
    readValue (n + 1) ((arr items).write ++ cs) = some (arr items, cs) := by
  obtain ⟨tail, htext, hread⟩ := readSeq_written write '[' rfl (by decide) items cs h
    fun x _ => write_head x
  rw [write, writeItems_eq, htext, readValue, if_neg (by decide), if_pos rfl, hread]
  rfl

theorem readValue_obj {n : Nat} {members : List (String × Json)}
    (h : ∀ m ∈ members, ∀ cs, Stops cs → readValue n (m.2.write ++ cs) = some (m.2, cs)) (cs : List Char) :
    readValue (n + 1) ((obj members).write ++ cs) = some (obj members, cs) := by
  have hlast : isDelimiter '}' = true := rfl
  obtain ⟨tail, htext, hread⟩ := readSeq_written writeMember '{' hlast (by decide) members cs
    (fun m hm cs hcs => readMember_written (h m hm cs hcs)) fun m _ => ⟨'"', _, rfl, by decide⟩
  rw [write, writeMembers_eq, htext, readValue, if_neg (by decide), if_neg (by decide), if_pos rfl, hread]
  rfl

mutual

/-- **A value is read back**, where nothing continues it. -/
theorem readValue_write : ∀ (j : Json) {n : Nat} {cs : List Char}, j.write.length ≤ n → Stops cs →
    readValue n (j.write ++ cs) = some (j, cs)
  | j, 0, _, hn, _ => by
    obtain ⟨c, w, hw, -⟩ := write_head j
    rw [hw] at hn
    cases hn
  | null, n + 1, _, _, hcs => readValue_word isWord_null n hcs
  | bool b, n + 1, _, _, hcs => readValue_word (isWord_bool b) n hcs
  | int k, n + 1, _, _, hcs => readValue_word (isWord_int k) n hcs
  | float x, n + 1, _, _, hcs => readValue_word (isWord_float x) n hcs
  | str s, n + 1, cs, _, _ => by
    have hshape : (str s).write ++ cs = '"' :: (s.toList.flatMap escape ++ '"' :: cs) := by simp [write, writeText]
    rw [hshape, readValue, if_pos rfl, readText_written, Option.map_some, String.ofList_toList]
  | arr items, n + 1, cs, hn, _ => by
    refine readValue_arr (readItems_write items fun x hx => ?_) cs
    have hlt := length_lt_writeSeq '[' ']' (List.mem_map_of_mem (f := write) hx)
    rw [write, writeItems_eq] at hn
    omega
  | obj members, n + 1, cs, hn, _ => by
    refine readValue_obj (readMembers_write members fun m hm => ?_) cs
    have hlt := length_lt_writeSeq '{' '}' (List.mem_map_of_mem (f := writeMember) hm)
    have hvalue : m.2.write.length ≤ (writeMember m).length := by
      rw [writeMember, List.length_append, List.length_cons]
      omega
    rw [write, writeMembers_eq] at hn
    omega

theorem readItems_write : ∀ (items : List Json) {n : Nat}, (∀ x ∈ items, x.write.length ≤ n) →
    ∀ x ∈ items, ∀ cs, Stops cs → readValue n (x.write ++ cs) = some (x, cs)
  | [], _, _, _, hx, _, _ => by cases hx
  | y :: ys, n, hn, x, hx, cs, hcs => by
    rcases List.mem_cons.1 hx with heq | hx
    · rw [heq]
      exact readValue_write y (hn y List.mem_cons_self) hcs
    · exact readItems_write ys (fun z hz => hn z (List.mem_cons_of_mem _ hz)) x hx cs hcs

theorem readMembers_write : ∀ (members : List (String × Json)) {n : Nat}, (∀ m ∈ members, m.2.write.length ≤ n) →
    ∀ m ∈ members, ∀ cs, Stops cs → readValue n (m.2.write ++ cs) = some (m.2, cs)
  | [], _, _, _, hm, _, _ => by cases hm
  | (k, v) :: ms, n, hn, m, hm, cs, hcs => by
    rcases List.mem_cons.1 hm with heq | hm
    · rw [heq]
      exact readValue_write v (hn (k, v) List.mem_cons_self) hcs
    · exact readMembers_write ms (fun z hz => hn z (List.mem_cons_of_mem _ hz)) m hm cs hcs

end

/-- **What was written is read back**, its members sorted. -/
theorem loads_dumps (j : Json) : loads j.dumps = some j.sorted := by
  have hread : readValue j.sorted.write.length (j.sorted.write ++ []) = some (j.sorted, []) :=
    readValue_write j.sorted (Nat.le_refl _) (by intro c hc; cases hc)
  rw [List.append_nil] at hread
  rw [loads, dumps, hread]

/-! ## The same value -/

theorem sortedItems_eq : ∀ items : List Json, sortedItems items = items.map sorted
  | [] => rfl
  | x :: xs => by rw [sortedItems, sortedItems_eq xs, List.map_cons]

/-- A member with its value sorted. -/
def sortedMember (m : String × Json) : String × Json := (m.1, m.2.sorted)

theorem sortedMembers_eq : ∀ members : List (String × Json), sortedMembers members = members.map sortedMember
  | [] => rfl
  | (k, v) :: ms => by
    rw [sortedMembers, sortedMembers_eq ms, List.map_cons]
    rfl

/-- Members with keys of their own are sorted in one way, however they stood. -/
theorem insertionSort_eq_of_perm {l l' : List (String × Json)} (hl : (l.map Prod.fst).Nodup) (h : l.Perm l') :
    l.insertionSort (fun p q => p.1 ≤ q.1) = l'.insertionSort fun p q => p.1 ≤ q.1 := by
  have hsort := List.perm_insertionSort (fun p q : String × Json => p.1 ≤ q.1) l
  have hsort' := List.perm_insertionSort (fun p q : String × Json => p.1 ≤ q.1) l'
  have : Std.Total fun p q : String × Json => p.1 ≤ q.1 := ⟨fun p q => String.le_total p.1 q.1⟩
  have : IsTrans (String × Json) fun p q => p.1 ≤ q.1 := ⟨fun p q r => String.le_trans⟩
  refine List.Perm.eq_of_pairwise (fun p q hp hq hpq hqp => ?_) (List.pairwise_insertionSort _ l)
    (List.pairwise_insertionSort _ l') (hsort.trans (h.trans hsort'.symm))
  exact List.inj_on_of_nodup_map hl (hsort.mem_iff.1 hp) (h.mem_iff.2 (hsort'.mem_iff.1 hq)) (String.le_antisymm hpq hqp)

theorem sameMembers_keys : ∀ {ms ms' : List (String × Json)}, SameMembers ms ms' → ms'.map Prod.fst = ms.map Prod.fst
  | [], ms', h => by rw [show ms' = [] from h]
  | (k, v) :: ms, ms', h => by
    obtain ⟨v', ms'', rfl, -, h⟩ := h
    rw [List.map_cons, List.map_cons, sameMembers_keys h]

mutual

theorem Same.sorted_eq : ∀ {a b : Json}, a.WellFormed → a.Same b → a.sorted = b.sorted
  | null, _, _, h | bool _, _, _, h | int _, _, _, h | float _, _, _, h | str _, _, _, h => by rw [h]
  | arr items, b, hw, h => by
    obtain ⟨items', rfl, h⟩ := h
    rw [sorted, sorted, SameItems.sorted_eq hw h]
  | obj members, b, hw, h => by
    obtain ⟨members', reordered, rfl, hperm, h⟩ := h
    have hkeys : (reordered.map sortedMember).map Prod.fst = members.map Prod.fst := by
      rw [← sameMembers_keys h, List.map_map]
      rfl
    rw [sorted, sorted, SameMembers.sorted_eq hw.2 h, sortedMembers_eq, sortedMembers_eq]
    rw [insertionSort_eq_of_perm (by rw [hkeys]; exact hw.1) (hperm.map sortedMember)]

theorem SameItems.sorted_eq : ∀ {xs ys : List Json}, WellFormedItems xs → SameItems xs ys → sortedItems xs = sortedItems ys
  | [], ys, _, h => by rw [show ys = [] from h]
  | x :: xs, ys, hw, h => by
    obtain ⟨y, ys', rfl, hxy, h⟩ := h
    rw [sortedItems, sortedItems, Same.sorted_eq hw.1 hxy, SameItems.sorted_eq hw.2 h]

theorem SameMembers.sorted_eq : ∀ {ms ms' : List (String × Json)}, WellFormedMembers ms → SameMembers ms ms' →
    sortedMembers ms = sortedMembers ms'
  | [], ms', _, h => by rw [show ms' = [] from h]
  | (k, v) :: ms, ms', hw, h => by
    obtain ⟨v', ms'', rfl, hv, h⟩ := h
    rw [sortedMembers, sortedMembers, Same.sorted_eq hw.1 hv, SameMembers.sorted_eq hw.2 h]

end

mutual

theorem same_of_sorted : ∀ {a b : Json}, a.sorted = b.sorted → a.Same b
  | null, b, h | bool _, b, h | int _, b, h | float _, b, h | str _, b, h => by
    cases b <;> first | exact h.symm | cases h
  | arr items, b, h => by
    cases b with
    | arr items' => exact ⟨items', rfl, sameItems_of_sorted (arr.inj h)⟩
    | _ => cases h
  | obj members, b, h => by
    cases b with
    | obj members' =>
      have hsorts := obj.inj h
      have hperm : (sortedMembers members).Perm (members'.map sortedMember) := by
        rw [← sortedMembers_eq members']
        refine (List.perm_insertionSort (fun p q : String × Json => p.1 ≤ q.1) _).symm.trans ?_
        rw [hsorts]
        exact List.perm_insertionSort _ _
      -- the members of the other value, in the order of these
      obtain ⟨reordered, heq, hreordered⟩ : Relation.Comp (· = List.map sortedMember ·) List.Perm
          (sortedMembers members) members' := by
        rw [List.eq_map_comp_perm]
        exact hperm
      refine ⟨members', reordered, rfl, hreordered, sameMembers_of_sorted ?_⟩
      rw [heq, sortedMembers_eq]
    | _ => cases h

theorem sameItems_of_sorted : ∀ {xs ys : List Json}, sortedItems xs = sortedItems ys → SameItems xs ys
  | [], [], _ => rfl
  | [], _ :: _, h => by cases h
  | _ :: _, [], h => by cases h
  | x :: xs, y :: ys, h => ⟨y, ys, rfl, same_of_sorted (List.cons.inj h).1, sameItems_of_sorted (List.cons.inj h).2⟩

theorem sameMembers_of_sorted : ∀ {ms ms' : List (String × Json)}, sortedMembers ms = sortedMembers ms' →
    SameMembers ms ms'
  | [], [], _ => rfl
  | [], (_, _) :: _, h => by cases h
  | (_, _) :: _, [], h => by cases h
  | (k, v) :: ms, (k', v') :: ms', h => by
    obtain ⟨hmember, htail⟩ := List.cons.inj h
    obtain rfl : k = k' := congrArg Prod.fst hmember
    exact ⟨v', ms', rfl, same_of_sorted (congrArg Prod.snd hmember), sameMembers_of_sorted htail⟩

end

/-- **Two values have one text exactly if they are the same**, up to the order of members. -/
theorem dumps_eq_iff {a b : Json} (ha : a.WellFormed) : a.dumps = b.dumps ↔ a.Same b := by
  constructor
  · intro h
    have hread := loads_dumps a
    rw [h, loads_dumps b] at hread
    exact same_of_sorted (Option.some.inj hread).symm
  · intro h
    rw [dumps, dumps, h.sorted_eq ha]

/-! ## Members by key -/

/-- `mapping.get(key)`. -/
def get : List (String × Json) → String → Json
  | [], _ => null
  | (k, v) :: ms, key => if k = key then v else get ms key

theorem get_of_mem : ∀ {ms : List (String × Json)} {k : String} {v : Json}, (ms.map Prod.fst).Nodup → (k, v) ∈ ms →
    get ms k = v
  | [], k, v, _, hmem => by cases hmem
  | (k', v') :: ms, k, v, hnodup, hmem => by
    rw [List.map_cons, List.nodup_cons] at hnodup
    rcases List.mem_cons.1 hmem with heq | hmem
    · cases heq
      exact if_pos rfl
    · have hne : k' ≠ k := fun h => hnodup.1 (h ▸ List.mem_map.2 ⟨(k, v), hmem, rfl⟩)
      rw [get, if_neg hne, get_of_mem hnodup.2 hmem]

theorem get_of_not_mem : ∀ {ms : List (String × Json)} {k : String}, k ∉ ms.map Prod.fst → get ms k = null
  | [], _, _ => rfl
  | (k', v') :: ms, k, h => by
    rw [List.map_cons, List.mem_cons, not_or] at h
    rw [get, if_neg (Ne.symm h.1), get_of_not_mem h.2]

/-- The members of an object that was stored. -/
def stored (members : List (String × Json)) : List (String × Json) :=
  (sortedMembers members).insertionSort fun p q => p.1 ≤ q.1

/-- Storing only sorts. -/
theorem stored_perm (members : List (String × Json)) : (stored members).Perm (members.map sortedMember) := by
  rw [stored, sortedMembers_eq]
  exact List.perm_insertionSort _ _

theorem keys_stored_perm (members : List (String × Json)) :
    ((stored members).map Prod.fst).Perm (members.map Prod.fst) := by
  have hmap := (stored_perm members).map Prod.fst
  rw [List.map_map] at hmap
  exact hmap

theorem mem_keys_stored {members : List (String × Json)} {key : String} :
    key ∈ (stored members).map Prod.fst ↔ key ∈ members.map Prod.fst := (keys_stored_perm members).mem_iff

/-- What is stored under a key is what was there, sorted. -/
theorem get_stored {members : List (String × Json)} (h : (members.map Prod.fst).Nodup) (key : String) :
    get (stored members) key = (get members key).sorted := by
  by_cases hmem : key ∈ members.map Prod.fst
  · obtain ⟨⟨k, v⟩, hkv, rfl⟩ := List.mem_map.1 hmem
    rw [get_of_mem h hkv]
    have hstored : (k, v.sorted) ∈ stored members := (stored_perm members).mem_iff.2 (List.mem_map.2 ⟨(k, v), hkv, rfl⟩)
    exact get_of_mem ((keys_stored_perm members).nodup_iff.2 h) hstored
  · rw [get_of_not_mem hmem, get_of_not_mem fun hs => hmem (mem_keys_stored.1 hs)]
    rfl

end Json

end SafeFsOps
