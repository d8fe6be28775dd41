import Mathlib.Data.List.Chain
import Mathlib.Data.List.Sort
import Mathlib.Data.List.SplitBy
import Mathlib.Tactic.Common

/-!
# Tables of rows

What a journal over SQLite needs of tables: rows found by a text key, rows
updated in place under their key, and rows inserted at the end under two
constraints, the primary key and the uniqueness of (group, sequence number).
A method is a chain of checks in `Except`; `bind_eq_ok` takes a successful chain
apart, so a spec lemma reads its method from the top, check by check.

> `findRow_updateRow`: an update is seen under its own key and nowhere else.
> `insertRow_eq_ok`: an accepted insertion appends one row, whose key is new.
> `latestRow_sequence_le`: the latest row of a group has its largest sequence.
-/

namespace SafeFsOps

variable {ε α β ρ : Type}

/-! ## Chains of checks -/

/-- Raise `error` unless the condition holds. -/
def require (p : Prop) [Decidable p] (error : ε) : Except ε Unit :=
  if p then .ok () else .error error

@[simp] theorem require_eq_ok {p : Prop} [Decidable p] {error : ε} {u : Unit} :
    require p error = .ok u ↔ p := by
  unfold require
  split <;> simp_all

/-- A check that raises raises its own error. -/
theorem require_error {p : Prop} [Decidable p] {error e : ε} (h : require p error = .error e) : e = error ∧ ¬ p := by
  unfold require at h
  split at h
  · cases h
  · next hp =>
    cases h
    exact ⟨rfl, hp⟩

/-- A chain succeeds through its first step. -/
@[simp] theorem bind_eq_ok {x : Except ε α} {f : α → Except ε β} {b : β} :
    (x >>= f) = .ok b ↔ ∃ a, x = .ok a ∧ f a = .ok b := by
  cases x <;> simp [bind, Except.bind]

@[simp] theorem map_eq_ok {x : Except ε α} {f : α → β} {b : β} :
    x.map f = .ok b ↔ ∃ a, x = .ok a ∧ f a = b := by
  cases x <;> simp [Except.map]

@[simp] theorem mapError_eq_ok {ε' : Type} {x : Except ε α} {f : ε → ε'} {a : α} :
    x.mapError f = .ok a ↔ x = .ok a := by
  cases x <;> simp [Except.mapError]

theorem mapError_eq_error {ε' : Type} {x : Except ε α} {f : ε → ε'} {e' : ε'} :
    x.mapError f = .error e' ↔ ∃ e, x = .error e ∧ f e = e' := by
  cases x <;> simp [Except.mapError]

@[simp] theorem pure_eq_ok {a b : α} : (pure a : Except ε α) = .ok b ↔ a = b := by
  simp [pure, Except.pure]

/-! ## Loops of checks -/

section Loops

variable {σ κ : Type} {f : σ → κ → Except ε σ}

/-- What relates the ends of one round that succeeded to the rounds after it relates the ends of the loop. -/
theorem foldlM_relates {R : List κ → σ → σ → Prop} (hnil : ∀ s, R [] s s)
    (hcons : ∀ k ks s s₁ s', f s k = .ok s₁ → R ks s₁ s' → R (k :: ks) s s') :
    ∀ {ks : List κ} {s s' : σ}, ks.foldlM f s = .ok s' → R ks s s'
  | [], s, s', h => by
    cases h
    exact hnil s
  | k :: ks, s, s', h => by
    rw [List.foldlM_cons, bind_eq_ok] at h
    obtain ⟨s₁, hround, h⟩ := h
    exact hcons k ks s s₁ s' hround (foldlM_relates hnil hcons h)

/-- A loop succeeds where each round does and leaves the others ready. -/
theorem foldlM_succeeds {I : List κ → σ → Prop} (hround : ∀ k ks s, I (k :: ks) s → ∃ s₁, f s k = .ok s₁ ∧ I ks s₁) :
    ∀ {ks : List κ} {s : σ}, I ks s → ∃ s', ks.foldlM f s = .ok s' ∧ I [] s'
  | [], s, h => ⟨s, rfl, h⟩
  | k :: ks, s, h => by
    obtain ⟨s₁, hs₁, h₁⟩ := hround k ks s h
    obtain ⟨s', hs', hI⟩ := foldlM_succeeds hround h₁
    exact ⟨s', by rw [List.foldlM_cons, hs₁]; exact hs', hI⟩

end Loops

/-! ## Rows under a key -/

/-- The row under a key, if there is one. -/
def findRow (key : ρ → String) (t : List ρ) (k : String) : Option ρ := t.find? fun r => key r = k

/-- `UPDATE … WHERE key = k`. -/
def updateRow (key : ρ → String) (t : List ρ) (k : String) (f : ρ → ρ) : List ρ :=
  t.map fun r => if key r = k then f r else r

theorem findRow_key {key : ρ → String} {t : List ρ} {k : String} {r : ρ}
    (h : findRow key t k = some r) : key r = k := by
  simpa using List.find?_some h

theorem findRow_mem {key : ρ → String} {t : List ρ} {k : String} {r : ρ}
    (h : findRow key t k = some r) : r ∈ t := List.mem_of_find?_eq_some h

theorem findRow_isSome_of_mem {f : ρ → String} {t : List ρ} {r : ρ} (h : r ∈ t) :
    ∃ r', findRow f t (f r) = some r' := by
  rw [← Option.isSome_iff_exists, findRow, List.find?_isSome]
  exact ⟨r, h, by simp⟩

/-- An update that keeps keys is seen under its own key and nowhere else. -/
theorem findRow_updateRow {key : ρ → String} {f : ρ → ρ} (hf : ∀ r, key (f r) = key r)
    (t : List ρ) (k k' : String) : findRow key (updateRow key t k f) k' =
      if k' = k then (findRow key t k').map f else findRow key t k' := by
  induction t with
  | nil => simp [findRow, updateRow]
  | cons r t ih =>
    simp only [findRow, updateRow, List.map_cons, List.find?_cons] at ih ⊢
    have hkey : key (if key r = k then f r else r) = key r := by split <;> simp [hf]
    rw [hkey]
    by_cases hr : key r = k'
    · simp only [hr, decide_true]
      split <;> simp_all
    · simpa only [hr, decide_false] using ih

/-- Looking up under another key after an update that keeps that key too. -/
theorem findRow_updateRow_other {key other : ρ → String} {f : ρ → ρ} (hf : ∀ r, other (f r) = other r)
    (t : List ρ) (k k' : String) : findRow other (updateRow key t k f) k' =
      (findRow other t k').map fun r => if key r = k then f r else r := by
  induction t with
  | nil => simp [findRow, updateRow]
  | cons r t ih =>
    simp only [findRow, updateRow, List.map_cons, List.find?_cons] at ih ⊢
    have hkey : other (if key r = k then f r else r) = other r := by split <;> simp [hf]
    rw [hkey]
    by_cases hr : other r = k'
    · simp only [hr, decide_true, Option.map_some]
    · simpa only [hr, decide_false] using ih

/-- An update that keeps keys keeps their list. -/
theorem map_key_updateRow {key : ρ → String} {f : ρ → ρ} (hf : ∀ r, key (f r) = key r) (t : List ρ) (k : String) :
    (updateRow key t k f).map key = t.map key := by
  rw [updateRow, List.map_map]
  refine List.map_congr_left fun r _ => ?_
  show key (if key r = k then f r else r) = key r
  split
  · exact hf r
  · rfl

/-- Under distinct keys every row is found under its own. -/
theorem findRow_of_mem {key : ρ → String} {t : List ρ} (ht : (t.map key).Nodup) {r : ρ} (h : r ∈ t) :
    findRow key t (key r) = some r := by
  obtain ⟨r', hr'⟩ := findRow_isSome_of_mem (f := key) h
  have hkey := findRow_key hr'
  rw [hr', List.inj_on_of_nodup_map ht (findRow_mem hr') h hkey]

/-- Looking a key up after one row was appended. -/
theorem findRow_append_one (key : ρ → String) (t : List ρ) (r : ρ) (k : String) :
    findRow key (t ++ [r]) k = (findRow key t k).or (if key r = k then some r else none) := by
  rw [findRow, findRow, List.find?_append]
  by_cases hr : key r = k <;> simp [hr]

/-- A row under a new key keeps keys distinct. -/
theorem nodup_append_one {key : ρ → String} {t : List ρ} {r : ρ} (ht : (t.map key).Nodup)
    (hr : findRow key t (key r) = none) : ((t ++ [r]).map key).Nodup := by
  rw [List.map_append, List.nodup_append]
  refine ⟨ht, by simp, ?_⟩
  intro k hk k' hk' heq
  rw [List.map_cons, List.map_nil, List.mem_singleton] at hk'
  obtain ⟨r', hr', hkey⟩ := List.mem_map.1 hk
  obtain ⟨r'', hfound⟩ := findRow_isSome_of_mem (f := key) hr'
  rw [hkey, heq, hk', hr] at hfound
  cases hfound

/-! ## Rows that stay -/

/-- Every row stays under its key, and is now related to what it was. -/
def RowsKept (key : ρ → String) (R : ρ → ρ → Prop) (t t' : List ρ) : Prop :=
  ∀ k r, findRow key t k = some r → ∃ r', findRow key t' k = some r' ∧ R r r'

namespace RowsKept

variable {key : ρ → String} {R : ρ → ρ → Prop} {t t' t'' : List ρ}

theorem refl (hR : ∀ r, R r r) : RowsKept key R t t := fun _ r h => ⟨r, h, hR r⟩

theorem trans (hR : ∀ {a b c}, R a b → R b c → R a c) (h : RowsKept key R t t') (h' : RowsKept key R t' t'') :
    RowsKept key R t t'' := by
  intro k r hr
  obtain ⟨r', hr', hrel⟩ := h k r hr
  obtain ⟨r'', hr'', hrel'⟩ := h' k r' hr'
  exact ⟨r'', hr'', hR hrel hrel'⟩

theorem imp {S : ρ → ρ → Prop} (hRS : ∀ r r', R r r' → S r r') (h : RowsKept key R t t') : RowsKept key S t t' := by
  intro k r hr
  obtain ⟨r', hr', hrel⟩ := h k r hr
  exact ⟨r', hr', hRS r r' hrel⟩

theorem append_one (hR : ∀ r, R r r) (r : ρ) : RowsKept key R t (t ++ [r]) := by
  intro k r₀ h
  rw [findRow_append_one, h]
  exact ⟨r₀, rfl, hR r₀⟩

/-- Only the row of the key is another afterwards. -/
theorem update (hR : ∀ r, R r r) {k : String} {f : ρ → ρ} (hf : ∀ r, key (f r) = key r)
    (h : ∀ r, findRow key t k = some r → R r (f r)) : RowsKept key R t (updateRow key t k f) := by
  intro k' r hr
  rw [findRow_updateRow hf, hr]
  by_cases hk : k' = k
  · rw [if_pos hk]
    exact ⟨f r, rfl, h r (hk ▸ hr)⟩
  · rw [if_neg hk]
    exact ⟨r, rfl, hR r⟩

end RowsKept

/-! ## Histories -/

theorem filter_append_one (t : List ρ) (r : ρ) (p : ρ → Bool) :
    (t ++ [r]).filter p = t.filter p ++ if p r = true then [r] else [] := by
  rw [List.filter_append, List.filter_singleton]
  cases p r <;> rfl

/-- A history goes on with what its last entry may be followed by. -/
theorem isChain_concat {R : ρ → ρ → Prop} {l : List ρ} {r : ρ} (h : l.IsChain R)
    (hlast : ∀ x, l.getLast? = some x → R x r) : (l ++ [r]).IsChain R := by
  refine h.append (List.isChain_singleton r) ?_
  intro x hx y hy
  obtain rfl : r = y := by simpa using hy
  exact hlast x hx

/-- It begins with an entry that may begin one, and each further entry may follow the one before. -/
structure IsHistory (first : ρ → Prop) (next : ρ → ρ → Prop) (h : List ρ) : Prop where
  head : ∀ r, h.head? = some r → first r
  chain : h.IsChain next

namespace IsHistory

variable {first : ρ → Prop} {next : ρ → ρ → Prop} {h : List ρ} {r : ρ}

theorem nil : IsHistory first next [] where
  head r hr := by cases hr
  chain := List.isChain_nil

theorem concat (hh : IsHistory first next h) (hfirst : h = [] → first r)
    (hnext : ∀ x, h.getLast? = some x → next x r) : IsHistory first next (h ++ [r]) where
  head x hx := by
    cases h with
    | nil =>
      obtain rfl : r = x := Option.some.inj hx
      exact hfirst rfl
    | cons y h => exact hh.head x hx
  chain := isChain_concat hh.chain hnext

/-- An entry that nothing may follow is the end for good. -/
theorem eq_nil_of_last {rest : List ρ} (hh : IsHistory first next (h ++ rest)) (hr : h.getLast? = some r)
    (hend : ∀ x, ¬ next r x) : rest = [] := by
  cases rest with
  | nil => rfl
  | cons x rest => exact absurd ((List.isChain_append.1 hh.chain).2.2 r hr x rfl) (hend x)

/-- What every entry hands on to the next, all entries agree in. -/
theorem const {f : ρ → β} (hnext : ∀ r r', next r r' → f r' = f r) (hh : IsHistory first next h) :
    ∀ r ∈ h, ∀ r' ∈ h, f r = f r' := by
  have hall : ∀ x l, List.IsChain next (x :: l) → ∀ r ∈ x :: l, f r = f x := by
    intro x l
    induction l generalizing x with
    | nil =>
      intro _ r hr
      rw [List.mem_singleton.1 hr]
    | cons y l ih =>
      intro hc r hr
      obtain ⟨hxy, hc⟩ := List.isChain_cons_cons.1 hc
      rcases List.mem_cons.1 hr with rfl | hr
      · rfl
      · exact (ih y hc r hr).trans (hnext x y hxy)
  intro r hr r' hr'
  cases h with
  | nil => cases hr
  | cons x l => rw [hall x l hh.chain r hr, hall x l hh.chain r' hr']

end IsHistory

/-- A history cut into its items: one begins with every entry that satisfies `begins`. -/
def itemsOf (begins : ρ → Bool) (h : List ρ) : List (List ρ) := h.splitBy fun _ r => !begins r

theorem isChain_and {R S : ρ → ρ → Prop} {l : List ρ} (h : l.IsChain R) (h' : l.IsChain S) :
    l.IsChain fun r r' => R r r' ∧ S r r' := by
  induction l with
  | nil => exact List.isChain_nil
  | cons x l ih =>
    cases l with
    | nil => exact List.isChain_singleton x
    | cons y l =>
      obtain ⟨hR, hrest⟩ := List.isChain_cons_cons.1 h
      obtain ⟨hS, hrest'⟩ := List.isChain_cons_cons.1 h'
      exact List.isChain_cons_cons.2 ⟨⟨hR, hS⟩, ih hrest hrest'⟩

/-- If everything but the last is out, at most one is in. -/
theorem length_filter_le_one {p : ρ → Bool} {l : List ρ} (h : l.IsChain fun r _ => p r = false) :
    (l.filter p).length ≤ 1 := by
  induction l with
  | nil => exact Nat.zero_le _
  | cons r l ih =>
    cases l with
    | nil => exact List.length_filter_le p [r]
    | cons r' l =>
      obtain ⟨hr, hrest⟩ := List.isChain_cons_cons.1 h
      rw [List.filter_cons_of_neg (by rw [hr]; exact Bool.false_ne_true)]
      exact ih hrest

/-- Where an item begins only behind an entry that is not active, at most one item is active. -/
theorem active_items_le_one {next : ρ → ρ → Prop} {begins active : ρ → Bool} {h : List ρ} (hh : h.IsChain next)
    (hnext : ∀ r r', next r r' → begins r' = true → active r = false) :
    ((itemsOf begins h).filter fun item => item.getLast?.any active).length ≤ 1 := by
  refine length_filter_le_one ?_
  have hitems : (itemsOf begins h).flatten.IsChain next := by
    rw [itemsOf, List.flatten_splitBy]
    exact hh
  have hcuts := List.isChain_getLast_head_splitBy (fun _ r => !begins r) h
  rw [itemsOf, List.isChain_flatten (List.nil_notMem_splitBy _ _)] at hitems
  refine (isChain_and hcuts hitems.2).imp ?_
  intro item item' ⟨⟨hne, hne', hcut⟩, hlink⟩
  have hbegins : begins (item'.head hne') = true := by simpa using hcut
  have hclosed := hnext _ _ (hlink _ (List.getLast?_eq_getLast_of_ne_nil hne) _ (List.head?_eq_some_head hne')) hbegins
  rw [List.getLast?_eq_getLast_of_ne_nil hne]
  exact hclosed

/-! ## Rows grouped and numbered -/

/-- A row of a table with a primary key, belonging to a group (its batch) in
which it carries a sequence number. -/
class SequencedRow (ρ : Type) where
  rowId : ρ → String
  rowGroup : ρ → String
  rowSequence : ρ → Nat

open SequencedRow

section Sequenced

variable [SequencedRow ρ]

/-- `SELECT MAX(sequence) … WHERE group = g`, an empty group counting as `0`. -/
def maxSequence (t : List ρ) (g : String) : Nat :=
  ((t.filter fun r => rowGroup r = g).map rowSequence).foldl max 0

/-- The numbers of a group, in the order its rows were inserted. -/
def numbersOf (t : List ρ) (g : String) : List Nat := (t.filter fun r => rowGroup r = g).map rowSequence

/-- A row appended is the last of its group, and of no other. -/
theorem numbersOf_append_one (t : List ρ) (r : ρ) (g : String) :
    numbersOf (t ++ [r]) g = numbersOf t g ++ if rowGroup r = g then [rowSequence r] else [] := by
  simp only [numbersOf, List.filter_append, List.map_append]
  by_cases hg : rowGroup r = g
  · rw [if_pos hg, List.filter_singleton, hg]
    simp
  · rw [if_neg hg, List.filter_singleton]
    simp [hg]

/-- Whether a group has any row. -/
def hasRows (t : List ρ) (g : String) : Bool := t.any fun r => rowGroup r = g

/-- `ORDER BY sequence DESC, key DESC LIMIT 1` among the rows that satisfy `p`. -/
def latestRow (t : List ρ) (p : ρ → Bool) : Option ρ :=
  (t.filter p).foldl (fun best r =>
    match best with
    | none => some r
    | some b => if rowSequence b < rowSequence r ∨ rowSequence b = rowSequence r ∧ rowId b < rowId r then some r
      else some b) none

/-- `… ORDER BY sequence, key`: a group never has two rows of one number. -/
def listRows (t : List ρ) (p : ρ → Bool) : List ρ :=
  (t.filter p).insertionSort fun a b => rowSequence a ≤ rowSequence b

@[simp] theorem mem_listRows {t : List ρ} {p : ρ → Bool} {r : ρ} : r ∈ listRows t p ↔ r ∈ t ∧ p r = true := by
  rw [listRows, List.mem_insertionSort, List.mem_filter]

/-- `INSERT` under the primary key and `UNIQUE (group, sequence)`. -/
def insertRow (t : List ρ) (r : ρ) (error : ε) : Except ε (List ρ) :=
  if t.any fun x => rowId x = rowId r ∨ rowGroup x = rowGroup r ∧ rowSequence x = rowSequence r then .error error
  else .ok (t ++ [r])

theorem le_foldl_max (l : List Nat) (a : Nat) : a ≤ l.foldl max a ∧ ∀ x ∈ l, x ≤ l.foldl max a := by
  induction l generalizing a with
  | nil => simp
  | cons b l ih =>
    obtain ⟨h1, h2⟩ := ih (max a b)
    simp only [List.foldl_cons, List.mem_cons]
    refine ⟨by omega, ?_⟩
    rintro x (rfl | hx)
    · omega
    · exact h2 x hx

/-- No row of the group is numbered above `maxSequence`. -/
theorem sequence_le_maxSequence {t : List ρ} {r : ρ} (h : r ∈ t) : rowSequence r ≤ maxSequence t (rowGroup r) :=
  (le_foldl_max _ 0).2 _ (List.mem_map_of_mem (List.mem_filter.2 ⟨h, by simp⟩))

theorem foldl_max_append (l l' : List Nat) (a : Nat) : l.foldl max a ≤ (l ++ l').foldl max a := by
  rw [List.foldl_append]
  exact (le_foldl_max l' _).1

theorem foldl_max_le {l : List Nat} {a n : Nat} (ha : a ≤ n) (h : ∀ x ∈ l, x ≤ n) : l.foldl max a ≤ n := by
  induction l generalizing a with
  | nil => exact ha
  | cons b l ih =>
    have hb : b ≤ n := h b List.mem_cons_self
    rw [List.foldl_cons]
    refine ih ?_ fun x hx => h x (List.mem_cons_of_mem _ hx)
    omega

/-- A fold of `max` from `0` over two lists is the larger of the two folds. -/
theorem foldl_max_two (l l' : List Nat) : (l ++ l').foldl max 0 = max (l.foldl max 0) (l'.foldl max 0) := by
  have hl := le_foldl_max l 0
  have hl' := le_foldl_max l' 0
  have hboth := le_foldl_max (l ++ l') 0
  have hle : (l ++ l').foldl max 0 ≤ max (l.foldl max 0) (l'.foldl max 0) := by
    refine foldl_max_le (Nat.zero_le _) ?_
    intro x hx
    rcases List.mem_append.1 hx with hx | hx
    · have := hl.2 x hx
      omega
    · have := hl'.2 x hx
      omega
  have hge : l.foldl max 0 ≤ (l ++ l').foldl max 0 :=
    foldl_max_le (Nat.zero_le _) fun x hx => hboth.2 x (List.mem_append_left _ hx)
  have hge' : l'.foldl max 0 ≤ (l ++ l').foldl max 0 :=
    foldl_max_le (Nat.zero_le _) fun x hx => hboth.2 x (List.mem_append_right _ hx)
  omega

/-- The largest sequence never falls as rows are appended. -/
theorem maxSequence_append_le (t t' : List ρ) (g : String) : maxSequence t g ≤ maxSequence (t ++ t') g := by
  simp only [maxSequence, List.filter_append, List.map_append]
  exact foldl_max_append _ _ _

/-- An accepted insertion appends the row; its key and its number were free. -/
theorem insertRow_eq_ok {t t' : List ρ} {r : ρ} {error : ε} (h : insertRow t r error = .ok t') :
    t' = t ++ [r] ∧ ∀ x ∈ t, rowId x ≠ rowId r := by
  unfold insertRow at h
  split at h
  · cases h
  · next hfree =>
    simp only [Except.ok.injEq] at h
    refine ⟨h.symm, ?_⟩
    intro x hx heq
    exact hfree (List.any_eq_true.2 ⟨x, hx, by simp [heq]⟩)

theorem insertRow_maxSequence_le {t t' : List ρ} {r : ρ} {error : ε} (h : insertRow t r error = .ok t')
    (g : String) : maxSequence t g ≤ maxSequence t' g := by
  obtain ⟨rfl, -⟩ := insertRow_eq_ok h
  exact maxSequence_append_le t [r] g

theorem hasRows_false {t : List ρ} {g : String} (h : hasRows t g = false) : ∀ r ∈ t, rowGroup r ≠ g := by
  intro r hr hg
  have := List.any_eq_false.1 h r hr
  simp [hg] at this

/-- The fold of `latestRow` returns a row it has seen, at or above every other. -/
theorem latestRow_fold (l : List ρ) (best : Option ρ) :
    let last := l.foldl (fun best r =>
      match best with
      | none => some r
      | some b => if rowSequence b < rowSequence r ∨ rowSequence b = rowSequence r ∧ rowId b < rowId r then some r
        else some b) best
    (∀ r, last = some r → r ∈ l ∨ best = some r) ∧
    (∀ x, x ∈ l ∨ best = some x → ∃ r, last = some r ∧ rowSequence x ≤ rowSequence r) := by
  induction l generalizing best with
  | nil =>
    refine ⟨fun r hr => Or.inr hr, ?_⟩
    rintro x (hx | hx)
    · cases hx
    · exact ⟨x, hx, Nat.le_refl _⟩
  | cons y l ih =>
    simp only [List.foldl_cons, List.mem_cons]
    cases best with
    | none =>
      obtain ⟨h1, h2⟩ := ih (some y)
      refine ⟨?_, ?_⟩
      · intro r hr
        rcases h1 r hr with h | h
        · exact Or.inl (Or.inr h)
        · exact Or.inl (Or.inl (Option.some.inj h).symm)
      · rintro x ((rfl | hx) | hx)
        · exact h2 x (Or.inr rfl)
        · exact h2 x (Or.inl hx)
        · cases hx
    | some b =>
      simp only
      split
      -- `y` takes over, and is at or above what was best
      · next hby =>
        obtain ⟨h1, h2⟩ := ih (some y)
        refine ⟨?_, ?_⟩
        · intro r hr
          rcases h1 r hr with h | h
          · exact Or.inl (Or.inr h)
          · exact Or.inl (Or.inl (Option.some.inj h).symm)
        · rintro x ((rfl | hx) | hx)
          · exact h2 x (Or.inr rfl)
          · exact h2 x (Or.inl hx)
          · obtain ⟨r, hr, hle⟩ := h2 y (Or.inr rfl)
            cases hx
            exact ⟨r, hr, by omega⟩
      -- `y` is no better, and is below the best
      · next hby =>
        obtain ⟨h1, h2⟩ := ih (some b)
        refine ⟨?_, ?_⟩
        · intro r hr
          rcases h1 r hr with h | h
          · exact Or.inl (Or.inr h)
          · exact Or.inr h
        · rintro x ((rfl | hx) | hx)
          · obtain ⟨r, hr, hle⟩ := h2 b (Or.inr rfl)
            exact ⟨r, hr, by omega⟩
          · exact h2 x (Or.inl hx)
          · exact h2 x (Or.inr hx)

theorem latestRow_mem {t : List ρ} {p : ρ → Bool} {r : ρ} (h : latestRow t p = some r) :
    r ∈ t ∧ p r = true := by
  rcases (latestRow_fold (t.filter p) none).1 r h with h | h
  · exact List.mem_filter.1 h
  · cases h

/-- The latest row is numbered at or above every row it was chosen from. -/
theorem latestRow_sequence_le {t : List ρ} {p : ρ → Bool} {x : ρ} (hx : x ∈ t) (hp : p x = true) :
    ∃ r, latestRow t p = some r ∧ rowSequence x ≤ rowSequence r :=
  (latestRow_fold (t.filter p) none).2 x (Or.inl (List.mem_filter.2 ⟨hx, hp⟩))

theorem latestRow_eq_none {t : List ρ} {p : ρ → Bool} : latestRow t p = none ↔ t.filter p = [] := by
  constructor
  · intro h
    rw [List.filter_eq_nil_iff]
    intro r hr hp
    obtain ⟨r', hr', -⟩ := latestRow_sequence_le hr hp
    rw [h] at hr'
    cases hr'
  · intro h
    rw [latestRow, h]
    rfl

/-! ## Rows whose numbers only rise -/

/-- Where rows were inserted in the order of their numbers, listing them keeps that order. -/
theorem listRows_eq_filter {t : List ρ} {p : ρ → Bool}
    (h : (t.filter p).Pairwise fun a b => rowSequence a < rowSequence b) : listRows t p = t.filter p :=
  (h.imp Nat.le_of_lt).insertionSort_eq

/-- Where rows were inserted in the order of their numbers, the latest is the last. -/
theorem latestRow_eq_getLast? {t : List ρ} {p : ρ → Bool}
    (h : (t.filter p).Pairwise fun a b => rowSequence a < rowSequence b) :
    latestRow t p = (t.filter p).getLast? := by
  rw [latestRow]
  generalize t.filter p = l at h
  rcases List.eq_nil_or_concat l with rfl | ⟨init, last, rfl⟩
  · rfl
  · rw [List.concat_eq_append] at h ⊢
    rw [List.foldl_append, List.getLast?_append, List.foldl_cons, List.foldl_nil]
    have hbelow : ∀ r ∈ init, rowSequence r < rowSequence last := fun r hr =>
      (List.pairwise_append.1 h).2.2 r hr last List.mem_cons_self
    have hseen := (latestRow_fold init none).1
    generalize hbest : init.foldl _ none = best
    rw [hbest] at hseen
    cases best with
    | none => rfl
    | some b =>
      rcases hseen b rfl with hb | hb
      · simp [hbelow b hb]
      · cases hb

end Sequenced

end SafeFsOps
