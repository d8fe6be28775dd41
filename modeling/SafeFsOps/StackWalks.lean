import Mathlib

/-!
# Walks with an explicit stack

A loop that takes an item off a stack, visits it, collects what the visit found and
pushes what is to be visited next. Nothing is remembered about items visited before, so
the walk ends only where the items to come get fewer in some measure, and it finds the
same things in whatever order the stack holds them.

> `walkStack_ends`: a measure under which everything pushed together is less than what
> was popped bounds the turns of the loop.
> `mem_walkStack`: what a walk that ends found is what the visits of the items that are
> reached found.
-/

namespace SafeFsOps

section

variable {α β ε : Type} (visit : α → Except ε (List β × List α))

/-- `while stack`: the top of the stack comes first, and what a visit pushes is popped
in the order it is given in. `none` is a loop whose fuel ran out. -/
def walkStack : Nat → List α → List β → Option (Except ε (List β))
  | _, [], collected => some (.ok collected)
  | 0, _ :: _, _ => none
  | fuel + 1, item :: stack, collected =>
    match visit item with
    | .error e => some (.error e)
    | .ok (found, next) => walkStack fuel (next ++ stack) (collected ++ found)

/-- A visit of `a` pushes `b`. -/
def Pushes (a b : α) : Prop := ∃ found next, visit a = .ok (found, next) ∧ b ∈ next

/-- A visit of `a` finds `x`. -/
def Finds (a : α) (x : β) : Prop := ∃ found next, visit a = .ok (found, next) ∧ x ∈ found

variable {visit}

/-- Enough fuel for the measure of the stack. -/
theorem walkStack_ends {rank : α → Nat} (hpos : ∀ a, 0 < rank a)
    (hrank : ∀ a found next, visit a = .ok (found, next) → (next.map rank).sum < rank a) :
    ∀ (fuel : Nat) (stack : List α) (collected : List β), (stack.map rank).sum ≤ fuel →
      (walkStack visit fuel stack collected).isSome := by
  intro fuel
  induction fuel with
  | zero =>
    intro stack collected hfuel
    cases stack with
    | nil => rfl
    | cons a stack =>
      have ha := hpos a
      simp only [List.map_cons, List.sum_cons] at hfuel
      omega
  | succ fuel ih =>
    intro stack collected hfuel
    cases stack with
    | nil => rfl
    | cons a stack =>
      rw [walkStack]
      cases hvisit : visit a with
      | error e => rfl
      | ok r =>
        obtain ⟨found, next⟩ := r
        have hless := hrank a found next hvisit
        apply ih
        simp only [List.map_append, List.sum_append, List.map_cons, List.sum_cons] at hfuel ⊢
        omega

/-- More fuel changes nothing. -/
theorem walkStack_more : ∀ {fuel fuel' : Nat} {stack : List α} {collected : List β} {r : Except ε (List β)},
    walkStack visit fuel stack collected = some r → fuel ≤ fuel' →
      walkStack visit fuel' stack collected = some r := by
  intro fuel
  induction fuel with
  | zero =>
    intro fuel' stack collected r h _
    cases stack with
    | nil => cases fuel' <;> exact h
    | cons a stack => cases h
  | succ fuel ih =>
    intro fuel' stack collected r h hle
    cases stack with
    | nil => cases fuel' <;> exact h
    | cons a stack =>
      obtain ⟨fuel', rfl⟩ := Nat.exists_eq_add_of_le' (Nat.lt_of_lt_of_le (Nat.succ_pos fuel) hle)
      rw [walkStack] at h ⊢
      split at h
      · exact h
      · exact ih h (by omega)

/-- The visits of the items reached from the stack found it, and no others did. -/
theorem mem_walkStack : ∀ {fuel : Nat} {stack : List α} {collected out : List β} {x : β},
    walkStack visit fuel stack collected = some (.ok out) →
      (x ∈ out ↔ x ∈ collected ∨
        ∃ s ∈ stack, ∃ a, Relation.ReflTransGen (Pushes visit) s a ∧ Finds visit a x) := by
  intro fuel
  induction fuel with
  | zero =>
    intro stack collected out x h
    cases stack with
    | nil => simp [walkStack] at h; simp [h]
    | cons a stack => simp [walkStack] at h
  | succ fuel ih =>
    intro stack collected out x h
    cases stack with
    | nil => simp [walkStack] at h; simp [h]
    | cons a stack =>
      rw [walkStack] at h
      cases hvisit : visit a with
      | error e => simp [hvisit] at h
      | ok r =>
        obtain ⟨found, next⟩ := r
        rw [hvisit] at h
        rw [ih h, List.mem_append]
        constructor
        · rintro ((hold | hfound) | ⟨s, hs, b, hreach, hb⟩)
          · exact Or.inl hold
          · exact Or.inr ⟨a, List.mem_cons_self, a, .refl, found, next, hvisit, hfound⟩
          · rcases List.mem_append.1 hs with hnext | hstack
            · exact Or.inr ⟨a, List.mem_cons_self, b, .head ⟨found, next, hvisit, hnext⟩ hreach, hb⟩
            · exact Or.inr ⟨s, List.mem_cons_of_mem _ hstack, b, hreach, hb⟩
        · rintro (hold | ⟨s, hs, b, hreach, hb⟩)
          · exact Or.inl (Or.inl hold)
          · rcases List.mem_cons.1 hs with rfl | hstack
            · -- the item on top: either its own visit found it, or one of what it pushed
              rcases hreach.cases_head with rfl | ⟨c, ⟨found', next', hvisit', hc⟩, hreach⟩
              · obtain ⟨found', next', hvisit', hx⟩ := hb
                rw [hvisit] at hvisit'
                cases hvisit'
                exact Or.inl (Or.inr hx)
              · rw [hvisit] at hvisit'
                cases hvisit'
                exact Or.inr ⟨c, List.mem_append_left _ hc, b, hreach, hb⟩
            · exact Or.inr ⟨s, List.mem_append_right _ hstack, b, hreach, hb⟩

/-- A walk that ends well has visited everything it reached. -/
theorem visits_of_walkStack : ∀ {fuel : Nat} {stack : List α} {collected out : List β},
    walkStack visit fuel stack collected = some (.ok out) →
      ∀ s ∈ stack, ∀ a, Relation.ReflTransGen (Pushes visit) s a → ∃ r, visit a = .ok r := by
  intro fuel
  induction fuel with
  | zero =>
    intro stack collected out h
    cases stack with
    | nil => intro s hs; cases hs
    | cons a stack => simp [walkStack] at h
  | succ fuel ih =>
    intro stack collected out h
    cases stack with
    | nil => intro s hs; cases hs
    | cons top stack =>
      rw [walkStack] at h
      cases hvisit : visit top with
      | error e => simp [hvisit] at h
      | ok r =>
        obtain ⟨found, next⟩ := r
        rw [hvisit] at h
        intro s hs a hreach
        rcases List.mem_cons.1 hs with rfl | hstack
        · rcases hreach.cases_head with rfl | ⟨c, ⟨found', next', hvisit', hc⟩, hreach⟩
          · exact ⟨_, hvisit⟩
          · rw [hvisit] at hvisit'
            cases hvisit'
            exact ih h c (List.mem_append_left _ hc) a hreach
        · exact ih h s (List.mem_append_right _ hstack) a hreach

/-- A walk that can visit everything it reaches does not fail. -/
theorem walkStack_returns : ∀ {fuel : Nat} {stack : List α} {collected : List β} {r : Except ε (List β)},
    walkStack visit fuel stack collected = some r →
      (∀ s ∈ stack, ∀ a, Relation.ReflTransGen (Pushes visit) s a → ∃ r, visit a = .ok r) → ∃ out, r = .ok out := by
  intro fuel
  induction fuel with
  | zero =>
    intro stack collected r h _
    cases stack with
    | nil => cases h; exact ⟨_, rfl⟩
    | cons a stack => cases h
  | succ fuel ih =>
    intro stack collected r h hvisits
    cases stack with
    | nil => cases h; exact ⟨_, rfl⟩
    | cons top stack =>
      obtain ⟨⟨found, next⟩, hvisit⟩ := hvisits top List.mem_cons_self top .refl
      rw [walkStack, hvisit] at h
      apply ih h
      intro s hs a hreach
      rcases List.mem_append.1 hs with hnext | hstack
      · exact hvisits top List.mem_cons_self a (.head ⟨found, next, hvisit, hnext⟩ hreach)
      · exact hvisits s (List.mem_cons_of_mem _ hstack) a hreach

end

end SafeFsOps
