import Mathlib.Tactic.Common

/-!
# Runs of a state machine

Every claim about "any interleaving" is a claim about a list of inputs fed to a
step function: the input carries the caller, its arguments, its clock sample and
whatever it drew at random, so the step itself is a function and an interleaving
is nothing but the order of the list. A call that is refused, or that cannot
happen in a state, leaves the state alone and needs no rule of its own.

`after` is the state a run leads to. Three induction rules carry all arguments
about runs in this development:

> `after_invariant`: what every step keeps holds after every run.
> `after_relates`: a reflexive, transitive relation that every step respects
> relates the two ends of every run.
> `after_invariant_of`: what every step *meeting a condition* keeps holds after
> every run whose steps all met the condition where they were taken.
-/

universe u v

namespace SafeFsOps

variable {σ : Type u} {ι : Type v}

/-- The state a list of inputs leads to. -/
def after (step : σ → ι → σ) (s : σ) (run : List ι) : σ := run.foldl step s

@[simp] theorem after_nil (step : σ → ι → σ) (s : σ) : after step s [] = s := rfl

@[simp] theorem after_cons (step : σ → ι → σ) (s : σ) (i : ι) (run : List ι) :
    after step s (i :: run) = after step (step s i) run := rfl

theorem after_append (step : σ → ι → σ) (s : σ) (run run' : List ι) :
    after step s (run ++ run') = after step (after step s run) run' := List.foldl_append

/-- Every input of the run meets `C` in the state where it is taken. -/
def AllSteps (step : σ → ι → σ) (C : σ → ι → Prop) : σ → List ι → Prop
  | _, [] => True
  | s, i :: run => C s i ∧ AllSteps step C (step s i) run

theorem allSteps_append {step : σ → ι → σ} {C : σ → ι → Prop} :
    ∀ {s : σ} {run run' : List ι}, AllSteps step C s (run ++ run') ↔
      AllSteps step C s run ∧ AllSteps step C (after step s run) run'
  | s, [], run' => by simp [AllSteps]
  | s, i :: run, run' => by
    simp only [List.cons_append, AllSteps, after_cons, and_assoc]
    rw [allSteps_append]

/-- What every step meeting the condition keeps holds after every run that met it. -/
theorem after_invariant_of {step : σ → ι → σ} {C : σ → ι → Prop} {P : σ → Prop}
    (hstep : ∀ s i, C s i → P s → P (step s i)) :
    ∀ (run : List ι) (s : σ), AllSteps step C s run → P s → P (after step s run) := by
  intro run
  induction run with
  | nil => intro s _ h; exact h
  | cons i run ih => intro s hall h; exact ih _ hall.2 (hstep s i hall.1 h)

/-- What every step keeps holds after every run. -/
theorem after_invariant {step : σ → ι → σ} {P : σ → Prop}
    (hstep : ∀ s i, P s → P (step s i)) : ∀ (run : List ι) (s : σ), P s → P (after step s run) := by
  intro run
  induction run with
  | nil => intro s h; exact h
  | cons i run ih => intro s h; exact ih _ (hstep s i h)

/-- A preorder respected by every step relates the ends of every run. -/
theorem after_relates {step : σ → ι → σ} {R : σ → σ → Prop} (hrefl : ∀ s, R s s)
    (htrans : ∀ {a b c}, R a b → R b c → R a c) (hstep : ∀ s i, R s (step s i)) :
    ∀ (run : List ι) (s : σ), R s (after step s run) := by
  intro run
  induction run with
  | nil => intro s; exact hrefl s
  | cons i run ih => intro s; exact htrans (hstep s i) (ih _)

end SafeFsOps
