import SafeFsOps.Programs

/-!
# Regions of a program

A method that begins something has to say so wherever it fails on the way. It does so
region by region: `guarded` is a region with a `try` around it, whose handler records
the failure; in a `bare` one nobody records it; and in a `free` one there is nothing to
record. `Regions` writes a program down with the regions it falls into, and
`Regions.run` is the program.

A run is *kept* if no bare region of it raises, and no handler raises before its record
is made (`Regions.Kept`). `Regions.Leaves K` is what has to be shown of each region for
`K` to hold in the end, handlers included, when raises in bare regions and from records
are left out:

> `leaves_run`: what the regions leave holds wherever a run that is kept finishes.
-/

namespace SafeFsOps

open Program

/-- A program as its regions. -/
inductive Regions (σ ι ε : Type) : Type → Type 1 where
  | ret {α : Type} (a : α) : Regions σ ι ε α
  /-- what raises here leaves nothing to record -/
  | free {α β : Type} (p : Program σ ι ε β) (next : β → Regions σ ι ε α) : Regions σ ι ε α
  /-- what raises here is not recorded -/
  | bare {α β : Type} (p : Program σ ι ε β) (next : β → Regions σ ι ε α) : Regions σ ι ε α
  /-- the handler records the failure, goes on with `rest`, and raises -/
  | guarded {α β γ : Type} (p : Program σ ι ε β) (record : ε → Program σ ι ε γ)
      (rest : ε → γ → Program σ ι ε Unit) (raised : ε → ε) (next : β → Regions σ ι ε α) : Regions σ ι ε α
  | seq {α β : Type} (x : Regions σ ι ε β) (next : β → Regions σ ι ε α) : Regions σ ι ε α
  /-- going on with the outcome of `x`, also where it raises -/
  | caught {α β : Type} (x : Regions σ ι ε β) (next : Except ε β → Regions σ ι ε α) : Regions σ ι ε α

namespace Regions

variable {σ ι ε α β γ : Type}

/-- The program that falls into these regions. -/
def run {α : Type} : Regions σ ι ε α → Program σ ι ε α
  | ret a => .ret a
  | free p next => p.bind fun b => (next b).run
  | bare p next => p.bind fun b => (next b).run
  | guarded p record rest raised next =>
    (p.onRaise fun e => (record e).bind fun g => (rest e g).bind fun _ => .raise (raised e)).bind
      fun b => (next b).run
  | seq x next => x.run.bind fun b => (next b).run
  | caught x next => x.run.outcome.bind fun r => (next r).run

theorem bind_free {p : Program σ ι ε β} {f : β → Program σ ι ε α} {next : β → Regions σ ι ε α}
    (h : ∀ b, f b = (next b).run) : p.bind f = (free p next).run := congrArg p.bind (funext h)

theorem bind_bare {p : Program σ ι ε β} {f : β → Program σ ι ε α} {next : β → Regions σ ι ε α}
    (h : ∀ b, f b = (next b).run) : p.bind f = (bare p next).run := congrArg p.bind (funext h)

/-- A `try`, whose handler falls into its record, what follows it, and its raise. -/
theorem bind_guarded {p : Program σ ι ε β} {handler : ε → Program σ ι ε β} {f : β → Program σ ι ε α}
    {record : ε → Program σ ι ε γ} {rest : ε → γ → Program σ ι ε Unit} {raised : ε → ε} {next : β → Regions σ ι ε α}
    (hh : ∀ e, handler e = (record e).bind fun g => (rest e g).bind fun _ => .raise (raised e))
    (h : ∀ b, f b = (next b).run) : (p.onRaise handler).bind f = (guarded p record rest raised next).run :=
  congrArg₂ Program.bind (congrArg p.onRaise (funext hh)) (funext h)

/-- One condition on results, and one on errors. -/
def Comes (ok : α → Prop) (error : ε → Prop) : Except ε α → Prop
  | .ok a => ok a
  | .error e => error e

/-- On these inputs no bare region raises, and neither does a handler before its record is made. -/
def Kept {α : Type} : Regions σ ι ε α → σ → List ι → Prop
  | ret _, _, _ => True
  | free p next, s, inputs =>
    Ends (fun r s' rest => Comes (fun b => (next b).Kept s' rest) (fun _ => True) r) p s inputs
  | bare p next, s, inputs =>
    Ends (fun r s' rest => Comes (fun b => (next b).Kept s' rest) (fun _ => False) r) p s inputs
  | guarded p record _ _ next, s, inputs =>
    Ends (fun r s' rest => Comes (fun b => (next b).Kept s' rest)
      (fun e => Ends (fun r _ _ => r.isOk = true) (record e) s' rest) r) p s inputs
  | seq x next, s, inputs => x.Kept s inputs ∧
    Ends (fun r s' rest => Comes (fun b => (next b).Kept s' rest) (fun _ => True) r) x.run s inputs
  | caught x next, s, inputs => x.Kept s inputs ∧
    Ends (fun r s' rest => (next r).Kept s' rest) x.run s inputs

/-- A condition on outcomes that can be decided on results and on errors. -/
def decidableComes {ok : α → Prop} {error : ε → Prop} (hok : ∀ a, Decidable (ok a)) (herror : ∀ e, Decidable (error e)) :
    ∀ r, Decidable (Comes ok error r)
  | .ok a => hok a
  | .error e => herror e

instance decidableKept {α : Type} : ∀ (x : Regions σ ι ε α) (s : σ) (inputs : List ι), Decidable (x.Kept s inputs)
  | ret _, _, _ => isTrue trivial
  | free _ next, _, _ => decidableEnds fun _ s' rest =>
    decidableComes (fun b => decidableKept (next b) s' rest) (fun _ => isTrue trivial) _
  | bare _ next, _, _ => decidableEnds fun _ s' rest =>
    decidableComes (fun b => decidableKept (next b) s' rest) (fun _ => isFalse id) _
  | guarded _ _ _ _ next, _, _ => decidableEnds fun _ s' rest =>
    decidableComes (fun b => decidableKept (next b) s' rest) (fun _ => decidableEnds fun _ _ _ => inferInstance) _
  | seq x next, s, inputs => @instDecidableAnd _ _ (decidableKept x s inputs) (decidableEnds fun _ s' rest =>
    decidableComes (fun b => decidableKept (next b) s' rest) (fun _ => isTrue trivial) _)
  | caught x next, s, inputs => @instDecidableAnd _ _ (decidableKept x s inputs)
    (decidableEnds fun r s' rest => decidableKept (next r) s' rest)

/-- What the regions leave, but for what raises in a bare one and from a record. -/
def Leaves {α : Type} : Regions σ ι ε α → (Except ε α → σ → Prop) → σ → Prop
  | ret a, K, s => K (.ok a) s
  | free p next, K, s =>
    Finishes (fun r s' => Comes (fun b => (next b).Leaves K s') (fun e => K (.error e) s') r) p s
  | bare p next, K, s => Finishes (fun r s' => Comes (fun b => (next b).Leaves K s') (fun _ => True) r) p s
  | guarded p record rest raised next, K, s =>
    Finishes (fun r s' => Comes (fun b => (next b).Leaves K s')
      (fun e => Finishes (fun r s' => Comes
        (fun g => Finishes (fun r s' => Comes (fun _ => K (.error (raised e)) s') (fun e' => K (.error e') s') r)
          (rest e g) s')
        (fun _ => True) r) (record e) s') r) p s
  | seq x next, K, s =>
    x.Leaves (fun r s' => Comes (fun b => (next b).Leaves K s') (fun e => K (.error e) s') r) s
  | caught x next, K, s => x.Leaves (fun r s' => (next r).Leaves K s') s

/-- **What the regions leave**, of every run that is kept. The induction is on the regions. -/
theorem leaves_run {α : Type} : ∀ (x : Regions σ ι ε α) {K : Except ε α → σ → Prop} {s : σ} {inputs : List ι},
    x.Leaves K s → x.Kept s inputs → Ends (fun r s' _ => K r s') x.run s inputs
  | ret a, _, _, _, h, _ => ends_ret a h
  | free p next, K, s, inputs, h, hk => by
    refine ends_bind fun r rest s' hrun => ?_
    have hp := finishes_of_run h hrun
    have hnext := hk r rest s' hrun
    cases r with
    | ok b => exact leaves_run (next b) hp hnext
    | error e => exact hp
  | bare p next, K, s, inputs, h, hk => by
    refine ends_bind fun r rest s' hrun => ?_
    have hp := finishes_of_run h hrun
    have hnext := hk r rest s' hrun
    cases r with
    | ok b => exact leaves_run (next b) hp hnext
    | error e => exact hnext.elim
  | guarded p record rest raised next, K, s, inputs, h, hk => by
    refine ends_bind (ends_onRaise fun r left s' hrun => ?_)
    have hp := finishes_of_run h hrun
    have hnext := hk r left s' hrun
    cases r with
    | ok b => exact leaves_run (next b) hp hnext
    | error e =>
      -- the handler: up to its record, what it does after that, and its raise
      refine ends_bind fun r left' s'' hrecord => ?_
      have hr := finishes_of_run hp hrecord
      have hok := hnext r left' s'' hrecord
      cases r with
      | error e' => cases hok
      | ok g =>
        refine ends_bind fun r left'' s₃ hrest => ?_
        have hlast := finishes_of_run hr hrest
        cases r with
        | ok _ => exact ends_raise _ hlast
        | error e' => exact hlast
  | seq x next, K, s, inputs, h, hk => by
    refine ends_bind fun r rest s' hrun => ?_
    have hx := leaves_run x h hk.1 r rest s' hrun
    have hnext := hk.2 r rest s' hrun
    cases r with
    | ok b => exact leaves_run (next b) hx hnext
    | error e => exact hx
  | caught x next, K, s, inputs, h, hk => by
    refine ends_outcome_bind fun r rest s' hrun => ?_
    exact leaves_run (next r) (leaves_run x h hk.1 r rest s' hrun) (hk.2 r rest s' hrun)

/-- A weaker postcondition. -/
theorem leaves_mono {α : Type} : ∀ (x : Regions σ ι ε α) {K K' : Except ε α → σ → Prop} {s : σ},
    (∀ r s, K r s → K' r s) → x.Leaves K s → x.Leaves K' s
  | ret _, _, _, _, hK, h => hK _ _ h
  | free p next, K, K', s, hK, h => by
    refine along_mono (fun _ _ h => h) (fun r s' hr => ?_) h
    cases r with
    | ok b => exact leaves_mono (next b) hK hr
    | error e => exact hK _ _ hr
  | bare p next, K, K', s, hK, h => by
    refine along_mono (fun _ _ h => h) (fun r s' hr => ?_) h
    cases r with
    | ok b => exact leaves_mono (next b) hK hr
    | error e => trivial
  | guarded p record rest raised next, K, K', s, hK, h => by
    refine along_mono (fun _ _ h => h) (fun r s' hr => ?_) h
    cases r with
    | ok b => exact leaves_mono (next b) hK hr
    | error e =>
      refine along_mono (fun _ _ h => h) (fun r s' hr => ?_) hr
      cases r with
      | error e' => trivial
      | ok g =>
        refine along_mono (fun _ _ h => h) (fun r s' hr => ?_) hr
        cases r <;> exact hK _ _ hr
  | seq x next, K, K', s, hK, h => by
    refine leaves_mono x (fun r s' hr => ?_) h
    cases r with
    | ok b => exact leaves_mono (next b) hK hr
    | error e => exact hK _ _ hr
  | caught x next, K, K', s, hK, h => leaves_mono x (fun r _ hr => leaves_mono (next r) hK hr) h

section Invariant

variable {I : σ → Prop} {s : σ}

theorem leaves_seq {x : Regions σ ι ε β} {next : β → Regions σ ι ε α} (hx : x.Leaves (fun _ => I) s)
    (hnext : ∀ b s', I s' → (next b).Leaves (fun _ => I) s') : (seq x next).Leaves (fun _ => I) s := by
  refine leaves_mono x (fun r s' hI => ?_) hx
  cases r with
  | ok b => exact hnext b s' hI
  | error e => exact hI

theorem leaves_caught {x : Regions σ ι ε β} {next : Except ε β → Regions σ ι ε α} (hx : x.Leaves (fun _ => I) s)
    (hnext : ∀ r s', I s' → (next r).Leaves (fun _ => I) s') : (caught x next).Leaves (fun _ => I) s :=
  leaves_mono x (fun r s' hI => hnext r s' hI) hx

end Invariant

end Regions

end SafeFsOps
