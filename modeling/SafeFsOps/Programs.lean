import SafeFsOps.Runs

/-!
# Programs of atomic steps

A method that works on a database and a disk is a sequence of atomic steps:
each is one transaction or one system call, and between two of them the process
can die, or somebody else can step in. `Program` is that sequence, with Python's
`return`, `raise` and `try`. A step reads one input (a clock sample, a random id,
whether the disk fails) and the state, and answers with a value and a new state.

There are two ways to run one.

*Alone*, with crashes: `exec` feeds it a list of inputs and stops where the list
ends, so "killed at any point" is "for every list of inputs". `Along C R Q p s`
says of all these runs, as far as their inputs meet `C`, that every step is one of
`R`, and that `Q` holds where they finish:

> `along_exec`: `Along C R Q p s` speaks about every run of `p` from `s`.

*Among others*: a `Pool` holds any number of programs, and a run of the pool is
a list of events, each starting a program, letting one make a step, killing one,
or something happening outside. A thread's *mode* is what it has earned so far:
`D.knows m` is what it may rely on in mode `m`, and `D.may m s s' m'` what it may
do there. `Follows D p m` says that `p` obeys:

> `pool_invariant`: what all steps allowed by the discipline keep holds after
> every run of the pool, and every thread in it still follows the discipline.
-/

namespace SafeFsOps

/-- A program over states `σ`: its steps read inputs `ι`, and it may raise `ε`. -/
inductive Program (σ ι ε α : Type) : Type 1 where
  | ret (a : α)
  | raise (e : ε)
  | step {β : Type} (act : ι → σ → β × σ) (next : β → Program σ ι ε α)

namespace Program

variable {σ ι ε α β γ : Type}

/-- Go on with the result, unless the program raises. -/
def bind : Program σ ι ε α → (α → Program σ ι ε β) → Program σ ι ε β
  | ret a, f => f a
  | raise e, _ => raise e
  | step act next, f => step act fun b => (next b).bind f

instance : Monad (Program σ ι ε) where
  pure := ret
  bind := bind

/-- `try: p` with `except e: handler e`. -/
def onRaise : Program σ ι ε α → (ε → Program σ ι ε α) → Program σ ι ε α
  | ret a, _ => ret a
  | raise e, handler => handler e
  | step act next, handler => step act fun b => (next b).onRaise handler

/-- The outcome of a program as a value. -/
def outcome (p : Program σ ι ε α) : Program σ ι ε (Except ε α) :=
  match p with
  | ret a => ret (.ok a)
  | raise e => ret (.error e)
  | step act next => step act fun b => (next b).outcome

/-- A step whose answer is a result or an error. -/
def call (act : ι → σ → Except ε α × σ) : Program σ ι ε α :=
  step act fun
    | .ok a => ret a
    | .error e => raise e

/-- Raise what an `Except` raises. -/
def ofExcept : Except ε α → Program σ ι ε α
  | .ok a => ret a
  | .error e => raise e

/-- `for x in xs: body x`. -/
def forEach (xs : List γ) (body : γ → Program σ ι ε Unit) : Program σ ι ε Unit :=
  match xs with
  | [] => ret ()
  | x :: xs => (body x).bind fun _ => forEach xs body

/-- `[f(x) for x in xs]`. -/
def mapEach (xs : List γ) (f : γ → Program σ ι ε α) : Program σ ι ε (List α) :=
  match xs with
  | [] => ret []
  | x :: xs => (f x).bind fun a => (mapEach xs f).bind fun as => ret (a :: as)

/-- `try: p` with `finally: last`. -/
def finallyDo (p : Program σ ι ε α) (last : Program σ ι ε Unit) : Program σ ι ε α :=
  p.outcome.bind fun r => last.bind fun _ => ofExcept r

theorem bind_eq (p : Program σ ι ε α) (f : α → Program σ ι ε β) : p >>= f = p.bind f := rfl

theorem bind_assoc {f : α → Program σ ι ε β} {g : β → Program σ ι ε γ} :
    ∀ p : Program σ ι ε α, (p.bind f).bind g = p.bind fun a => (f a).bind g
  | ret _ => rfl
  | raise _ => rfl
  | step act next => by
    have hnext : (fun b => ((next b).bind f).bind g) = fun b => (next b).bind fun a => (f a).bind g :=
      funext fun b => bind_assoc (next b)
    simp only [bind, hnext]

theorem bind_ret : ∀ p : Program σ ι ε α, p.bind ret = p
  | ret _ => rfl
  | raise _ => rfl
  | step act _ => congrArg (step act) (funext fun _ => bind_ret _)

/-! ## What every step does -/

/-- Every step of the program is one of `R`, whatever it reads and wherever it is taken. -/
def EachStep (R : σ → σ → Prop) : Program σ ι ε α → Prop
  | ret _ => True
  | raise _ => True
  | step act next => ∀ i s, R s (act i s).2 ∧ EachStep R (next (act i s).1)

section EachStep

variable {R R' : σ → σ → Prop}

theorem eachStep_mono (hR : ∀ s s', R s s' → R' s s') :
    ∀ {p : Program σ ι ε α}, EachStep R p → EachStep R' p
  | ret _, _ => trivial
  | raise _, _ => trivial
  | step _ _, h => fun i s => ⟨hR _ _ (h i s).1, eachStep_mono hR (h i s).2⟩

/-- Two things that each step is. -/
theorem eachStep_and : ∀ {p : Program σ ι ε α}, EachStep R p → EachStep R' p → EachStep (fun s s' => R s s' ∧ R' s s') p
  | ret _, _, _ => trivial
  | raise _, _, _ => trivial
  | step _ _, h, h' => fun i s => ⟨⟨(h i s).1, (h' i s).1⟩, eachStep_and (h i s).2 (h' i s).2⟩

/-- And as many as there are. -/
theorem eachStep_forall {κ : Type} {R : κ → σ → σ → Prop} : ∀ {p : Program σ ι ε α}, (∀ k, EachStep (R k) p) →
    EachStep (fun s s' => ∀ k, R k s s') p
  | ret _, _ => trivial
  | raise _, _ => trivial
  | step _ _, h => fun i s => ⟨fun k => (h k i s).1, eachStep_forall fun k => (h k i s).2⟩

theorem eachStep_bind {f : α → Program σ ι ε β} (hf : ∀ a, EachStep R (f a)) :
    ∀ {p : Program σ ι ε α}, EachStep R p → EachStep R (p.bind f)
  | ret a, _ => hf a
  | raise _, _ => trivial
  | step _ _, h => fun i s => ⟨(h i s).1, eachStep_bind hf (h i s).2⟩

theorem eachStep_onRaise {handler : ε → Program σ ι ε α} (hh : ∀ e, EachStep R (handler e)) :
    ∀ {p : Program σ ι ε α}, EachStep R p → EachStep R (p.onRaise handler)
  | ret _, _ => trivial
  | raise e, _ => hh e
  | step _ _, h => fun i s => ⟨(h i s).1, eachStep_onRaise hh (h i s).2⟩

theorem eachStep_outcome : ∀ {p : Program σ ι ε α}, EachStep R p → EachStep R p.outcome
  | ret _, _ => trivial
  | raise _, _ => trivial
  | step _ _, h => fun i s => ⟨(h i s).1, eachStep_outcome (h i s).2⟩

theorem eachStep_ofExcept (x : Except ε α) : EachStep R (ofExcept x : Program σ ι ε α) := by
  cases x <;> exact trivial

theorem eachStep_call {act : ι → σ → Except ε α × σ} (h : ∀ i s, R s (act i s).2) :
    EachStep R (call act) := by
  intro i s
  refine ⟨h i s, ?_⟩
  cases (act i s).1 <;> exact trivial

theorem eachStep_forEach {xs : List γ} {body : γ → Program σ ι ε Unit} (hb : ∀ x ∈ xs, EachStep R (body x)) :
    EachStep R (forEach xs body) := by
  induction xs with
  | nil => exact trivial
  | cons x xs ih =>
    exact eachStep_bind (fun _ => ih fun y hy => hb y (List.mem_cons_of_mem _ hy)) (hb x List.mem_cons_self)

theorem eachStep_mapEach {xs : List γ} {f : γ → Program σ ι ε α} (hf : ∀ x ∈ xs, EachStep R (f x)) :
    EachStep R (mapEach xs f) := by
  induction xs with
  | nil => exact trivial
  | cons x xs ih =>
    refine eachStep_bind (fun a => ?_) (hf x List.mem_cons_self)
    exact eachStep_bind (f := fun as => ret (a :: as)) (fun _ => trivial)
      (ih fun y hy => hf y (List.mem_cons_of_mem _ hy))

theorem eachStep_finallyDo {p : Program σ ι ε α} {last : Program σ ι ε Unit} (hp : EachStep R p)
    (hl : EachStep R last) : EachStep R (p.finallyDo last) :=
  eachStep_bind (fun r => eachStep_bind (fun _ => eachStep_ofExcept r) hl) (eachStep_outcome hp)

/-- Whatever the program results in satisfies `A`, whatever its steps read. -/
def Yields (A : α → Prop) : Program σ ι ε α → Prop
  | ret a => A a
  | raise _ => True
  | step act next => ∀ i s, Yields A (next (act i s).1)

/-- Sequencing, given what the first program results in. -/
theorem eachStep_yields {A : α → Prop} {f : α → Program σ ι ε β} (hf : ∀ a, A a → EachStep R (f a)) :
    ∀ {p : Program σ ι ε α}, EachStep R p → Yields A p → EachStep R (p.bind f)
  | ret a, _, h => hf a h
  | raise _, _, _ => trivial
  | step _ _, hp, h => fun i s => ⟨(hp i s).1, eachStep_yields hf (hp i s).2 (h i s)⟩

theorem yields_bind {A : β → Prop} {f : α → Program σ ι ε β} (hf : ∀ a, Yields A (f a)) :
    ∀ {p : Program σ ι ε α}, Yields A (p.bind f)
  | ret a => hf a
  | raise _ => trivial
  | step _ _ => fun _ _ => yields_bind hf

/-- Sequencing, given what the first program results in. -/
theorem yields_seq {A : α → Prop} {B : β → Prop} {f : α → Program σ ι ε β} (hf : ∀ a, A a → Yields B (f a)) :
    ∀ {p : Program σ ι ε α}, Yields A p → Yields B (p.bind f)
  | ret a, h => hf a h
  | raise _, _ => trivial
  | step _ _, h => fun i s => yields_seq hf (h i s)

theorem yields_onRaise {A : α → Prop} {handler : ε → Program σ ι ε α} (hh : ∀ e, Yields A (handler e)) :
    ∀ {p : Program σ ι ε α}, Yields A p → Yields A (p.onRaise handler)
  | ret _, h => h
  | raise e, _ => hh e
  | step _ _, h => fun i s => yields_onRaise hh (h i s)

theorem yields_call {A : α → Prop} {act : ι → σ → Except ε α × σ} (h : ∀ i s a, (act i s).1 = .ok a → A a) :
    Yields A (call act) := by
  intro i s
  cases hact : (act i s).1 with
  | ok a => exact h i s a hact
  | error e => trivial

end EachStep

/-- The steps of a first part. -/
theorem eachStep_of_bind {R : σ → σ → Prop} {f : α → Program σ ι ε β} : ∀ {p : Program σ ι ε α},
    EachStep R (p.bind f) → EachStep R p
  | ret _, _ => trivial
  | raise _, _ => trivial
  | step _ _, h => fun i s => ⟨(h i s).1, eachStep_of_bind (h i s).2⟩

/-! ## Running alone -/

/-- Run on the inputs there are: the outcome with the inputs left over, or `none`
where the inputs ended first; and the state reached. -/
def exec : Program σ ι ε α → σ → List ι → Option (Except ε α × List ι) × σ
  | ret a, s, inputs => (some (.ok a, inputs), s)
  | raise e, s, inputs => (some (.error e, inputs), s)
  | step _ _, s, [] => (none, s)
  | step act next, s, i :: inputs => exec (next (act i s).1) (act i s).2 inputs

/-- The states of a run, from the first to the last. -/
def trace : Program σ ι ε α → σ → List ι → List σ
  | ret _, s, _ => [s]
  | raise _, s, _ => [s]
  | step _ _, s, [] => [s]
  | step act next, s, i :: inputs => s :: trace (next (act i s).1) (act i s).2 inputs

/-- Every input of the run meets `C` in the state where it is read. -/
def Meets (C : ι → σ → Prop) : Program σ ι ε α → σ → List ι → Prop
  | ret _, _, _ => True
  | raise _, _, _ => True
  | step _ _, _, [] => True
  | step act next, s, i :: inputs => C i s ∧ Meets C (next (act i s).1) (act i s).2 inputs

instance decidableMeets {C : ι → σ → Prop} [∀ i s, Decidable (C i s)] :
    ∀ (p : Program σ ι ε α) (s : σ) (inputs : List ι), Decidable (Meets C p s inputs)
  | ret _, _, _ => isTrue trivial
  | raise _, _, _ => isTrue trivial
  | step _ _, _, [] => isTrue trivial
  | step act next, s, i :: inputs =>
    haveI := decidableMeets (C := C) (next (act i s).1) (act i s).2 inputs
    inferInstanceAs (Decidable (C i s ∧ Meets C (next (act i s).1) (act i s).2 inputs))

/-- In every run whose inputs meet `C`, each step is one of `R`, and `Q` holds where it finishes. -/
def Along (C : ι → σ → Prop) (R : σ → σ → Prop) (Q : Except ε α → σ → Prop) : Program σ ι ε α → σ → Prop
  | ret a, s => Q (.ok a) s
  | raise e, s => Q (.error e) s
  | step act next, s => ∀ i, C i s → R s (act i s).2 ∧ Along C R Q (next (act i s).1) (act i s).2

theorem exec_call (act : ι → σ → Except ε α × σ) (s : σ) (i : ι) (inputs : List ι) :
    (call act).exec s (i :: inputs) = (some ((act i s).1, inputs), (act i s).2) := by
  simp only [call, exec]
  cases (act i s).1 <;> rfl

/-- A sequence, run: the first program, and where it has a result, the second on what is left. -/
theorem exec_bind {f : α → Program σ ι ε β} : ∀ (p : Program σ ι ε α) (s : σ) (inputs : List ι),
    (p.bind f).exec s inputs =
      match p.exec s inputs with
      | (some (.ok a, rest), s') => (f a).exec s' rest
      | (some (.error e, rest), s') => (some (.error e, rest), s')
      | (none, s') => (none, s')
  | ret _, _, _ => by simp only [bind, exec]
  | raise _, _, _ => by simp only [bind, exec]
  | step _ _, _, [] => by simp only [bind, exec]
  | step act next, s, i :: inputs => by
    simp only [bind, exec]
    exact exec_bind (next (act i s).1) (act i s).2 inputs

/-- A run, from the outcome it is known to have. -/
theorem exec_of_outcome {p : Program σ ι ε α} {s : σ} {inputs : List ι} {r : Except ε α}
    (h : (p.exec s inputs).1.map Prod.fst = some r) : ∃ rest, p.exec s inputs = (some (r, rest), (p.exec s inputs).2) := by
  obtain ⟨⟨r', rest⟩, hrun, rfl⟩ := Option.map_eq_some_iff.1 h
  exact ⟨rest, Prod.ext hrun rfl⟩

/-- What a run leaves over are inputs it was given. -/
theorem exec_rest : ∀ {p : Program σ ι ε α} {s s' : σ} {inputs rest : List ι} {r : Except ε α},
    p.exec s inputs = (some (r, rest), s') → ∀ i ∈ rest, i ∈ inputs
  | ret _, _, _, _, _, _, h, i, hi => by
    cases h
    exact hi
  | raise _, _, _, _, _, _, h, i, hi => by
    cases h
    exact hi
  | step _ _, _, _, [], _, _, h, _, _ => by cases h
  | step act next, s, s', i₀ :: inputs, rest, r, h, i, hi => by
    have hnext : (next (act i₀ s).1).exec (act i₀ s).2 inputs = (some (r, rest), s') := h
    exact List.mem_cons_of_mem _ (exec_rest hnext i hi)

/-- `f` was run on each of `xs`, one after the other, and gave `as`. -/
inductive RanEach (f : γ → Program σ ι ε α) : List γ → σ → List ι → List α → σ → List ι → Prop
  | nil (s : σ) (inputs : List ι) : RanEach f [] s inputs [] s inputs
  | cons {x : γ} {xs : List γ} {s s' s'' : σ} {inputs rest rest' : List ι} {a : α} {as : List α}
      (run : (f x).exec s inputs = (some (.ok a, rest), s')) (next : RanEach f xs s' rest as s'' rest') :
      RanEach f (x :: xs) s inputs (a :: as) s'' rest'

/-- A sequence that has a result has one of each part. -/
theorem exec_bind_ok {p : Program σ ι ε α} {f : α → Program σ ι ε β} {s s' : σ} {inputs rest : List ι} {b : β}
    (h : (p.bind f).exec s inputs = (some (.ok b, rest), s')) :
    ∃ a mid s₁, p.exec s inputs = (some (.ok a, mid), s₁) ∧ (f a).exec s₁ mid = (some (.ok b, rest), s') := by
  rw [exec_bind] at h
  split at h
  · next a mid s₁ hp => exact ⟨a, mid, s₁, hp, h⟩
  · cases h
  · cases h

/-- A comprehension that has a result has run each of its parts. -/
theorem ranEach_of_mapEach {f : γ → Program σ ι ε α} : ∀ {xs : List γ} {s s' : σ} {inputs rest : List ι} {as : List α},
    (mapEach xs f).exec s inputs = (some (.ok as, rest), s') → RanEach f xs s inputs as s' rest
  | [], s, s', inputs, rest, as, h => by
    cases h
    exact .nil s inputs
  | x :: xs, s, s', inputs, rest, as, h => by
    obtain ⟨a, mid, s₁, hx, h⟩ := exec_bind_ok h
    obtain ⟨as', mid', s₂, hxs, h⟩ := exec_bind_ok h
    cases h
    exact .cons hx (ranEach_of_mapEach hxs)

section Along

variable {C : ι → σ → Prop} {R : σ → σ → Prop} {Q : Except ε α → σ → Prop}

theorem trace_ne_nil : ∀ (p : Program σ ι ε α) (s : σ) (inputs : List ι), ∃ rest, trace p s inputs = s :: rest
  | ret _, s, _ => ⟨[], by simp [trace]⟩
  | raise _, s, _ => ⟨[], by simp [trace]⟩
  | step _ _, s, [] => ⟨[], rfl⟩
  | step act next, s, i :: inputs => ⟨trace (next (act i s).1) (act i s).2 inputs, rfl⟩

theorem meets_true : ∀ (p : Program σ ι ε α) (s : σ) (inputs : List ι), Meets (fun _ _ => True) p s inputs
  | ret _, _, _ => trivial
  | raise _, _, _ => trivial
  | step _ _, _, [] => trivial
  | step _ _, _, _ :: _ => ⟨trivial, meets_true _ _ _⟩

/-- Inputs that meet the condition wherever they are read. -/
theorem meets_of_inputs : ∀ (p : Program σ ι ε α) (s : σ) (inputs : List ι), (∀ i ∈ inputs, ∀ s, C i s) →
    Meets C p s inputs
  | ret _, _, _, _ => trivial
  | raise _, _, _, _ => trivial
  | step _ _, _, [], _ => trivial
  | step _ _, s, i :: inputs, h =>
    ⟨h i List.mem_cons_self s, meets_of_inputs _ _ inputs fun i' hi' => h i' (List.mem_cons_of_mem _ hi')⟩

/-- A stronger condition on the inputs. -/
theorem meets_mono {C' : ι → σ → Prop} (hC : ∀ i s, C i s → C' i s) : ∀ {p : Program σ ι ε α} {s : σ} {inputs : List ι},
    Meets C p s inputs → Meets C' p s inputs
  | ret _, _, _, _ => trivial
  | raise _, _, _, _ => trivial
  | step _ _, _, [], _ => trivial
  | step _ _, s, i :: _, h => ⟨hC i s h.1, meets_mono hC h.2⟩

theorem meets_bind {f : α → Program σ ι ε β} : ∀ {p : Program σ ι ε α} {s : σ} {inputs : List ι},
    Meets C (p.bind f) s inputs → Meets C p s inputs ∧ ∀ a rest s', p.exec s inputs = (some (.ok a, rest), s') →
      Meets C (f a) s' rest
  | ret a, s, inputs, h => by
    refine ⟨trivial, fun a' rest s' hrun => ?_⟩
    cases hrun
    exact h
  | raise _, _, _, _ => ⟨trivial, fun a' rest s' hrun => by cases hrun⟩
  | step _ _, _, [], _ => ⟨trivial, fun a' rest s' hrun => by cases hrun⟩
  | step _ _, _, _ :: _, h => by
    obtain ⟨hp, hf⟩ := meets_bind h.2
    exact ⟨⟨h.1, hp⟩, hf⟩

/-- What holds along a program holds in every run of it. -/
theorem along_exec : ∀ {p : Program σ ι ε α} {s : σ}, Along C R Q p s → ∀ inputs : List ι, Meets C p s inputs →
    (trace p s inputs).IsChain R ∧
      ∀ r rest, (p.exec s inputs).1 = some (r, rest) → Q r (p.exec s inputs).2
  | ret a, s, h, inputs, _ => by
    refine ⟨by simp [trace], ?_⟩
    intro r rest hr
    cases hr
    exact h
  | raise e, s, h, inputs, _ => by
    refine ⟨by simp [trace], ?_⟩
    intro r rest hr
    cases hr
    exact h
  | step act next, s, h, [], _ => ⟨List.IsChain.singleton s, fun r rest hr => by cases hr⟩
  | step act next, s, h, i :: inputs, hm => by
    obtain ⟨hR, hnext⟩ := h i hm.1
    obtain ⟨hchain, hQ⟩ := along_exec hnext inputs hm.2
    refine ⟨?_, hQ⟩
    show (s :: trace (next (act i s).1) (act i s).2 inputs).IsChain R
    obtain ⟨rest, hrest⟩ := trace_ne_nil (next (act i s).1) (act i s).2 inputs
    rw [hrest] at hchain ⊢
    exact List.isChain_cons_cons.2 ⟨hR, hchain⟩

/-- The rule of consequence. -/
theorem along_mono {R' : σ → σ → Prop} {Q' : Except ε α → σ → Prop} (hR : ∀ s s', R s s' → R' s s')
    (hQ : ∀ r s, Q r s → Q' r s) : ∀ {p : Program σ ι ε α} {s : σ}, Along C R Q p s → Along C R' Q' p s
  | ret _, _, h => hQ _ _ h
  | raise _, _, h => hQ _ _ h
  | step _ _, _, h => fun i hi => ⟨hR _ _ (h i hi).1, along_mono hR hQ (h i hi).2⟩

/-- The rule of sequencing: errors pass by, results go on. -/
theorem along_bind {S : Except ε β → σ → Prop} {f : α → Program σ ι ε β} :
    ∀ {p : Program σ ι ε α} {s : σ},
      Along C R (fun r s => match r with | .ok a => Along C R S (f a) s | .error e => S (.error e) s) p s →
      Along C R S (p.bind f) s
  | ret _, _, h => h
  | raise _, _, h => h
  | step _ _, _, h => fun i hi => ⟨(h i hi).1, along_bind (h i hi).2⟩

/-- Sequencing, from what the first program comes to. -/
theorem along_seq {S : Except ε β → σ → Prop} {f : α → Program σ ι ε β} {p : Program σ ι ε α} {s : σ}
    (hp : Along C R Q p s) (hok : ∀ a s', Q (.ok a) s' → Along C R S (f a) s')
    (herror : ∀ e s', Q (.error e) s' → S (.error e) s') : Along C R S (p.bind f) s := by
  refine along_bind (along_mono (fun _ _ h => h) ?_ hp)
  rintro (e | a) s' hs'
  · exact herror e s' hs'
  · exact hok a s' hs'

/-- One of two programs. -/
theorem along_ite {Q : Except ε α → σ → Prop} {c : Prop} [Decidable c] {p q : Program σ ι ε α} {s : σ}
    (hp : Along C R Q p s) (hq : Along C R Q q s) : Along C R Q (if c then p else q) s := by
  split
  · exact hp
  · exact hq

/-- The rule of `try`. -/
theorem along_onRaise {handler : ε → Program σ ι ε α} :
    ∀ {p : Program σ ι ε α} {s : σ},
      Along C R (fun r s => match r with | .ok a => Q (.ok a) s | .error e => Along C R Q (handler e) s) p s →
      Along C R Q (p.onRaise handler) s
  | ret _, _, h => h
  | raise _, _, h => h
  | step _ _, _, h => fun i hi => ⟨(h i hi).1, along_onRaise (h i hi).2⟩

/-- An outcome is a result. -/
theorem along_outcome {Q : Except ε (Except ε α) → σ → Prop} :
    ∀ {p : Program σ ι ε α} {s : σ}, Along C R (fun r s => Q (.ok r) s) p s → Along C R Q p.outcome s
  | ret _, _, h => h
  | raise _, _, h => h
  | step _ _, _, h => fun i hi => ⟨(h i hi).1, along_outcome (h i hi).2⟩

/-- Going on with an outcome, which never raises. -/
theorem along_outcome_seq {S : Except ε β → σ → Prop} {f : Except ε α → Program σ ι ε β} {p : Program σ ι ε α}
    {s : σ} (hp : Along C R Q p s) (hf : ∀ r s', Q r s' → Along C R S (f r) s') :
    Along C R S (p.outcome.bind f) s :=
  along_seq (Q := fun r s => match r with | .ok r => Q r s | .error _ => False) (along_outcome hp) hf
    fun _ _ h => h.elim

theorem along_ofExcept {x : Except ε α} {s : σ} (h : Q x s) : Along C R Q (ofExcept x) s := by
  cases x <;> exact h

/-- Going on after a check. -/
theorem along_ofExcept_seq {S : Except ε β → σ → Prop} {f : α → Program σ ι ε β} {x : Except ε α} {s : σ}
    (herror : ∀ e, x = .error e → S (.error e) s) (hok : ∀ a, x = .ok a → Along C R S (f a) s) :
    Along C R S ((ofExcept x).bind f) s := by
  cases hx : x with
  | ok a => exact hok a hx
  | error e => exact herror e hx

/-- One step. -/
theorem along_call {act : ι → σ → Except ε α × σ} {s : σ}
    (h : ∀ i, C i s → R s (act i s).2 ∧ Q (act i s).1 (act i s).2) : Along C R Q (call act) s := by
  intro i hi
  obtain ⟨hR, hQ⟩ := h i hi
  refine ⟨hR, ?_⟩
  revert hQ
  cases (act i s).1 <;> exact id

/-- What every step keeps holds along the program. -/
theorem along_eachStep {S : σ → σ → Prop} {I : σ → Prop} (hS : ∀ s s', S s s' → I s → R s s' ∧ I s') :
    ∀ {p : Program σ ι ε α} {s : σ}, EachStep S p → I s → Along C R (fun _ s => I s) p s
  | ret _, _, _, h => h
  | raise _, _, _, h => h
  | step _ _, s, hp, h => fun i _ =>
    let ⟨hR, hI⟩ := hS _ _ (hp i s).1 h
    ⟨hR, along_eachStep hS (hp i s).2 hI⟩

/-- Two facts about one program. -/
theorem along_and {R' : σ → σ → Prop} {Q' : Except ε α → σ → Prop} : ∀ {p : Program σ ι ε α} {s : σ},
    Along C R Q p s → Along C R' Q' p s →
      Along C (fun s s' => R s s' ∧ R' s s') (fun r s => Q r s ∧ Q' r s) p s
  | ret _, _, h, h' => ⟨h, h'⟩
  | raise _, _, h, h' => ⟨h, h'⟩
  | step _ _, _, h, h' => fun i hi =>
    ⟨⟨(h i hi).1, (h' i hi).1⟩, along_and (h i hi).2 (h' i hi).2⟩

/-- The steps of a run relate its start to where it finishes. -/
theorem along_track (htrans : ∀ {a b c}, R a b → R b c → R a c) {s₀ : σ} :
    ∀ {p : Program σ ι ε α} {s : σ}, R s₀ s → Along C R Q p s → Along C R (fun r s' => Q r s' ∧ R s₀ s') p s
  | ret _, _, hs, h => ⟨h, hs⟩
  | raise _, _, hs, h => ⟨h, hs⟩
  | step _ _, _, hs, h => fun i hi => ⟨(h i hi).1, along_track htrans (htrans hs (h i hi).1) (h i hi).2⟩

/-- The rule of the loop: `I` before each round, given what is left. -/
theorem along_forEach {I : List γ → σ → Prop} {body : γ → Program σ ι ε Unit} {Q : Except ε Unit → σ → Prop}
    (hbody : ∀ x xs s, I (x :: xs) s →
      Along C R (fun r s => match r with | .ok _ => I xs s | .error e => Q (.error e) s) (body x) s)
    (hdone : ∀ s, I [] s → Q (.ok ()) s) : ∀ {xs : List γ} {s : σ}, I xs s → Along C R Q (forEach xs body) s
  | [], _, h => hdone _ h
  | x :: xs, s, h => by
    refine along_bind (along_mono (fun _ _ h => h) ?_ (hbody x xs s h))
    rintro (e | a) s' hs'
    · exact hs'
    · exact along_forEach hbody hdone hs'

/-- Where a run finishes. -/
theorem along_finishes {p : Program σ ι ε α} {s s' : σ} {inputs rest : List ι} {r : Except ε α} (h : Along C R Q p s)
    (hm : Meets C p s inputs) (hrun : p.exec s inputs = (some (r, rest), s')) : Q r s' := by
  have hQ := (along_exec h inputs hm).2 r rest (congrArg Prod.fst hrun)
  rw [hrun] at hQ
  exact hQ

/-- What every step leaves true is true wherever a run ends, finished or not. -/
theorem along_holds {I : σ → Prop} : ∀ {p : Program σ ι ε α} {s : σ}, Along C (fun _ s' => I s') Q p s → I s →
    ∀ inputs : List ι, Meets C p s inputs → I (p.exec s inputs).2
  | ret _, _, _, hs, _, _ => hs
  | raise _, _, _, hs, _, _ => hs
  | step _ _, _, _, hs, [], _ => hs
  | step _ _, _, h, _, i :: inputs, hm => along_holds (h i hm.1).2 (h i hm.1).1 inputs hm.2

/-- `Q` holds wherever a run of the program finishes. -/
def Finishes (Q : Except ε α → σ → Prop) (p : Program σ ι ε α) (s : σ) : Prop :=
  Along (fun _ _ => True) (fun _ _ => True) Q p s

theorem finishes_of_run {p : Program σ ι ε α} {s s' : σ} {inputs rest : List ι} {r : Except ε α}
    (h : Finishes Q p s) (hrun : p.exec s inputs = (some (r, rest), s')) : Q r s' :=
  along_finishes h (meets_true _ _ _) hrun

theorem finishes_always (hQ : ∀ r s, Q r s) : ∀ (p : Program σ ι ε α) (s : σ), Finishes Q p s
  | ret _, _ => hQ _ _
  | raise _, _ => hQ _ _
  | step _ _, _ => fun _ _ => ⟨trivial, finishes_always hQ _ _⟩

/-- Of a sequence that has a result, the last part decides. -/
theorem finishes_last {K : β → σ → Prop} {p : Program σ ι ε α} {f : α → Program σ ι ε β} {s : σ}
    (hf : ∀ a s', Finishes (fun r s => ∀ b, r = .ok b → K b s) (f a) s') :
    Finishes (fun r s => ∀ b, r = .ok b → K b s) (p.bind f) s :=
  along_seq (finishes_always (Q := fun _ _ => True) (fun _ _ => trivial) p s) (fun a s' _ => hf a s')
    fun _ _ _ _ hb => by cases hb

/-- The program leaves the state as it is, and results in `a` if it has a result. -/
def Finds (C : ι → σ → Prop) (R : σ → σ → Prop) (p : Program σ ι ε α) (a : α) (s : σ) : Prop :=
  Along C R (fun r s' => s' = s ∧ ∀ b, r = .ok b → b = a) p s

theorem finds_ret (a : α) (s : σ) : Finds C R (ret a : Program σ ι ε α) a s := ⟨rfl, fun _ hb => by cases hb; rfl⟩

/-- Sequencing after a program that only looks. -/
theorem finds_seq {S : Except ε β → σ → Prop} {f : α → Program σ ι ε β} {p : Program σ ι ε α} {a : α} {s : σ}
    (hp : Finds C R p a s) (hok : Along C R S (f a) s) (herror : ∀ e, S (.error e) s) : Along C R S (p.bind f) s := by
  refine along_seq hp (fun b s' h => ?_) fun e s' h => ?_
  · rw [h.2 b rfl, h.1]
    exact hok
  · rw [h.1]
    exact herror e

theorem finds_bind {f : α → Program σ ι ε β} {p : Program σ ι ε α} {a : α} {b : β} {s : σ} (hp : Finds C R p a s)
    (hf : Finds C R (f a) b s) : Finds C R (p.bind f) b s :=
  finds_seq hp hf fun _ => ⟨rfl, fun _ hb => by cases hb⟩

/-- A comprehension that only looks. -/
theorem finds_mapEach {xs : List γ} {f : γ → Program σ ι ε α} {g : γ → α} {s : σ}
    (h : ∀ x ∈ xs, Finds C R (f x) (g x) s) : Finds C R (mapEach xs f) (xs.map g) s := by
  induction xs with
  | nil => exact finds_ret [] s
  | cons x xs ih =>
    refine finds_bind (h x List.mem_cons_self) (finds_bind (ih fun y hy => h y (List.mem_cons_of_mem _ hy)) ?_)
    exact finds_ret _ s

/-- What a program may result in, added to what holds where it ends. -/
theorem along_yields {A : α → Prop} : ∀ {p : Program σ ι ε α} {s : σ}, Yields A p → Along C R Q p s →
    Along C R (fun r s => Q r s ∧ ∀ a, r = .ok a → A a) p s
  | ret _, _, hA, h => ⟨h, fun _ ha => by cases ha; exact hA⟩
  | raise _, _, _, h => ⟨h, fun _ ha => by cases ha⟩
  | step _ _, s, hA, h => fun i hi => ⟨(h i hi).1, along_yields (hA i s) (h i hi).2⟩

/-- What a program may result in, of a run. -/
theorem exec_yields {A : α → Prop} : ∀ {p : Program σ ι ε α} {s s' : σ} {inputs rest : List ι} {a : α}, Yields A p →
    p.exec s inputs = (some (.ok a, rest), s') → A a
  | ret _, _, _, _, _, _, hA, h => by
    cases h
    exact hA
  | raise _, _, _, _, _, _, _, h => by cases h
  | step _ _, _, _, [], _, _, _, h => by cases h
  | step act next, s, _, i :: inputs, _, _, hA, h => exec_yields (hA i s) h

/-- What the steps of a run respect relates each of its states to the last. -/
theorem along_reaches (hrefl : ∀ s, R s s) (htrans : ∀ {a b c}, R a b → R b c → R a c) :
    ∀ {p : Program σ ι ε α} {s : σ}, Along C R Q p s → ∀ inputs : List ι, Meets C p s inputs →
      ∀ t ∈ trace p s inputs, R t (p.exec s inputs).2
  | ret a, s, _, inputs, _, t, ht => by
    obtain rfl : t = s := by simpa [trace] using ht
    exact hrefl t
  | raise e, s, _, inputs, _, t, ht => by
    obtain rfl : t = s := by simpa [trace] using ht
    exact hrefl t
  | step act next, s, _, [], _, t, ht => by
    obtain rfl : t = s := by simpa [trace] using ht
    exact hrefl t
  | step act next, s, h, i :: inputs, hm, t, ht => by
    obtain ⟨hR, hnext⟩ := h i hm.1
    have hlast := along_reaches hrefl htrans hnext inputs hm.2
    rcases List.mem_cons.1 ht with rfl | ht
    · obtain ⟨rest, hrest⟩ := trace_ne_nil (next (act i t).1) (act i t).2 inputs
      exact htrans hR (hlast _ (by rw [hrest]; exact List.mem_cons_self))
    · exact hlast t ht

end Along

/-! ## Where one run finishes

`Along` speaks of all runs. `Ends K p s inputs` speaks of one: if it finishes, `K` holds
of what it came to, of the state, and of the inputs left over. -/

/-- `K` holds where the run finishes. -/
def Ends (K : Except ε α → σ → List ι → Prop) (p : Program σ ι ε α) (s : σ) (inputs : List ι) : Prop :=
  ∀ r rest s', p.exec s inputs = (some (r, rest), s') → K r s' rest

/-- Whether it does can be seen by running. -/
def decidableEnds {K : Except ε α → σ → List ι → Prop} (hK : ∀ r s rest, Decidable (K r s rest))
    {p : Program σ ι ε α} {s : σ} {inputs : List ι} : Decidable (Ends K p s inputs) :=
  match hrun : p.exec s inputs with
  | (some (r, rest), s') =>
    haveI := hK r s' rest
    decidable_of_iff (K r s' rest) ⟨fun h _ _ _ hr => by
      rw [hrun] at hr
      cases hr
      exact h, fun h => h r rest s' hrun⟩
  | (none, _) => isTrue fun _ _ _ hr => by
      rw [hrun] at hr
      cases hr

section Ends

variable {K K' : Except ε α → σ → List ι → Prop} {p : Program σ ι ε α} {s : σ} {inputs : List ι}

theorem ends_ret (a : α) (h : K (.ok a) s inputs) : Ends K (ret a) s inputs := by
  intro r rest s' hrun
  cases hrun
  exact h

theorem ends_raise (e : ε) (h : K (.error e) s inputs) : Ends K (raise e) s inputs := by
  intro r rest s' hrun
  cases hrun
  exact h

/-- The rule of sequencing. -/
theorem ends_bind {K : Except ε β → σ → List ι → Prop} {f : α → Program σ ι ε β}
    (h : Ends (fun r s rest => match r with | .ok a => Ends K (f a) s rest | .error e => K (.error e) s rest) p s inputs) :
    Ends K (p.bind f) s inputs := by
  intro r rest s' hrun
  rw [exec_bind] at hrun
  split at hrun
  · next a mid s₁ hp => exact h _ _ _ hp r rest s' hrun
  · next e mid s₁ hp =>
    cases hrun
    exact h _ _ _ hp
  · cases hrun

theorem exec_outcome : ∀ {p : Program σ ι ε α} {s s' : σ} {inputs rest : List ι} {r : Except ε (Except ε α)},
    p.outcome.exec s inputs = (some (r, rest), s') → ∃ r', r = .ok r' ∧ p.exec s inputs = (some (r', rest), s')
  | ret a, _, _, _, _, _, h => by
    cases h
    exact ⟨.ok a, rfl, rfl⟩
  | raise e, _, _, _, _, _, h => by
    cases h
    exact ⟨.error e, rfl, rfl⟩
  | step _ _, _, _, [], _, _, h => by cases h
  | step act next, s, _, i :: inputs, _, _, h => exec_outcome (p := next (act i s).1) h

/-- An outcome is a result. -/
theorem ends_outcome {K : Except ε (Except ε α) → σ → List ι → Prop} (h : Ends (fun r => K (.ok r)) p s inputs) :
    Ends K p.outcome s inputs := by
  intro r rest s' hrun
  obtain ⟨r', rfl, hp⟩ := exec_outcome hrun
  exact h r' rest s' hp

/-- Going on with an outcome. -/
theorem ends_outcome_bind {K : Except ε β → σ → List ι → Prop} {f : Except ε α → Program σ ι ε β}
    (h : Ends (fun r s rest => Ends K (f r) s rest) p s inputs) : Ends K (p.outcome.bind f) s inputs :=
  ends_bind (ends_outcome h)

/-- The rule of `try`. -/
theorem ends_onRaise {handler : ε → Program σ ι ε α}
    (h : Ends (fun r s rest => match r with | .ok a => K (.ok a) s rest | .error e => Ends K (handler e) s rest)
      p s inputs) : Ends K (p.onRaise handler) s inputs := by
  induction p generalizing s inputs with
  | ret a => exact ends_ret a (h _ _ _ rfl)
  | raise e => exact h _ _ _ rfl
  | step act next ih =>
    cases inputs with
    | nil => exact fun r rest s' hrun => by cases hrun
    | cons i inputs => exact fun r rest s' hrun => ih _ (fun r rest s' hnext => h r rest s' hnext) r rest s' hrun

end Ends

/-! ## What a program may raise -/

/-- Where its inputs meet `A`, the program raises errors of `E` only. -/
def RaisesOnly (A : ι → σ → Prop) (E : ε → Prop) : Program σ ι ε α → Prop
  | ret _ => True
  | raise e => E e
  | step act next => ∀ i s, A i s → RaisesOnly A E (next (act i s).1)

section RaisesOnly

variable {A : ι → σ → Prop} {E E' : ε → Prop}

/-- What a program may raise, of a run. -/
theorem exec_raises : ∀ {p : Program σ ι ε α} {s s' : σ} {inputs rest : List ι} {e : ε}, RaisesOnly A E p →
    Meets A p s inputs → p.exec s inputs = (some (.error e, rest), s') → E e
  | ret _, _, _, _, _, _, _, _, h => by cases h
  | raise _, _, _, _, _, _, hE, _, h => by
    cases h
    exact hE
  | step _ _, _, _, [], _, _, _, _, h => by cases h
  | step act next, s, _, i :: inputs, _, _, hE, hm, h => exec_raises (hE i s hm.1) hm.2 h

theorem raises_bind {f : α → Program σ ι ε β} (hf : ∀ a, RaisesOnly A E (f a)) :
    ∀ {p : Program σ ι ε α}, RaisesOnly A E p → RaisesOnly A E (p.bind f)
  | ret a, _ => hf a
  | raise _, h => h
  | step _ _, h => fun i s hi => raises_bind hf (h i s hi)

/-- Sequencing, given what the first program results in. -/
theorem raises_yields {Y : α → Prop} {f : α → Program σ ι ε β} (hf : ∀ a, Y a → RaisesOnly A E (f a)) :
    ∀ {p : Program σ ι ε α}, RaisesOnly A E p → Yields Y p → RaisesOnly A E (p.bind f)
  | ret a, _, hY => hf a hY
  | raise _, h, _ => h
  | step _ _, h, hY => fun i s hi => raises_yields hf (h i s hi) (hY i s)

theorem raises_onRaise {handler : ε → Program σ ι ε α} (hh : ∀ e, E' e → RaisesOnly A E (handler e)) :
    ∀ {p : Program σ ι ε α}, RaisesOnly A E' p → RaisesOnly A E (p.onRaise handler)
  | ret _, _ => trivial
  | raise e, h => hh e h
  | step _ _, h => fun i s hi => raises_onRaise hh (h i s hi)

/-- An outcome is never raised. -/
theorem raises_outcome : ∀ p : Program σ ι ε α, RaisesOnly A E p.outcome
  | ret _ => trivial
  | raise _ => trivial
  | step act next => fun i s _ => raises_outcome (next (act i s).1)

theorem raises_call {act : ι → σ → Except ε α × σ} (h : ∀ i s e, A i s → (act i s).1 = .error e → E e) :
    RaisesOnly A E (call act) := by
  intro i s hi
  cases hact : (act i s).1 with
  | ok a => trivial
  | error e => exact h i s e hi hact

/-- What a program may raise, added to what holds where it ends. -/
theorem along_raises {R : σ → σ → Prop} {Q : Except ε α → σ → Prop} : ∀ {p : Program σ ι ε α} {s : σ},
    RaisesOnly A E p → Along A R Q p s → Along A R (fun r s => Q r s ∧ ∀ e, r = .error e → E e) p s
  | ret _, _, _, h => ⟨h, fun _ he => by cases he⟩
  | raise _, _, hE, h => ⟨h, fun _ he => by cases he; exact hE⟩
  | step _ _, s, hE, h => fun i hi => ⟨(h i hi).1, along_raises (hE i s hi) (h i hi).2⟩

end RaisesOnly

/-! ## Following a discipline -/

end Program

/-- The discipline of threads that work on one state: in mode `m` a thread knows
`knows m`, and may make the steps `may m s s' m'`, which lead it to mode `m'`. -/
structure Discipline (σ μ : Type) where
  start : μ
  knows : μ → σ → Prop
  may : μ → σ → σ → μ → Prop

namespace Program

variable {σ ι ε α β γ μ : Type} {D : Discipline σ μ}

/-- From mode `m` on, the program obeys the discipline, and ends in `Q`. -/
def Follows (D : Discipline σ μ) (Q : Except ε α → μ → Prop) : Program σ ι ε α → μ → Prop
  | ret a, m => Q (.ok a) m
  | raise e, m => Q (.error e) m
  | step act next, m => ∀ i s, D.knows m s →
      ∃ m', D.may m s (act i s).2 m' ∧ D.knows m' (act i s).2 ∧ Follows D Q (next (act i s).1) m'

theorem follows_mono {Q Q' : Except ε α → μ → Prop} (hQ : ∀ r m, Q r m → Q' r m) :
    ∀ {p : Program σ ι ε α} {m : μ}, Follows D Q p m → Follows D Q' p m
  | ret _, _, h => hQ _ _ h
  | raise _, _, h => hQ _ _ h
  | step _ _, _, h => fun i s hs =>
      let ⟨m', hmay, hknows, hnext⟩ := h i s hs
      ⟨m', hmay, hknows, follows_mono hQ hnext⟩

theorem follows_bind {Q : Except ε β → μ → Prop} {f : α → Program σ ι ε β} :
    ∀ {p : Program σ ι ε α} {m : μ},
      Follows D (fun r m => match r with | .ok a => Follows D Q (f a) m | .error e => Q (.error e) m) p m →
      Follows D Q (p.bind f) m
  | ret _, _, h => h
  | raise _, _, h => h
  | step _ _, _, h => fun i s hs =>
      let ⟨m', hmay, hknows, hnext⟩ := h i s hs
      ⟨m', hmay, hknows, follows_bind hnext⟩

theorem follows_onRaise {Q : Except ε α → μ → Prop} {handler : ε → Program σ ι ε α} :
    ∀ {p : Program σ ι ε α} {m : μ},
      Follows D (fun r m => match r with | .ok a => Q (.ok a) m | .error e => Follows D Q (handler e) m) p m →
      Follows D Q (p.onRaise handler) m
  | ret _, _, h => h
  | raise _, _, h => h
  | step _ _, _, h => fun i s hs =>
      let ⟨m', hmay, hknows, hnext⟩ := h i s hs
      ⟨m', hmay, hknows, follows_onRaise hnext⟩

/-- The steps a program makes in a mode it never leaves. -/
def Keeps (D : Discipline σ μ) (p : Program σ ι ε α) (m : μ) : Prop := Follows D (fun _ m' => m' = m) p m

/-- Steps that a mode allows, and that never leave it. -/
theorem keeps_eachStep {R : σ → σ → Prop} {m : μ}
    (hR : ∀ s s', D.knows m s → R s s' → D.may m s s' m ∧ D.knows m s') :
    ∀ {p : Program σ ι ε α}, EachStep R p → Keeps D p m
  | ret _, _ => rfl
  | raise _, _ => rfl
  | step _ _, h => fun i s hs =>
      let ⟨hmay, hknows⟩ := hR _ _ hs (h i s).1
      ⟨m, hmay, hknows, keeps_eachStep hR (h i s).2⟩

/-- A step followed by a program that never leaves its mode. -/
theorem follows_bind_keeps {Q : Except ε β → μ → Prop} {p : Program σ ι ε α} {f : α → Program σ ι ε β} {m : μ}
    (hp : Keeps D p m) (hf : ∀ a, Follows D Q (f a) m) (he : ∀ e, Q (.error e) m) :
    Follows D Q (p.bind f) m := by
  refine follows_bind (follows_mono ?_ hp)
  rintro (e | a) m' rfl
  · exact he e
  · exact hf a

end Program

/-! ## Pools of programs -/

/-- Programs running side by side on one state; a thread keeps its number. -/
structure Pool (σ ι ε : Type) where
  state : σ
  threads : List (Program σ ι ε Unit)

/-- What can happen in a pool: a call starts a thread, a thread makes one step,
a thread is killed, or something else happens to the state. -/
inductive PoolEvent (κ ι η : Type) where
  | call (c : κ)
  | run (thread : Nat) (input : ι)
  | kill (thread : Nat)
  | other (e : η)

namespace Pool

open Program

variable {σ ι ε κ η μ : Type}

/-- One event; a thread that has finished, or was never started, makes no step. -/
def step (program : κ → Program σ ι ε Unit) (other : σ → η → σ) (p : Pool σ ι ε) :
    PoolEvent κ ι η → Pool σ ι ε
  | .call c => { p with threads := p.threads ++ [program c] }
  | .run k i =>
    match p.threads[k]? with
    | some (.step act next) =>
      { state := (act i p.state).2, threads := p.threads.set k (next (act i p.state).1) }
    | _ => p
  | .kill k => { p with threads := p.threads.set k (.ret ()) }
  | .other e => { p with state := other p.state e }

/-- The threads of a pool with their modes: each follows the discipline from its
mode on, and what it knows holds. -/
structure Obeys (D : Discipline σ μ) (G : σ → List μ → Prop) (p : Pool σ ι ε) (modes : List μ) : Prop where
  length : modes.length = p.threads.length
  follows : ∀ (k : Nat) (t : Program σ ι ε Unit) (m : μ), p.threads[k]? = some t → modes[k]? = some m → Follows D (fun _ _ => True) t m
  knows : ∀ m ∈ modes, D.knows m p.state
  holds : G p.state modes

/-- What the allowed steps keep holds after every run of the pool. -/
theorem pool_invariant {D : Discipline σ μ} {G : σ → List μ → Prop} {program : κ → Program σ ι ε Unit}
    {other : σ → η → σ}
    (hprogram : ∀ c, Follows D (fun _ _ => True) (program c) D.start)
    (hstart : ∀ s, D.knows D.start s)
    (hcall : ∀ s modes, G s modes → G s (modes ++ [D.start]))
    (hmay : ∀ s s' modes k m m', G s modes → (∀ n ∈ modes, D.knows n s) → modes[k]? = some m →
      D.may m s s' m' → G s' (modes.set k m') ∧ ∀ n, D.knows n s → D.knows n s')
    (hother : ∀ s e modes, G s modes → G (other s e) modes ∧ ∀ n, D.knows n s → D.knows n (other s e))
    (run : List (PoolEvent κ ι η)) (p : Pool σ ι ε) (modes : List μ) (h : Obeys D G p modes) :
    ∃ modes', Obeys D G (after (step program other) p run) modes' := by
  refine after_invariant (P := fun p => ∃ modes, Obeys D G p modes) ?_ run p ⟨modes, h⟩
  rintro p e ⟨modes, hlen, hfollows, hknows, hG⟩
  cases e with
  -- the new thread starts in the starting mode
  | call c =>
    refine ⟨modes ++ [D.start], by simp [step, hlen], ?_, ?_, hcall _ _ hG⟩
    · intro k t m ht hm
      simp only [step, List.getElem?_append] at ht
      rw [List.getElem?_append, hlen] at hm
      split at ht
      · next hk =>
        rw [if_pos hk] at hm
        exact hfollows k t m ht hm
      · next hk =>
        rw [if_neg hk] at hm
        obtain ⟨-, rfl⟩ := List.getElem?_eq_some_iff.1 ht
        obtain ⟨-, rfl⟩ := List.getElem?_eq_some_iff.1 hm
        simpa using hprogram c
    · intro m hm
      rcases List.mem_append.1 hm with hm | hm
      · exact hknows m hm
      · rw [List.mem_singleton.1 hm]
        exact hstart _
  | run k i =>
    -- a thread that is not there, or has ended, does nothing
    have idle : ∀ p' : Pool σ ι ε, p' = p → ∃ modes, Obeys D G p' modes := by
      rintro _ rfl
      exact ⟨modes, hlen, hfollows, hknows, hG⟩
    cases ht : p.threads[k]? with
    | none => exact idle _ (by simp [step, ht])
    | some t =>
      cases t with
      | ret a => exact idle _ (by simp [step, ht])
      | raise e => exact idle _ (by simp [step, ht])
      | step act next =>
        obtain ⟨hk, -⟩ := List.getElem?_eq_some_iff.1 ht
        obtain ⟨m, hm⟩ : ∃ m, modes[k]? = some m := ⟨_, List.getElem?_eq_getElem (hlen ▸ hk)⟩
        have hmk := hknows m (List.mem_of_getElem? hm)
        -- thread `k` takes a step its mode allows; what the others know stays known
        obtain ⟨m', hstep, hknows', hnext⟩ := hfollows k _ m ht hm i p.state hmk
        obtain ⟨hG', hstable⟩ := hmay _ _ modes k m m' hG hknows hm hstep
        have hp' : Pool.step program other p (.run k i) =
            { state := (act i p.state).2, threads := p.threads.set k (next (act i p.state).1) } := by
          simp [step, ht]
        rw [hp']
        refine ⟨modes.set k m', by simp [hlen], ?_, ?_, hG'⟩
        · intro k' t' n ht' hn
          by_cases hkk : k' = k
          · subst hkk
            simp only [List.getElem?_set_self hk, Option.some.injEq] at ht'
            rw [List.getElem?_set_self (hlen ▸ hk), Option.some.injEq] at hn
            exact ht' ▸ hn ▸ hnext
          · rw [List.getElem?_set_ne (Ne.symm hkk)] at ht' hn
            exact hfollows k' t' n ht' hn
        · intro n hn
          rcases List.mem_or_eq_of_mem_set hn with hn | rfl
          · exact hstable n (hknows n hn)
          · exact hknows'
  -- a killed thread runs nothing, which follows any discipline
  | kill k =>
    refine ⟨modes, by simp [step, hlen], ?_, hknows, hG⟩
    intro k' t m ht hm
    simp only [step, List.getElem?_set] at ht
    split at ht
    · split at ht
      · cases ht
        trivial
      · cases ht
    · exact hfollows k' t m ht hm
  | other e =>
    obtain ⟨hG', hstable⟩ := hother _ e modes hG
    exact ⟨modes, hlen, hfollows, fun m hm => hstable m (hknows m hm), hG'⟩

end Pool

end SafeFsOps
