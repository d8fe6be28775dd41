import SafeFsOps.Programs

/-!
# Programs that are interfered with

Between two steps of a program others may do what they like, as far as `E` goes.
What a program can count on is then what it has seen: a `History` holds all states there
were, and which of them the program itself led to. `Amid C E R Q p h` says of `p`, taken up
after `h`: as long as its inputs meet `C`, and whatever steps of `E` others put in, each of
its own steps is one that `R` allows after what went before, and where it ends `Q` holds of
the whole history.

> `amid_play`: `Amid` speaks about every run, whichever steps others put in where.
> `crowd_amid`: any number of such programs may run side by side, if each makes only steps
> that the others put up with.
-/

namespace SafeFsOps

/-! ## Histories -/

/-- The states of a run up to now. -/
inductive History (σ : Type) where
  | start (s : σ)
  /-- Somebody else made a step. -/
  | other (h : History σ) (s : σ)
  /-- The program made a step. -/
  | own (h : History σ) (s : σ)

namespace History

variable {σ : Type} {E E' R R' : History σ → σ → Prop} {h h₀ h₁ h₂ : History σ} {s : σ}

/-- The state it has come to. -/
def now : History σ → σ
  | start s => s
  | other _ s => s
  | own _ s => s

/-- The states there were, the last one first. -/
def states : History σ → List σ
  | start s => [s]
  | other h s => s :: h.states
  | own h s => s :: h.states

@[simp] theorem now_start : (start s).now = s := rfl

@[simp] theorem now_other : (other h s).now = s := rfl

@[simp] theorem now_own : (own h s).now = s := rfl

theorem now_mem : ∀ h : History σ, h.now ∈ h.states
  | start _ => List.mem_cons_self
  | other _ _ => List.mem_cons_self
  | own _ _ => List.mem_cons_self

/-- A later history: others made steps of `E`, the program those of `R`. -/
inductive Leads (E R : History σ → σ → Prop) (h₀ : History σ) : History σ → Prop
  | refl : Leads E R h₀ h₀
  | other {h : History σ} {s : σ} (before : Leads E R h₀ h) (step : E h s) : Leads E R h₀ (h.other s)
  | own {h : History σ} {s : σ} (before : Leads E R h₀ h) (step : R h s) : Leads E R h₀ (h.own s)

/-- A later history, whatever happened since. -/
abbrev Before (h₀ h : History σ) : Prop := Leads (fun _ _ => True) (fun _ _ => True) h₀ h

/-- A later history in which only others did anything. -/
abbrev Disturbed (E : History σ → σ → Prop) (h₀ h : History σ) : Prop := Leads E (fun _ _ => False) h₀ h

theorem Leads.trans (hfirst : Leads E R h₀ h₁) (hthen : Leads E R h₁ h₂) : Leads E R h₀ h₂ := by
  induction hthen with
  | refl => exact hfirst
  | other _ hstep ih => exact .other ih hstep
  | own _ hstep ih => exact .own ih hstep

theorem Leads.mono (hE : ∀ h s, E h s → E' h s) (hR : ∀ h s, R h s → R' h s) (hlead : Leads E R h₀ h) :
    Leads E' R' h₀ h := by
  induction hlead with
  | refl => exact .refl
  | other _ hstep ih => exact .other ih (hE _ _ hstep)
  | own _ hstep ih => exact .own ih (hR _ _ hstep)

/-- What others did, as part of what was done. -/
theorem Leads.of_disturbed (hlead : Disturbed E h₀ h) : Leads E R h₀ h := hlead.mono (fun _ _ h => h) fun _ _ h => h.elim

/-- No state is forgotten. -/
theorem Leads.states_subset (hlead : Leads E R h₀ h) : h₀.states ⊆ h.states := by
  induction hlead with
  | refl => exact List.Subset.refl _
  | other _ _ ih => exact fun s hs => List.mem_cons_of_mem _ (ih hs)
  | own _ _ ih => exact fun s hs => List.mem_cons_of_mem _ (ih hs)

/-- A moment of the run is one of its states. -/
theorem Leads.now_mem_states (hlead : Leads E R h₀ h) : h₀.now ∈ h.states := hlead.states_subset h₀.now_mem

/-- What every step keeps is kept. -/
theorem Leads.keeps {P : History σ → Prop} (hother : ∀ h s, P h → E h s → P (h.other s))
    (hown : ∀ h s, P h → R h s → P (h.own s)) (hlead : Leads E R h₀ h) (h₀P : P h₀) : P h := by
  induction hlead with
  | refl => exact h₀P
  | other _ hstep ih => exact hother _ _ ih hstep
  | own _ hstep ih => exact hown _ _ ih hstep

/-- A step the program made was made before this began, or is one of those made since. -/
theorem Leads.own_before {g : History σ} (hlead : Leads E R h₀ h) (hg : Before (g.own s) h) :
    Before (g.own s) h₀ ∨ R g s := by
  induction hlead with
  | refl => exact Or.inl hg
  | other _ _ ih =>
    cases hg with
    | other hg _ => exact ih hg
  | own _ hstep ih =>
    cases hg with
    | refl => exact Or.inr hstep
    | own hg _ => exact ih hg

/-- What lies between the beginning and now. -/
theorem Leads.split {s : σ} {g : History σ} (hlead : Leads E R (start s) h) (hg : Before g h) :
    Leads E R (start s) g ∧ Leads E R g h := by
  induction hlead with
  | refl =>
    cases hg
    exact ⟨.refl, .refl⟩
  | other hlead hstep ih =>
    cases hg with
    | refl => exact ⟨.other hlead hstep, .refl⟩
    | other hg _ => exact ⟨(ih hg).1, .other (ih hg).2 hstep⟩
  | own hlead hstep ih =>
    cases hg with
    | refl => exact ⟨.own hlead hstep, .refl⟩
    | own hg _ => exact ⟨(ih hg).1, .own (ih hg).2 hstep⟩

/-- A later history is longer. -/
theorem Leads.eq_or_longer (hlead : Leads E R h₀ h) : h = h₀ ∨ h₀.states.length < h.states.length := by
  induction hlead with
  | refl => exact Or.inl rfl
  | other _ _ ih | own _ _ ih =>
    refine Or.inr (Nat.lt_succ_of_le ?_)
    rcases ih with rfl | hlonger
    · exact Nat.le_refl _
    · exact Nat.le_of_lt hlonger

theorem Before.antisymm (hle : Before h₀ h) (hge : Before h h₀) : h = h₀ := by
  rcases hle.eq_or_longer with heq | hlonger
  · exact heq
  · rcases hge.eq_or_longer with heq | hlonger'
    · exact heq.symm
    · exact absurd hlonger' (Nat.lt_asymm hlonger)

/-- What lies between two moments. -/
theorem Leads.between {g : History σ} (hlead : Leads E R h₀ h) (h₀g : Before h₀ g) (hg : Before g h) :
    Leads E R h₀ g := by
  induction hlead with
  | refl =>
    obtain rfl := h₀g.antisymm hg
    exact .refl
  | other hlead hstep ih =>
    cases hg with
    | refl => exact .other hlead hstep
    | other hg _ => exact ih hg
  | own hlead hstep ih =>
    cases hg with
    | refl => exact .own hlead hstep
    | own hg _ => exact ih hg

end History

open History

namespace Program

variable {σ ι ε α β γ : Type}

/-! ## What holds amid interference -/

/-- Taken up after `h`, amid steps of `E`, the program makes steps that `R` allows, and ends in `Q`. -/
def Amid (C : ι → σ → Prop) (E R : History σ → σ → Prop) (Q : Except ε α → History σ → Prop) :
    Program σ ι ε α → History σ → Prop
  | ret a, h => Q (.ok a) h
  | raise e, h => Q (.error e) h
  | step act next, h => ∀ h', Disturbed E h h' → ∀ i, C i h'.now →
      R h' (act i h'.now).2 ∧ Amid C E R Q (next (act i h'.now).1) (h'.own (act i h'.now).2)

section Amid

variable {C : ι → σ → Prop} {E R R' : History σ → σ → Prop} {Q : Except ε α → History σ → Prop} {h : History σ}

/-- The rule of consequence. -/
theorem amid_mono {Q' : Except ε α → History σ → Prop} (hR : ∀ h s, R h s → R' h s) (hQ : ∀ r h, Q r h → Q' r h) :
    ∀ {p : Program σ ι ε α} {h : History σ}, Amid C E R Q p h → Amid C E R' Q' p h
  | ret _, _, hp => hQ _ _ hp
  | raise _, _, hp => hQ _ _ hp
  | step _ _, _, hp => fun h' hh' i hi => ⟨hR _ _ (hp h' hh' i hi).1, amid_mono hR hQ (hp h' hh' i hi).2⟩

/-- The rule of conjunction. -/
theorem amid_forall {τ : Type} [Nonempty τ] {Q : τ → Except ε α → History σ → Prop} :
    ∀ {p : Program σ ι ε α} {h : History σ}, (∀ t, Amid C E R (Q t) p h) → Amid C E R (fun r h => ∀ t, Q t r h) p h
  | ret _, _, hp => hp
  | raise _, _, hp => hp
  | step _ _, _, hp => fun h' hh' i hi =>
    ⟨(hp (Classical.arbitrary τ) h' hh' i hi).1, amid_forall fun t => (hp t h' hh' i hi).2⟩

/-- The rule of sequencing. -/
theorem amid_bind {S : Except ε β → History σ → Prop} {f : α → Program σ ι ε β} :
    ∀ {p : Program σ ι ε α} {h : History σ},
      Amid C E R (fun r h => match r with | .ok a => Amid C E R S (f a) h | .error e => S (.error e) h) p h →
      Amid C E R S (p.bind f) h
  | ret _, _, hp => hp
  | raise _, _, hp => hp
  | step _ _, _, hp => fun h' hh' i hi => ⟨(hp h' hh' i hi).1, amid_bind (hp h' hh' i hi).2⟩

/-- Sequencing, from what the first program comes to. -/
theorem amid_seq {S : Except ε β → History σ → Prop} {f : α → Program σ ι ε β} {p : Program σ ι ε α}
    (hp : Amid C E R Q p h) (hok : ∀ a h', Q (.ok a) h' → Amid C E R S (f a) h')
    (herror : ∀ e h', Q (.error e) h' → S (.error e) h') : Amid C E R S (p.bind f) h := by
  refine amid_bind (amid_mono (fun _ _ h => h) ?_ hp)
  rintro (e | a) h' hQ
  · exact herror e h' hQ
  · exact hok a h' hQ

/-- The rule of `try`. -/
theorem amid_onRaise {handler : ε → Program σ ι ε α} :
    ∀ {p : Program σ ι ε α} {h : History σ},
      Amid C E R (fun r h => match r with | .ok a => Q (.ok a) h | .error e => Amid C E R Q (handler e) h) p h →
      Amid C E R Q (p.onRaise handler) h
  | ret _, _, hp => hp
  | raise _, _, hp => hp
  | step _ _, _, hp => fun h' hh' i hi => ⟨(hp h' hh' i hi).1, amid_onRaise (hp h' hh' i hi).2⟩

/-- An outcome is a result. -/
theorem amid_outcome {Q : Except ε (Except ε α) → History σ → Prop} :
    ∀ {p : Program σ ι ε α} {h : History σ}, Amid C E R (fun r h => Q (.ok r) h) p h → Amid C E R Q p.outcome h
  | ret _, _, hp => hp
  | raise _, _, hp => hp
  | step _ _, _, hp => fun h' hh' i hi => ⟨(hp h' hh' i hi).1, amid_outcome (hp h' hh' i hi).2⟩

/-- Going on with an outcome, which never raises. -/
theorem amid_outcome_seq {S : Except ε β → History σ → Prop} {f : Except ε α → Program σ ι ε β}
    {p : Program σ ι ε α} (hp : Amid C E R Q p h) (hf : ∀ r h', Q r h' → Amid C E R S (f r) h') :
    Amid C E R S (p.outcome.bind f) h :=
  amid_seq (Q := fun r h => match r with | .ok r => Q r h | .error _ => False) (amid_outcome hp) hf
    fun _ _ hno => hno.elim

theorem amid_ofExcept {x : Except ε α} (hx : Q x h) : Amid C E R Q (ofExcept x : Program σ ι ε α) h := by
  cases x <;> exact hx

/-- What has raised has returned nothing. -/
theorem not_returned {S : α → Prop} {e : ε} (a : α) (h : (Except.error e : Except ε α) = .ok a) : S a := by cases h

/-- One step. -/
theorem amid_call {act : ι → σ → Except ε α × σ}
    (hact : ∀ h', Disturbed E h h' → ∀ i, C i h'.now →
      R h' (act i h'.now).2 ∧ Q (act i h'.now).1 (h'.own (act i h'.now).2)) : Amid C E R Q (call act) h := by
  intro h' hh' i hi
  obtain ⟨hR, hQ⟩ := hact h' hh' i hi
  refine ⟨hR, ?_⟩
  revert hQ
  cases (act i h'.now).1 <;> exact id

/-- What every step leaves true, others' and its own, holds where it ends. -/
theorem amid_keeps {P : History σ → Prop} (hother : ∀ h s, P h → E h s → P (h.other s))
    (hown : ∀ h s, P h → R h s → P (h.own s)) : ∀ {p : Program σ ι ε α} {h : History σ}, P h → Amid C E R Q p h →
      Amid C E R (fun r h => Q r h ∧ P h) p h
  | ret _, _, hP, hp => ⟨hp, hP⟩
  | raise _, _, hP, hp => ⟨hp, hP⟩
  | step _ _, _, hP, hp => fun h' hh' i hi =>
    have hP' : P h' := hh'.keeps hother (fun _ _ _ hno => hno.elim) hP
    ⟨(hp h' hh' i hi).1, amid_keeps hother hown (hown _ _ hP' (hp h' hh' i hi).1) (hp h' hh' i hi).2⟩

/-- Sequencing, where each step of the first program keeps `P`. -/
theorem amid_keeping_seq {P : History σ → Prop} {S : Except ε β → History σ → Prop} {f : α → Program σ ι ε β}
    {p : Program σ ι ε α} (hother : ∀ h s, P h → E h s → P (h.other s)) (hown : ∀ h s, P h → R h s → P (h.own s))
    (hR : ∀ h s, R h s → R' h s) (hp : Amid C E R Q p h) (hP : P h)
    (hf : ∀ a h', P h' → Q (.ok a) h' → Amid C E R' S (f a) h')
    (herror : ∀ e h', P h' → Q (.error e) h' → S (.error e) h') : Amid C E R' S (p.bind f) h :=
  amid_seq (amid_mono hR (fun _ _ hQ => hQ) (amid_keeps hother hown hP hp)) (fun a h' hQ => hf a h' hQ.2 hQ.1)
    fun e h' hQ => herror e h' hQ.2 hQ.1

/-- Where a program ends, its history is one of the steps allowed. -/
theorem amid_leads {p : Program σ ι ε α} (hp : Amid C E R Q p h) :
    Amid C E R (fun r h' => Q r h' ∧ Leads E R h h') p h :=
  amid_keeps (P := fun h' => Leads E R h h') (fun _ _ hP hstep => .other hP hstep)
    (fun _ _ hP hstep => .own hP hstep) .refl hp

/-- A program that only makes steps of one kind. -/
theorem amid_eachStep {S : σ → σ → Prop} (hS : ∀ h s, S h.now s → R h s) : ∀ {p : Program σ ι ε α} {h : History σ},
    EachStep S p → Amid C E R (fun _ h' => Leads E (fun h s => S h.now s) h h') p h
  | ret _, _, _ => .refl
  | raise _, _, _ => .refl
  | step _ _, _, hp => fun h' hh' i _ =>
    have hlead := Leads.own hh'.of_disturbed (hp i h'.now).1
    ⟨hS _ _ (hp i h'.now).1, amid_mono (fun _ _ h => h) (fun _ _ h => hlead.trans h) (amid_eachStep hS (hp i h'.now).2)⟩

end Amid

/-! ## Runs -/

/-- What a program that has ended came to. -/
def result? : Program σ ι ε α → Option (Except ε α)
  | ret a => some (.ok a)
  | raise e => some (.error e)
  | step _ _ => none

/-- What happens next in a run: the program makes a step on an input, or somebody else makes one. -/
inductive Move (ι σ : Type) where
  | own (i : ι)
  | other (s : σ)

/-- Play the moves there are: what is left of the program, and what it has seen. A program
that has ended sees nothing more. -/
def play : Program σ ι ε α → History σ → List (Move ι σ) → Program σ ι ε α × History σ
  | ret a, h, _ => (ret a, h)
  | raise e, h, _ => (raise e, h)
  | step act next, h, [] => (step act next, h)
  | step act next, h, .own i :: moves => play (next (act i h.now).1) (h.own (act i h.now).2) moves
  | step act next, h, .other s :: moves => play (step act next) (h.other s) moves

/-- The inputs meet `C`, and the steps of others are those of `E`. -/
def Fair (C : ι → σ → Prop) (E : History σ → σ → Prop) : Program σ ι ε α → History σ → List (Move ι σ) → Prop
  | ret _, _, _ => True
  | raise _, _, _ => True
  | step _ _, _, [] => True
  | step act next, h, .own i :: moves =>
    C i h.now ∧ Fair C E (next (act i h.now).1) (h.own (act i h.now).2) moves
  | step act next, h, .other s :: moves => E h s ∧ Fair C E (step act next) (h.other s) moves

section Runs

variable {C : ι → σ → Prop} {E R : History σ → σ → Prop} {Q : Except ε α → History σ → Prop}

/-- Others' steps do not come in the way of what holds. -/
theorem amid_other {act : ι → σ → β × σ} {next : β → Program σ ι ε α} {h : History σ} {s : σ}
    (hp : Amid C E R Q (step act next) h) (hs : E h s) : Amid C E R Q (step act next) (h.other s) :=
  fun h' hh' => hp h' ((Leads.other .refl hs).trans hh')

/-- `Amid` speaks about every run: what is left still keeps to it, and so did what was done. -/
theorem amid_play {moves : List (Move ι σ)} : ∀ {p : Program σ ι ε α} {h : History σ}, Amid C E R Q p h →
    Fair C E p h moves → Amid C E R Q (p.play h moves).1 (p.play h moves).2 ∧ Leads E R h (p.play h moves).2 := by
  induction moves with
  | nil =>
    intro p h hp _
    cases p <;> exact ⟨hp, .refl⟩
  | cons move moves ih =>
    intro p h hp hfair
    cases p with
    | ret a => exact ⟨hp, .refl⟩
    | raise e => exact ⟨hp, .refl⟩
    | step act next =>
      cases move with
      | own i =>
        obtain ⟨hR, hnext⟩ := hp h .refl i hfair.1
        obtain ⟨hend, hlead⟩ := ih hnext hfair.2
        exact ⟨hend, (Leads.own .refl hR).trans hlead⟩
      | other s =>
        obtain ⟨hend, hlead⟩ := ih (amid_other hp hfair.1) hfair.2
        exact ⟨hend, (Leads.other .refl hfair.1).trans hlead⟩

/-- What a program came to is what `Amid` says it comes to. -/
theorem amid_result {p : Program σ ι ε α} {h : History σ} {r : Except ε α} (hp : Amid C E R Q p h)
    (hr : p.result? = some r) : Q r h := by
  cases p with
  | ret a =>
    cases hr
    exact hp
  | raise e =>
    cases hr
    exact hp
  | step act next => cases hr

/-- A run is fair in its parts. -/
theorem fair_append {moves more : List (Move ι σ)} : ∀ (p : Program σ ι ε α) (h : History σ),
    Fair C E p h moves → Fair C E (play p h moves).1 (play p h moves).2 more → Fair C E p h (moves ++ more) := by
  induction moves with
  | nil =>
    intro p h _ hmore
    cases p <;> exact hmore
  | cons m moves ih =>
    intro p h hmoves hmore
    cases p with
    | ret a => exact trivial
    | raise e => exact trivial
    | step act next =>
      cases m with
      | own i => exact ⟨hmoves.1, ih _ _ hmoves.2 hmore⟩
      | other s => exact ⟨hmoves.1, ih _ _ hmoves.2 hmore⟩

theorem fair_other {p : Program σ ι ε α} {h : History σ} {s : σ} {moves : List (Move ι σ)} (hs : E h s)
    (hp : Fair C E p (h.other s) moves) : Fair C E p h (.other s :: moves) := by
  cases p with
  | ret a => exact trivial
  | raise e => exact trivial
  | step act next => exact ⟨hs, hp⟩

/-- Where nobody else does anything, every run is fair. -/
theorem fair_alone {inputs : List ι} : ∀ (p : Program σ ι ε α) (h : History σ),
    Fair (fun _ _ => True) E p h (inputs.map .own) := by
  induction inputs with
  | nil =>
    intro p h
    cases p <;> exact trivial
  | cons i inputs ih =>
    intro p h
    cases p with
    | ret a => exact trivial
    | raise e => exact trivial
    | step act next => exact ⟨trivial, ih _ _⟩

/-- Steps of others, as moves. -/
theorem play_disturbed {act : ι → σ → β × σ} {next : β → Program σ ι ε α} {h h' : History σ} (hlead : Disturbed E h h') :
    ∃ others : List (Move ι σ), ∀ moves, (step act next).play h (others ++ moves) = (step act next).play h' moves := by
  induction hlead with
  | refl => exact ⟨[], fun _ => rfl⟩
  | @other h₁ s _ _ ih =>
    obtain ⟨others, hplay⟩ := ih
    refine ⟨others ++ [.other s], fun moves => ?_⟩
    rw [List.append_assoc, hplay]
    rfl
  | own _ hno _ => exact hno.elim

/-- Where a program ends, a run of it ends. -/
theorem amid_played : ∀ (p : Program σ ι ε α) (h : History σ),
    Amid C E (fun _ _ => True) (fun r h' => ∃ moves, p.play h moves = (ofExcept r, h')) p h
  | ret a, h => ⟨[], rfl⟩
  | raise e, h => ⟨[], rfl⟩
  | step act next, h => fun h' hh' i _ => by
    refine ⟨trivial, amid_mono (fun _ _ h => h) (fun r h'' => ?_) (amid_played _ _)⟩
    rintro ⟨moves, hplay⟩
    obtain ⟨others, hothers⟩ := @play_disturbed _ _ _ _ _ _ act next _ _ hh'
    refine ⟨others ++ .own i :: moves, ?_⟩
    rw [hothers]
    exact hplay

/-- Where others may do anything, a run is fair if its inputs are. -/
theorem fair_inputs {C : ι → σ → Prop} {moves : List (Move ι σ)} (hC : ∀ i, .own i ∈ moves → ∀ s, C i s) :
    ∀ (p : Program σ ι ε α) (h : History σ), Fair C (fun _ _ => True) p h moves := by
  induction moves with
  | nil =>
    intro p h
    cases p <;> exact trivial
  | cons move moves ih =>
    intro p h
    have hrest : ∀ i, .own i ∈ moves → ∀ s, C i s := fun i hi => hC i (List.mem_cons_of_mem _ hi)
    cases p with
    | ret a => exact trivial
    | raise e => exact trivial
    | step act next =>
      cases move with
      | own i => exact ⟨hC i List.mem_cons_self _, ih hrest _ _⟩
      | other s => exact ⟨trivial, ih hrest _ _⟩

end Runs

end Program

/-! ## Crowds -/

/-- A call under way: what is left of it, and what it has seen. -/
structure Member (κ σ ι ε α : Type) where
  call : κ
  seen : History σ
  rest : Program σ ι ε α

/-- Calls side by side on one state. -/
structure Crowd (κ σ ι ε α : Type) where
  now : σ
  members : List (Member κ σ ι ε α)

/-- What can happen in a crowd: a call starts, one makes a step, or the state changes from outside. -/
inductive CrowdEvent (κ ι σ : Type) where
  | call (c : κ)
  | run (k : Nat) (i : ι)
  | other (s : σ)

namespace Crowd

open Program

variable {κ σ ι ε α : Type}

/-- The state changes, and everybody sees it. -/
def sees (s : σ) (ms : List (Member κ σ ι ε α)) : List (Member κ σ ι ε α) :=
  ms.map fun m => { m with seen := m.seen.other s }

/-- One event; a call that has ended, or was never started, makes no step. -/
def step (program : Nat → κ → Program σ ι ε α) (p : Crowd κ σ ι ε α) : CrowdEvent κ ι σ → Crowd κ σ ι ε α
  | .call c => { p with members := p.members ++ [⟨c, start p.now, program p.members.length c⟩] }
  | .run k i =>
    match p.members[k]? with
    | some ⟨c, h, .step act next⟩ =>
      { now := (act i p.now).2
        members := (sees (act i p.now).2 p.members).set k
          ⟨c, h.own (act i p.now).2, next (act i p.now).1⟩ }
    | _ => p
  | .other s => { now := s, members := sees s p.members }

/-- The calls there were, with what each has seen. -/
def seen (p : Crowd κ σ ι ε α) : List (κ × History σ) := p.members.map fun m => (m.call, m.seen)

/-- Everybody sees what the call at `k` has done. -/
def noted (k : Nat) (s : σ) (hs : List (κ × History σ)) : List (κ × History σ) :=
  hs.mapIdx fun j m => (m.1, if j = k then m.2.own s else m.2.other s)

/-- What the calls of a crowd promise, what they put up with, and what they keep together. -/
structure Terms (κ σ ι ε α : Type) where
  calls : κ → Prop
  inputs : Nat → κ → ι → σ → Prop
  outside : List (κ × History σ) → σ → σ → Prop
  rely : Nat → κ → History σ → σ → Prop
  may : Nat → κ → History σ → σ → Prop
  ends : Nat → κ → Except ε α → History σ → Prop
  keeps : List (κ × History σ) → σ → Prop

/-- An event is one the terms speak about. -/
def Terms.Fair (T : Terms κ σ ι ε α) (p : Crowd κ σ ι ε α) : CrowdEvent κ ι σ → Prop
  | .call c => T.calls c
  | .run k i => ∀ m, p.members[k]? = some m → T.inputs k m.call i p.now
  | .other s => T.outside p.seen p.now s

/-- Every call keeps to the terms, and has seen everything since it was made. -/
structure Agrees (T : Terms κ σ ι ε α) (p : Crowd κ σ ι ε α) : Prop where
  keeps : T.keeps p.seen p.now
  amid : ∀ (k : Nat) (m : Member κ σ ι ε α), p.members[k]? = some m →
    ∃ h, Disturbed (T.rely k m.call) h m.seen ∧
      Amid (T.inputs k m.call) (T.rely k m.call) (T.may k m.call) (T.ends k m.call) m.rest h
  leads : ∀ (k : Nat) (m : Member κ σ ι ε α), p.members[k]? = some m →
    ∃ s, Leads (T.rely k m.call) (T.may k m.call) (start s) m.seen
  now : ∀ (k : Nat) (m : Member κ σ ι ε α), p.members[k]? = some m → m.seen.now = p.now

/-- The terms fit together: each call keeps to them alone, and no step breaks them for others. -/
structure Terms.Fit (T : Terms κ σ ι ε α) (program : Nat → κ → Program σ ι ε α) : Prop where
  call : ∀ hs s c, T.keeps hs s → T.calls c → T.keeps (hs ++ [(c, start s)]) s ∧
    Amid (T.inputs hs.length c) (T.rely hs.length c) (T.may hs.length c) (T.ends hs.length c) (program hs.length c) (start s)
  run : ∀ hs s s' k c h, T.keeps hs s → (∀ m ∈ hs, m.2.now = s) → hs[k]? = some (c, h) → T.may k c h s' →
    T.keeps (noted k s' hs) s' ∧ ∀ (j : Nat) (m : κ × History σ), hs[j]? = some m → j ≠ k → T.rely j m.1 m.2 s'
  other : ∀ hs s s', T.keeps hs s → (∀ m ∈ hs, m.2.now = s) → T.outside hs s s' →
    T.keeps (hs.map fun m => (m.1, m.2.other s')) s' ∧
      ∀ (j : Nat) (m : κ × History σ), hs[j]? = some m → T.rely j m.1 m.2 s'

variable {T : Terms κ σ ι ε α} {program : Nat → κ → Program σ ι ε α} {p : Crowd κ σ ι ε α}

theorem seen_getElem {k : Nat} {m : Member κ σ ι ε α} (h : p.members[k]? = some m) :
    p.seen[k]? = some (m.call, m.seen) := by
  rw [seen, List.getElem?_map, h]
  rfl

theorem Agrees.seen_now (h : Agrees T p) : ∀ m ∈ p.seen, m.2.now = p.now := by
  intro m hm
  obtain ⟨m', hm', rfl⟩ := List.mem_map.1 hm
  obtain ⟨k, hk⟩ := List.mem_iff_getElem?.1 hm'
  exact h.now k m' hk

theorem sees_getElem {s : σ} {ms : List (Member κ σ ι ε α)} {k : Nat} {m : Member κ σ ι ε α}
    (h : (sees s ms)[k]? = some m) : ∃ m', ms[k]? = some m' ∧ m = { m' with seen := m'.seen.other s } := by
  rw [sees, List.getElem?_map] at h
  obtain ⟨m', hm', rfl⟩ := Option.map_eq_some_iff.1 h
  exact ⟨m', hm', rfl⟩

/-- What a step of one call leaves of what there was to see. -/
theorem seen_run {k : Nat} {c : κ} {h : History σ} {rest rest' : Program σ ι ε α} {s' : σ}
    (hk : p.members[k]? = some ⟨c, h, rest⟩) :
    seen ⟨s', (sees s' p.members).set k ⟨c, h.own s', rest'⟩⟩ = noted k s' p.seen := by
  refine List.ext_getElem? fun j => ?_
  rw [seen, noted, seen, sees, List.map_set, List.map_map, List.getElem?_mapIdx, List.getElem?_map, List.getElem?_set,
    List.getElem?_map, List.length_map]
  by_cases hj : k = j
  · subst hj
    obtain ⟨hlt, -⟩ := List.getElem?_eq_some_iff.1 hk
    rw [hk, if_pos rfl, if_pos hlt]
    simp
  · rw [if_neg hj]
    cases p.members[j]? with
    | none => rfl
    | some m => simp [Ne.symm hj]

theorem Agrees.step_amid (hT : T.Fit program) (h : Agrees T p) (e : CrowdEvent κ ι σ)
    (hfair : T.Fair p e) : Agrees T (step program p e) := by
  cases e with
  | call c =>
    obtain ⟨hkeeps, hamid⟩ := hT.call _ _ c h.keeps hfair
    have hlength : p.seen.length = p.members.length := List.length_map _
    rw [hlength] at hamid
    -- the members of before, and the new one behind them
    have hmember : ∀ (k : Nat) (m : Member κ σ ι ε α),
        (p.members ++ [⟨c, start p.now, program p.members.length c⟩])[k]? = some m →
        p.members[k]? = some m ∨ k = p.members.length ∧ m = ⟨c, start p.now, program p.members.length c⟩ := by
      intro k m hm
      rw [List.getElem?_append] at hm
      split at hm
      · exact Or.inl hm
      · next hk =>
        obtain ⟨hlt, hm⟩ := List.getElem?_eq_some_iff.1 hm
        have hzero : k - p.members.length = 0 := by simpa using hlt
        refine Or.inr ⟨by omega, ?_⟩
        rw [← hm]
        simp
    refine ⟨?_, fun k m hm => ?_, fun k m hm => ?_, fun k m hm => ?_⟩
    · show T.keeps (seen ⟨p.now, p.members ++ [_]⟩) p.now
      rw [seen, List.map_append]
      exact hkeeps
    · rcases hmember k m hm with hm | ⟨rfl, rfl⟩
      · exact h.amid k m hm
      · exact ⟨_, .refl, hamid⟩
    · rcases hmember k m hm with hm | ⟨rfl, rfl⟩
      · exact h.leads k m hm
      · exact ⟨_, .refl⟩
    · rcases hmember k m hm with hm | ⟨rfl, rfl⟩
      · exact h.now k m hm
      · rfl
  -- somebody outside acts: every member sees it as another's step
  | other s =>
    obtain ⟨hkeeps, hrely⟩ := hT.other _ _ s h.keeps h.seen_now hfair
    refine ⟨?_, fun k m hm => ?_, fun k m hm => ?_, fun k m hm => ?_⟩
    · show T.keeps (seen ⟨s, sees s p.members⟩) s
      rw [seen, sees, List.map_map]
      rw [seen, List.map_map] at hkeeps
      exact hkeeps
    · obtain ⟨m', hm', rfl⟩ := sees_getElem hm
      obtain ⟨g, hg, hamid⟩ := h.amid k m' hm'
      exact ⟨g, .other hg (hrely k _ (seen_getElem hm')), hamid⟩
    · obtain ⟨m', hm', rfl⟩ := sees_getElem hm
      obtain ⟨s₀, hlead⟩ := h.leads k m' hm'
      exact ⟨s₀, .other hlead (hrely k _ (seen_getElem hm'))⟩
    · obtain ⟨m', -, rfl⟩ := sees_getElem hm
      rfl
  | run k i =>
    -- a member that is not there, or has returned, does nothing
    have idle : ∀ p', p' = p → Agrees T p' := fun p' hp' => hp' ▸ h
    cases hk : p.members[k]? with
    | none => exact idle _ (by simp [step, hk])
    | some m =>
      obtain ⟨c, seen, rest⟩ := m
      cases rest with
      | ret a => exact idle _ (by simp [step, hk])
      | raise e => exact idle _ (by simp [step, hk])
      | step act next =>
        have hstep : Crowd.step program p (.run k i) =
            { now := (act i p.now).2
              members := (sees (act i p.now).2 p.members).set k
                ⟨c, seen.own (act i p.now).2, next (act i p.now).1⟩ } := by
          simp only [step, hk]
        have hnow : seen.now = p.now := h.now k _ hk
        obtain ⟨g, hg, hamid⟩ := h.amid k _ hk
        obtain ⟨hmay, hnext⟩ := hamid seen hg i (hnow ▸ hfair _ hk)
        rw [hnow] at hmay hnext
        obtain ⟨hkeeps, hrely⟩ := hT.run _ _ _ k c seen h.keeps h.seen_now (seen_getElem hk) hmay
        -- member `k` has moved on; the others have seen what it did
        have hmember : ∀ (j : Nat) (m : Member κ σ ι ε α),
            ((sees (act i p.now).2 p.members).set k
              ⟨c, seen.own (act i p.now).2, next (act i p.now).1⟩)[j]? = some m →
            j = k ∧ m = ⟨c, seen.own (act i p.now).2, next (act i p.now).1⟩ ∨
              j ≠ k ∧ ∃ m', p.members[j]? = some m' ∧ m = { m' with seen := m'.seen.other (act i p.now).2 } := by
          intro j m hm
          rw [List.getElem?_set] at hm
          split at hm
          · next hkj =>
            split at hm
            · exact Or.inl ⟨hkj.symm, (Option.some.inj hm).symm⟩
            · cases hm
          · next hkj => exact Or.inr ⟨fun heq => hkj heq.symm, sees_getElem hm⟩
        rw [hstep]
        refine ⟨?_, fun j m hm => ?_, fun j m hm => ?_, fun j m hm => ?_⟩
        · rw [seen_run hk]
          exact hkeeps
        · rcases hmember j m hm with ⟨rfl, rfl⟩ | ⟨hjk, m', hm', rfl⟩
          · exact ⟨_, .refl, hnext⟩
          · obtain ⟨g', hg', hamid'⟩ := h.amid j m' hm'
            exact ⟨g', .other hg' (hrely j _ (seen_getElem hm') hjk), hamid'⟩
        · rcases hmember j m hm with ⟨rfl, rfl⟩ | ⟨hjk, m', hm', rfl⟩
          · obtain ⟨s₀, hlead⟩ := h.leads j _ hk
            exact ⟨s₀, .own hlead hmay⟩
          · obtain ⟨s₀, hlead⟩ := h.leads j m' hm'
            exact ⟨s₀, .other hlead (hrely j _ (seen_getElem hm') hjk)⟩
        · rcases hmember j m hm with ⟨-, rfl⟩ | ⟨-, m', -, rfl⟩
          · rfl
          · rfl

/-- Programs whose terms fit keep to them in every run, side by side. -/
theorem crowd_amid (hT : T.Fit program) (run : List (CrowdEvent κ ι σ)) (hp : Agrees T p)
    (hfair : AllSteps (step program) T.Fair p run) : Agrees T (after (step program) p run) :=
  after_invariant_of (fun _ e hfair h => h.step_amid hT e hfair) run p hfair hp

end Crowd

end SafeFsOps
