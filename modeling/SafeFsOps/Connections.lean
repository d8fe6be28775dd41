import SafeFsOps.Programs

/-!
# Statements under a transaction

A connection to a database holds what is committed, which is all that any other
connection sees, and what its open transaction has made of that. Where no
transaction is open the two agree. A program over the database runs on a
connection in two ways: each of its steps committing on its own (`autocommit`), or
all of them as the statements of one transaction (`inTransaction`), which commits
when the body returns and rolls back when anything in it raises.

> `inTransaction_hidden`: until its last state, a transaction shows the database
> as it found it, wherever it fails and wherever it is killed.
> `inTransaction_returned`: one that returns has committed what its body computed.
> `inTransaction_unfinished`: any other leaves the database as it was.
-/

namespace SafeFsOps

/-- What is committed, and what the open transaction works on. -/
structure Connection (σ : Type) where
  committed : σ
  working : σ

namespace Connection

variable {σ : Type}

/-- A connection without an open transaction. -/
def idle (s : σ) : Connection σ := ⟨s, s⟩

/-- What a statement of the open transaction leaves. -/
def work (c : Connection σ) (s : σ) : Connection σ := { c with working := s }

@[simp] theorem idle_committed (s : σ) : (idle s).committed = s := rfl
@[simp] theorem idle_working (s : σ) : (idle s).working = s := rfl
@[simp] theorem work_committed (c : Connection σ) (s : σ) : (c.work s).committed = c.committed := rfl
@[simp] theorem work_working (c : Connection σ) (s : σ) : (c.work s).working = s := rfl

end Connection

namespace Program

variable {σ ι ε α β : Type}

/-- Every step a transaction of its own. -/
def autocommit : Program σ ι ε α → Program (Connection σ) ι ε α
  | ret a => ret a
  | raise e => raise e
  | step act next =>
    step (fun i c => ((act i c.committed).1, .idle (act i c.committed).2)) fun b => (next b).autocommit

/-- The steps as statements of the open transaction. -/
def within : Program σ ι ε α → Program (Connection σ) ι ε α
  | ret a => ret a
  | raise e => raise e
  | step act next => step (fun i c => ((act i c.working).1, c.work (act i c.working).2)) fun b => (next b).within

/-- `connection.execute("BEGIN IMMEDIATE")`. -/
def beginImmediate (fails : ι → Option ε) : Program (Connection σ) ι ε Unit :=
  call fun i c =>
    match fails i with
    | some e => (.error e, c)
    | none => (.ok (), .idle c.committed)

/-- `connection.commit()`. -/
def commit (fails : ι → Option ε) : Program (Connection σ) ι ε Unit :=
  call fun i c =>
    match fails i with
    | some e => (.error e, c)
    | none => (.ok (), .idle c.working)

/-- `connection.rollback()`; where it fails, closing the connection does the same. -/
def rollback (fails : ι → Option ε) : Program (Connection σ) ι ε Unit :=
  call fun i c =>
    match fails i with
    | some e => (.error e, .idle c.committed)
    | none => (.ok (), .idle c.committed)

/-- The body of an open transaction, and how it ends. -/
def concluded (fails : ι → Option ε) (p : Program σ ι ε α) : Program (Connection σ) ι ε α :=
  (p.within.bind fun a => (commit fails).bind fun _ => ret a).onRaise fun e => (rollback fails).bind fun _ => raise e

/-- `with store.transaction() as connection`. -/
def inTransaction (fails : ι → Option ε) (p : Program σ ι ε α) : Program (Connection σ) ι ε α :=
  (beginImmediate fails).bind fun _ => concluded fails p

/-! ## Every step on its own -/

theorem exec_autocommit : ∀ (p : Program σ ι ε α) (s : σ) (inputs : List ι),
    p.autocommit.exec (.idle s) inputs = ((p.exec s inputs).1, .idle (p.exec s inputs).2)
  | ret _, _, _ => rfl
  | raise _, _, _ => rfl
  | step _ _, _, [] => rfl
  | step act next, s, i :: inputs => exec_autocommit (next (act i s).1) (act i s).2 inputs

/-! ## The statements of a transaction -/

variable {fails : ι → Option ε}

/-- Until its last state a program over a connection shows what was committed when it began. -/
def Hidden (p : Program (Connection σ) ι ε α) (c : Connection σ) (inputs : List ι) : Prop :=
  ∃ n, (p.trace c inputs).map Connection.committed =
    List.replicate n c.committed ++ [(p.exec c inputs).2.committed]

theorem hidden_cons {s : Connection σ} {act : ι → Connection σ → β × Connection σ}
    {next : β → Program (Connection σ) ι ε α} {i : ι} {inputs : List ι} (hact : (act i s).2.committed = s.committed)
    (h : Hidden (next (act i s).1) (act i s).2 inputs) : Hidden (step act next) s (i :: inputs) := by
  obtain ⟨n, hn⟩ := h
  refine ⟨n + 1, ?_⟩
  show s.committed :: ((next (act i s).1).trace (act i s).2 inputs).map Connection.committed = _
  rw [hn, hact, List.replicate_succ]
  rfl

theorem hidden_rollback (fails : ι → Option ε) (e : ε) (c : Connection σ) (inputs : List ι) :
    Hidden ((rollback fails).bind fun _ => (raise e : Program (Connection σ) ι ε α)) c inputs := by
  cases inputs with
  | nil => exact ⟨0, rfl⟩
  | cons i inputs =>
    refine ⟨1, ?_⟩
    cases hf : fails i <;> simp [rollback, call, Program.bind, trace, exec, hf]

/-- Whatever the statements do, nobody sees it before the commit. -/
theorem hidden_concluded (fails : ι → Option ε) : ∀ (p : Program σ ι ε α) (c : Connection σ) (inputs : List ι),
    Hidden (concluded fails p) c inputs
  | ret a, c, [] => ⟨0, rfl⟩
  | ret a, c, i :: inputs => by
    cases hf : fails i with
    | none => exact ⟨1, by simp [concluded, within, commit, call, Program.bind, onRaise, trace, exec, hf]⟩
    | some e =>
      -- a commit that fails is rolled back
      obtain ⟨n, hn⟩ := hidden_rollback (α := α) fails e c inputs
      refine ⟨n + 1, ?_⟩
      simp only [concluded, within, commit, call, Program.bind, onRaise, trace, exec, hf] at hn ⊢
      rw [List.map_cons, hn]
      rfl
  | raise e, c, inputs => hidden_rollback fails e c inputs
  | step act next, c, [] => ⟨0, rfl⟩
  | step act next, c, i :: inputs => hidden_cons rfl (hidden_concluded fails (next (act i c.working).1) _ inputs)

theorem inTransaction_hidden (p : Program σ ι ε α) (s : σ) (inputs : List ι) :
    Hidden (inTransaction fails p) (.idle s) inputs := by
  cases inputs with
  | nil => exact ⟨0, rfl⟩
  | cons i inputs =>
    cases hf : fails i with
    | some e => exact ⟨1, by simp [inTransaction, beginImmediate, call, Program.bind, trace, exec, hf]⟩
    | none =>
      obtain ⟨n, hn⟩ := hidden_concluded fails p (.idle s) inputs
      refine ⟨n + 1, ?_⟩
      simp only [inTransaction, beginImmediate, call, Program.bind, trace, exec, hf]
      rw [List.map_cons]
      exact congrArg _ hn

/-! ## How a transaction ends -/

/-- Once it holds the lock, a transaction is its body. -/
theorem exec_begun {p : Program σ ι ε α} {s : σ} {i : ι} (hi : fails i = none) (inputs : List ι) :
    (inTransaction fails p).exec (.idle s) (i :: inputs) = (concluded fails p).exec (.idle s) inputs := by
  simp [inTransaction, beginImmediate, call, Program.bind, exec, hi]

/-- A transaction that cannot have the lock raises. -/
theorem exec_locked {p : Program σ ι ε α} {s : σ} {i : ι} {e : ε} (hi : fails i = some e) (inputs : List ι) :
    (inTransaction fails p).exec (.idle s) (i :: inputs) = (some (.error e, inputs), .idle s) := by
  simp [inTransaction, beginImmediate, call, Program.bind, exec, hi]

theorem concluded_returned : ∀ {p : Program σ ι ε α} {c c' : Connection σ} {inputs rest : List ι} {a : α},
    (concluded fails p).exec c inputs = (some (.ok a, rest), c') →
      ∃ i s', p.exec c.working inputs = (some (.ok a, i :: rest), s') ∧ fails i = none ∧ c' = .idle s'
  | ret a, c, c', [], rest, a', h => by cases h
  | ret a, c, c', i :: inputs, rest, a', h => by
    cases hf : fails i with
    | none =>
      simp only [concluded, within, commit, call, Program.bind, onRaise, exec, hf] at h
      cases h
      exact ⟨i, c.working, rfl, hf, rfl⟩
    | some e =>
      simp only [concluded, within, commit, call, Program.bind, onRaise, exec, hf] at h
      cases inputs with
      | nil => cases h
      | cons j inputs =>
        cases hj : fails j <;> simp [rollback, call, Program.bind, exec, hj] at h
  | raise e, c, c', [], rest, a', h => by cases h
  | raise e, c, c', i :: inputs, rest, a', h => by
    cases hf : fails i <;> simp [concluded, within, onRaise, rollback, call, Program.bind, exec, hf] at h
  | step act next, c, c', [], rest, a', h => by cases h
  | step act next, c, c', i :: inputs, rest, a', h =>
    concluded_returned (p := next (act i c.working).1) (c := c.work (act i c.working).2) h

/-- One that returns has committed what its body computed. -/
theorem inTransaction_returned {p : Program σ ι ε α} {s : σ} {c' : Connection σ} {inputs rest : List ι} {a : α}
    (h : (inTransaction fails p).exec (.idle s) inputs = (some (.ok a, rest), c')) :
    ∃ i j inputs' s', inputs = i :: inputs' ∧ fails i = none ∧ fails j = none ∧
      p.exec s inputs' = (some (.ok a, j :: rest), s') ∧ c' = .idle s' := by
  cases inputs with
  | nil => cases h
  | cons i inputs' =>
    cases hf : fails i with
    | some e =>
      rw [exec_locked hf] at h
      cases h
    | none =>
      rw [exec_begun hf] at h
      obtain ⟨j, s', hp, hj, hc⟩ := concluded_returned h
      exact ⟨i, j, inputs', s', rfl, hf, hj, hp, hc⟩

theorem concluded_unfinished : ∀ {p : Program σ ι ε α} {c : Connection σ} {inputs : List ι},
    (∀ a rest, ((concluded fails p).exec c inputs).1 ≠ some (.ok a, rest)) →
      ((concluded fails p).exec c inputs).2.committed = c.committed
  | ret a, c, [], _ => rfl
  | ret a, c, i :: inputs, h => by
    cases hf : fails i with
    | none =>
      refine absurd ?_ (h a inputs)
      simp [concluded, within, commit, call, Program.bind, onRaise, exec, hf]
    | some e =>
      simp only [concluded, within, commit, call, Program.bind, onRaise, exec, hf]
      cases inputs with
      | nil => rfl
      | cons j inputs => cases hj : fails j <;> simp [rollback, call, Program.bind, exec, hj]
  | raise e, c, [], _ => rfl
  | raise e, c, i :: inputs, _ => by
    cases hf : fails i <;> simp [concluded, within, onRaise, rollback, call, Program.bind, exec, hf]
  | step act next, c, [], _ => rfl
  | step act next, c, i :: inputs, h =>
    concluded_unfinished (p := next (act i c.working).1) (c := c.work (act i c.working).2) h

/-- One that raises, or is killed, leaves the database as it was. -/
theorem inTransaction_unfinished {p : Program σ ι ε α} {s : σ} {inputs : List ι}
    (h : ∀ a rest, ((inTransaction fails p).exec (.idle s) inputs).1 ≠ some (.ok a, rest)) :
    ((inTransaction fails p).exec (.idle s) inputs).2.committed = s := by
  cases inputs with
  | nil => rfl
  | cons i inputs =>
    cases hf : fails i with
    | some e => rw [exec_locked hf, Connection.idle_committed]
    | none =>
      rw [exec_begun hf] at h ⊢
      exact concluded_unfinished h

theorem concluded_killed : ∀ {p : Program σ ι ε α} {c : Connection σ} {inputs : List ι},
    (p.exec c.working inputs).1 = none → ((concluded fails p).exec c inputs).1 = none
  | ret a, c, inputs, h => by cases h
  | raise e, c, inputs, h => by cases h
  | step act next, c, [], _ => rfl
  | step act next, c, i :: inputs, h =>
    concluded_killed (p := next (act i c.working).1) (c := c.work (act i c.working).2) h

theorem concluded_raised : ∀ {p : Program σ ι ε α} {c : Connection σ} {inputs rest : List ι} {e : ε} {s' : σ},
    p.exec c.working inputs = (some (.error e, rest), s') → (∀ i ∈ rest, fails i = none) →
      ∀ r, ((concluded fails p).exec c inputs).1.map Prod.fst = some r → r = .error e
  | ret a, c, inputs, rest, e, s', h, _ => by cases h
  | raise e', c, inputs, rest, e, s', h, hworks => by
    cases h
    intro r hr
    cases inputs with
    | nil => cases hr
    | cons i inputs =>
      have hi := hworks i List.mem_cons_self
      simp only [concluded, within, commit, rollback, call, Program.bind, onRaise, exec, hi] at hr
      cases hr
      rfl
  | step act next, c, [], rest, e, s', h, _ => by cases h
  | step act next, c, i :: inputs, rest, e, s', h, hworks =>
    concluded_raised (p := next (act i c.working).1) (c := c.work (act i c.working).2) h hworks

/-- Where the database works, a transaction whose body raises raises the same. -/
theorem inTransaction_raised {p : Program σ ι ε α} {s : σ} {i : ι} {inputs : List ι} {e : ε}
    (hi : fails i = none)
    (hp : p.exec s inputs = (none, (p.exec s inputs).2) ∨
      ∃ rest s', p.exec s inputs = (some (.error e, rest), s') ∧ ∀ i ∈ rest, fails i = none) :
    ∀ r, ((inTransaction fails p).exec (.idle s) (i :: inputs)).1.map Prod.fst = some r → r = .error e := by
  intro r hr
  rw [exec_begun hi] at hr
  rcases hp with hkilled | ⟨rest, s', hraised, hworks⟩
  · rw [concluded_killed (c := .idle s) (by rw [Connection.idle_working, hkilled])] at hr
    cases hr
  · exact concluded_raised (c := .idle s) hraised hworks r hr

theorem along_concluded {C : ι → Connection σ → Prop} (hC : ∀ i c, C i c → fails i = none) :
    ∀ {p : Program σ ι ε α} {c : Connection σ},
      Along (fun i _ => fails i = none) (fun _ _ => True) (fun r _ => ∃ a, r = .ok a) p c.working →
        Along C (fun _ _ => True) (fun r _ => ∃ a, r = .ok a) (concluded fails p) c
  | ret a, c, _ => by
    intro i hi
    have hf := hC i c hi
    refine ⟨trivial, ?_⟩
    simp only [hf]
    exact ⟨a, rfl⟩
  | raise e, c, h => by
    obtain ⟨a, ha⟩ := h
    cases ha
  | step act next, c, h => fun i hi =>
    ⟨trivial, along_concluded (p := next (act i c.working).1) (c := c.work (act i c.working).2) hC (h i (hC i c hi)).2⟩

/-- Where nothing in a transaction fails and its body does not raise, the transaction does not. -/
theorem along_inTransaction {p : Program σ ι ε α} {s : σ}
    (h : Along (fun i _ => fails i = none) (fun _ _ => True) (fun r _ => ∃ a, r = .ok a) p s) :
    Along (fun i _ => fails i = none) (fun _ _ => True) (fun r _ => ∃ a, r = .ok a) (inTransaction fails p)
      (.idle s) := by
  refine along_bind (along_call fun i hi => ⟨trivial, ?_⟩)
  simp only [hi]
  exact along_concluded (fun _ _ hi => hi) h

/-! ## Before a transaction -/

/-- What only looks at the database first, hides what is done after it just as well. -/
theorem hidden_autocommit {f : α → Program (Connection σ) ι ε β} {Q : Except ε α → σ → Prop} {s₀ : σ} :
    ∀ {p : Program σ ι ε α} {s : σ} {inputs : List ι}, s = s₀ → Along (fun _ _ => True) (fun _ s' => s' = s₀) Q p s →
      (∀ a rest, Q (.ok a) s₀ → Hidden (f a) (.idle s₀) rest) → Hidden (p.autocommit.bind f) (.idle s) inputs
  | ret a, _, inputs, rfl, hp, hf => hf a inputs hp
  | raise _, _, _, _, _, _ => ⟨0, rfl⟩
  | step _ _, _, [], _, _, _ => ⟨0, rfl⟩
  | step act next, s, i :: inputs, hs, hp, hf => by
    obtain ⟨hstep, hnext⟩ := hp i trivial
    exact hidden_cons (hstep.trans hs.symm) (hidden_autocommit (p := next (act i s).1) hstep hnext hf)

end Program

end SafeFsOps
