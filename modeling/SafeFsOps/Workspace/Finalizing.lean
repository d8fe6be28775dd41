import SafeFsOps.Connections
import SafeFsOps.Workspace.FinalStatements
import SafeFsOps.Workspace.StepRules

/-!
# Finalising is atomic

`finalize_operation_success` and `finalize_touched_operation_success` over a
connection: the statements run in one transaction, any of them can be refused, fail
of itself, or be the last before the process dies, and other connections see what is
committed. What `finalizeTransaction` does as one step is done here statement by
statement, and its atomicity is proved.

> `finalisation_atomic`: all of it happens or none of it, and nobody sees less.
-/

namespace SafeFsOps

open Program

variable {φ ω : Type} {T : Transaction φ ω} {s : TransactionState} {phases : List (OperationPhaseRow Payload)}
  {runs : List (OperationRunRow Payload)} {w w' : World φ} {now : DateTime}

/-! ## The program -/

/-- A statement of an open transaction: it is carried out, or raises. -/
def statement (act : Sample ω → World φ → Except OperationError (World φ)) : Op φ ω Unit :=
  transaction fun i w => (act i w).map fun w' => ((), w')

/-- What stands between `BEGIN` and `commit`. -/
def finalizeStatements (T : Transaction φ ω) (s : TransactionState) (h : LeaseHolder)
    (phases : List (OperationPhaseRow Payload)) (runs : List (OperationRunRow Payload)) : Op φ ω Unit := do
  statement fun i => checkLease (h.context i)
  .forEach phases fun phase => statement fun i w => succeedPhase (h.context i) w phase
  .forEach s.claims.reverse fun claim => statement fun _ w => releaseExpectedClaim T w claim
  .forEach runs fun run => statement fun i w => succeedRun (h.context i) w run
  statement fun i => releaseFinalLease (h.context i)

/-- The phases that are to succeed: the implicit one, or all that were touched. -/
def phasesToFinalize (s : TransactionState) : Op φ ω (List (OperationPhaseRow Payload)) :=
  if s.operationRun.isSome then .ret s.operationPhase.toList else touchedPhases s

/-- The runs that are to succeed: the implicit one, or all that were touched. -/
def runsToFinalize (s : TransactionState) : Op φ ω (List (OperationRunRow Payload)) :=
  if s.operationRun.isSome then .ret s.operationRun.toList else touchedRuns s

/-- What is sampled and read before the transaction. -/
def finalizeInputs (T : Transaction φ ω) (s : TransactionState) :
    Op φ ω (LeaseHolder × List (OperationPhaseRow Payload) × List (OperationRunRow Payload)) := do
  stopLeaseHeartbeat T
  let h ← cleanupHolder s.lease
  let phases ← phasesToFinalize s
  let runs ← runsToFinalize s
  return (h, phases, runs)

/-- `with store.transaction() as connection` around the statements. -/
def commitFinalisation (T : Transaction φ ω) (s : TransactionState) (h : LeaseHolder)
    (phases : List (OperationPhaseRow Payload)) (runs : List (OperationRunRow Payload)) :
    Program (Connection (World φ)) (Sample ω) OperationError Unit :=
  inTransaction Sample.fault (finalizeStatements T s h phases runs)

/-- `finalize_operation_success` and `finalize_touched_operation_success`, over a connection. -/
def finalizeOverConnection (T : Transaction φ ω) (s : TransactionState) :
    Program (Connection (World φ)) (Sample ω) OperationError Unit := do
  let (h, phases, runs) ← (finalizeInputs T s).autocommit
  commitFinalisation T s h phases runs

/-- As one step, the transaction is the end of `finalizeTransaction`. -/
theorem finalizeTransaction_eq (T : Transaction φ ω) (s : TransactionState) :
    finalizeTransaction T s = finalizeInputs T s >>= fun (h, phases, runs) =>
      transaction fun i w => (finalizeInConnection T s phases runs (h.context i) w).map fun w' => ((), w') := by
  unfold finalizeTransaction finalizeInputs phasesToFinalize runsToFinalize
  simp only [bind_eq, Program.bind_assoc]
  split <;> rfl

/-! ## Running the statements -/

section Statements

variable {κ : Type} {act : κ → Sample ω → World φ → Except OperationError (World φ)}
  {f : World φ → κ → Except OperationError (World φ)}

/-- Statements that were all carried out are a loop that succeeded. -/
theorem exec_statements (hact : ∀ x i w, act x i w = f w x) :
    ∀ {xs : List κ} {w w' : World φ} {inputs rest : List (Sample ω)},
      (Program.forEach xs fun x => statement (act x)).exec w inputs = (some (.ok (), rest), w') →
        xs.foldlM f w = .ok w'
  | [], w, w', inputs, rest, h => by
    cases h
    rfl
  | x :: xs, w, w', inputs, rest, h => by
    obtain ⟨_, mid, w₁, hx, hxs⟩ := exec_bind_ok h
    obtain ⟨i, -, hx⟩ := exec_transaction hx
    obtain ⟨w₂, hw₂, heq⟩ := map_eq_ok.1 hx
    cases heq
    rw [List.foldlM_cons, ← hact x i w, hw₂]
    exact exec_statements hact hxs

/-- A statement that is not refused is carried out, unless it fails. -/
theorem along_statement (act : Sample ω → World φ → Except OperationError (World φ)) {w w' : World φ}
    (h : ∀ i, act i w = .ok w') :
    Along (fun i _ => i.fault = none) (fun _ _ => True) (fun r w₁ => r = .ok () ∧ w₁ = w') (statement act) w := by
  refine along_transaction trivial (fun i e hi hf => ?_) (fun i e hi hf hx => ?_) fun i a w₁ hi hf hx => ?_
  · rw [hi] at hf
    cases hf
  · rw [h i] at hx
    cases hx
  · rw [h i] at hx
    cases hx
    exact ⟨trivial, rfl, rfl⟩

/-- Going on after statements that were carried out. -/
theorem along_carriedOut {p q : Op φ ω Unit} {w w' : World φ} {Q : Except OperationError Unit → World φ → Prop}
    (hp : Along (fun i _ => i.fault = none) (fun _ _ => True) (fun r w₁ => r = .ok () ∧ w₁ = w') p w)
    (hq : Along (fun i _ => i.fault = none) (fun _ _ => True) Q q w') :
    Along (fun i _ => i.fault = none) (fun _ _ => True) Q (p.bind fun _ => q) w := by
  refine along_seq hp ?_ fun e _ hr => by cases hr.1
  intro _ w₁ h₁
  rw [h₁.2]
  exact hq

/-- Statements of a loop that succeeds are all carried out, unless one fails. -/
theorem along_statements (act : κ → Sample ω → World φ → Except OperationError (World φ))
    (hact : ∀ x i w, act x i w = f w x) :
    ∀ {xs : List κ} {w w' : World φ}, xs.foldlM f w = .ok w' →
      Along (fun i _ => i.fault = none) (fun _ _ => True) (fun r w₁ => r = .ok () ∧ w₁ = w')
        (Program.forEach xs fun x => statement (act x)) w
  | [], w, w', h => by
    cases h
    exact ⟨rfl, rfl⟩
  | x :: xs, w, w', h => by
    rw [List.foldlM_cons, bind_eq_ok] at h
    obtain ⟨w₁, hw₁, h⟩ := h
    exact along_carriedOut (along_statement _ fun i => (hact x i w).trans hw₁) (along_statements act hact h)

end Statements

/-- A transaction of the workspace at the time at which it is finalised. -/
def finalHolder (s : TransactionState) (now : DateTime) : LeaseHolder := ⟨s.lease, some now⟩

theorem exec_statement {act : Sample ω → World φ → Except OperationError (World φ)} {u : Unit}
    {inputs rest : List (Sample ω)} (h : (statement act).exec w inputs = (some (.ok u, rest), w')) :
    ∃ i, inputs = i :: rest ∧ act i w = .ok w' := by
  obtain ⟨i, hi, hact⟩ := exec_transaction h
  obtain ⟨w₁, hw₁, heq⟩ := map_eq_ok.1 hact
  cases heq
  exact ⟨i, hi, hw₁⟩

/-- Statements that were all carried out did what the one step does. -/
theorem finalizeStatements_ok {inputs rest : List (Sample ω)}
    (h : (finalizeStatements T s (finalHolder s now) phases runs).exec w inputs = (some (.ok (), rest), w')) :
    ∃ i ∈ inputs, finalizeInConnection T s phases runs ((finalHolder s now).context i) w = .ok w' := by
  obtain ⟨_, mid₁, w₀, hcheck, h⟩ := exec_bind_ok h
  obtain ⟨_, mid₂, w₁, hphases, h⟩ := exec_bind_ok h
  obtain ⟨_, mid₃, w₂, hclaims, h⟩ := exec_bind_ok h
  obtain ⟨_, mid₄, w₃, hruns, hrelease⟩ := exec_bind_ok h
  obtain ⟨i₀, rfl, hchecked⟩ := exec_statement hcheck
  obtain ⟨i, rfl, hreleased⟩ := exec_statement hrelease
  -- but for the token of the lease, nothing depends on what a statement draws
  have hdonePhases := exec_statements (f := succeedPhase ((finalHolder s now).context i)) (fun _ _ _ => rfl) hphases
  have hdoneClaims := exec_statements (f := releaseExpectedClaim T) (fun _ _ _ => rfl) hclaims
  have hdoneRuns := exec_statements (f := succeedRun ((finalHolder s now).context i)) (fun _ _ _ => rfl) hruns
  have hi : i ∈ i₀ :: mid₁ := List.mem_cons_of_mem _
    (exec_rest hphases i (exec_rest hclaims i (exec_rest hruns i List.mem_cons_self)))
  obtain ⟨_, -, rfl⟩ := map_eq_ok.1 hchecked
  exact ⟨i, hi, finalizeInConnection_iff.2 ⟨w₁, w₂, w₃, hchecked, hdonePhases, hdoneClaims, hdoneRuns, hreleased⟩⟩

/-- Where nothing keeps it from being finalised, no statement is refused. -/
theorem along_finalizeStatements (hkeys : (s.claims.map ClaimRecord.resourceKey).Nodup)
    (h : CanFinalize T s now phases runs w) :
    Along (fun i _ => i.fault = none) (fun _ _ => True) (fun r _ => ∃ a, r = .ok a)
      (finalizeStatements T s (finalHolder s now) phases runs) w := by
  obtain ⟨w', hw'⟩ := finalizeInConnection_succeeds ⟨s.lease, now, "", ""⟩ rfl hkeys h
  obtain ⟨w₁, w₂, w₃, hcheck, hphases, hclaims, hruns, hrelease⟩ := finalizeInConnection_iff.1 hw'
  obtain ⟨row, hrow, -⟩ := (releaseFinalLease_iff _).1 hrelease
  have hstart := along_statement (fun i : Sample ω => checkLease ((finalHolder s now).context i)) fun _ => hcheck
  have hphases := along_statements
    (fun phase (i : Sample ω) w => succeedPhase ((finalHolder s now).context i) w phase)
    (fun _ _ _ => rfl) hphases
  have hclaims := along_statements (fun claim (_ : Sample ω) w => releaseExpectedClaim T w claim)
    (fun _ _ _ => rfl) hclaims
  have hruns := along_statements
    (fun run (i : Sample ω) w => succeedRun ((finalHolder s now).context i) w run) (fun _ _ _ => rfl) hruns
  refine along_carriedOut hstart (along_carriedOut hphases (along_carriedOut hclaims (along_carriedOut hruns ?_)))
  refine along_transaction trivial (fun i e hi hf => ?_) (fun i e hi hf hx => ?_)
    fun i a w₄ hi hf hx => ⟨trivial, a, rfl⟩
  · rw [hi] at hf
    cases hf
  · have hlast := (releaseFinalLease_iff ((finalHolder s now).context i)).2 ⟨row, hrow, rfl⟩
    dsimp only at hx
    rw [hlast] at hx
    cases hx

/-! ## All or nothing -/

/-- A run of a program that finalises under these phases and runs: nobody sees it
before it is complete, it is complete if it returns, and nothing has happened if it does not. -/
structure FinalizesAtomically (T : Transaction φ ω) (s : TransactionState) (now : DateTime)
    (phases : List (OperationPhaseRow Payload)) (runs : List (OperationRunRow Payload)) (w : World φ)
    (p : Program (Connection (World φ)) (Sample ω) OperationError Unit) (inputs : List (Sample ω)) : Prop where
  hidden : Hidden p (.idle w) inputs
  returned : ∀ rest c, p.exec (.idle w) inputs = (some (.ok (), rest), c) →
    CanFinalize T s now phases runs w ∧ ∃ i ∈ inputs, Finalized T s now i.generated phases runs w c.committed
  unfinished : (∀ rest, (p.exec (.idle w) inputs).1 ≠ some (.ok (), rest)) →
    (p.exec (.idle w) inputs).2.committed = w
  complete : CanFinalize T s now phases runs w → (s.claims.map ClaimRecord.resourceKey).Nodup →
    (∀ i ∈ inputs, i.fault = none) → ∀ r rest, (p.exec (.idle w) inputs).1 = some (r, rest) → r = .ok ()

theorem commitFinalisation_atomic (T : Transaction φ ω) (s : TransactionState) (now : DateTime)
    (phases : List (OperationPhaseRow Payload)) (runs : List (OperationRunRow Payload)) (w : World φ)
    (inputs : List (Sample ω)) : FinalizesAtomically T s now phases runs w
      (commitFinalisation T s (finalHolder s now) phases runs) inputs where
  hidden := inTransaction_hidden _ w inputs
  returned rest c h := by
    obtain ⟨i, j, inputs', w', rfl, -, -, hbody, rfl⟩ := inTransaction_returned h
    obtain ⟨k, hk, hw'⟩ := finalizeStatements_ok hbody
    obtain ⟨hcan, hdone⟩ := finalizeInConnection_ok ((finalHolder s now).context k) rfl hw'
    exact ⟨hcan, k, List.mem_cons_of_mem _ hk, hdone⟩
  unfinished h := inTransaction_unfinished fun _ rest => h rest
  complete hcan hkeys hfault r rest hrun := by
    have halong := along_inTransaction (along_finalizeStatements hkeys hcan)
    obtain ⟨-, hend⟩ := along_exec halong inputs (meets_of_inputs _ _ _ fun i hi _ => hfault i hi)
    obtain ⟨_, ha⟩ := hend r rest hrun
    exact ha

/-! ## What is read before -/

/-- The phases `finalizeInputs` finds. -/
def finalPhases (s : TransactionState) (w : World φ) : List (OperationPhaseRow Payload) :=
  if s.operationRun.isSome then s.operationPhase.toList
  else
    let implicit := s.operationPhase.toList
    let others := s.touchedPhases.filter fun id => id ∉ implicit.map OperationPhaseRow.operationPhaseId
    implicit ++ (others.map w.journal.operationPhaseRow).reduceOption

/-- The runs `finalizeInputs` finds. -/
def finalRuns (s : TransactionState) (w : World φ) : List (OperationRunRow Payload) :=
  if s.operationRun.isSome then s.operationRun.toList
  else
    let others := s.touchedRuns.filter fun id => id ∉ s.operationRun.toList.map OperationRunRow.operationRunId
    s.operationRun.toList ++ (others.map w.journal.operationRunRow).reduceOption

section Reading

variable {α β : Type} {C : Sample ω → World φ → Prop}

/-- The program leaves the world as it is, and answers with `a` unless one of its steps fails. -/
def Responds (C : Sample ω → World φ → Prop) (p : Op φ ω α) (A : α → Prop) (w : World φ) : Prop :=
  Along C (fun _ w' => w' = w)
    (fun r w' => w' = w ∧ ((∃ a, r = .ok a ∧ A a) ∨ ∃ e i, r = .error e ∧ C i w ∧ i.fault = some e)) p w

theorem responds_ret {A : α → Prop} {a : α} (h : A a) : Responds C (.ret a) A w := ⟨rfl, Or.inl ⟨a, rfl, h⟩⟩

theorem responds_bind {A : α → Prop} {B : β → Prop} {p : Op φ ω α} {f : α → Op φ ω β} (hp : Responds C p A w)
    (hf : ∀ a, A a → Responds C (f a) B w) : Responds C (p.bind f) B w := by
  refine along_seq hp (fun a w' h => ?_) fun e w' h => ?_
  · obtain ⟨rfl, h⟩ := h
    rcases h with ⟨a', ha', hA⟩ | ⟨e, i, he, -⟩
    · cases ha'
      exact hf a hA
    · cases he
  · obtain ⟨hw, h⟩ := h
    refine ⟨hw, Or.inr ?_⟩
    rcases h with ⟨a', ha', -⟩ | ⟨e', i, he, hfault⟩
    · cases ha'
    · cases he
      exact ⟨e, i, rfl, hfault⟩

theorem responds_databaseRead {read : Sample ω → World φ → Except OperationError α} {a : α}
    (h : ∀ i, read i w = .ok a) : Responds C (databaseRead read) (· = a) w := by
  refine along_databaseRead rfl (fun i e hi hf => ⟨rfl, Or.inr ⟨e, i, rfl, hi, hf⟩⟩) fun i hi hf => ⟨rfl, Or.inl ?_⟩
  exact ⟨a, h i, rfl⟩

theorem responds_mapEach {κ : Type} {f : κ → Op φ ω α} {g : κ → α} (h : ∀ x, Responds C (f x) (· = g x) w) :
    ∀ xs : List κ, Responds C (.mapEach xs f) (· = xs.map g) w
  | [] => responds_ret rfl
  | x :: xs => by
    refine responds_bind (h x) fun a ha => responds_bind (responds_mapEach h xs) fun as has => responds_ret ?_
    rw [ha, has, List.map_cons]

theorem responds_finalizeInputs : Responds C (finalizeInputs T s)
    (fun x => ∃ i, C i w ∧ x = (finalHolder s i.now, finalPhases s w, finalRuns s w)) w := by
  have hstop : Responds C (stopLeaseHeartbeat T) (fun _ => True) w := by
    unfold stopLeaseHeartbeat
    split
    · exact responds_ret trivial
    · exact along_mono (fun _ _ h => h) (fun _ _ h => ⟨h.1, h.2.imp_left fun ⟨a, ha, _⟩ => ⟨a, ha, trivial⟩⟩)
        (responds_databaseRead fun _ => rfl)
  have hclock : Responds C (cleanupHolder s.lease) (fun h => ∃ i, C i w ∧ h = finalHolder s i.now) w :=
    along_call fun i hi => ⟨rfl, rfl, Or.inl ⟨_, rfl, i, hi, rfl⟩⟩
  have hphases : Responds C (phasesToFinalize s) (· = finalPhases s w) w := by
    unfold phasesToFinalize finalPhases
    split
    · exact responds_ret rfl
    · refine responds_bind (responds_mapEach (g := w.journal.operationPhaseRow)
        (fun id => responds_databaseRead fun _ => rfl) _) fun rows hrows => ?_
      rw [hrows]
      exact responds_ret rfl
  have hruns : Responds C (runsToFinalize s) (· = finalRuns s w) w := by
    unfold runsToFinalize finalRuns
    split
    · exact responds_ret rfl
    · refine responds_bind (responds_mapEach (g := w.journal.operationRunRow)
        (fun id => responds_databaseRead fun _ => rfl) _) fun rows hrows => ?_
      rw [hrows]
      exact responds_ret rfl
  refine responds_bind hstop fun _ _ => responds_bind hclock ?_
  rintro h ⟨i, hi, rfl⟩
  refine responds_bind hphases fun phases hp => responds_bind hruns fun runs hr => responds_ret ⟨i, hi, ?_⟩
  rw [hp, hr]

end Reading

/-- What was read is what there is, and only a step that fails of itself keeps it from being read. -/
theorem finalizeInputs_exec (inputs : List (Sample ω)) : (finalizeInputs T s).exec w inputs = (none, w) ∨
    (∃ i ∈ inputs, ∃ rest, (finalizeInputs T s).exec w inputs =
      (some (.ok (finalHolder s i.now, finalPhases s w, finalRuns s w), rest), w)) ∨
    ∃ e rest, (finalizeInputs T s).exec w inputs = (some (.error e, rest), w) ∧ ¬ ∀ i ∈ inputs, i.fault = none := by
  have hany := responds_finalizeInputs (T := T) (s := s) (w := w) (C := fun i _ => i ∈ inputs)
  have hgiven : Meets (fun i _ => i ∈ inputs) (finalizeInputs T s) w inputs := meets_of_inputs _ _ _ fun i hi _ => hi
  have hend := (along_exec hany inputs hgiven).2
  have hstate := along_holds (I := (· = w)) hany rfl inputs hgiven
  cases hrun : (finalizeInputs T s).exec w inputs with
  | mk outcome w' =>
    rw [hrun] at hend hstate
    obtain rfl : w' = w := hstate
    rcases outcome with _ | ⟨e | x, rest⟩
    · exact Or.inl rfl
    · refine Or.inr (Or.inr ⟨e, rest, rfl, fun hfault => ?_⟩)
      have hsound := responds_finalizeInputs (T := T) (s := s) (w := w') (C := fun i _ => i.fault = none)
      have hend := (along_exec hsound inputs (meets_of_inputs _ _ _ fun i hi _ => hfault i hi)).2
      rw [hrun] at hend
      rcases (hend _ _ rfl).2 with ⟨_, hx, -⟩ | ⟨e', i, -, hnone, hsome⟩
      · cases hx
      · rw [hnone] at hsome
        cases hsome
    · rcases (hend _ _ rfl).2 with ⟨_, hx, i, hi, rfl⟩ | ⟨_, _, hx, -⟩
      · cases hx
        exact Or.inr (Or.inl ⟨i, hi, rest, rfl⟩)
      · cases hx

theorem finalizeOverConnection_hidden (T : Transaction φ ω) (s : TransactionState) (w : World φ)
    (inputs : List (Sample ω)) : Hidden (finalizeOverConnection T s) (.idle w) inputs := by
  refine hidden_autocommit rfl (responds_finalizeInputs (T := T) (s := s) (w := w) (C := fun _ _ => True)) ?_
  exact fun _ rest _ => inTransaction_hidden _ w rest

/-- What has been read says so much: the time is that of the clock. -/
def ReadsClock (T : Transaction φ ω) (s : TransactionState) (now : DateTime) (w : World φ)
    (inputs : List (Sample ω)) : Prop :=
  ∀ x rest, ((finalizeInputs T s).exec w inputs).1 = some (.ok x, rest) →
    x.1 = finalHolder s now ∧ ∃ i ∈ inputs, i.now = now

theorem finalizeOverConnection_atomic (T : Transaction φ ω) (s : TransactionState) (w : World φ)
    (inputs : List (Sample ω)) : ∃ now, ReadsClock T s now w inputs ∧ FinalizesAtomically T s now (finalPhases s w) (finalRuns s w) w
      (finalizeOverConnection T s) inputs := by
  have hrun : (finalizeOverConnection T s).exec (.idle w) inputs = _ :=
    exec_bind (finalizeInputs T s).autocommit (.idle w) inputs
  rw [exec_autocommit] at hrun
  have hhidden := finalizeOverConnection_hidden T s w inputs
  have hread := finalizeInputs_exec (T := T) (s := s) (w := w) inputs
  rcases hread with hkilled | ⟨i, hi, rest, hok⟩ | ⟨e, rest, herror, hfault⟩
  · rw [hkilled] at hrun
    refine ⟨s.lease.acquiredAt, fun x rest h => ?_, hhidden, fun rest c h => ?_, fun _ => ?_, fun _ _ _ r rest h => ?_⟩
    · rw [hkilled] at h
      cases h
    · rw [hrun] at h
      cases h
    · rw [hrun, Connection.idle_committed]
    · rw [hrun] at h
      cases h
  · rw [hok] at hrun
    have hatomic := commitFinalisation_atomic T s i.now (finalPhases s w) (finalRuns s w) w rest
    have hmem := exec_rest hok
    refine ⟨i.now, fun x rest' h => ?_, hhidden, fun rest' c h => ?_, fun h => ?_, fun hcan hkeys hnone r rest' h => ?_⟩
    · rw [hok] at h
      cases h
      exact ⟨rfl, i, hi, rfl⟩
    · rw [hrun] at h
      obtain ⟨hcan, j, hj, hdone⟩ := hatomic.returned rest' c h
      exact ⟨hcan, j, hmem j hj, hdone⟩
    · rw [hrun] at h ⊢
      exact hatomic.unfinished h
    · rw [hrun] at h
      exact hatomic.complete hcan hkeys (fun i hi => hnone i (hmem i hi)) r rest' h
  · rw [herror] at hrun
    refine ⟨s.lease.acquiredAt, fun x rest h => ?_, hhidden, fun rest c h => ?_, fun _ => ?_,
      fun _ _ hnone => absurd hnone hfault⟩
    · rw [herror] at h
      cases h
    · rw [hrun] at h
      cases h
    · rw [hrun, Connection.idle_committed]

/-- Finalising is atomic. Whatever the claims, the phases, the runs and the lease are
at the commit, and wherever it fails or is killed: until it is complete nobody sees
anything of it; if it returns, every claim was there as expected and is released, every
phase and run has succeeded, and the lease has a new token; if it does not, nothing has
changed. It cannot return unless all of that was possible, and does if it was and
nothing failed of itself. The time is one the caller says, or the one read off the clock before. -/
theorem finalisation_atomic (T : Transaction φ ω) (s : TransactionState) :
    (∀ (now : DateTime) (phases : List (OperationPhaseRow Payload)) (runs : List (OperationRunRow Payload))
      (w : World φ) (inputs : List (Sample ω)), FinalizesAtomically T s now phases runs w
        (commitFinalisation T s (finalHolder s now) phases runs) inputs) ∧
    ∀ (w : World φ) (inputs : List (Sample ω)), ∃ now, ReadsClock T s now w inputs ∧
      FinalizesAtomically T s now (finalPhases s w) (finalRuns s w) w (finalizeOverConnection T s) inputs :=
  ⟨fun now phases runs w inputs => commitFinalisation_atomic T s now phases runs w inputs,
    fun w inputs => finalizeOverConnection_atomic T s w inputs⟩

end SafeFsOps
