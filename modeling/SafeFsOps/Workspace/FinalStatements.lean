import SafeFsOps.OperationJournal.StatusMoves
import SafeFsOps.Workspace.Transaction
import SafeFsOps.WorkspaceState.ClaimOwnership

/-!
# What finalising does, statement by statement

`finalize_operation_success` and `finalize_touched_operation_success` of
`workspace_transaction_operation.py` end a transaction of the workspace in one
transaction of the database: phases succeed, claims are released, runs succeed, the
lease is given up. Each statement is a function here, and so is what all of them
need and do together.

> `finalizeInConnection_iff`: one after the other, the statements do what
> `finalizeInConnection` does at once.
> `finalizeInConnection_ok`: what was needed, and what was done.
> `finalizeInConnection_succeeds`: nothing else is needed.
-/

namespace SafeFsOps

variable {φ ω : Type} {T : Transaction φ ω}

/-! ## The statements -/

/-- `require_current_lease`. -/
def checkLease (ctx : WriteContext) (w : World φ) : Except OperationError (World φ) :=
  ((requireCurrentLease w.journal ctx).mapError .journal).map fun _ => w

/-- `_update_operation_phase_status_in_connection(…, status="succeeded")`. -/
def succeedPhase (ctx : WriteContext) (w : World φ) (phase : OperationPhaseRow Payload) :
    Except OperationError (World φ) :=
  ((updateOperationPhaseStatusInConnection w.journal phase.operationPhaseId "succeeded" ctx).mapError .journal).map
    fun r => { w with journal := r.2 }

/-- `_update_operation_run_status_in_connection(…, status="succeeded")`. -/
def succeedRun (ctx : WriteContext) (w : World φ) (run : OperationRunRow Payload) :
    Except OperationError (World φ) :=
  ((updateOperationRunStatusInConnection w.journal run.operationRunId "succeeded" ctx).mapError .journal).map
    fun r => { w with journal := r.2 }

/-- `_release_claim_in_connection`, which must release. -/
def releaseExpectedClaim (T : Transaction φ ω) (w : World φ) (claim : ClaimRecord) :
    Except OperationError (World φ) := do
  let (released, claims) :=
    releaseClaimInConnection w.claims claim.resourceKey T.owner (some T.claimScope) (some claim)
  require (released = true) (.claimRelease ("claim " ++ pyRepr claim.resourceKey ++
    " could not be released for owner " ++ pyRepr T.owner))
  return { w with claims := claims }

/-- `_release_lease_in_connection`, which must release. -/
def releaseFinalLease (ctx : WriteContext) (w : World φ) : Except OperationError (World φ) := do
  let (released, leases) := releaseLease w.journal.leases ctx.lease ctx.generated ctx.now
  require (released = true) (.safeWorkspace "failed to release transaction lease")
  return { w with journal := { w.journal with leases := leases } }

/-! ## One after the other -/

theorem foldlM_succeedPhase (ctx : WriteContext) : ∀ (phases : List (OperationPhaseRow Payload)) (w : World φ),
    phases.foldlM (succeedPhase ctx) w =
      ((succeedPhases ctx w.journal phases).mapError OperationError.journal).map fun db => { w with journal := db }
  | [], w => rfl
  | phase :: rest, w => by
    rw [List.foldlM_cons, succeedPhases, succeedPhase]
    cases updateOperationPhaseStatusInConnection w.journal phase.operationPhaseId "succeeded" ctx with
    | error e => rfl
    | ok r => exact foldlM_succeedPhase ctx rest { w with journal := r.2 }

theorem foldlM_succeedRun (ctx : WriteContext) : ∀ (runs : List (OperationRunRow Payload)) (w : World φ),
    runs.foldlM (succeedRun ctx) w =
      ((succeedRuns ctx w.journal runs).mapError OperationError.journal).map fun db => { w with journal := db }
  | [], w => rfl
  | run :: rest, w => by
    rw [List.foldlM_cons, succeedRuns, succeedRun]
    cases updateOperationRunStatusInConnection w.journal run.operationRunId "succeeded" ctx with
    | error e => rfl
    | ok r => exact foldlM_succeedRun ctx rest { w with journal := r.2 }

theorem foldlM_releaseExpectedClaim (T : Transaction φ ω) : ∀ (claims : List ClaimRecord) (w : World φ),
    claims.foldlM (releaseExpectedClaim T) w = (releaseAllClaims T w.claims claims).map fun t => { w with claims := t }
  | [], w => rfl
  | claim :: rest, w => by
    rw [List.foldlM_cons, releaseAllClaims, releaseExpectedClaim]
    generalize releaseClaimInConnection w.claims claim.resourceKey T.owner (some T.claimScope) (some claim) = r
    cases r with
    | mk released t =>
      cases released with
      | false => rfl
      | true => exact foldlM_releaseExpectedClaim T rest { w with claims := t }

/-- One after the other, the statements do what `finalizeInConnection` does at once. -/
theorem finalizeInConnection_iff {s : TransactionState} {phases : List (OperationPhaseRow Payload)}
    {runs : List (OperationRunRow Payload)} {ctx : WriteContext} {w w' : World φ} :
    finalizeInConnection T s phases runs ctx w = .ok w' ↔
      ∃ w₁ w₂ w₃ : World φ, checkLease ctx w = .ok w ∧ phases.foldlM (succeedPhase ctx) w = .ok w₁ ∧
        s.claims.reverse.foldlM (releaseExpectedClaim T) w₁ = .ok w₂ ∧ runs.foldlM (succeedRun ctx) w₂ = .ok w₃ ∧
        releaseFinalLease ctx w₃ = .ok w' := by
  simp only [finalizeInConnection, checkLease, releaseFinalLease, foldlM_succeedPhase, foldlM_succeedRun,
    foldlM_releaseExpectedClaim, bind_eq_ok, pure_eq_ok, mapError_eq_ok, map_eq_ok, and_true]
  constructor
  · rintro ⟨_, hlease, db₁, hphases, claims, hclaims, db₂, hruns, _, hrelease, rfl⟩
    exact ⟨_, _, _, ⟨_, hlease⟩, ⟨db₁, hphases, rfl⟩, ⟨claims, hclaims, rfl⟩, ⟨db₂, hruns, rfl⟩, _, hrelease, rfl⟩
  · rintro ⟨_, _, _, ⟨_, hlease⟩, ⟨db₁, hphases, rfl⟩, ⟨claims, hclaims, rfl⟩, ⟨db₂, hruns, rfl⟩, _, hrelease, rfl⟩
    exact ⟨_, hlease, db₁, hphases, claims, hclaims, db₂, hruns, _, hrelease, rfl⟩

/-! ## What finalising needs, and what it does -/

/-- A row of a phase or run that may succeed: it has, or it is active. -/
def MaySucceed (status : String) : Prop := status = "active" ∨ status = "succeeded"

/-- The run exists and is bound to the lease. -/
def RunOfLease (w : World φ) (lease : LeaseRecord) (row : OperationRunRow Payload) (id : String) : Prop :=
  w.journal.operationRunRow id = some row ∧ row.leaseName = lease.name ∧ row.leaseFencingToken = lease.fencingToken

/-- The update of the run to `succeeded` does not conflict. -/
def RunMaySucceed (w : World φ) (lease : LeaseRecord) (id : String) : Prop :=
  ∃ row, RunOfLease w lease row id ∧ MaySucceed row.status

/-- The update of the phase to `succeeded` does not conflict. -/
def PhaseMaySucceed (w : World φ) (lease : LeaseRecord) (id : String) : Prop :=
  ∃ row, w.journal.operationPhaseRow id = some row ∧ MaySucceed row.status ∧
    ∃ run, RunOfLease w lease run row.operationRunId

/-- The row as which a claim of the transaction is held. -/
def Transaction.heldRow (T : Transaction φ ω) (claim : ClaimRecord) : ClaimRecord :=
  { claim with owner := T.owner, scope := some T.claimScope }

/-- A run that has succeeded, at the latest now. -/
def OperationRunRow.succeeded (now : DateTime) (r : OperationRunRow Payload) : OperationRunRow Payload :=
  if r.status = "succeeded" then r else { r with status := "succeeded", updatedAt := now }

/-- A phase that has succeeded, at the latest now. -/
def OperationPhaseRow.succeeded (now : DateTime) (r : OperationPhaseRow Payload) : OperationPhaseRow Payload :=
  if r.status = "succeeded" then r else { r with status := "succeeded", updatedAt := now }

/-- Nothing keeps the transaction from being finalised: its lease is current, every
claim is there exactly as expected, and no status conflicts. -/
structure CanFinalize (T : Transaction φ ω) (s : TransactionState) (now : DateTime)
    (phases : List (OperationPhaseRow Payload)) (runs : List (OperationRunRow Payload)) (w : World φ) : Prop where
  lease : leaseIsCurrent w.journal.leases s.lease now = true
  phases : ∀ phase ∈ phases, PhaseMaySucceed w s.lease phase.operationPhaseId
  claims : ∀ claim ∈ s.claims, w.claims.count (T.heldRow claim) = 1
  runs : ∀ run ∈ runs, RunMaySucceed w s.lease run.operationRunId

/-- Everything is finalised: the phases and runs have succeeded, the claims are gone,
the lease has expired under a new token, and the rest is as it was. -/
structure Finalized (T : Transaction φ ω) (s : TransactionState) (now : DateTime) (token : String)
    (phases : List (OperationPhaseRow Payload)) (runs : List (OperationRunRow Payload)) (w w' : World φ) : Prop where
  phases : ∀ id, w'.journal.operationPhaseRow id = (w.journal.operationPhaseRow id).map fun r =>
    if id ∈ phases.map OperationPhaseRow.operationPhaseId then r.succeeded now else r
  runs : ∀ id, w'.journal.operationRunRow id = (w.journal.operationRunRow id).map fun r =>
    if id ∈ runs.map OperationRunRow.operationRunId then r.succeeded now else r
  claims : w'.claims = w.claims.filter fun row => row ∉ s.claims.map T.heldRow
  lease : ∃ row, rowMatches w.journal.leases s.lease now = some row ∧ w'.journal.leases =
    w.journal.leases.set s.lease.name { row with token := token, heartbeatAt := now, expiresAt := now }
  rest : w' = { w with
    journal := { w.journal with
      operationPhases := w'.journal.operationPhases, operationRuns := w'.journal.operationRuns
      leases := w'.journal.leases }
    claims := w'.claims }

/-! ## The phases and the runs -/

theorem transition_succeeded {status kind : String} {u : Unit} :
    requireOperationStatusTransition status "succeeded" kind = .ok u ↔ MaySucceed status := by
  rw [requireOperationStatusTransition, require_eq_ok, MaySucceed]
  simp only [List.mem_cons, true_or, and_true]
  exact or_comm

theorem requireRunForWrite_iff {w : World φ} {id : String} {lease : LeaseRecord} {row : OperationRunRow Payload} :
    requireOperationRunForWrite w.journal id lease = .ok row ↔ RunOfLease w lease row id := by
  unfold requireOperationRunForWrite RunOfLease
  cases w.journal.operationRunRow id with
  | none => simp
  | some r =>
    simp only [bind_eq_ok, require_eq_ok, pure_eq_ok, Option.some.injEq]
    constructor
    · rintro ⟨_, hname, _, htoken, rfl⟩
      exact ⟨rfl, hname, htoken⟩
    · rintro ⟨rfl, hname, htoken⟩
      exact ⟨(), hname, (), htoken, rfl⟩

theorem OperationRunRow.succeeded_of {r : OperationRunRow Payload} {now : DateTime} (h : r.status = "succeeded") :
    r.succeeded now = r := if_pos h

theorem OperationPhaseRow.succeeded_of {r : OperationPhaseRow Payload} {now : DateTime} (h : r.status = "succeeded") :
    r.succeeded now = r := if_pos h

@[simp] theorem OperationRunRow.succeeded_status (r : OperationRunRow Payload) (now : DateTime) :
    (r.succeeded now).status = "succeeded" := by
  unfold OperationRunRow.succeeded
  split
  · assumption
  · rfl

@[simp] theorem OperationPhaseRow.succeeded_status (r : OperationPhaseRow Payload) (now : DateTime) :
    (r.succeeded now).status = "succeeded" := by
  unfold OperationPhaseRow.succeeded
  split
  · assumption
  · rfl

theorem OperationPhaseRow.succeeded_run (r : OperationPhaseRow Payload) (now : DateTime) :
    (r.succeeded now).operationRunId = r.operationRunId := by
  unfold OperationPhaseRow.succeeded
  split <;> rfl

theorem OperationRunRow.succeeded_lease (r : OperationRunRow Payload) (now : DateTime) :
    (r.succeeded now).leaseName = r.leaseName ∧ (r.succeeded now).leaseFencingToken = r.leaseFencingToken := by
  unfold OperationRunRow.succeeded
  split <;> exact ⟨rfl, rfl⟩

/-- In the second table the rows of some keys are those of the first, changed by `f`. -/
def ChangedRows {ρ : Type} (f : ρ → ρ) (ids : List String) (look look' : String → Option ρ) : Prop :=
  ∀ id, look' id = (look id).map fun r => if id ∈ ids then f r else r

section ChangedRows

variable {ρ : Type} {f g : ρ → ρ} {id : String} {ids : List String} {look look₁ look' : String → Option ρ} {row : ρ}

theorem ChangedRows.nil : ChangedRows f [] look look := by
  intro k
  simp

/-- Changing one row and then others changes them all, as long as a second change does nothing. -/
theorem ChangedRows.cons (hf : ∀ r, f (f r) = f r) (h : ChangedRows f [id] look look₁)
    (h' : ChangedRows f ids look₁ look') : ChangedRows f (id :: ids) look look' := by
  intro k
  rw [h' k, h k, Option.map_map]
  congr 1
  funext r
  by_cases hk : k = id <;> by_cases hks : k ∈ ids <;> simp [hk, hks, hf]

/-- A row that `f` would leave needs no update. -/
theorem ChangedRows.unchanged (hrow : look id = some row) (hf : f row = row) : ChangedRows f [id] look look := by
  intro k
  by_cases hk : k = id
  · rw [hk, hrow, Option.map_some, if_pos List.mem_cons_self, hf]
  · simp [hk]

theorem ChangedRows.update {key : ρ → String} {t : List ρ} (hg : ∀ r, key (g r) = key r)
    (hrow : findRow key t id = some row) (hf : f row = g row) :
    ChangedRows f [id] (findRow key t) (findRow key (updateRow key t id g)) := by
  intro k
  rw [findRow_updateRow hg]
  by_cases hk : k = id
  · rw [if_pos hk, hk, hrow, Option.map_some, Option.map_some, if_pos List.mem_cons_self, hf]
  · simp [hk]

end ChangedRows

theorem setPhaseStatus_changed {db : JournalDb Payload} {id : String} {row : OperationPhaseRow Payload} {now : DateTime}
    (hrow : db.operationPhaseRow id = some row) :
    ChangedRows (OperationPhaseRow.succeeded now) [id] db.operationPhaseRow
      (db.setPhaseStatus row "succeeded" now).2.operationPhaseRow := by
  unfold JournalDb.setPhaseStatus
  split
  · next hs => exact ChangedRows.unchanged hrow (if_pos hs)
  · next hs =>
    rw [findRow_key hrow]
    exact ChangedRows.update (fun _ => rfl) hrow (if_neg hs)

theorem setRunStatus_changed {db : JournalDb Payload} {id : String} {row : OperationRunRow Payload} {now : DateTime}
    (hrow : db.operationRunRow id = some row) :
    ChangedRows (OperationRunRow.succeeded now) [id] db.operationRunRow
      (db.setRunStatus row "succeeded" now).2.operationRunRow := by
  unfold JournalDb.setRunStatus
  split
  · next hs => exact ChangedRows.unchanged hrow (if_pos hs)
  · next hs =>
    rw [findRow_key hrow]
    exact ChangedRows.update (fun _ => rfl) hrow (if_neg hs)

theorem setPhaseStatus_rest (db : JournalDb Payload) (row : OperationPhaseRow Payload) (status : String)
    (now : DateTime) : (db.setPhaseStatus row status now).2 =
      { db with operationPhases := (db.setPhaseStatus row status now).2.operationPhases } := by
  unfold JournalDb.setPhaseStatus
  split <;> rfl

theorem setRunStatus_rest (db : JournalDb Payload) (row : OperationRunRow Payload) (status : String)
    (now : DateTime) : (db.setRunStatus row status now).2 =
      { db with operationRuns := (db.setRunStatus row status now).2.operationRuns } := by
  unfold JournalDb.setRunStatus
  split <;> rfl

/-- Nothing but the phases of these ids has changed, and those have succeeded. -/
structure PhasesSucceeded (now : DateTime) (ids : List String) (w w' : World φ) : Prop where
  rows : ChangedRows (OperationPhaseRow.succeeded now) ids w.journal.operationPhaseRow w'.journal.operationPhaseRow
  rest : w' = { w with journal := { w.journal with operationPhases := w'.journal.operationPhases } }

/-- Nothing but the runs of these ids has changed, and those have succeeded. -/
structure RunsSucceeded (now : DateTime) (ids : List String) (w w' : World φ) : Prop where
  rows : ChangedRows (OperationRunRow.succeeded now) ids w.journal.operationRunRow w'.journal.operationRunRow
  rest : w' = { w with journal := { w.journal with operationRuns := w'.journal.operationRuns } }

variable {ctx : WriteContext} {w w₁ w' : World φ} {phase : OperationPhaseRow Payload} {run : OperationRunRow Payload}
  {ids : List String} {id : String} {now : DateTime}

theorem PhasesSucceeded.cons (h : PhasesSucceeded now [id] w w₁) (h' : PhasesSucceeded now ids w₁ w') :
    PhasesSucceeded now (id :: ids) w w' where
  rows := ChangedRows.cons (fun r => OperationPhaseRow.succeeded_of (r.succeeded_status now)) h.rows h'.rows
  rest := by
    rw [h'.rest, h.rest]

theorem RunsSucceeded.cons (h : RunsSucceeded now [id] w w₁) (h' : RunsSucceeded now ids w₁ w') :
    RunsSucceeded now (id :: ids) w w' where
  rows := ChangedRows.cons (fun r => OperationRunRow.succeeded_of (r.succeeded_status now)) h.rows h'.rows
  rest := by
    rw [h'.rest, h.rest]

theorem succeedPhase_ok (h : succeedPhase ctx w phase = .ok w') :
    PhaseMaySucceed w ctx.lease phase.operationPhaseId ∧ PhasesSucceeded ctx.now [phase.operationPhaseId] w w' := by
  simp only [succeedPhase, updateOperationPhaseStatusInConnection, map_eq_ok, mapError_eq_ok] at h
  obtain ⟨r, h, rfl⟩ := h
  cases hrow : w.journal.operationPhaseRow phase.operationPhaseId with
  | none => rw [hrow] at h; cases h
  | some row =>
    simp only [hrow, bind_eq_ok, pure_eq_ok] at h
    obtain ⟨run, hrun, _, hstatus, rfl⟩ := h
    refine ⟨⟨row, hrow, transition_succeeded.1 hstatus, run, requireRunForWrite_iff.1 hrun⟩, ?_, ?_⟩
    · exact setPhaseStatus_changed hrow
    · exact congrArg (fun db => { w with journal := db }) (setPhaseStatus_rest w.journal row "succeeded" ctx.now)

theorem succeedRun_ok (h : succeedRun ctx w run = .ok w') :
    RunMaySucceed w ctx.lease run.operationRunId ∧ RunsSucceeded ctx.now [run.operationRunId] w w' := by
  simp only [succeedRun, updateOperationRunStatusInConnection, map_eq_ok, mapError_eq_ok, bind_eq_ok, pure_eq_ok] at h
  obtain ⟨r, ⟨row, hrow, _, hstatus, rfl⟩, rfl⟩ := h
  have hbound := requireRunForWrite_iff.1 hrow
  refine ⟨⟨row, hbound, transition_succeeded.1 hstatus⟩, ?_, ?_⟩
  · exact setRunStatus_changed hbound.1
  · exact congrArg (fun db => { w with journal := db }) (setRunStatus_rest w.journal row "succeeded" ctx.now)

theorem succeedPhase_succeeds (h : PhaseMaySucceed w ctx.lease phase.operationPhaseId) :
    ∃ w', succeedPhase ctx w phase = .ok w' := by
  obtain ⟨row, hrow, hstatus, run, hrun⟩ := h
  refine ⟨{ w with journal := (w.journal.setPhaseStatus row "succeeded" ctx.now).2 }, ?_⟩
  simp only [succeedPhase, updateOperationPhaseStatusInConnection, hrow, map_eq_ok, mapError_eq_ok, bind_eq_ok,
    pure_eq_ok]
  exact ⟨_, ⟨run, requireRunForWrite_iff.2 hrun, (), transition_succeeded.2 hstatus, rfl⟩, rfl⟩

theorem succeedRun_succeeds (h : RunMaySucceed w ctx.lease run.operationRunId) :
    ∃ w', succeedRun ctx w run = .ok w' := by
  obtain ⟨row, hrow, hstatus⟩ := h
  refine ⟨{ w with journal := (w.journal.setRunStatus row "succeeded" ctx.now).2 }, ?_⟩
  simp only [succeedRun, updateOperationRunStatusInConnection, map_eq_ok, mapError_eq_ok, bind_eq_ok, pure_eq_ok]
  exact ⟨_, ⟨row, requireRunForWrite_iff.2 hrow, (), transition_succeeded.2 hstatus, rfl⟩, rfl⟩

/-- Phases that succeed neither help nor hinder others to. -/
theorem PhasesSucceeded.maySucceed (lease : LeaseRecord) (h : PhasesSucceeded now ids w w')
    (hids : ∀ id ∈ ids, PhaseMaySucceed w lease id) (id : String) : PhaseMaySucceed w' lease id ↔ PhaseMaySucceed w lease id := by
  have hruns : ∀ row run, RunOfLease w' lease run row ↔ RunOfLease w lease run row := by
    intro row run
    rw [RunOfLease, h.rest]
    rfl
  unfold PhaseMaySucceed
  simp only [hruns]
  by_cases hid : id ∈ ids
  · refine iff_of_true ?_ (hids id hid)
    obtain ⟨row, hrow, -, run, hrun⟩ := hids id hid
    refine ⟨row.succeeded now, ?_, Or.inr (row.succeeded_status now), run, ?_⟩
    · rw [h.rows id, hrow, Option.map_some, if_pos hid]
    · rw [OperationPhaseRow.succeeded_run]
      exact hrun
  · rw [h.rows id]
    simp [hid]

/-- Runs that succeed neither help nor hinder others to. -/
theorem RunsSucceeded.maySucceed (lease : LeaseRecord) (h : RunsSucceeded now ids w w')
    (hids : ∀ id ∈ ids, RunMaySucceed w lease id) (id : String) : RunMaySucceed w' lease id ↔ RunMaySucceed w lease id := by
  unfold RunMaySucceed RunOfLease
  by_cases hid : id ∈ ids
  · refine iff_of_true ?_ (hids id hid)
    obtain ⟨row, ⟨hrow, hname, htoken⟩, -⟩ := hids id hid
    refine ⟨row.succeeded now, ⟨?_, ?_, ?_⟩, Or.inr (row.succeeded_status now)⟩
    · rw [h.rows id, hrow, Option.map_some, if_pos hid]
    · rw [(row.succeeded_lease now).1, hname]
    · rw [(row.succeeded_lease now).2, htoken]
  · rw [h.rows id]
    simp [hid]

/-- The loop over the phases. -/
theorem succeedPhases_ok {phases : List (OperationPhaseRow Payload)}
    (h : phases.foldlM (succeedPhase ctx) w = .ok w') :
    (∀ phase ∈ phases, PhaseMaySucceed w ctx.lease phase.operationPhaseId) ∧
      PhasesSucceeded ctx.now (phases.map OperationPhaseRow.operationPhaseId) w w' := by
  revert h
  refine foldlM_relates (R := fun phases w w' =>
    (∀ phase ∈ phases, PhaseMaySucceed w ctx.lease phase.operationPhaseId) ∧
      PhasesSucceeded ctx.now (phases.map OperationPhaseRow.operationPhaseId) w w') ?_ ?_
  · exact fun w => ⟨fun _ h => absurd h List.not_mem_nil, ChangedRows.nil, rfl⟩
  · intro phase phases w w₁ w' hround hrest
    obtain ⟨hmay, hdone⟩ := succeedPhase_ok hround
    have hsame := hdone.maySucceed ctx.lease fun id hid => List.mem_singleton.1 hid ▸ hmay
    refine ⟨?_, hdone.cons hrest.2⟩
    intro p hp
    rcases List.mem_cons.1 hp with rfl | hp
    · exact hmay
    · exact (hsame _).1 (hrest.1 p hp)

/-- The loop over the runs. -/
theorem succeedRuns_ok {runs : List (OperationRunRow Payload)} (h : runs.foldlM (succeedRun ctx) w = .ok w') :
    (∀ run ∈ runs, RunMaySucceed w ctx.lease run.operationRunId) ∧
      RunsSucceeded ctx.now (runs.map OperationRunRow.operationRunId) w w' := by
  revert h
  refine foldlM_relates (R := fun runs w w' => (∀ run ∈ runs, RunMaySucceed w ctx.lease run.operationRunId) ∧
    RunsSucceeded ctx.now (runs.map OperationRunRow.operationRunId) w w') ?_ ?_
  · exact fun w => ⟨fun _ h => absurd h List.not_mem_nil, ChangedRows.nil, rfl⟩
  · intro run runs w w₁ w' hround hrest
    obtain ⟨hmay, hdone⟩ := succeedRun_ok hround
    have hsame := hdone.maySucceed ctx.lease fun id hid => List.mem_singleton.1 hid ▸ hmay
    refine ⟨?_, hdone.cons hrest.2⟩
    intro r hr
    rcases List.mem_cons.1 hr with rfl | hr
    · exact hmay
    · exact (hsame _).1 (hrest.1 r hr)

theorem succeedPhases_succeed {phases : List (OperationPhaseRow Payload)}
    (h : ∀ phase ∈ phases, PhaseMaySucceed w ctx.lease phase.operationPhaseId) :
    ∃ w', phases.foldlM (succeedPhase ctx) w = .ok w' := by
  refine (foldlM_succeeds (f := succeedPhase ctx)
    (I := fun phases w => ∀ phase ∈ phases, PhaseMaySucceed w ctx.lease phase.operationPhaseId)
    (fun phase phases w hready => ?_) h).imp fun _ h => h.1
  obtain ⟨w₁, hw₁⟩ := succeedPhase_succeeds (hready phase List.mem_cons_self)
  obtain ⟨hmay, hdone⟩ := succeedPhase_ok hw₁
  refine ⟨w₁, hw₁, fun p hp => ?_⟩
  exact (hdone.maySucceed _ (fun id hid => List.mem_singleton.1 hid ▸ hmay) _).2 (hready p (List.mem_cons_of_mem _ hp))

theorem succeedRuns_succeed {runs : List (OperationRunRow Payload)}
    (h : ∀ run ∈ runs, RunMaySucceed w ctx.lease run.operationRunId) :
    ∃ w', runs.foldlM (succeedRun ctx) w = .ok w' := by
  refine (foldlM_succeeds (f := succeedRun ctx)
    (I := fun runs w => ∀ run ∈ runs, RunMaySucceed w ctx.lease run.operationRunId)
    (fun run runs w hready => ?_) h).imp fun _ h => h.1
  obtain ⟨w₁, hw₁⟩ := succeedRun_succeeds (hready run List.mem_cons_self)
  obtain ⟨hmay, hdone⟩ := succeedRun_ok hw₁
  refine ⟨w₁, hw₁, fun r hr => ?_⟩
  exact (hdone.maySucceed _ (fun id hid => List.mem_singleton.1 hid ▸ hmay) _).2 (hready r (List.mem_cons_of_mem _ hr))

/-! ## The claims -/

/-- A release under the transaction's owner and scope is a release of the one row it names. -/
theorem releaseMatches_held (claim row : ClaimRecord) :
    releaseMatches claim.resourceKey T.owner (some T.claimScope) (some claim) row = decide (row = T.heldRow claim) := by
  rw [releaseMatches, decide_eq_decide, Transaction.heldRow]
  simp only [Option.all_some, decide_eq_true_eq, isoformat_eq_iff]
  constructor
  · rintro ⟨hkey, howner, hscope, hdetails, hcreated, hupdated⟩
    cases row
    simp_all
  · rintro rfl
    exact ⟨rfl, rfl, rfl, rfl, rfl, rfl⟩

theorem releaseExpectedClaim_iff {claim : ClaimRecord} : releaseExpectedClaim T w claim = .ok w' ↔
    w.claims.count (T.heldRow claim) = 1 ∧
      w' = { w with claims := w.claims.filter fun row => row ≠ T.heldRow claim } := by
  have hmatch : releaseMatches claim.resourceKey T.owner (some T.claimScope) (some claim) =
      fun row => decide (row = T.heldRow claim) := funext fun row => releaseMatches_held claim row
  have hcount : w.claims.count (T.heldRow claim) = (w.claims.filter fun row => row = T.heldRow claim).length := by
    rw [List.count_eq_length_filter]
    rfl
  simp only [releaseExpectedClaim, releaseClaimInConnection, hmatch, bind_eq_ok, require_eq_ok, pure_eq_ok,
    decide_eq_true_eq, hcount]
  constructor
  · rintro ⟨_, hone, rfl⟩
    exact ⟨hone, rfl⟩
  · rintro ⟨hone, rfl⟩
    exact ⟨(), hone, rfl⟩

/-- The world without the rows of these claims. -/
def withoutClaims (T : Transaction φ ω) (claims : List ClaimRecord) (w : World φ) : World φ :=
  { w with claims := w.claims.filter fun row => row ∉ claims.map T.heldRow }

theorem withoutClaims_cons (claim : ClaimRecord) (claims : List ClaimRecord) (w : World φ) :
    withoutClaims T (claim :: claims) w =
      withoutClaims T claims { w with claims := w.claims.filter fun row => row ≠ T.heldRow claim } := by
  have hrows : (w.claims.filter fun row => row ∉ (claim :: claims).map T.heldRow) =
      (w.claims.filter fun row => row ≠ T.heldRow claim).filter fun row => row ∉ claims.map T.heldRow := by
    rw [List.filter_filter]
    refine List.filter_congr fun row _ => ?_
    simp only [List.map_cons, List.mem_cons, not_or, Bool.decide_and]
    exact Bool.and_comm _ _
  rw [withoutClaims, hrows]
  rfl

/-- The loop over the claims. -/
theorem releaseClaims_ok {claims : List ClaimRecord} (h : claims.foldlM (releaseExpectedClaim T) w = .ok w') :
    (∀ claim ∈ claims, w.claims.count (T.heldRow claim) = 1) ∧ w' = withoutClaims T claims w := by
  revert h
  refine foldlM_relates (R := fun (claims : List ClaimRecord) (w w' : World φ) =>
    (∀ claim ∈ claims, w.claims.count (T.heldRow claim) = 1) ∧ w' = withoutClaims T claims w) ?_ ?_
  · exact fun w => ⟨fun _ h => absurd h List.not_mem_nil, by simp [withoutClaims]⟩
  · intro claim claims w w₁ w' hround hrest
    obtain ⟨hone, rfl⟩ := releaseExpectedClaim_iff.1 hround
    obtain ⟨hall, hw'⟩ := hrest
    refine ⟨?_, by rw [hw', withoutClaims_cons]⟩
    intro c hc
    rcases List.mem_cons.1 hc with rfl | hc
    · exact hone
    · have hcount := hall c hc
      by_cases hsame : T.heldRow c = T.heldRow claim
      · rw [hsame]
        exact hone
      · rwa [List.count_filter (by simpa using hsame)] at hcount

theorem releaseClaims_succeed {claims : List ClaimRecord} (hkeys : (claims.map ClaimRecord.resourceKey).Nodup)
    (h : ∀ claim ∈ claims, w.claims.count (T.heldRow claim) = 1) :
    ∃ w', claims.foldlM (releaseExpectedClaim T) w = .ok w' := by
  refine (foldlM_succeeds (f := releaseExpectedClaim T)
    (I := fun claims w => (claims.map ClaimRecord.resourceKey).Nodup ∧
      ∀ claim ∈ claims, w.claims.count (T.heldRow claim) = 1)
    (fun claim claims w hready => ?_) ⟨hkeys, h⟩).imp fun _ h => h.1
  obtain ⟨hkeys, hready⟩ := hready
  rw [List.map_cons, List.nodup_cons] at hkeys
  refine ⟨_, releaseExpectedClaim_iff.2 ⟨hready claim List.mem_cons_self, rfl⟩, hkeys.2, ?_⟩
  intro c hc
  have hne : T.heldRow c ≠ T.heldRow claim := by
    intro heq
    have hkey : (T.heldRow c).resourceKey = (T.heldRow claim).resourceKey := by rw [heq]
    refine hkeys.1 ?_
    rw [show claim.resourceKey = c.resourceKey from hkey.symm]
    exact List.mem_map_of_mem hc
  rw [List.count_filter (by simpa using hne)]
  exact hready c (List.mem_cons_of_mem _ hc)

/-! ## All of it -/

variable {s : TransactionState} {phases : List (OperationPhaseRow Payload)} {runs : List (OperationRunRow Payload)}

theorem checkLease_iff : checkLease ctx w = .ok w ↔ leaseIsCurrent w.journal.leases ctx.lease ctx.now = true := by
  simp [checkLease, requireCurrentLease]

theorem releaseFinalLease_iff (ctx : WriteContext) : releaseFinalLease ctx w = .ok w' ↔
    ∃ row, rowMatches w.journal.leases ctx.lease ctx.now = some row ∧ w' = { w with journal := { w.journal with
      leases := w.journal.leases.set ctx.lease.name
        { row with token := ctx.generated, heartbeatAt := ctx.now, expiresAt := ctx.now } } } := by
  unfold releaseFinalLease releaseLease
  cases rowMatches w.journal.leases ctx.lease ctx.now with
  | none => simp only [bind_eq_ok, require_eq_ok, Bool.false_eq_true, false_and, exists_false, reduceCtorEq]
  | some row =>
    simp only [bind_eq_ok, require_eq_ok, pure_eq_ok, Option.some.injEq, exists_eq_left', true_and, exists_const]
    exact eq_comm

theorem finalizeInConnection_ok (ctx : WriteContext) (hlease : ctx.lease = s.lease)
    (h : finalizeInConnection T s phases runs ctx w = .ok w') :
    CanFinalize T s ctx.now phases runs w ∧ Finalized T s ctx.now ctx.generated phases runs w w' := by
  obtain ⟨w₁, w₂, w₃, hcheck, hphases, hclaims, hruns, hrelease⟩ := finalizeInConnection_iff.1 h
  obtain ⟨hmayPhases, hphases⟩ := succeedPhases_ok hphases
  obtain ⟨hheld, rfl⟩ := releaseClaims_ok hclaims
  obtain ⟨hmayRuns, hruns⟩ := succeedRuns_ok hruns
  obtain ⟨row, hrow, rfl⟩ := (releaseFinalLease_iff ctx).1 hrelease
  rw [hlease] at hmayPhases hmayRuns hrow
  have hleases : w₃.journal.leases = w.journal.leases := by
    rw [hruns.rest, withoutClaims, hphases.rest]
  refine ⟨⟨?_, hmayPhases, ?_, ?_⟩, ?_⟩
  · rw [← hlease]
    exact checkLease_iff.1 hcheck
  · intro claim hclaim
    have hone := hheld claim (List.mem_reverse.2 hclaim)
    rwa [hphases.rest] at hone
  · intro run hrun
    have hmay := hmayRuns run hrun
    unfold RunMaySucceed RunOfLease at hmay ⊢
    rwa [withoutClaims, hphases.rest] at hmay
  · refine ⟨?_, ?_, ?_, ⟨row, ?_, ?_⟩, ?_⟩
    · intro id
      show w₃.journal.operationPhaseRow id = _
      rw [hruns.rest, ← hphases.rows id]
      rfl
    · intro id
      show w₃.journal.operationRunRow id = _
      rw [hruns.rows id, withoutClaims, hphases.rest]
      rfl
    · show w₃.claims = _
      rw [hruns.rest, withoutClaims, hphases.rest]
      simp only [List.map_reverse, List.mem_reverse]
    · rw [← hleases]
      exact hrow
    · rw [← hleases, ← hlease]
    · rw [hruns.rest, withoutClaims, hphases.rest]

/-- Where nothing keeps it from being finalised, it is. -/
theorem finalizeInConnection_succeeds (ctx : WriteContext) (hlease : ctx.lease = s.lease)
    (hkeys : (s.claims.map ClaimRecord.resourceKey).Nodup) (h : CanFinalize T s ctx.now phases runs w) :
    ∃ w', finalizeInConnection T s phases runs ctx w = .ok w' := by
  have hcan := h
  obtain ⟨hcurrent, hmayPhases, hheld, hmayRuns⟩ := h
  rw [← hlease] at hcurrent hmayPhases hmayRuns
  obtain ⟨w₁, hw₁⟩ := succeedPhases_succeed hmayPhases
  have hdone := (succeedPhases_ok hw₁).2
  have hkeys' : (s.claims.reverse.map ClaimRecord.resourceKey).Nodup := by
    rw [List.map_reverse]
    exact List.nodup_reverse.2 hkeys
  have hheld' : ∀ claim ∈ s.claims.reverse, w₁.claims.count (T.heldRow claim) = 1 := by
    intro claim hclaim
    rw [hdone.rest]
    exact hheld claim (List.mem_reverse.1 hclaim)
  obtain ⟨w₂, hw₂⟩ := releaseClaims_succeed hkeys' hheld'
  obtain ⟨-, rfl⟩ := releaseClaims_ok hw₂
  have hmayRuns' : ∀ run ∈ runs, RunMaySucceed (withoutClaims T s.claims.reverse w₁) ctx.lease run.operationRunId := by
    intro run hrun
    have hmay := hmayRuns run hrun
    unfold RunMaySucceed RunOfLease at hmay ⊢
    rwa [withoutClaims, hdone.rest]
  obtain ⟨w₃, hw₃⟩ := succeedRuns_succeed hmayRuns'
  have hleases : w₃.journal.leases = w.journal.leases := by
    rw [(succeedRuns_ok hw₃).2.rest, withoutClaims, hdone.rest]
  obtain ⟨row, hrow⟩ := Option.isSome_iff_exists.1 hcurrent
  exact ⟨_, finalizeInConnection_iff.2 ⟨w₁, _, w₃, checkLease_iff.2 hcurrent, hw₁, hw₂, hw₃,
    (releaseFinalLease_iff ctx).2 ⟨row, hleases ▸ hrow, rfl⟩⟩⟩

end SafeFsOps
