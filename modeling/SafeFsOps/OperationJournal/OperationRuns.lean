import SafeFsOps.OperationJournal.Guards

/-!
# Operation runs and their phases

`journal_operation_runs.py` and `journal_operation_run_diagnostics.py`: a run is a
piece of work of several batches, with phases of its own; both carry a status that
only ever leaves `active`. Runs are bound to a lease once and for all; only the
terminal diagnostics may be written under a newer lease of the same name.

> `operationRuns_only`: every write here leaves the leases, the batches and all
> their records alone.
-/

namespace SafeFsOps

variable {π : Type}

/-- `_operation_run_row`. -/
def JournalDb.operationRunRow (db : JournalDb π) (operationRunId : String) : Option (OperationRunRow π) :=
  findRow OperationRunRow.operationRunId db.operationRuns operationRunId

/-- `_operation_phase_row`. -/
def JournalDb.operationPhaseRow (db : JournalDb π) (operationPhaseId : String) : Option (OperationPhaseRow π) :=
  findRow OperationPhaseRow.operationPhaseId db.operationPhases operationPhaseId

/-! ## Creating -/

/-- `_require_matching_operation_run`. -/
def requireMatchingOperationRun [DecidableEq π] (row : OperationRunRow π) (runId owner status : String)
    (payload : π) (ctx : WriteContext) : Except JournalError Unit := do
  let differs (what : String) : JournalError :=
    .batchIdempotencyMismatch ("existing operation run has different " ++ what)
  require (row.runId = runId) (differs "run_id")
  require (row.owner = owner) (differs "owner")
  require (row.leaseName = ctx.lease.name) (differs "lease_name")
  require (row.leaseFencingToken = ctx.lease.fencingToken) (differs "lease_fencing_token")
  require (row.status = status) (differs "status")
  require (row.payload = payload) (differs "payload")

/-- The primary key; where it is taken, `_raise_operation_run_integrity_error`. -/
def requireFreeRunId (db : JournalDb π) (operationRunId runId owner : String) : Except JournalError Unit :=
  match db.operationRunRow operationRunId with
  | none => .ok ()
  | some existing =>
    .error (if existing.runId ≠ runId ∨ existing.owner ≠ owner then
      .batchIdempotencyMismatch "existing operation run has different operation_run_id" else .integrity)

/-- `create_operation_run`. -/
def createOperationRun [DecidableEq π] (db : JournalDb π) (runId owner status : String) (payload : π)
    (operationRunId : Option String) (ctx : WriteContext) :
    Except JournalError (OperationRunRow π × JournalDb π) := do
  validateRequired "run_id" runId
  validateRequired "owner" owner
  validateRequired "status" status
  requireCurrentLease db ctx
  match operationRunId.bind db.operationRunRow with
  | some existing => do
    requireMatchingOperationRun existing runId owner status payload ctx
    return (existing, db)
  | none => do
    let row : OperationRunRow π :=
      ⟨newId operationRunId ctx.generated, runId, owner, ctx.lease.name, ctx.lease.fencingToken, status, payload,
        ctx.now, ctx.now⟩
    requireFreeRunId db row.operationRunId runId owner
    return (row, { db with operationRuns := db.operationRuns ++ [row] })

/-- `_require_operation_run_for_write`. -/
def requireOperationRunForWrite (db : JournalDb π) (operationRunId : String) (lease : LeaseRecord) :
    Except JournalError (OperationRunRow π) :=
  match db.operationRunRow operationRunId with
  | none => .error (.valueError ("operation_run_id " ++ pyRepr operationRunId ++ " does not exist"))
  | some row => do
    require (row.leaseName = lease.name) (.journalLeaseMismatch ("operation run " ++ pyRepr operationRunId ++
      " uses lease " ++ pyRepr row.leaseName ++ ", not " ++ pyRepr lease.name))
    require (row.leaseFencingToken = lease.fencingToken) (.journalLeaseMismatch ("operation run " ++
      pyRepr operationRunId ++ " uses fencing token " ++ toString row.leaseFencingToken ++ ", not " ++
      toString lease.fencingToken))
    return row

/-- `_require_matching_operation_phase`. -/
def requireMatchingOperationPhase [DecidableEq π] (row : OperationPhaseRow π) (status : String) (phaseOrder : Nat)
    (payload : π) (operationPhaseId : Option String) : Except JournalError Unit := do
  let differs (what : String) : JournalError :=
    .batchIdempotencyMismatch ("existing operation phase has different " ++ what)
  require (row.status = status) (differs "status")
  require (row.phaseOrder = phaseOrder) (differs "phase_order")
  require (row.payload = payload) (differs "payload")
  require (operationPhaseId.all (· = row.operationPhaseId) = true) (differs "operation_phase_id")

/-- The primary key; where it is taken, `_raise_operation_phase_integrity_error`. -/
def requireFreePhaseId (db : JournalDb π) (operationPhaseId operationRunId phaseName : String) :
    Except JournalError Unit :=
  match db.operationPhaseRow operationPhaseId with
  | none => .ok ()
  | some existing =>
    .error (if existing.operationRunId ≠ operationRunId ∨ existing.phaseName ≠ phaseName then
      .batchIdempotencyMismatch "existing operation phase has different operation_phase_id" else .integrity)

theorem requireFreePhaseId_ok {db : JournalDb π} {id runId name : String}
    (h : requireFreePhaseId db id runId name = .ok ()) : db.operationPhaseRow id = none := by
  unfold requireFreePhaseId at h
  split at h
  · assumption
  · cases h

/-- `create_operation_phase`. -/
def createOperationPhase [DecidableEq π] (db : JournalDb π) (operationRunId phaseName status : String)
    (phaseOrder : Nat) (payload : π) (operationPhaseId : Option String) (ctx : WriteContext) :
    Except JournalError (OperationPhaseRow π × JournalDb π) := do
  validateRequired "operation_run_id" operationRunId
  validateRequired "phase_name" phaseName
  validateRequired "status" status
  requireCurrentLease db ctx
  let run ← requireOperationRunForWrite db operationRunId ctx.lease
  match db.operationPhases.find? fun p => p.operationRunId = run.operationRunId ∧ p.phaseName = phaseName with
  | some existing => do
    requireMatchingOperationPhase existing status phaseOrder payload operationPhaseId
    return (existing, db)
  | none => do
    let row : OperationPhaseRow π :=
      ⟨newId operationPhaseId ctx.generated, run.operationRunId, phaseName, status, phaseOrder, payload, ctx.now,
        ctx.now⟩
    requireFreePhaseId db row.operationPhaseId operationRunId phaseName
    return (row, { db with operationPhases := db.operationPhases ++ [row] })

/-! ## Statuses -/

/-- `_require_operation_status_transition`. -/
def requireOperationStatusTransition (current next kind : String) : Except JournalError Unit :=
  require (current = next ∨ current = "active" ∧ next ∈ ["succeeded", "failed", "finalization_failed"])
    (.valueError ("cannot transition " ++ kind ++ " from " ++ pyRepr current ++ " to " ++ pyRepr next))

/-- A run under its new status. -/
def JournalDb.setRunStatus (db : JournalDb π) (row : OperationRunRow π) (status : String) (now : DateTime) :
    OperationRunRow π × JournalDb π :=
  if row.status = status then (row, db)
  else ({ row with status := status, updatedAt := now },
    { db with
      operationRuns := updateRow OperationRunRow.operationRunId db.operationRuns row.operationRunId fun r =>
        { r with status := status, updatedAt := now } })

/-- A phase under its new status. -/
def JournalDb.setPhaseStatus (db : JournalDb π) (row : OperationPhaseRow π) (status : String) (now : DateTime) :
    OperationPhaseRow π × JournalDb π :=
  if row.status = status then (row, db)
  else ({ row with status := status, updatedAt := now },
    { db with
      operationPhases := updateRow OperationPhaseRow.operationPhaseId db.operationPhases row.operationPhaseId fun r =>
        { r with status := status, updatedAt := now } })

/-- `_update_operation_run_status_in_connection`, the lease already checked. -/
def updateOperationRunStatusInConnection (db : JournalDb π) (operationRunId status : String) (ctx : WriteContext) :
    Except JournalError (OperationRunRow π × JournalDb π) := do
  let row ← requireOperationRunForWrite db operationRunId ctx.lease
  requireOperationStatusTransition row.status status "operation run"
  return db.setRunStatus row status ctx.now

/-- `_update_operation_phase_status_in_connection`, the lease already checked. -/
def updateOperationPhaseStatusInConnection (db : JournalDb π) (operationPhaseId status : String)
    (ctx : WriteContext) : Except JournalError (OperationPhaseRow π × JournalDb π) :=
  match db.operationPhaseRow operationPhaseId with
  | none => .error (.valueError ("operation_phase_id " ++ pyRepr operationPhaseId ++ " does not exist"))
  | some row => do
    let _ ← requireOperationRunForWrite db row.operationRunId ctx.lease
    requireOperationStatusTransition row.status status "operation phase"
    return db.setPhaseStatus row status ctx.now

/-- `update_operation_run_status`. -/
def updateOperationRunStatus (db : JournalDb π) (operationRunId status : String) (ctx : WriteContext) :
    Except JournalError (OperationRunRow π × JournalDb π) := do
  requireCurrentLease db ctx
  updateOperationRunStatusInConnection db operationRunId status ctx

/-- `update_operation_phase_status`. -/
def updateOperationPhaseStatus (db : JournalDb π) (operationPhaseId status : String) (ctx : WriteContext) :
    Except JournalError (OperationPhaseRow π × JournalDb π) := do
  requireCurrentLease db ctx
  updateOperationPhaseStatusInConnection db operationPhaseId status ctx

/-! ## Terminal diagnostics -/

/-- `_require_operation_run_for_terminal_diagnostic`: a newer lease will do. -/
def requireOperationRunForTerminalDiagnostic (db : JournalDb π) (operationRunId : String) (lease : LeaseRecord) :
    Except JournalError (OperationRunRow π) :=
  match db.operationRunRow operationRunId with
  | none => .error (.valueError ("operation_run_id " ++ pyRepr operationRunId ++ " does not exist"))
  | some row => do
    require (row.leaseName = lease.name) (.journalLeaseMismatch ("operation run " ++ pyRepr operationRunId ++
      " uses lease " ++ pyRepr row.leaseName ++ ", not " ++ pyRepr lease.name))
    require (row.leaseFencingToken ≤ lease.fencingToken) (.journalLeaseMismatch ("operation run " ++
      pyRepr operationRunId ++ " uses newer fencing token " ++ toString row.leaseFencingToken))
    return row

/-- `_require_operation_terminal_diagnostic_transition`. -/
def requireTerminalDiagnosticTransition (current next kind : String) : Except JournalError Unit :=
  require (current = next ∨ (next = "failed" ∧ current = "active") ∨
      (next = "finalization_failed" ∧ current ∈ ["active", "succeeded"]))
    (.valueError ("cannot record terminal diagnostic for " ++ kind ++ " from " ++ pyRepr current ++ " to " ++
      pyRepr next))

/-- `record_operation_run_terminal_diagnostic`. -/
def recordOperationRunTerminalDiagnostic (db : JournalDb π) (operationRunId status : String) (ctx : WriteContext) :
    Except JournalError (OperationRunRow π × JournalDb π) := do
  requireCurrentLease db ctx
  let row ← requireOperationRunForTerminalDiagnostic db operationRunId ctx.lease
  requireTerminalDiagnosticTransition row.status status "operation run"
  return db.setRunStatus row status ctx.now

/-- `record_operation_phase_terminal_diagnostic`. -/
def recordOperationPhaseTerminalDiagnostic (db : JournalDb π) (operationPhaseId status : String)
    (ctx : WriteContext) : Except JournalError (OperationPhaseRow π × JournalDb π) := do
  requireCurrentLease db ctx
  match db.operationPhaseRow operationPhaseId with
  | none => .error (.valueError ("operation_phase_id " ++ pyRepr operationPhaseId ++ " does not exist"))
  | some row => do
    let _ ← requireOperationRunForTerminalDiagnostic db row.operationRunId ctx.lease
    requireTerminalDiagnosticTransition row.status status "operation phase"
    return db.setPhaseStatus row status ctx.now

/-! ## What these writes leave alone -/

/-- Nothing but the tables of runs and phases has changed. -/
def OnlyOperationRuns (db db' : JournalDb π) : Prop :=
  db' = { db with operationRuns := db'.operationRuns, operationPhases := db'.operationPhases }

theorem setRunStatus_only (db : JournalDb π) (row : OperationRunRow π) (status : String) (now : DateTime) :
    OnlyOperationRuns db (db.setRunStatus row status now).2 := by
  unfold JournalDb.setRunStatus
  split <;> rfl

theorem setPhaseStatus_only (db : JournalDb π) (row : OperationPhaseRow π) (status : String) (now : DateTime) :
    OnlyOperationRuns db (db.setPhaseStatus row status now).2 := by
  unfold JournalDb.setPhaseStatus
  split <;> rfl

section Only

variable {db db' : JournalDb π} {ctx : WriteContext} {id status : String} {run : OperationRunRow π}
  {phase : OperationPhaseRow π}

theorem updateRunInConnection_only (h : updateOperationRunStatusInConnection db id status ctx = .ok (run, db')) :
    OnlyOperationRuns db db' := by
  simp only [updateOperationRunStatusInConnection, bind_eq_ok, pure_eq_ok] at h
  obtain ⟨row, -, _, -, h⟩ := h
  have hdb : (db.setRunStatus row status ctx.now).2 = db' := congrArg Prod.snd h
  exact hdb ▸ setRunStatus_only db row status ctx.now

theorem updatePhaseInConnection_only
    (h : updateOperationPhaseStatusInConnection db id status ctx = .ok (phase, db')) : OnlyOperationRuns db db' := by
  unfold updateOperationPhaseStatusInConnection at h
  split at h
  · cases h
  · next row _ =>
    simp only [bind_eq_ok, pure_eq_ok] at h
    obtain ⟨_, -, _, -, h⟩ := h
    have hdb : (db.setPhaseStatus row status ctx.now).2 = db' := congrArg Prod.snd h
    exact hdb ▸ setPhaseStatus_only db row status ctx.now

theorem updateRun_only (h : updateOperationRunStatus db id status ctx = .ok (run, db')) :
    OnlyOperationRuns db db' := by
  simp only [updateOperationRunStatus, bind_eq_ok] at h
  obtain ⟨_, -, h⟩ := h
  exact updateRunInConnection_only h

theorem updatePhase_only (h : updateOperationPhaseStatus db id status ctx = .ok (phase, db')) :
    OnlyOperationRuns db db' := by
  simp only [updateOperationPhaseStatus, bind_eq_ok] at h
  obtain ⟨_, -, h⟩ := h
  exact updatePhaseInConnection_only h

theorem runDiagnostic_only (h : recordOperationRunTerminalDiagnostic db id status ctx = .ok (run, db')) :
    OnlyOperationRuns db db' := by
  simp only [recordOperationRunTerminalDiagnostic, bind_eq_ok, pure_eq_ok] at h
  obtain ⟨_, -, row, -, _, -, h⟩ := h
  have hdb : (db.setRunStatus row status ctx.now).2 = db' := congrArg Prod.snd h
  exact hdb ▸ setRunStatus_only db row status ctx.now

theorem phaseDiagnostic_only (h : recordOperationPhaseTerminalDiagnostic db id status ctx = .ok (phase, db')) :
    OnlyOperationRuns db db' := by
  simp only [recordOperationPhaseTerminalDiagnostic, bind_eq_ok] at h
  obtain ⟨_, -, h⟩ := h
  split at h
  · cases h
  · next row _ =>
    simp only [bind_eq_ok, pure_eq_ok] at h
    obtain ⟨_, -, _, -, h⟩ := h
    have hdb : (db.setPhaseStatus row status ctx.now).2 = db' := congrArg Prod.snd h
    exact hdb ▸ setPhaseStatus_only db row status ctx.now

variable [DecidableEq π]

theorem createOperationRun_only {runId owner : String} {payload : π} {given : Option String}
    (h : createOperationRun db runId owner status payload given ctx = .ok (run, db')) : OnlyOperationRuns db db' := by
  simp only [createOperationRun, bind_eq_ok] at h
  obtain ⟨_, -, _, -, _, -, _, -, h⟩ := h
  split at h
  · simp only [bind_eq_ok, pure_eq_ok, Prod.mk.injEq] at h
    obtain ⟨_, -, -, rfl⟩ := h
    rfl
  · simp only [bind_eq_ok, pure_eq_ok, Prod.mk.injEq] at h
    obtain ⟨_, -, -, rfl⟩ := h
    rfl

theorem createOperationPhase_only {name : String} {order : Nat} {payload : π} {given : Option String}
    (h : createOperationPhase db id name status order payload given ctx = .ok (phase, db')) :
    OnlyOperationRuns db db' := by
  simp only [createOperationPhase, bind_eq_ok] at h
  obtain ⟨_, -, _, -, _, -, _, -, _, -, h⟩ := h
  split at h
  · simp only [bind_eq_ok, pure_eq_ok, Prod.mk.injEq] at h
    obtain ⟨_, -, -, rfl⟩ := h
    rfl
  · simp only [bind_eq_ok, pure_eq_ok, Prod.mk.injEq] at h
    obtain ⟨_, -, -, rfl⟩ := h
    rfl

end Only

end SafeFsOps
