import SafeFsOps.OperationJournal.Guards

/-!
# Writes to a batch

`operation_journal/journal_batch.py`: creating a batch under an idempotency key,
starting it, appending operations and checkpoints, and the transitions a worker
makes. Each is the body of one transaction: it answers with the row it wrote and
the database it leaves, or raises, and then nothing of it remains.

A batch is *created* at most once per idempotency key and *started* at most once:
`create_batch` answers a replay with the stored row, and `start_batch_operation`
wants a planned batch without journal records and leaves an attempting one.
-/

namespace SafeFsOps

variable {π : Type}

/-- The arguments of `create_batch` that a replay has to repeat. -/
structure BatchRequest (π : Type) where
  idempotencyKey : String
  owner : String
  runId : String
  operationRunId : Option String
  operationPhaseId : Option String
  resourceKey : Option String
  claimOwner : Option String
  claimScope : Option String
  payload : Option π

/-- `_require_active_operation_link_status`. -/
def requireActiveOperationLinkStatus (kind recordId status : String) : Except JournalError Unit :=
  require (status = "active")
    (.valueError (kind ++ " " ++ pyRepr recordId ++ " status " ++ pyRepr status ++ " is terminal"))

/-- The row an optional link names, or `ValueError`. -/
def requireLinkedRow {ρ : Type} (row : Option ρ) (kind recordId : String) : Except JournalError ρ :=
  match row with
  | some r => .ok r
  | none => .error (.valueError (kind ++ " " ++ pyRepr recordId ++ " does not exist"))

/-- `_require_valid_batch_operation_links`. -/
def requireValidBatchOperationLinks (db : JournalDb π) (req : BatchRequest π) : Except JournalError Unit :=
  match req.operationRunId with
  | none => require (req.operationPhaseId = none) (.valueError "operation_phase_id requires operation_run_id")
  | some runId => do
    let run ← requireLinkedRow (findRow OperationRunRow.operationRunId db.operationRuns runId)
      "operation_run_id" runId
    require (run.runId = req.runId)
      (.valueError ("operation_run_id " ++ pyRepr runId ++ " belongs to run_id " ++ pyRepr run.runId))
    require (run.owner = req.owner)
      (.valueError ("operation_run_id " ++ pyRepr runId ++ " belongs to owner " ++ pyRepr run.owner))
    requireActiveOperationLinkStatus "operation_run_id" runId run.status
    match req.operationPhaseId with
    | none => return ()
    | some phaseId =>
      let phase ← requireLinkedRow (findRow OperationPhaseRow.operationPhaseId db.operationPhases phaseId)
        "operation_phase_id" phaseId
      require (phase.operationRunId = runId) (.valueError ("operation_phase_id " ++ pyRepr phaseId ++
        " belongs to operation_run_id " ++ pyRepr phase.operationRunId))
      requireActiveOperationLinkStatus "operation_phase_id" phaseId phase.status

/-- The columns in which a replay differs from the stored batch, in order. -/
def idempotencyMismatches [JournalPayload π] [DecidableEq π] (row : BatchRow π) (req : BatchRequest π) :
    List String :=
  (if row.owner = req.owner then [] else ["owner"]) ++
  (if row.runId = req.runId then [] else ["run_id"]) ++
  (if row.operationRunId = req.operationRunId then [] else ["operation_run_id"]) ++
  (if row.operationPhaseId = req.operationPhaseId then [] else ["operation_phase_id"]) ++
  (if row.resourceKey = req.resourceKey then [] else ["resource_key"]) ++
  (if row.claimOwner = req.claimOwner then [] else ["claim_owner"]) ++
  (if row.claimScope = req.claimScope then [] else ["claim_scope"]) ++
  (if row.payload = payloadToJson req.payload then [] else ["payload"])

/-- `_require_matching_idempotent_batch`. -/
def requireMatchingIdempotentBatch [JournalPayload π] [DecidableEq π] (row : BatchRow π)
    (req : BatchRequest π) (ctx : WriteContext) : Except JournalError Unit := do
  require (row.leaseName = ctx.lease.name)
    (.batchIdempotencyMismatch "idempotency key is bound to a different lease name")
  require (idempotencyMismatches row req = []) (.batchIdempotencyMismatch
    ("idempotency key is already bound to a different request: " ++
      ", ".intercalate (idempotencyMismatches row req)))

/-- The row `create_batch` inserts. -/
def newBatchRow [JournalPayload π] (db : JournalDb π) (req : BatchRequest π) (batchId : Option String)
    (ctx : WriteContext) : BatchRow π where
  storageOrder := (db.batches.map BatchRow.storageOrder).foldl max 0 + 1
  batchId := newId batchId ctx.generated
  idempotencyKey := req.idempotencyKey
  leaseName := ctx.lease.name
  leaseOwner := some ctx.lease.owner
  leaseFencingToken := ctx.lease.fencingToken
  leaseTokenDigest := some (leaseTokenDigest ctx.lease)
  owner := req.owner
  runId := req.runId
  operationRunId := req.operationRunId
  operationPhaseId := req.operationPhaseId
  resourceKey := req.resourceKey
  claimOwner := req.claimOwner
  claimScope := req.claimScope
  phase := .planned
  payload := payloadToJson req.payload
  statusMessage := none
  statusPayload := payloadToJson none
  createdAt := ctx.now
  updatedAt := ctx.now

/-- `OperationJournalStore.create_batch`. -/
def createBatch [JournalPayload π] [DecidableEq π] (db : JournalDb π) (req : BatchRequest π)
    (batchId : Option String) (ctx : WriteContext) : Except JournalError (BatchRow π × JournalDb π) := do
  validateRequired "idempotency_key" req.idempotencyKey
  validateRequired "owner" req.owner
  validateRequired "run_id" req.runId
  requireCurrentLease db ctx
  match db.batchRowByIdempotencyKey req.idempotencyKey with
  | some existing =>
    requireMatchingIdempotentBatch existing req ctx
    return (existing, db)
  | none =>
    requireValidBatchOperationLinks db req
    let row := newBatchRow db req batchId ctx
    require ((db.batchRow row.batchId).isNone = true) .integrity
    return (row, { db with batches := db.batches ++ [row] })

/-- Insert an operation record. -/
def insertOperation (db : JournalDb π) (r : OperationRow π) : Except JournalError (JournalDb π) := do
  let operations ← insertRow db.operations r JournalError.integrity
  return { db with operations := operations }

/-- The operation record of an append or a start. -/
def newOperationRow [JournalPayload π] (db : JournalDb π) (batchId operationType : String)
    (resourceKey : Option String) (payload : Option π) (operationId : Option String) (ctx : WriteContext) :
    OperationRow π where
  operationId := newId operationId ctx.generated
  batchId := batchId
  sequence := db.nextSequence batchId
  operationType := operationType
  resourceKey := resourceKey
  payload := payloadToJson payload
  createdAt := ctx.now

/-- `OperationJournalStore.append_operation`. -/
def appendOperation [JournalPayload π] (db : JournalDb π) (batchId operationType : String)
    (resourceKey : Option String) (payload : Option π) (operationId : Option String) (ctx : WriteContext) :
    Except JournalError (OperationRow π × JournalDb π) := do
  validateRequired "batch_id" batchId
  validateRequired "operation_type" operationType
  let row ← requireBatchForWrite db batchId ctx
  requireBatchResourceKey row resourceKey "operation append"
  requireAppendablePhase row.phase
  let operation := newOperationRow db batchId operationType resourceKey payload operationId ctx
  let db ← insertOperation db operation
  return (operation, db)

/-- `OperationJournalStore.start_batch_operation`: a batch of an older lease is
bound to the caller's first. -/
def startBatchOperation [JournalPayload π] (db : JournalDb π) (batchId operationType : String)
    (resourceKey : Option String) (payload : Option π) (operationId : Option String)
    (statusPayload : Option π) (ctx : WriteContext) :
    Except JournalError (BatchRow π × OperationRow π × JournalDb π) := do
  validateRequired "batch_id" batchId
  validateRequired "operation_type" operationType
  requireCurrentLease db ctx
  let row ← requireBatchRow db batchId
  requireStartableBatch db row resourceKey ctx
  let bound :=
    if row.leaseFencingToken = ctx.lease.fencingToken then db
    else db.updateBatch batchId fun r => r.bindLease ctx
  let operation := newOperationRow db batchId operationType resourceKey payload operationId ctx
  let status := statusPayload.getD (JournalPayload.startedOperation operation.operationId)
  let db ← insertOperation bound operation
  let db := db.updateBatch batchId fun r => r.setPhase .attempting none status ctx.now
  let updated ← requireBatchRow db batchId
  return (updated, operation, db)

/-- The operation a checkpoint names must be of its batch and resource. -/
def requireCheckpointOperation (db : JournalDb π) (batchId resourceKey : String)
    (operationId : Option String) : Except JournalError Unit :=
  match operationId with
  | none => .ok ()
  | some id => do
    let operation ← requireLinkedRow (db.operationRow id) "operation_id" id
    require (operation.batchId = batchId)
      (.valueError ("operation_id " ++ pyRepr id ++ " belongs to a different batch"))
    require (operation.resourceKey = some resourceKey) (.valueError ("operation_id " ++ pyRepr id ++
      " uses resource_key " ++ pyReprOpt operation.resourceKey ++ ", not " ++ pyRepr resourceKey))

/-- The guard of `record_checkpoint`: a worker's checkpoint wants an appendable
batch, one of a recovery attempt wants that attempt active. -/
def requireBatchForCheckpoint [JournalPayload π] (db : JournalDb π) (batchId : String)
    (recoveryAttemptId : Option String) (ctx : WriteContext) :
    Except JournalError (BatchRow π × JournalDb π) :=
  match recoveryAttemptId with
  | none => do
    let row ← requireBatchForWrite db batchId ctx
    requireAppendablePhase row.phase
    return (row, db)
  | some attemptId => do
    let (row, db) ← requireBatchForRecoveryActionWrite db batchId ctx
    let _ ← requireActiveRecoveryAttempt db batchId (some attemptId)
    return (row, db)

/-- `OperationJournalStore.record_checkpoint`. -/
def recordCheckpoint [JournalPayload π] (db : JournalDb π) (batchId resourceKey checkpointType : String)
    (payload : Option π) (operationId checkpointId recoveryAttemptId : Option String) (ctx : WriteContext) :
    Except JournalError (CheckpointRow π × JournalDb π) := do
  validateRequired "batch_id" batchId
  validateRequired "resource_key" resourceKey
  validateRequired "checkpoint_type" checkpointType
  let (row, db) ← requireBatchForCheckpoint db batchId recoveryAttemptId ctx
  requireBatchResourceKey row (some resourceKey) "checkpoint record"
  requireCheckpointOperation db batchId resourceKey operationId
  let checkpoint : CheckpointRow π :=
    { checkpointId := newId checkpointId ctx.generated
      batchId := batchId
      sequence := db.nextSequence batchId
      operationId := operationId
      resourceKey := resourceKey
      checkpointType := checkpointType
      payload := payloadToJson payload
      createdAt := ctx.now }
  let checkpoints ← insertRow db.checkpoints checkpoint JournalError.integrity
  return (checkpoint, { db with checkpoints := checkpoints })

/-- `_transition_batch`. -/
def transitionBatch [JournalPayload π] (db : JournalDb π) (batchId : String) (phase : BatchPhase)
    (statusMessage : Option String) (statusPayload : Option π) (ctx : WriteContext) :
    Except JournalError (BatchRow π × JournalDb π) := do
  validateRequired "batch_id" batchId
  let row ← requireBatchForWrite db batchId ctx
  requireValidTransition row.phase phase
  let db := db.updateBatch batchId fun r =>
    r.setPhase phase statusMessage (payloadToJson statusPayload) ctx.now
  let updated ← requireBatchRow db batchId
  return (updated, db)

/-- `OperationJournalStore.mark_attempting`. -/
def markAttempting [JournalPayload π] (db : JournalDb π) (batchId : String) (payload : Option π)
    (ctx : WriteContext) : Except JournalError (BatchRow π × JournalDb π) :=
  transitionBatch db batchId .attempting none payload ctx

/-- `OperationJournalStore.mark_succeeded`. -/
def markSucceeded [JournalPayload π] (db : JournalDb π) (batchId : String) (result : Option π)
    (ctx : WriteContext) : Except JournalError (BatchRow π × JournalDb π) :=
  transitionBatch db batchId .succeeded none result ctx

/-- `OperationJournalStore.mark_failed`. -/
def markFailed [JournalPayload π] (db : JournalDb π) (batchId error : String) (observedState : Option π)
    (ctx : WriteContext) : Except JournalError (BatchRow π × JournalDb π) := do
  validateRequired "error" error
  transitionBatch db batchId .failed (some error) observedState ctx

end SafeFsOps
