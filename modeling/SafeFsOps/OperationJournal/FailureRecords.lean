import SafeFsOps.OperationJournal.Coordinator

/-!
# Journal writes of a coordinator, and what it records about failures

The journal methods as steps of a caller's program, and
`operation_journal/filesystem_failure_records.py`: when a mutation fails, the
coordinator looks at the disk, records what it sees, marks the batch failed and
puts it up for recovery; where the lease is lost on the way, it leaves the
lease-lost marker instead.
-/

namespace SafeFsOps

variable {φ ω α : Type}

/-! ## Journal writes -/

/-- The request of `create_batch` as every mutation makes it. -/
def Caller.batchRequest (c : Caller) (resourceKey : String) (intent : Intent) : BatchRequest Payload where
  idempotencyKey := c.idempotencyKey
  owner := c.owner
  runId := c.runId
  operationRunId := c.operationRunId
  operationPhaseId := c.operationPhaseId
  resourceKey := some resourceKey
  claimOwner := some c.owner
  claimScope := c.claimScope
  payload := some (.intent intent)

/-- `create_batch` -/
def createBatchStep (c : Caller) (resourceKey : String) (intent : Intent) : Op φ ω (BatchRow Payload) :=
  journalWrite c.toLeaseHolder fun db ctx => createBatch db (c.batchRequest resourceKey intent) none ctx

/-- `start_batch_operation`, entered into the history when it succeeds. -/
def startBatchOperationStep (c : Caller) (batchId : String) (operationType : OperationType)
    (resourceKey : String) (intent : Intent) : Op φ ω (BatchRow Payload × OperationRow Payload) :=
  transaction fun i w =>
    match startBatchOperation w.journal batchId operationType.text (some resourceKey)
        (some (Payload.intent intent)) none none (c.context i) with
    | .ok (batch, operation, db) =>
      .ok ((batch, operation),
        { w with journal := db, history := w.history ++ [.started c.idempotencyKey w.journal db] })
    | .error e => .error (.journal e)

/-- `record_checkpoint` -/
def recordCheckpointStep (h : LeaseHolder) (batchId resourceKey checkpointType : String) (payload : Payload)
    (operationId : Option String) : Op φ ω (CheckpointRow Payload) :=
  journalWrite h fun db ctx =>
    recordCheckpoint db batchId resourceKey checkpointType (some payload) operationId none none ctx

/-- `mark_succeeded` -/
def markSucceededStep (h : LeaseHolder) (batchId : String) (result : Payload) : Op φ ω (BatchRow Payload) :=
  journalWrite h fun db ctx => markSucceeded db batchId (some result) ctx

/-- `mark_failed` -/
def markFailedStep (h : LeaseHolder) (batchId error : String) (observedState : Payload) :
    Op φ ω (BatchRow Payload) :=
  journalWrite h fun db ctx => markFailed db batchId error (some observedState) ctx

/-- `record_recovery_desired` -/
def recordRecoveryDesiredStep (h : LeaseHolder) (batchId : String) (reason : String) (payload : Payload) :
    Op φ ω (RecoveryRow Payload) :=
  journalWrite h fun db ctx => recordRecoveryDesired db batchId ⟨some reason, some payload, none⟩ ctx

/-- `record_lease_lost_recovery_desired` -/
def recordLeaseLostRecoveryDesiredStep (h : LeaseHolder) (batchId resourceKey reason : String) (payload : Payload) :
    Op φ ω (RecoveryRow Payload) :=
  journalWrite h fun db ctx =>
    recordLeaseLostRecoveryDesired db batchId (some resourceKey) ⟨some reason, some payload, none⟩ ctx

/-- `record_interrupted_recovery_desired` -/
def recordInterruptedRecoveryDesiredStep (h : LeaseHolder) (batchId : String) (resourceKey : Option String)
    (reason : String) (payload : Payload) : Op φ ω (RecoveryRow Payload) :=
  journalWrite h fun db ctx =>
    recordInterruptedRecoveryDesired db batchId resourceKey ⟨some reason, some payload, none⟩ ctx

/-- `record_artifact_cleanup_planned` -/
def recordArtifactCleanupPlannedStep (h : LeaseHolder) (batchId artifactId : String)
    (trigger : ArtifactCleanupTrigger) (resourceKey : Option String) (payload : Payload) :
    Op φ ω (ArtifactCleanupRow Payload) :=
  journalWrite h fun db ctx =>
    recordArtifactCleanupPlanned db batchId artifactId trigger resourceKey (some payload) none ctx

/-- The transitions of an artifact cleanup. -/
def transitionArtifactCleanupStep (h : LeaseHolder) (batchId artifactId : String) (status : ArtifactCleanupStatus)
    (reason : Option String) (payload : Payload) : Op φ ω (ArtifactCleanupRow Payload) :=
  journalWrite h fun db ctx =>
    transitionArtifactCleanup db batchId artifactId status reason (some payload) none ctx

/-- `get_batch` -/
def getBatch (batchId : String) : Op φ ω (Option (BatchRow Payload)) :=
  databaseRead fun _ w => .ok (w.journal.batchRow batchId)

/-! ## Failures -/

/-- `_record_interrupted_if_taken_over`: only a newer lease of the same name speaks
up, and only for a batch that was planned or attempted. -/
def recordInterruptedIfTakenOver (c : Caller) (batch : BatchRow Payload) (resourceKey reason : String) :
    Op φ ω Unit :=
  if batch.leaseName ≠ c.lease.name ∨ c.lease.fencingToken ≤ batch.leaseFencingToken then .ret ()
  else if batch.phase ≠ .planned ∧ batch.phase ≠ .attempting then .ret ()
  else do
    let _ ← recordInterruptedRecoveryDesiredStep c batch.batchId (some resourceKey) reason
      (.interrupted resourceKey ⟨batch.leaseName, batch.leaseFencingToken⟩ ⟨c.lease.name, c.lease.fencingToken⟩)
    return ()

/-- A snapshot for a failure record: what is there, or why it cannot be seen. -/
def snapshotOutcome (C : Coordinator φ ω) (path : Path) :
    Op φ ω (Except OperationError ResourceSnapshot) :=
  (fsRead fun o fs => C.ops.snapshot o fs path).outcome

/-- What a failure record says of an error. -/
def failurePayload (path : Path) (resourceKey : String) (stage : Option String) (error : OperationError) :
    FailurePayload where
  path := path
  resourceKey := some resourceKey
  stage := stage
  errorType := some error.className
  error := some error.text
  snapshot := none
  snapshotError := none
  after := none

/-- Put the failed batch up for recovery, the lease-lost marker standing in. -/
def recordFailure (c : Caller) (batchId resourceKey error reason : String) (failure : FailurePayload)
    (details : RecoveryDetails) : Op φ ω Unit :=
  let lost : Op φ ω Unit := do
    let _ ← recordLeaseLostRecoveryDesiredStep c batchId resourceKey reason (.recovery details)
    return ()
  unlessLeaseLost (markFailedStep c batchId error (.failed failure)) lost <|
    unlessLeaseLost (recordRecoveryDesiredStep c batchId reason (.recovery details)) lost (.ret ())

/-- `_record_mutation_failure`. -/
def recordMutationFailure (C : Coordinator φ ω) (c : Caller) (batchId : String) (path : Path)
    (resourceKey : String) (before : ResourceSnapshot) (recovery : RecoveryDetails) (stage : Option String)
    (error : OperationError) : Op φ ω Unit := do
  let seen ← snapshotOutcome C path
  let base := failurePayload path resourceKey stage error
  let failure : FailurePayload :=
    match seen with
    | .ok snapshot => { base with snapshot := some snapshot }
    | .error e => { base with snapshotError := some (e.className, e.text) }
  let details : RecoveryDetails :=
    { recovery with resourceKey := some resourceKey, before := some before, failure := some failure }
  let record := recordFailure c batchId resourceKey error.text "filesystem mutation failed" failure details
  match seen with
  | .error _ => record
  | .ok snapshot =>
    unlessLeaseLost (recordCheckpointStep c batchId resourceKey "failure" (.snapshot snapshot none) none)
      (do
        let _ ← recordLeaseLostRecoveryDesiredStep c batchId resourceKey "filesystem mutation failed"
          (.recovery details)
        return ())
      record

/-- `_record_before_snapshot_failure`. -/
def recordBeforeSnapshotFailure (c : Caller) (batchId : String) (path : Path) (resourceKey : String)
    (recovery : RecoveryDetails) (error : OperationError) : Op φ ω Unit :=
  let failure := failurePayload path resourceKey (some "before_snapshot") error
  recordFailure c batchId resourceKey error.text "filesystem before-snapshot failed" failure
    { recovery with resourceKey := some resourceKey, failure := some failure }

/-- A failure record with what was there afterwards: the snapshot already taken, or
a new one. -/
def afterPayload (C : Coordinator φ ω) (path : Path) (after : Option ResourceSnapshot) (base : FailurePayload) :
    Op φ ω FailurePayload :=
  match after with
  | some snapshot => return { base with after := some snapshot }
  | none => do
    let seen ← snapshotOutcome C path
    match seen with
    | .ok snapshot => return { base with after := some snapshot }
    | .error e => return { base with snapshotError := some (e.className, e.text) }

/-- `_record_post_mutation_failure`. -/
def recordPostMutationFailure (C : Coordinator φ ω) (c : Caller) (batchId : String) (path : Path)
    (resourceKey : String) (before : ResourceSnapshot) (after : Option ResourceSnapshot)
    (recovery : RecoveryDetails) (stage : String) (error : OperationError) : Op φ ω Unit := do
  let failure ← afterPayload C path after (failurePayload path resourceKey (some stage) error)
  recordFailure c batchId resourceKey ("filesystem post-mutation journal failed during " ++ stage)
    "filesystem post-mutation journal failed" failure
    { recovery with resourceKey := some resourceKey, before := some before, failure := some failure }

end SafeFsOps
