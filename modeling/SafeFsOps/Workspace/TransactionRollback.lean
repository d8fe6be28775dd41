import SafeFsOps.Workspace.TransactionState

/-!
# Rolling a transaction back

The transaction half of `workspace_rollback.py`: when the body of an automatic
transaction raises, all batches of the instance that were started are put up for
recovery and recovered, newest first; when it does not, those that were left
failed are. A batch that only read is left alone, and one without the records its
undoing needs is *unsupported*, and counts as a failure without being tried.

At the end of a transaction that succeeded, the artifacts of its batches are
cleaned up (`cleanupCommittedArtifacts`).
-/

namespace SafeFsOps

variable {φ ω : Type}

/-! ## Which batches can be rolled back -/

/-- A checkpoint of the batch's resource, of the type given, of which `p` holds. -/
def hasCheckpoint (batch : BatchRow Payload) (checkpoints : List (CheckpointRow Payload)) (checkpointType : String)
    (p : ResourceSnapshot → Bool) : Bool :=
  checkpoints.any fun c => some c.resourceKey = batch.resourceKey ∧ c.checkpointType = checkpointType ∧
    (c.payload.snapshot?.any p) = true

/-- There was nothing before. -/
def beforeMissing (batch : BatchRow Payload) (checkpoints : List (CheckpointRow Payload)) : Bool :=
  hasCheckpoint batch checkpoints "before" fun s => s.pathExists = false

/-- A directory with a known identity. -/
def showsDirectory (s : ResourceSnapshot) : Bool := (directoryIdentityOf s).isSome

/-- `_has_direct_mkdir_success_rollback_proof`. -/
def hasMkdirSuccessProof (batch : BatchRow Payload) (checkpoints : List (CheckpointRow Payload)) : Bool :=
  beforeMissing batch checkpoints && hasCheckpoint batch checkpoints "after" showsDirectory

/-- `_has_direct_mkdir_failure_created_rollback_proof`. -/
def hasMkdirFailureCreatedProof (batch : BatchRow Payload) (checkpoints : List (CheckpointRow Payload)) : Bool :=
  beforeMissing batch checkpoints && hasCheckpoint batch checkpoints "failure" showsDirectory

/-- `_has_direct_failed_mkdir_noop_proof`. -/
def hasMkdirNoopProof (batch : BatchRow Payload) (checkpoints : List (CheckpointRow Payload)) : Bool :=
  beforeMissing batch checkpoints && hasCheckpoint batch checkpoints "failure" fun s => s.pathExists = false

/-- `_is_rollback_capable_recursive_step`. -/
def isRollbackCapableStep (step : CreatedStep) : Bool :=
  step.ownershipClass = "created_by_transaction" ∧ step.cleanupPolicy = "owned_empty_directory_safe_ish" ∧
    step.backendGuarantee = "identity_conditional_remove"

/-- `list_recovery_records`. -/
def listRecoveryRecordsOf (batchId : String) : Op φ ω (List (RecoveryRow Payload)) :=
  databaseRead fun _ w => .ok (w.journal.listRecoveryRecords batchId)

/-- The batch with the records that a check has read so far. -/
def recordsSoFar (batch : BatchRow Payload) (checkpoints : List (CheckpointRow Payload))
    (records : List (RecoveryRow Payload)) : RecoveryContext :=
  ⟨⟨batch, [], checkpoints⟩, records, none, [], []⟩

/-- The end of `_has_recursive_mkdir_rollback_proof`: as many steps can be undone as came before. -/
def priorStepsCapable (failure : Option RecursiveMkdirStepMetadata) (own : RecursiveMkdirStepMetadata) : Bool :=
  match failure with
  | none => own.stepIndex - 1 = 0
  | some m => m.stepIndex - 1 ≤ (m.priorCreatedSteps.filter isRollbackCapableStep).length

/-- `_has_recursive_mkdir_rollback_proof`. -/
def hasRecursiveMkdirProof (batch : BatchRow Payload) (checkpoints : List (CheckpointRow Payload))
    (own : RecursiveMkdirStepMetadata) : Op φ ω Bool :=
  if hasMkdirSuccessProof batch checkpoints || hasMkdirFailureCreatedProof batch checkpoints then return true
  else if hasMkdirNoopProof batch checkpoints = false then return false
  else do
    let records ← listRecoveryRecordsOf batch.batchId
    return priorStepsCapable (recordsSoFar batch checkpoints records).recursiveFailure own

/-- `_has_rename_no_replace_rollback_proof`. -/
def hasRenameProof (batch : BatchRow Payload) (checkpoints : List (CheckpointRow Payload)) : Op φ ω Bool :=
  if (latestRenameRecord (recordsSoFar batch checkpoints [])).isSome then return true
  else do
    let records ← listRecoveryRecordsOf batch.batchId
    let ctx := recordsSoFar batch checkpoints records
    return (latestRenameRecord ctx).isSome || (ctx.latestManualAction .renameNoReplace).isSome

/-- What the journal holds of a capture, for `_has_capture_directory_rollback_proof`. -/
def captureOnRecord (batch : BatchRow Payload) (checkpoints : List (CheckpointRow Payload))
    (records : List (RecoveryRow Payload)) : Bool :=
  let ctx := recordsSoFar batch checkpoints records
  (latestCapturedDirectory ctx).isSome || (ctx.latestManualAction .captureDirectory).isSome

/-- `_has_capture_directory_rollback_proof`. -/
def hasCaptureProof (C : Coordinator φ ω) (batch : BatchRow Payload) (checkpoints : List (CheckpointRow Payload)) :
    Op φ ω Bool :=
  if (latestCapturedDirectory (recordsSoFar batch checkpoints [])).isSome then return true
  else do
    let records ← listRecoveryRecordsOf batch.batchId
    if captureOnRecord batch checkpoints records then return true
    else do
      let operations ← databaseRead fun _ w => .ok (w.journal.listOperations batch.batchId)
      let records ← listRecoveryRecordsOf batch.batchId
      let plans ← capturedDirectoryRecoveryActionPlans C ⟨⟨batch, operations, checkpoints⟩, records, none, [], []⟩
      return plans.any fun p => p.actionType = restoreCapturedDirectoryAction

/-- `_latest_failure_payload`: of the batch's status, else of the recovery records. -/
def latestFailurePayload (batch : BatchRow Payload) : Op φ ω (Option FailurePayload) :=
  match batch.statusPayload.failure? with
  | some failure => return some failure
  | none => do
    let records ← listRecoveryRecordsOf batch.batchId
    return records.reverse.findSome? fun r => r.payload.failure?

/-- `batch_has_file_rollback_backup_proof`. -/
def hasFileBackupProof (batch : BatchRow Payload) (checkpoints : List (CheckpointRow Payload)) : Op φ ω Bool := do
  let failure ← latestFailurePayload batch
  return match fileRecoveryProofFromRecords batch.payload checkpoints batch.resourceKey failure with
    | none => false
    | some (.manual _ _ (.fileRollback _ backup _ _)) => backup.isSome
    | some (.manual ..) => false
    | some _ => true

/-- `_supports_automatic_transaction_rollback`. -/
def supportsAutomaticRollback (C : Coordinator φ ω) (batch : BatchRow Payload) : Op φ ω Bool :=
  match batch.payload with
  | .intent (.makeDirectoryNoop ..) => return true
  | payload => do
    let checkpoints ← listCheckpointsOf batch.batchId
    match payload with
    | .intent (.makeDirectory _ _ _ _ (some own)) => hasRecursiveMkdirProof batch checkpoints own
    | .intent (.makeDirectory _ _ _ _ none) =>
      return hasMkdirSuccessProof batch checkpoints || hasMkdirNoopProof batch checkpoints
    | .intent (.renameNoReplace ..) => hasRenameProof batch checkpoints
    | .intent (.captureDirectory ..) => hasCaptureProof C batch checkpoints
    | _ => hasFileBackupProof batch checkpoints

/-- The operation a batch says it is of. -/
def batchOperation (batch : BatchRow Payload) : Option OperationType := batch.payload.intent?.map Intent.operation

/-- `_is_read_only_automatic_rollback_batch`. -/
def isReadOnlyBatch (batch : BatchRow Payload) : Bool :=
  match batchOperation batch with
  | some .snapshotBundle => true
  | some .backupTree => batch.phase = .succeeded
  | _ => false

/-- `_is_unsupported_automatic_rollback_batch`. -/
def isUnsupportedBatch (C : Coordinator φ ω) (batch : BatchRow Payload) : Op φ ω Bool :=
  match batchOperation batch with
  | none | some .restoreTreeBackup | some .snapshotBundle => return true
  | some .backupTree => return false
  | some _ => do
    let supported ← supportsAutomaticRollback C batch
    return !supported

/-- `_unsupported_automatic_rollback_message`. -/
def unsupportedMessage (batch : BatchRow Payload) : String :=
  "batch " ++ pyRepr batch.batchId ++ " operation " ++
    (((batchOperation batch).map fun operation => pyRepr operation.text).getD "None") ++
    " does not support automatic rollback"

/-! ## The batches of a transaction -/

/-- `_belongs_to_transaction_instance`. -/
def belongsTo (T : Transaction φ ω) (batch : BatchRow Payload) : Bool :=
  batch.runId = T.runId ∧ batch.owner = T.owner ∧ batch.claimOwner = some T.owner ∧
    batch.claimScope = some T.claimScope

/-- The batches of the instance, in the order of their creation. -/
def listOwnBatches (T : Transaction φ ω) : Op φ ω (List (BatchRow Payload)) := do
  let batches ← listBatches (some T.runId)
  return batches.filter (belongsTo T)

/-- A batch that was marked, read back. -/
def readMarked (batchId : String) : Op φ ω (BatchRow Payload) := do
  let updated ← getBatch batchId
  match updated with
  | some row => return row
  | none => .raise (.safeWorkspace ("automatic rollback batch " ++ pyRepr batchId ++ " disappeared"))

/-- `_mark_batch_recovery_desired`. -/
def markRollback (T : Transaction φ ω) (h : LeaseHolder) (batch : BatchRow Payload) : Op φ ω (BatchRow Payload) := do
  let _ ← recordRecoveryDesiredStep h batch.batchId "automatic transaction rollback"
    (.transactionRollback T.claimScope T.runId batch.batchId)
  readMarked batch.batchId

/-- `_mark_batch_interrupted_recovery_desired`. -/
def markInterrupted (T : Transaction φ ω) (h : LeaseHolder) (batch : BatchRow Payload) :
    Op φ ω (BatchRow Payload) := do
  let _ ← recordInterruptedRecoveryDesiredStep h batch.batchId batch.resourceKey
    "automatic transaction rollback found interrupted batch"
    (.transactionRollback T.claimScope T.runId batch.batchId)
  readMarked batch.batchId

/-- What `_eligible_recovery_batches` does with one batch. -/
def eligibleBatch (T : Transaction φ ω) (h : LeaseHolder) (batch : BatchRow Payload) :
    Op φ ω (Option (BatchRow Payload)) :=
  if isReadOnlyBatch batch then return none
  else match batch.phase with
    | .recoveryDesired => return some batch
    | .attempting => some <$> markInterrupted T h batch
    | .recoveryFailed | .failed | .succeeded => some <$> markRollback T h batch
    | .planned | .recovering | .recoverySucceeded => return none

/-- What `_pending_recovery_batches` does with one batch. -/
def pendingBatch (T : Transaction φ ω) (h : LeaseHolder) (batch : BatchRow Payload) :
    Op φ ω (Option (BatchRow Payload)) :=
  if isReadOnlyBatch batch then return none
  else match batch.phase with
    | .recoveryDesired => return some batch
    | .failed | .recoveryFailed => some <$> markRollback T h batch
    | _ => return none

/-- The batches that `select` leaves, newest first. -/
def selectBatches (T : Transaction φ ω) (select : BatchRow Payload → Op φ ω (Option (BatchRow Payload))) :
    Op φ ω (List (BatchRow Payload)) := do
  let batches ← listOwnBatches T
  let selected ← .mapEach batches select
  return newestFirst selected.reduceOption

/-! ## The rollback -/

/-- `_cleanup_batch_artifacts`. -/
def cleanupRecoveredArtifacts (T : Transaction φ ω) (lease : LeaseRecord) (batch : BatchRow Payload) :
    Op φ ω Unit := do
  let debts ← cleanupArtifactsForBatches T.workspace (some lease) .recoveryCleanup [batch]
  if debts = [] then .ret () else .raise (.artifactCleanup (cleanupError debts))

/-- What a rollback comes to: the batches it failed on, and those that left artifacts. -/
structure RollbackOutcome where
  failures : List (String × OperationError)
  debts : List (String × OperationError)

/-- The outcome of one batch. -/
def rollbackResult (batch : BatchRow Payload) (result : Except OperationError Unit) : RollbackOutcome :=
  match result with
  | .ok _ => ⟨[], []⟩
  | .error (.artifactCleanup m) => ⟨[], [(batch.batchId, .artifactCleanup m)]⟩
  | .error e => ⟨[(batch.batchId, e)], []⟩

/-- `recover_batch` with `run_recovery_actions`, and the cleanup. -/
def rollbackSupported (T : Transaction φ ω) (h : LeaseHolder) (batch : BatchRow Payload) : Op φ ω Unit := do
  let recovered ← recoverBatch h batch.batchId (runRecoveryActions T.workspace.coordinator h)
  cleanupRecoveredArtifacts T h.lease recovered

/-- One batch of the rollback. -/
def rollbackBatch (T : Transaction φ ω) (h : LeaseHolder) (batch : BatchRow Payload) : Op φ ω RollbackOutcome := do
  let unsupported ← isUnsupportedBatch T.workspace.coordinator batch
  if unsupported then return ⟨[(batch.batchId, .safeWorkspace (unsupportedMessage batch))], []⟩
  else do
    let result ← (rollbackSupported T h batch).outcome
    return rollbackResult batch result

/-- All of them. -/
def rollbackBatches (T : Transaction φ ω) (h : LeaseHolder) (batches : List (BatchRow Payload)) :
    Op φ ω RollbackOutcome := do
  let outcomes ← .mapEach batches (rollbackBatch T h)
  return ⟨outcomes.flatMap RollbackOutcome.failures, outcomes.flatMap RollbackOutcome.debts⟩

/-- `_automatic_rollback_failure_message`. -/
def rollbackFailureMessage (failures : List (String × OperationError)) : String :=
  "automatic rollback failed for " ++ toString failures.length ++ " batch(es): " ++
    ", ".intercalate (failures.map fun (id, e) => id ++ " (" ++ e.className ++ ": " ++ e.text ++ ")")

/-- `_artifact_cleanup_debt_message`. -/
def cleanupDebtMessage (debts : List (String × OperationError)) : String :=
  "artifact cleanup debt for " ++ toString debts.length ++ " batch(es): " ++
    ", ".intercalate (debts.map fun (id, e) => id ++ " (" ++ e.text ++ ")")

/-- `run_automatic_transaction_rollback` of a body that raised: whether all was undone. -/
def runAutomaticRollback (T : Transaction φ ω) (h : LeaseHolder) : Op φ ω Bool :=
  match T.rollback with
  | .recordOnly => return true
  | .automatic => do
    let batches ← selectBatches T (eligibleBatch T h)
    let outcome ← rollbackBatches T h batches
    return outcome.failures.isEmpty

/-- `run_pending_transaction_rollback`. -/
def runPendingRollback (T : Transaction φ ω) (h : LeaseHolder) : Op φ ω Unit :=
  match T.rollback with
  | .recordOnly => .ret ()
  | .automatic => do
    let batches ← selectBatches T (pendingBatch T h)
    let outcome ← rollbackBatches T h batches
    if outcome.failures ≠ [] then .raise (.safeWorkspace (rollbackFailureMessage outcome.failures))
    else if outcome.debts ≠ [] then .raise (.safeWorkspace (cleanupDebtMessage outcome.debts))
    else .ret ()

/-- `cleanup_committed_transaction_artifacts`: the error it answers with, if any. -/
def cleanupCommittedArtifacts (T : Transaction φ ω) (lease : LeaseRecord) : Op φ ω (Option OperationError) := do
  let batches ← listOwnBatches T
  match batches.filter fun b => b.phase = .succeeded with
  | [] => return none
  | committed => do
    let debts ← cleanupArtifactsForBatches T.workspace (some lease) .commitCleanup committed
    if debts = [] then return none else return some (.safeWorkspace (cleanupError debts))

end SafeFsOps
