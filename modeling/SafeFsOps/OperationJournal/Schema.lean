import SafeFsOps.PythonText
import SafeFsOps.Tables
import SafeFsOps.WorkspaceState.Leases

/-!
# The journal's tables

`operation_journal/journal_schema.py`, `journal_errors.py` and `models.py`: the
phases of a batch, the rows of the journal's tables with all their columns, and
the database the journal works on, which is also the database of the leases.

Payload columns hold canonical JSON text (`json.dumps(…, sort_keys=True)`), and
the journal itself only ever compares them and writes the few payloads below of
its own; so their type `π` is a parameter, with those payloads as its interface.
-/

namespace SafeFsOps

/-- `BatchPhase`. -/
inductive BatchPhase where
  | planned | attempting | succeeded | failed
  | recoveryDesired | recovering | recoverySucceeded | recoveryFailed
deriving DecidableEq

/-- The text of a phase, as the column stores it. -/
def BatchPhase.text : BatchPhase → String
  | planned => "planned"
  | attempting => "attempting"
  | succeeded => "succeeded"
  | failed => "failed"
  | recoveryDesired => "recovery_desired"
  | recovering => "recovering"
  | recoverySucceeded => "recovery_succeeded"
  | recoveryFailed => "recovery_failed"

/-- `_VALID_TRANSITIONS`. -/
def validTransitions : BatchPhase → List BatchPhase
  | .planned => [.attempting]
  | .attempting => [.succeeded, .failed]
  | .succeeded => []
  | .failed => [.recoveryDesired]
  | .recoveryDesired => [.recovering]
  | .recovering => [.recoverySucceeded, .recoveryFailed]
  | .recoverySucceeded => []
  | .recoveryFailed => [.recoveryDesired]

/-- `RecoveryActionStatus`. -/
inductive RecoveryActionStatus where
  | planned | attempting | succeeded | failed | skipped | manualInterventionRequired
deriving DecidableEq

def RecoveryActionStatus.text : RecoveryActionStatus → String
  | planned => "planned"
  | attempting => "attempting"
  | succeeded => "succeeded"
  | failed => "failed"
  | skipped => "skipped"
  | manualInterventionRequired => "manual_intervention_required"

/-- `_RECOVERY_ACTION_TRANSITIONS`. -/
def recoveryActionTransitions : RecoveryActionStatus → List RecoveryActionStatus
  | .planned => [.attempting, .skipped, .manualInterventionRequired]
  | .attempting => [.succeeded, .failed, .skipped, .manualInterventionRequired]
  | _ => []

/-- `ArtifactCleanupStatus`. -/
inductive ArtifactCleanupStatus where
  | planned | attempting | succeeded | skipped | failed | manualInterventionRequired
deriving DecidableEq

def ArtifactCleanupStatus.text : ArtifactCleanupStatus → String
  | planned => "planned"
  | attempting => "attempting"
  | succeeded => "succeeded"
  | skipped => "skipped"
  | failed => "failed"
  | manualInterventionRequired => "manual_intervention_required"

/-- `_ARTIFACT_CLEANUP_TRANSITIONS`. -/
def artifactCleanupTransitions : ArtifactCleanupStatus → List ArtifactCleanupStatus
  | .planned => [.attempting, .succeeded, .skipped, .failed, .manualInterventionRequired]
  | .attempting => [.succeeded, .skipped, .failed, .manualInterventionRequired]
  | _ => []

/-- `ArtifactCleanupTrigger`. -/
inductive ArtifactCleanupTrigger where
  | deferredCleanup | commitCleanup | recoveryCleanup
deriving DecidableEq

def ArtifactCleanupTrigger.text : ArtifactCleanupTrigger → String
  | deferredCleanup => "deferred_cleanup"
  | commitCleanup => "commit_cleanup"
  | recoveryCleanup => "recovery_cleanup"

/-- `_BATCH_PHASE_BY_TRIGGER`. -/
def batchPhaseByTrigger : ArtifactCleanupTrigger → BatchPhase
  | .deferredCleanup => .attempting
  | .commitCleanup => .succeeded
  | .recoveryCleanup => .recoverySucceeded

/-! ## Errors -/

/-- What a journal method raises: the classes of `journal_errors.py`, a lost
lease, and what Python and SQLite raise. -/
inductive JournalError where
  | leaseLost (message : String)
  | batchNotFound (message : String)
  | invalidBatchPhaseTransition (message : String)
  | journalLeaseMismatch (message : String)
  | batchIdempotencyMismatch (message : String)
  | recoveryAttemptMismatch (message : String)
  | batchStartConflict (message : String)
  | valueError (message : String)
  | recoveryContext (message : String)
  | safeWorkspace (message : String)
  | integrity
deriving DecidableEq

/-! ## Payloads -/

/-- The payloads the journal writes on its own account. -/
class JournalPayload (π : Type) where
  /-- `{}`, which also stands in for an absent payload. -/
  empty : π
  /-- The status payload of a started batch: `{"operation_id": …}`. -/
  startedOperation (operationId : String) : π
  /-- The `recovery_takeover` event of a handoff to a newer lease. -/
  recoveryTakeover (previousName : String) (previousFencingToken : Nat) (currentName : String)
    (currentFencingToken : Nat) (previousPhase : BatchPhase) : π
  /-- Why a succeeded batch was put up for recovery by a workspace replay. -/
  abandonedBatch (batchId runId : String) (previousPhase : BatchPhase) : π

/-- `_payload_to_json`: an absent payload is the empty object. -/
def payloadToJson {π : Type} [JournalPayload π] (payload : Option π) : π :=
  payload.getD JournalPayload.empty

/-- The payload columns themselves: canonical JSON text. -/
instance : JournalPayload String where
  empty := jsonObject []
  startedOperation operationId := jsonObject [("operation_id", jsonString operationId)]
  recoveryTakeover previousName previousFencingToken currentName currentFencingToken previousPhase :=
    let lease (name : String) (fencingToken : Nat) :=
      jsonObject [("fencing_token", toString fencingToken), ("name", jsonString name)]
    jsonObject [("current_lease", lease currentName currentFencingToken),
      ("event_type", jsonString "recovery_takeover"),
      ("previous_lease", lease previousName previousFencingToken),
      ("previous_phase", jsonString previousPhase.text)]
  abandonedBatch batchId runId previousPhase :=
    jsonObject [("batch_id", jsonString batchId), ("previous_phase", jsonString previousPhase.text),
      ("run_id", jsonString runId)]

/-! ## Rows -/

/-- A row of `operation_batches`; `storageOrder` is its `rowid`. -/
structure BatchRow (π : Type) where
  storageOrder : Nat
  batchId : String
  idempotencyKey : String
  leaseName : String
  leaseOwner : Option String
  leaseFencingToken : Nat
  leaseTokenDigest : Option TokenDigest
  owner : String
  runId : String
  operationRunId : Option String
  operationPhaseId : Option String
  resourceKey : Option String
  claimOwner : Option String
  claimScope : Option String
  phase : BatchPhase
  payload : π
  statusMessage : Option String
  statusPayload : π
  createdAt : DateTime
  updatedAt : DateTime
deriving DecidableEq

/-- A row of `operation_runs`. -/
structure OperationRunRow (π : Type) where
  operationRunId : String
  runId : String
  owner : String
  leaseName : String
  leaseFencingToken : Nat
  status : String
  payload : π
  createdAt : DateTime
  updatedAt : DateTime
deriving DecidableEq

/-- A row of `operation_phase_records`. -/
structure OperationPhaseRow (π : Type) where
  operationPhaseId : String
  operationRunId : String
  phaseName : String
  status : String
  phaseOrder : Nat
  payload : π
  createdAt : DateTime
  updatedAt : DateTime
deriving DecidableEq

/-- A row of `operation_journal_operations`. -/
structure OperationRow (π : Type) where
  operationId : String
  batchId : String
  sequence : Nat
  operationType : String
  resourceKey : Option String
  payload : π
  createdAt : DateTime
deriving DecidableEq

/-- A row of `operation_journal_checkpoints`. -/
structure CheckpointRow (π : Type) where
  checkpointId : String
  batchId : String
  sequence : Nat
  operationId : Option String
  resourceKey : String
  checkpointType : String
  payload : π
  createdAt : DateTime
deriving DecidableEq

/-- A row of `operation_recovery_records`. -/
structure RecoveryRow (π : Type) where
  recoveryId : String
  batchId : String
  sequence : Nat
  phase : BatchPhase
  reason : Option String
  payload : π
  createdAt : DateTime
deriving DecidableEq

/-- A row of `operation_recovery_action_records`. -/
structure RecoveryActionRow (π : Type) where
  actionRecordId : String
  actionId : String
  recoveryAttemptId : String
  batchId : String
  sequence : Nat
  actionType : String
  status : RecoveryActionStatus
  resourceKey : Option String
  reason : Option String
  payload : π
  createdAt : DateTime
deriving DecidableEq

/-- A row of `operation_artifact_cleanup_records`. -/
structure ArtifactCleanupRow (π : Type) where
  cleanupRecordId : String
  artifactId : String
  batchId : String
  sequence : Nat
  trigger : ArtifactCleanupTrigger
  status : ArtifactCleanupStatus
  resourceKey : Option String
  reason : Option String
  payload : π
  createdAt : DateTime
deriving DecidableEq

section Rows

variable {π : Type}

instance : SequencedRow (OperationRow π) := ⟨OperationRow.operationId, OperationRow.batchId, OperationRow.sequence⟩
instance : SequencedRow (CheckpointRow π) :=
  ⟨CheckpointRow.checkpointId, CheckpointRow.batchId, CheckpointRow.sequence⟩
instance : SequencedRow (RecoveryRow π) := ⟨RecoveryRow.recoveryId, RecoveryRow.batchId, RecoveryRow.sequence⟩
instance : SequencedRow (RecoveryActionRow π) :=
  ⟨RecoveryActionRow.actionRecordId, RecoveryActionRow.batchId, RecoveryActionRow.sequence⟩
instance : SequencedRow (ArtifactCleanupRow π) :=
  ⟨ArtifactCleanupRow.cleanupRecordId, ArtifactCleanupRow.batchId, ArtifactCleanupRow.sequence⟩

end Rows

/-- The database of the leases and of the journal. -/
structure JournalDb (π : Type) where
  leases : LeaseTable
  operationRuns : List (OperationRunRow π)
  operationPhases : List (OperationPhaseRow π)
  batches : List (BatchRow π)
  operations : List (OperationRow π)
  checkpoints : List (CheckpointRow π)
  recoveries : List (RecoveryRow π)
  recoveryActions : List (RecoveryActionRow π)
  artifactCleanups : List (ArtifactCleanupRow π)

/-- A new database. -/
def JournalDb.init (π : Type) : JournalDb π where
  leases := LeaseTable.empty
  operationRuns := []
  operationPhases := []
  batches := []
  operations := []
  checkpoints := []
  recoveries := []
  recoveryActions := []
  artifactCleanups := []

/-! ## Reading rows: `journal_rows.py` -/

namespace JournalDb

variable {π : Type}

/-- `_batch_row`. -/
def batchRow (db : JournalDb π) (batchId : String) : Option (BatchRow π) :=
  findRow BatchRow.batchId db.batches batchId

/-- `_batch_row_by_idempotency_key`. -/
def batchRowByIdempotencyKey (db : JournalDb π) (key : String) : Option (BatchRow π) :=
  findRow BatchRow.idempotencyKey db.batches key

/-- `_operation_row`. -/
def operationRow (db : JournalDb π) (operationId : String) : Option (OperationRow π) :=
  findRow OperationRow.operationId db.operations operationId

/-- `_recovery_row`. -/
def recoveryRow (db : JournalDb π) (recoveryId : String) : Option (RecoveryRow π) :=
  findRow RecoveryRow.recoveryId db.recoveries recoveryId

/-- `_latest_recovery_row`. -/
def latestRecoveryRow (db : JournalDb π) (batchId : String) : Option (RecoveryRow π) :=
  latestRow db.recoveries fun r => r.batchId = batchId

/-- `_latest_recovery_action_for_attempt`. -/
def latestRecoveryActionForAttempt (db : JournalDb π) (recoveryAttemptId actionId : String) :
    Option (RecoveryActionRow π) :=
  latestRow db.recoveryActions fun r => r.recoveryAttemptId = recoveryAttemptId ∧ r.actionId = actionId

/-- `_latest_artifact_cleanup_row`. -/
def latestArtifactCleanupRow (db : JournalDb π) (batchId artifactId : String) :
    Option (ArtifactCleanupRow π) :=
  latestRow db.artifactCleanups fun r => r.batchId = batchId ∧ r.artifactId = artifactId

/-- `_next_sequence`: one past every record of the batch, in whatever table. -/
def nextSequence (db : JournalDb π) (batchId : String) : Nat :=
  max (maxSequence db.operations batchId) (max (maxSequence db.checkpoints batchId)
    (max (maxSequence db.recoveries batchId) (max (maxSequence db.recoveryActions batchId)
      (maxSequence db.artifactCleanups batchId)))) + 1

/-- `_list_operations_in_connection`. -/
def listOperations (db : JournalDb π) (batchId : String) : List (OperationRow π) :=
  listRows db.operations fun r => r.batchId = batchId

/-- `_list_checkpoints_in_connection`. -/
def listCheckpoints (db : JournalDb π) (batchId : String) : List (CheckpointRow π) :=
  listRows db.checkpoints fun r => r.batchId = batchId

/-- `_list_recovery_records_in_connection`. -/
def listRecoveryRecords (db : JournalDb π) (batchId : String) : List (RecoveryRow π) :=
  listRows db.recoveries fun r => r.batchId = batchId

/-- `_latest_recovering_recovery_row`. -/
def latestRecoveringRecoveryRow (db : JournalDb π) (batchId : String) : Option (RecoveryRow π) :=
  latestRow db.recoveries fun r => r.batchId = batchId ∧ r.phase = .recovering

/-- `_list_recovery_actions_in_connection`. -/
def listRecoveryActions (db : JournalDb π) (batchId : String) (recoveryAttemptId : Option String) :
    List (RecoveryActionRow π) :=
  listRows db.recoveryActions fun r =>
    r.batchId = batchId ∧ recoveryAttemptId.all (· = r.recoveryAttemptId)

/-- `_list_artifact_cleanup_records_in_connection`. -/
def listArtifactCleanupRecords (db : JournalDb π) (batchId : String) (artifactId : Option String) :
    List (ArtifactCleanupRow π) :=
  listRows db.artifactCleanups fun r => r.batchId = batchId ∧ artifactId.all (· = r.artifactId)

/-- `_batch_has_journal_records`. -/
def batchHasJournalRecords (db : JournalDb π) (batchId : String) : Bool :=
  hasRows db.operations batchId || hasRows db.checkpoints batchId || hasRows db.recoveries batchId ||
    hasRows db.recoveryActions batchId || hasRows db.artifactCleanups batchId

/-- `UPDATE operation_batches … WHERE batch_id = ?`. -/
def updateBatch (db : JournalDb π) (batchId : String) (f : BatchRow π → BatchRow π) : JournalDb π :=
  { db with batches := updateRow BatchRow.batchId db.batches batchId f }

end JournalDb

end SafeFsOps
