import SafeFsOps.FilesystemOps.Records
import SafeFsOps.OperationJournal.Schema

/-!
# Payloads of the journaled filesystem

What `filesystem_mutations.py`, the failure recorders and the recovery write into
the payload columns. The code builds each payload as a dictionary in one place
and reads single keys of it elsewhere (`payload.get("failure")`), so a payload
here is one of the shapes that are built, and a read is a function that finds its
key in the shapes that have it.

> `Payload.failure?`, `Payload.snapshot?`, `Payload.renameRecord?`, …: what
> `payload.get(…)` answers.
-/

namespace SafeFsOps

/-- The `operation` of an intent, which is also the type of its operation record. -/
inductive OperationType where
  | writeText | writeBytes | deleteFile | makeDirectory | makeDirectoryNoop | renameNoReplace | captureDirectory
  | backupTree | restoreTreeBackup | snapshotBundle
deriving DecidableEq

def OperationType.text : OperationType → String
  | writeText => "write_text"
  | writeBytes => "write_bytes"
  | deleteFile => "delete_file"
  | makeDirectory => "make_directory"
  | makeDirectoryNoop => "make_directory_noop"
  | renameNoReplace => "rename_no_replace"
  | captureDirectory => "capture_directory"
  | backupTree => "backup_tree"
  | restoreTreeBackup => "restore_tree_backup"
  | snapshotBundle => "snapshot_bundle"

/-- `captured_directory_cleanup`. -/
inductive CapturedDirectoryCleanup where
  | automatic | retain
deriving DecidableEq

/-- A directory by path, resource key and identity: the identity payloads. -/
structure DirectoryIdentityPayload where
  path : Path
  resourceKey : String
  identity : DirectoryIdentity
deriving DecidableEq

/-- `journaled_creation_proof`. -/
structure CreationProof where
  batchId : String
  operationId : String
  operationType : OperationType
  checkpointId : String
  checkpointType : String
  path : Path
  resourceKey : String
deriving DecidableEq

/-- An entry of `prior_created_steps`. -/
structure CreatedStep where
  stepIndex : Nat
  stepPath : Path
  stepResourceKey : String
  ownershipClass : String
  createdDirectoryIdentity : DirectoryIdentityPayload
  journaledCreationProof : CreationProof
  cleanupPolicy : String
  backendGuarantee : String
deriving DecidableEq

/-- `recursive_mkdir` and `recursive_group` of one step. -/
structure RecursiveMkdirStepMetadata where
  planTarget : Path
  requestedResourceKey : String
  stepIndex : Nat
  stepCount : Nat
  stepPath : Path
  stepResourceKey : String
  priorCreatedSteps : List CreatedStep
deriving DecidableEq

/-- `conflict_policy`. -/
inductive ConflictPolicy where
  | noReplace | replace
deriving DecidableEq

/-- What a mutation intends: the payload of its batch and of its operation. -/
inductive Intent where
  | writeText (path : Path) (resourceKey : String) (newline : Option String) (desiredSize : Nat)
      (desiredSha256 : ContentDigest)
  | writeBytes (path : Path) (resourceKey : String) (desiredSize : Nat) (desiredSha256 : ContentDigest)
      (permissions : Option Nat) (maxBytes : Nat) (largeWriteAllowed : Bool)
  | deleteFile (path : Path) (resourceKey : String) (missingOk : Bool)
  | makeDirectory (path : Path) (resourceKey : String) (parents existOk : Bool)
      (recursive : Option RecursiveMkdirStepMetadata)
  | makeDirectoryNoop (path : Path) (resourceKey : String)
  | renameNoReplace (sourcePath destinationPath : Path) (resourceKey destinationResourceKey : String)
  | captureDirectory (path quarantinePath : Path) (resourceKey destinationResourceKey : String)
      (cleanup : CapturedDirectoryCleanup)
  | backupTree (path : Path) (relativePaths : List Path) (resourceKey : String) (storePath : Path)
  | restoreTreeBackup (destinationRoot : Path) (resourceKey : String) (storePath : Path)
      (conflictPolicy : ConflictPolicy) (backupFingerprint : TreeBackup)
  | snapshotBundle (bundle : SnapshotBundle)
deriving DecidableEq

namespace Intent

/-- `payload.get("operation")`; the intent of a directory that is there already
says `make_directory` too, with `noop` set. -/
def operation : Intent → OperationType
  | writeText .. => .writeText
  | writeBytes .. => .writeBytes
  | deleteFile .. => .deleteFile
  | makeDirectory .. => .makeDirectory
  | makeDirectoryNoop .. => .makeDirectory
  | renameNoReplace .. => .renameNoReplace
  | captureDirectory .. => .captureDirectory
  | backupTree .. => .backupTree
  | restoreTreeBackup .. => .restoreTreeBackup
  | snapshotBundle _ => .snapshotBundle

/-- `payload.get("path")`: a rename has a source and a destination, and no path. -/
def path? : Intent → Option Path
  | writeText p .. | writeBytes p .. | deleteFile p .. | makeDirectory p .. => some p
  | makeDirectoryNoop p _ | captureDirectory p .. | backupTree p .. => some p
  | renameNoReplace .. | restoreTreeBackup .. | snapshotBundle _ => none

/-- `payload.get("resource_key")`. -/
def resourceKey? : Intent → Option String
  | writeText _ k .. | writeBytes _ k .. | deleteFile _ k _ | makeDirectory _ k .. => some k
  | makeDirectoryNoop _ k => some k
  | renameNoReplace _ _ k _ | captureDirectory _ _ k .. => some k
  | backupTree _ _ k _ | restoreTreeBackup _ k .. => some k
  | snapshotBundle _ => none

end Intent

/-- `desired` of a recovery payload. -/
structure Desired where
  pathExists : Bool
  fileType : FileType
  size : Option Nat
  sha256 : Option ContentDigest
deriving DecidableEq

/-- `failure` of a recovery payload: what went wrong, and what was seen then. -/
structure FailurePayload where
  path : Path
  resourceKey : Option String
  stage : Option String
  errorType : Option String
  error : Option String
  snapshot : Option ResourceSnapshot
  snapshotError : Option (String × String)
  after : Option ResourceSnapshot
deriving DecidableEq

/-- `_captured_directory_payload` and its siblings. -/
structure CapturedDirectoryPayload where
  path : Path
  stepResourceKey : String
  cleanup : Option CapturedDirectoryCleanup
  originalIdentity : DirectoryIdentityPayload
  capturedIdentity : DirectoryIdentityPayload
  captureToken : Option String
deriving DecidableEq

/-- `_manual_intervention_action_payload`. -/
structure ManualAction where
  operation : OperationType
  actionId : String
  resourceKey : String
  reason : String
  reasonCode : String
  detail : String
  sourcePath : Path
  targetPath : Path
  beforeSnapshot : ResourceSnapshot
  sourceAfter : Option ResourceSnapshot
  targetAfter : Option ResourceSnapshot
deriving DecidableEq

/-- The recovery payload a mutation carries along, and the failure recorders fill. -/
structure RecoveryDetails where
  desired : Option Desired
  recursive : Option RecursiveMkdirStepMetadata
  backup : Option FileBackup
  expectedAfter : Option (Path × Option Desired)
  renameRecord : Option RenameRecord
  capturedDirectoryRestore : Option CapturedDirectoryPayload
  manualInterventionAction : Option ManualAction
  resourceKey : Option String
  before : Option ResourceSnapshot
  failure : Option FailurePayload
deriving DecidableEq

/-- The recovery payload `{}`. -/
def RecoveryDetails.empty : RecoveryDetails :=
  ⟨none, none, none, none, none, none, none, none, none, none⟩

/-- A lease as recovery payloads name it. -/
structure LeaseName where
  name : String
  fencingToken : Nat
deriving DecidableEq

/-- The payload of an action that asks for manual intervention. -/
inductive ManualPayload where
  /-- `file_rollback_manual_intervention_payload` -/
  | fileRollback (path : Path) (backup : Option FileBackup) (reasonCode : String) (failureStage : Option String)
  | ambiguousMove (a : ManualAction)
  /-- `_missing_rename_rollback_proof_action` -/
  | missingRenameProof (batchId : String) (resourceKey : Option String) (sourcePath destinationPath : Path)
  /-- `_missing_captured_directory_rollback_proof_action` -/
  | missingCaptureProof (batchId : String) (resourceKey : Option String) (path quarantinePath : Path)
  /-- `_incomplete_recursive_mkdir_cleanup_proof_plan` -/
  | incompleteMkdirCleanup (batchId : String) (stepPath : Path) (expectedPriorCreatedSteps plannedCleanupSteps : Nat)
  /-- `_missing_tree_restore_proof_action_plans` -/
  | missingTreeRestoreProof (batchId resourceKey : String) (destinationRoot storePath : Path)
  /-- a checkpoint of a tree backup that is not one of the resource -/
  | treeBackupMismatch (batchId resourceKey checkpointId detail : String) (backup : Option TreeBackup)
deriving DecidableEq

/-- The payload of `remove_created_directory`. -/
structure CreatedDirectoryRemoval where
  path : Path
  stepResourceKey : String
  ownershipClass : String
  createdDirectoryIdentity : DirectoryIdentityPayload
  journaledCreationProof : CreationProof
  cleanupPolicy : String
  backendGuarantee : String
  stepIndex : Nat
deriving DecidableEq

/-- `_recovery_action_status_payload`: what happened to an action, and why. -/
structure ActionStatus where
  eventType : String
  actionId : String
  actionType : String
  resourceKey : Option String
  recoveryAttemptId : String
  reason : Option String
  errorType : Option String
  error : Option String
deriving DecidableEq

/-- What `record_recovery_failed` keeps of the recovery context. -/
structure RecoveryFailure where
  batchId : String
  batchPhase : BatchPhase
  errorType : String
  error : String
  operationIds : List String
  checkpointIds : List String
  recoveryIds : List String
deriving DecidableEq

/-- `_artifact_cleanup_payload`, with what its execution came to. -/
structure CleanupPayload where
  checkpointId : String
  artifactType : String
  artifactPath : Path
  expectedContentPath : Option Path
  status : Option String
  reasonCode : Option String
  detail : Option String
deriving DecidableEq

/-- `require_tree_backup_payload_resource_key`. -/
def requireTreeBackupResourceKey (b : TreeBackup) (resourceKey : String) : Except String Unit :=
  require (treeResourceKey b.root = resourceKey)
    ("tree backup root " ++ pathText b.root ++ " does not match resource_key " ++ pyRepr resourceKey)

/-- `tree_backup_partial_artifacts_checkpoint_payload`: the objects that a backup has created. -/
structure PartialArtifacts where
  root : Path
  relativePaths : List Path
  storePath : Path
  contentRefs : List ContentRef
deriving DecidableEq

/-- The payloads the journaled filesystem writes. -/
inductive Payload where
  | empty
  | intent (i : Intent)
  /-- checkpoints `before`, `after`, `failure`, `destination_before`; a capture adds the token -/
  | snapshot (s : ResourceSnapshot) (captureToken : Option String)
  /-- checkpoints `backup_artifact_intent` and `backup` -/
  | backup (b : FileBackup)
  | expectedAfter (path : Path) (desired : Option Desired)
  /-- checkpoint `rename_record`, and the action that undoes the rename -/
  | renameRecord (r : RenameRecord)
  /-- checkpoint `captured_directory`, and the action that restores the directory -/
  | capturedDirectory (c : CapturedDirectoryPayload)
  /-- checkpoint `after` of a rename or a capture -/
  | moved (source target : ResourceSnapshot)
  | backupCleanup (checkpointId : String) (contentPath : Path)
  | captureCleanup (checkpointId : String) (c : CapturedDirectoryRecord) (cleanup : CapturedDirectoryCleanup)
      (reasonCode : Option String)
  | startedOperation (operationId : String)
  | succeeded (operationId resourceKey : String) (after : Option ResourceSnapshot)
      (renameRecord : Option RenameRecord) (capturedDirectory : Option CapturedDirectoryPayload)
  /-- checkpoint `tree_backup` -/
  | treeBackup (b : TreeBackup) (storePath : Path)
  /-- checkpoint `tree_backup_partial_artifacts` -/
  | partialArtifacts (p : PartialArtifacts)
  | treeBackupSucceeded (operationId resourceKey : String) (b : TreeBackup) (storePath : Path)
  | treeRestoreSucceeded (operationId resourceKey : String) (storePath : Path) (conflictPolicy : ConflictPolicy)
      (resultType : String)
  /-- checkpoint `snapshot_bundle` -/
  | snapshotBundle (b : SnapshotBundle)
  /-- the operation of a snapshot bundle, which says no more than what it is -/
  | bundleOperation
  | snapshotBundleSucceeded (operationId : String) (entryCount : Nat)
  | failed (f : FailurePayload)
  | recovery (d : RecoveryDetails)
  | treeBackupRecovery (resourceKey : String) (failure : FailurePayload) (partialArtifacts : Option PartialArtifacts)
  | interrupted (resourceKey : String) (previousLease currentLease : LeaseName)
  | recoveryTakeover (previousLease currentLease : LeaseName) (previousPhase : BatchPhase)
  /-- a batch put up by the workspace replay, with what was seen at its path then -/
  | replay (batchId runId : String) (previousPhase : BatchPhase) (failure : Option FailurePayload)
  | recoveryStarted (batchId : String)
  | recoveryFailed (f : RecoveryFailure)
  | recoverySucceeded (batchId : String) (batchPhase : BatchPhase)
  | restoreBackup (path : Path) (backup : FileBackup) (expectedCurrent : ResourceSnapshot) (allowOverwrite : Bool)
  | removeCreatedDirectory (r : CreatedDirectoryRemoval)
  | restoreTreeBackup (b : TreeBackup) (storePath destinationRoot : Path) (allowOverwrite : Bool)
  | manual (m : ManualPayload)
  /-- `automatic_transaction_rollback` -/
  | transactionRollback (claimScope runId batchId : String)
  | artifactCleanup (c : CleanupPayload)
  /-- the run and the phase that a transaction creates on its own account -/
  | implicitRun (name rollback : String)
  | implicitPhase (rollback : String)
  | actionStatus (s : ActionStatus)
deriving DecidableEq

instance : JournalPayload Payload where
  empty := .empty
  startedOperation := .startedOperation
  recoveryTakeover previousName previousFencingToken currentName currentFencingToken previousPhase :=
    .recoveryTakeover ⟨previousName, previousFencingToken⟩ ⟨currentName, currentFencingToken⟩ previousPhase
  abandonedBatch batchId runId previousPhase := .replay batchId runId previousPhase none

/-! ## Reading keys -/

namespace Payload

/-- `payload.get("failure")`. The status of a failed batch *is* the failure, and
has no such key. -/
def failure? : Payload → Option FailurePayload
  | recovery d => d.failure
  | treeBackupRecovery _ f _ => some f
  | replay _ _ _ f => f
  | _ => none

/-- The recovery payload of a mutation, whose keys are read one by one. -/
def details? : Payload → Option RecoveryDetails
  | recovery d => some d
  | _ => none

/-- `payload.get("rename_record")`. -/
def renameRecord? (p : Payload) : Option RenameRecord := p.details?.bind RecoveryDetails.renameRecord

/-- `payload.get("captured_directory_restore")`. -/
def capturedDirectoryRestore? (p : Payload) : Option CapturedDirectoryPayload :=
  p.details?.bind RecoveryDetails.capturedDirectoryRestore

/-- `payload.get("manual_intervention_action")`. -/
def manualInterventionAction? (p : Payload) : Option ManualAction :=
  p.details?.bind RecoveryDetails.manualInterventionAction

/-- `payload.get("recursive_group")`, with `recursive_mkdir` beside it. -/
def recursive? (p : Payload) : Option RecursiveMkdirStepMetadata := p.details?.bind RecoveryDetails.recursive

/-- `payload.get("checkpoint_id")`. -/
def checkpointId? : Payload → Option String
  | backupCleanup id _ | captureCleanup id .. => some id
  | artifactCleanup c => some c.checkpointId
  | _ => none

/-- The intent of a batch or an operation. -/
def intent? : Payload → Option Intent
  | intent i => some i
  | _ => none

/-- The snapshot a checkpoint is, in whole. -/
def snapshot? : Payload → Option ResourceSnapshot
  | snapshot s _ => some s
  | _ => none

/-- `Path(str(payload.get("path")))` of a checkpoint. -/
def path? : Payload → Option Path
  | snapshot s _ => some s.path
  | backup b => some b.path
  | expectedAfter p _ => some p
  | capturedDirectory c => some c.path
  | _ => none

end Payload

end SafeFsOps
