import SafeFsOps.OperationJournal.FailureRecords

/-!
# Journaled mutations

`operation_journal/filesystem_mutations.py` and `filesystem_mutation_checkpoints.py`:
writing, deleting, making a directory, renaming without replacing, and capturing
a directory. All go the same way: check the authority, create the batch under the
idempotency key, start it, record what is there, *invoke* the filesystem call,
record what is there then, mark the batch succeeded. A replay that finds the batch
succeeded skips the mutation; one that finds it anywhere past `planned` gives up.

- `openBatch` is the part up to the start, which the three kinds share.
- `runFileMutation`, `runRenameMutation`, `runCaptureDirectoryMutation` are the
  three methods `_run_…_mutation`.
- `runMutation` is the public interface: a request to a program.
-/

namespace SafeFsOps

variable {φ ω : Type}

/-! ## Opening a batch -/

/-- A batch that was started before, or that is past it. -/
def cannotStart (batch : BatchRow Payload) (what : String) : OperationError :=
  .batchState ("batch " ++ pyRepr batch.batchId ++ " is in phase " ++ pyRepr batch.phase.text ++
    " and cannot " ++ what)

/-- A start that met records of somebody else: `except BatchStartConflictError`. -/
def startConflict (c : Caller) (batch : BatchRow Payload) (resourceKey what : String) (e : OperationError) :
    Op φ ω (BatchRow Payload × OperationRow Payload) :=
  if e.isBatchStartConflict then do
    let current ← getBatch batch.batchId
    recordInterruptedIfTakenOver c (current.getD batch) resourceKey
      "retry found abandoned batch with journal records"
    .raise (.batchState ("batch " ++ pyRepr batch.batchId ++ " cannot " ++ what ++ ": " ++ e.text))
  else .raise e

/-- Create the batch and start it: `none` where an earlier call has finished it. -/
def openBatch (c : Caller) (intent : Intent) (operationType : OperationType) (resourceKey what : String) :
    Op φ ω (Option (BatchRow Payload × OperationRow Payload)) := do
  let batch ← createBatchStep c resourceKey intent
  if batch.phase = .succeeded then return none
  else if batch.phase ≠ .planned then do
    recordInterruptedIfTakenOver c batch resourceKey "retry found abandoned batch outside planned phase"
    .raise (cannotStart batch what)
  else do
    let started ← (startBatchOperationStep c batch.batchId operationType resourceKey intent).onRaise
      (startConflict c batch resourceKey what)
    return some started

/-! ## Files and directories -/

/-- A mutation of one path: the arguments of `_run_file_mutation`. -/
structure FileMutation (φ ω : Type) where
  path : Path
  resourceKey : String
  operationType : OperationType
  preflightOperation : Option String
  intent : Intent
  recovery : RecoveryDetails
  mutate : ω → φ → Except FilesystemError Unit × φ

/-- `backup_content_path`. -/
def backupContentPath (C : Coordinator φ ω) (batchId operationId : String) (path : Path) : Path :=
  parentPath C.statePath ++ [(C.statePath.getLastD "") ++ ".artifacts", "file-backups",
    C.uuid5 ("safe-fs-ops:file-backup" ++ String.singleton (Char.ofNat 0) ++ batchId ++
      String.singleton (Char.ofNat 0) ++ operationId ++ String.singleton (Char.ofNat 0) ++ pathText path) ++ ".bak"]

/-- `_validated_backup_permissions`. -/
def validatedBackupPermissions (C : Coordinator φ ω) (path : Path) (before : ResourceSnapshot) : Op φ ω Nat :=
  if before.fileType ≠ .file ∨ before.pathExists = false then .raise (.valueError
    "backup rollback proof can only be planned for missing or regular file snapshots")
  else do
    let stat ← (fsRead fun o fs => C.ops.lstat o fs path).onRaise fun _ => .raise (.valueError
      ("backup rollback proof refused because file metadata could not be captured: " ++ pathText path))
    if stat.fileType ≠ .file then .raise (.valueError
      ("backup rollback proof refused for non-regular file: " ++ pathText path))
    else if some stat.size ≠ before.size ∨ some stat.mtimeNs ≠ before.mtimeNs then .raise (.valueError
      ("backup rollback proof refused because file changed before backup planning: " ++ pathText path))
    else return stat.permissions

/-- `planned_backup_payload`. -/
def plannedBackup (C : Coordinator φ ω) (path : Path) (before : ResourceSnapshot) (contentPath : Path) :
    Op φ ω FileBackup :=
  if before.fileType = .missing then return .missing before
  else do
    let permissions ← validatedBackupPermissions C path before
    return .file contentPath before.contentHash before.size permissions before

/-- The cleanup planned with a backup intent; a backup of nothing leaves no artifact. -/
def planBackupCleanup (c : Caller) (batchId resourceKey : String) (checkpoint : CheckpointRow Payload)
    (backup : FileBackup) : Op φ ω Unit :=
  match backup with
  | .missing _ => .ret ()
  | .file contentPath .. => do
    let _ ← recordArtifactCleanupPlannedStep c batchId (pathText contentPath) .deferredCleanup
      (some resourceKey) (.backupCleanup checkpoint.checkpointId contentPath)
    return ()

/-- `capture_backup_artifact`; `capture_backup` of a missing file does nothing. -/
def captureBackupArtifact (C : Coordinator φ ω) (path : Path) (before : ResourceSnapshot) (contentPath : Path) :
    Op φ ω FileBackup :=
  if before.fileType = .missing then return .missing before
  else fsCall fun o fs => C.ops.captureBackup o fs path before contentPath

/-- The proof `prepare_mutation_checkpoints` takes of a file about to be changed:
the intent, the backup itself, and what is expected afterwards. -/
def captureFileRollbackProof (C : Coordinator φ ω) (c : Caller) (batchId operationId : String)
    (m : FileMutation φ ω) (before : ResourceSnapshot) : Op φ ω RecoveryDetails := do
  let contentPath := backupContentPath C batchId operationId m.path
  let backup ← plannedBackup C m.path before contentPath
  let checkpoint ← recordCheckpointStep c batchId m.resourceKey "backup_artifact_intent" (.backup backup)
    (some operationId)
  planBackupCleanup c batchId m.resourceKey checkpoint backup
  let captured ← captureBackupArtifact C m.path before contentPath
  if captured ≠ backup then .raise (.valueError
    ("backup rollback proof changed during capture: " ++ pathText m.path))
  else do
    let _ ← recordCheckpointStep c batchId m.resourceKey "backup" (.backup backup) (some operationId)
    let _ ← recordCheckpointStep c batchId m.resourceKey "expected_after"
      (.expectedAfter m.path m.recovery.desired) (some operationId)
    return { m.recovery with backup := some backup, expectedAfter := some (m.path, m.recovery.desired) }

/-- Whether `prepare_mutation_checkpoints` takes a proof. -/
def takesRollbackProof (C : Coordinator φ ω) (operationType : OperationType) : Bool :=
  operationType ∈ [OperationType.writeBytes, .writeText, .deleteFile] ∧ C.automaticFileRollback = true

/-- `prepare_mutation_checkpoints`. -/
def prepareMutationCheckpoints (C : Coordinator φ ω) (c : Caller) (batchId operationId : String)
    (m : FileMutation φ ω) (before : ResourceSnapshot) : Op φ ω RecoveryDetails := do
  let _ ← recordCheckpointStep c batchId m.resourceKey "before" (.snapshot before none) (some operationId)
  if takesRollbackProof C m.operationType = false then return m.recovery
  else captureFileRollbackProof C c batchId operationId m before

/-- What follows the filesystem call on a path: look, record, and mark the batch succeeded. -/
def finishMutation (C : Coordinator φ ω) (c : Caller) (batchId operationId : String) (path : Path)
    (resourceKey : String) (before : ResourceSnapshot) (recovery : RecoveryDetails)
    (result : ResourceSnapshot → Payload) : Op φ ω Unit := do
  let failed (after : Option ResourceSnapshot) (stage : String) :=
    recordPostMutationFailure C c batchId path resourceKey before after recovery stage
  let after ← recordAndRaise (fsRead fun o fs => C.ops.snapshot o fs path) (failed none "after_snapshot")
  let _ ← recordAndRaise
    (recordCheckpointStep c batchId resourceKey "after" (.snapshot after none) (some operationId))
    (failed (some after) "after_checkpoint")
  let _ ← recordAndRaise (markSucceededStep c batchId (result after)) (failed (some after) "mark_succeeded")
  return ()

/-- The end of `_run_file_mutation`. -/
def finishFileMutation (C : Coordinator φ ω) (c : Caller) (batchId operationId : String)
    (m : FileMutation φ ω) (before : ResourceSnapshot) (recovery : RecoveryDetails) : Op φ ω Unit :=
  finishMutation C c batchId operationId m.path m.resourceKey before recovery fun after =>
    .succeeded operationId m.resourceKey (some after) none none

/-- `except UnsupportedFilesystemBackendError: … raise` and
`except Exception: … raise JournaledFilesystemMutationError`. -/
def mutationRaises (batchId : String) (e : OperationError) : OperationError :=
  if e.isUnsupportedBackend then e else .mutation e.text batchId

/-- `_run_file_mutation` once the batch is started. -/
def startedFileMutation (C : Coordinator φ ω) (c : Caller) (m : FileMutation φ ω)
    (batchId operationId : String) : Op φ ω Unit := do
  let before ← recordAndRaise (fsRead fun o fs => C.ops.snapshot o fs m.path)
    (recordBeforeSnapshotFailure c batchId m.path m.resourceKey m.recovery)
  let recovery ← recordAndRaise
    (maintainOperationLease C c.toLeaseHolder (prepareMutationCheckpoints C c batchId operationId m before))
    (recordMutationFailure C c batchId m.path m.resourceKey before m.recovery (some "prepare_checkpoints"))
  recordAndRaise (requireAuthority c m.resourceKey)
    (recordMutationFailure C c batchId m.path m.resourceKey before recovery none)
  (maintainOperationLease C c.toLeaseHolder (invoke c m.mutate)).onRaise fun e => do
    recordMutationFailure C c batchId m.path m.resourceKey before recovery none e
    .raise (mutationRaises batchId e)
  finishFileMutation C c batchId operationId m before recovery

/-- `if preflight_operation is not None: self._preflight_operation(…)`. -/
def preflight (C : Coordinator φ ω) (operation : Option String) : Op φ ω Unit :=
  match operation with
  | some operation => .ofExcept (C.preflightOperation operation)
  | none => .ret ()

/-- `_run_file_mutation`. -/
def runFileMutation (C : Coordinator φ ω) (c : Caller) (m : FileMutation φ ω) : Op φ ω Unit := do
  preflight C m.preflightOperation
  requireAuthority c m.resourceKey
  let opened ← openBatch c m.intent m.operationType m.resourceKey "start a file mutation"
  match opened with
  | none => return ()
  | some (batch, operation) => startedFileMutation C c m batch.batchId operation.operationId

/-! ## Renames -/

/-- The arguments of `_run_rename_mutation`. -/
structure RenameMutation where
  sourcePath : Path
  destinationPath : Path
  resourceKey : String
  destinationResourceKey : String

/-- `_snapshot_or_none`. -/
def snapshotOrNone (C : Coordinator φ ω) (path : Path) : Op φ ω (Option ResourceSnapshot) := do
  let seen ← snapshotOutcome C path
  return seen.toOption

/-- `_looks_physically_moved`. -/
def looksPhysicallyMoved (sourceAfter targetAfter : Option ResourceSnapshot) : Bool :=
  sourceAfter.any (fun s => s.pathExists = false) && targetAfter.any (fun s => s.pathExists = true)

/-- `_snapshot_identity_matches`. -/
def snapshotIdentityMatches (left right : ResourceSnapshot) : Bool :=
  left.device ≠ none ∧ left.device = right.device ∧ left.inode ≠ none ∧ left.inode = right.inode ∧
    left.size ≠ none ∧ left.size = right.size ∧ left.mtimeNs ≠ none ∧ left.mtimeNs = right.mtimeNs ∧
    (left.fileType = .file ∧ right.fileType = .file →
      left.contentHash ≠ none ∧ left.contentHash = right.contentHash)

/-- `_rename_payload_from_snapshots`: only a file can be known by its snapshot. -/
def renamePayloadFromSnapshots (m : RenameMutation) (before : ResourceSnapshot)
    (destinationAfter : Option ResourceSnapshot) : Option RenameRecord := do
  let after ← destinationAfter
  guard (before.fileType = .file ∧ after.fileType = before.fileType ∧
    snapshotIdentityMatches after before = true)
  let device ← before.device
  let inode ← before.inode
  let size ← before.size
  let mtimeNs ← before.mtimeNs
  let ctimeNs ← before.ctimeNs
  return ⟨m.sourcePath, m.destinationPath, before.fileType, device, inode, size, mtimeNs, some ctimeNs⟩

/-- `_ambiguous_rename_recovery_payload`. -/
def ambiguousRenameRecovery (m : RenameMutation) (before : ResourceSnapshot)
    (sourceAfter destinationAfter : Option ResourceSnapshot) (e : OperationError) : Option RecoveryDetails :=
  if looksPhysicallyMoved sourceAfter destinationAfter = false then none
  else match renamePayloadFromSnapshots m before destinationAfter with
    | some record => some { RecoveryDetails.empty with renameRecord := some record }
    | none => some { RecoveryDetails.empty with
        manualInterventionAction := some
          { operation := .renameNoReplace
            actionId := "manual-intervention:rename-no-replace:" ++ pathText m.destinationPath ++ ":" ++
              pathText m.sourcePath
            resourceKey := m.resourceKey
            reason := "rename_no_replace requires manual intervention after ambiguous post-move verification"
            reasonCode := "rename_ambiguous_success_unverified"
            detail := e.text
            sourcePath := m.sourcePath
            targetPath := m.destinationPath
            beforeSnapshot := before
            sourceAfter := sourceAfter
            targetAfter := destinationAfter } }

/-- What a failed move leaves: nothing moved, or, with the evidence there is, a move
whose success was not reported. -/
def recordMoveFailure (C : Coordinator φ ω) (c : Caller) (batchId : String) (path : Path) (resourceKey : String)
    (before : ResourceSnapshot) (after : Option ResourceSnapshot) (ambiguous : Option RecoveryDetails)
    (stage : String) (e : OperationError) : Op φ ω Unit :=
  match ambiguous with
  | none => recordMutationFailure C c batchId path resourceKey before RecoveryDetails.empty none e
  | some recovery => recordPostMutationFailure C c batchId path resourceKey before after recovery stage e

/-- The authority checks around a move: outside and inside the kept lease. -/
def authorizedMove {α : Type} (C : Coordinator φ ω) (c : Caller) (resourceKey destinationResourceKey : String)
    (move : Op φ ω α) : Op φ ω α := do
  requireAuthority c resourceKey
  requireAuthority c destinationResourceKey
  maintainOperationLease C c.toLeaseHolder do
    requireAuthority c resourceKey
    requireAuthority c destinationResourceKey
    move

/-- The records of a rename that was made. -/
def recordRename (C : Coordinator φ ω) (c : Caller) (batchId operationId : String) (m : RenameMutation)
    (record : RenameRecord) : Op φ ω Unit := do
  let _ ← recordCheckpointStep c batchId m.resourceKey "rename_record" (.renameRecord record) (some operationId)
  let source ← fsRead fun o fs => C.ops.snapshot o fs m.sourcePath
  let destination ← fsRead fun o fs => C.ops.snapshot o fs m.destinationPath
  let _ ← recordCheckpointStep c batchId m.resourceKey "after" (.moved source destination) (some operationId)
  let _ ← markSucceededStep c batchId (.succeeded operationId m.resourceKey none (some record) none)
  return ()

/-- `_run_rename_mutation` once the batch is started. -/
def startedRenameMutation (C : Coordinator φ ω) (c : Caller) (m : RenameMutation)
    (batchId operationId : String) : Op φ ω Unit := do
  let before ← fsRead fun o fs => C.ops.snapshot o fs m.sourcePath
  let _ ← recordCheckpointStep c batchId m.resourceKey "before" (.snapshot before none) (some operationId)
  let destination ← fsRead fun o fs => C.ops.snapshot o fs m.destinationPath
  let _ ← recordCheckpointStep c batchId m.resourceKey "destination_before" (.snapshot destination none)
    (some operationId)
  let record ← (authorizedMove C c m.resourceKey m.destinationResourceKey
      (invoke c fun o fs => C.ops.renameNoReplace o fs m.sourcePath m.destinationPath)).onRaise fun e => do
    let sourceAfter ← snapshotOrNone C m.sourcePath
    let destinationAfter ← snapshotOrNone C m.destinationPath
    recordMoveFailure C c batchId m.sourcePath m.resourceKey before sourceAfter
      (ambiguousRenameRecovery m before sourceAfter destinationAfter e) "rename_ambiguous_success" e
    .raise (.mutation e.text batchId)
  recordAndRaise (recordRename C c batchId operationId m record)
    (recordPostMutationFailure C c batchId m.sourcePath m.resourceKey before none
      { RecoveryDetails.empty with renameRecord := some record } "rename_journal")

/-- `_run_rename_mutation`. -/
def runRenameMutation (C : Coordinator φ ω) (c : Caller) (m : RenameMutation) : Op φ ω Unit := do
  requireAuthority c m.resourceKey
  requireAuthority c m.destinationResourceKey
  let intent := Intent.renameNoReplace m.sourcePath m.destinationPath m.resourceKey m.destinationResourceKey
  let opened ← openBatch c intent .renameNoReplace m.resourceKey "start a rename mutation"
  match opened with
  | none => return ()
  | some (batch, operation) => startedRenameMutation C c m batch.batchId operation.operationId

/-! ## Captures -/

/-- The arguments of `_run_capture_directory_mutation`. -/
structure CaptureMutation where
  sourcePath : Path
  quarantinePath : Path
  resourceKey : String
  destinationResourceKey : String

/-- `_snapshot_directory_capture_token`. -/
def snapshotDirectoryCaptureToken (C : Coordinator φ ω) (path : Path) (snapshot : ResourceSnapshot)
    (create : Bool) : Op φ ω (Option String) :=
  match snapshot.fileType, snapshot.device, snapshot.inode with
  | .directory, some device, some inode => do
    let token ← (fsCall fun o fs =>
      C.ops.directoryCaptureToken o fs path ⟨device, inode⟩ create).outcome
    return token.toOption.join
  | _, _, _ => return none

/-- The payload of a capture, from its record or from what was seen. -/
def capturedDirectoryPayload (r : CapturedDirectoryRecord) (resourceKey : String)
    (cleanup : Option CapturedDirectoryCleanup) : CapturedDirectoryPayload where
  path := r.originalPath
  stepResourceKey := resourceKey
  cleanup := cleanup
  originalIdentity := ⟨r.originalPath, resourceKey, r.originalIdentity⟩
  capturedIdentity := ⟨r.quarantinePath, resourceKey, r.capturedIdentity⟩
  captureToken := r.captureToken

/-- The checks of `_captured_directory_payload_from_snapshots` before the token. -/
def capturedIdentityFromSnapshots (before : ResourceSnapshot) (quarantineAfter : Option ResourceSnapshot) :
    Option (ResourceSnapshot × DirectoryIdentity) := do
  let after ← quarantineAfter
  guard (before.fileType = .directory ∧ after.fileType = .directory ∧
    after.device = before.device ∧ after.inode = before.inode)
  let device ← before.device
  let inode ← before.inode
  return (after, ⟨device, inode⟩)

/-- `_captured_directory_payload_from_snapshots`. -/
def capturedDirectoryFromSnapshots (C : Coordinator φ ω) (m : CaptureMutation) (before : ResourceSnapshot)
    (captureToken : Option String) (quarantineAfter : Option ResourceSnapshot) :
    Op φ ω (Option CapturedDirectoryPayload) :=
  match capturedIdentityFromSnapshots before quarantineAfter, captureToken with
  | some (after, identity), some token => do
    let seen ← snapshotDirectoryCaptureToken C m.quarantinePath after false
    if seen ≠ some token then return none
    else return some (capturedDirectoryPayload
      ⟨m.sourcePath, m.quarantinePath, identity, identity, some token⟩ m.resourceKey none)
  | _, _ => return none

/-- `_ambiguous_capture_recovery_payload`. -/
def ambiguousCaptureRecovery (C : Coordinator φ ω) (m : CaptureMutation) (before : ResourceSnapshot)
    (captureToken : Option String) (sourceAfter quarantineAfter : Option ResourceSnapshot) (e : OperationError) :
    Op φ ω (Option RecoveryDetails) :=
  if looksPhysicallyMoved sourceAfter quarantineAfter = false then return none
  else do
    let payload ← capturedDirectoryFromSnapshots C m before captureToken quarantineAfter
    match payload with
    | some p => return some { RecoveryDetails.empty with capturedDirectoryRestore := some p }
    | none => return some { RecoveryDetails.empty with
        manualInterventionAction := some
          { operation := .captureDirectory
            actionId := "manual-intervention:capture-directory:" ++ pathText m.quarantinePath ++ ":" ++
              pathText m.sourcePath
            resourceKey := m.resourceKey
            reason := "capture_directory requires manual intervention after ambiguous post-move verification"
            reasonCode := "capture_directory_ambiguous_success_unverified"
            detail := e.text
            sourcePath := m.sourcePath
            targetPath := m.quarantinePath
            beforeSnapshot := before
            sourceAfter := sourceAfter
            targetAfter := quarantineAfter } }

/-- `_captured_directory_cleanup_artifact_id`. -/
def capturedDirectoryCleanupArtifactId (r : CapturedDirectoryRecord) : String :=
  "captured-directory:" ++ pathText r.quarantinePath

/-- `_record_captured_directory_cleanup_plan` and, where captures are retained,
`_record_captured_directory_cleanup_retained`. -/
def recordCapturedDirectoryCleanup (C : Coordinator φ ω) (c : Caller) (batchId resourceKey : String)
    (checkpoint : CheckpointRow Payload) (captured : CapturedDirectoryRecord) : Op φ ω Unit := do
  let payload := Payload.captureCleanup checkpoint.checkpointId captured C.capturedDirectoryCleanup
  let artifactId := capturedDirectoryCleanupArtifactId captured
  let _ ← recordArtifactCleanupPlannedStep c batchId artifactId .deferredCleanup (some resourceKey) (payload none)
  match C.capturedDirectoryCleanup with
  | .automatic => return ()
  | .retain => do
    let _ ← transitionArtifactCleanupStep c batchId artifactId .skipped (some "captured_directory_retained")
      (payload (some "captured_directory_retained"))
    return ()

/-- The records of a capture that was made. -/
def recordCapture (C : Coordinator φ ω) (c : Caller) (batchId operationId : String) (m : CaptureMutation)
    (captured : CapturedDirectoryRecord) : Op φ ω Unit := do
  let payload := capturedDirectoryPayload captured m.resourceKey (some C.capturedDirectoryCleanup)
  let checkpoint ← recordCheckpointStep c batchId m.resourceKey "captured_directory" (.capturedDirectory payload)
    (some operationId)
  recordCapturedDirectoryCleanup C c batchId m.resourceKey checkpoint captured
  let source ← fsRead fun o fs => C.ops.snapshot o fs m.sourcePath
  let quarantine ← fsRead fun o fs => C.ops.snapshot o fs m.quarantinePath
  let _ ← recordCheckpointStep c batchId m.resourceKey "after" (.moved source quarantine) (some operationId)
  let _ ← markSucceededStep c batchId (.succeeded operationId m.resourceKey none none (some payload))
  return ()

/-- `_run_capture_directory_mutation` once the batch is started. -/
def startedCaptureMutation (C : Coordinator φ ω) (c : Caller) (m : CaptureMutation)
    (batchId operationId : String) : Op φ ω Unit := do
  let before ← fsRead fun o fs => C.ops.snapshot o fs m.sourcePath
  let captureToken ← snapshotDirectoryCaptureToken C m.sourcePath before true
  let _ ← recordCheckpointStep c batchId m.resourceKey "before" (.snapshot before captureToken) (some operationId)
  let captured ← (authorizedMove C c m.resourceKey m.destinationResourceKey
      (invoke c fun o fs => C.ops.captureDirectory o fs m.sourcePath m.quarantinePath)).onRaise fun e => do
    let sourceAfter ← snapshotOrNone C m.sourcePath
    let quarantineAfter ← snapshotOrNone C m.quarantinePath
    let ambiguous ← ambiguousCaptureRecovery C m before captureToken sourceAfter quarantineAfter e
    recordMoveFailure C c batchId m.sourcePath m.resourceKey before sourceAfter ambiguous
      "capture_directory_ambiguous_success" e
    .raise (.mutation e.text batchId)
  recordAndRaise (recordCapture C c batchId operationId m captured)
    (recordPostMutationFailure C c batchId m.sourcePath m.resourceKey before none
      { RecoveryDetails.empty with
        capturedDirectoryRestore := some
          (capturedDirectoryPayload captured m.resourceKey (some C.capturedDirectoryCleanup)) }
      "capture_directory_journal")

/-- `_run_capture_directory_mutation`. -/
def runCaptureDirectoryMutation (C : Coordinator φ ω) (c : Caller) (m : CaptureMutation) : Op φ ω Unit := do
  requireAuthority c m.resourceKey
  requireAuthority c m.destinationResourceKey
  let intent := Intent.captureDirectory m.sourcePath m.quarantinePath m.resourceKey m.destinationResourceKey
    C.capturedDirectoryCleanup
  let opened ← openBatch c intent .captureDirectory m.resourceKey "start a capture-directory mutation"
  match opened with
  | none => return ()
  | some (batch, operation) => startedCaptureMutation C c m batch.batchId operation.operationId

/-! ## The public methods -/

/-- A request to a coordinator. -/
inductive MutationRequest where
  | writeTextFile (path : Path) (content : String) (resourceKey : String) (newline : Option String)
  | writeBytesFile (path : Path) (content : Bytes) (resourceKey : String) (permissions maxBytes : Option Nat)
      (allowLarge : Option Bool)
  | deleteFile (path : Path) (resourceKey : String) (missingOk : Bool)
  | makeDirectory (path : Path) (resourceKey : String) (parents existOk : Bool)
      (recursive : Option RecursiveMkdirStepMetadata)
  | recordDirectoryNoop (path : Path) (resourceKey : String)
  | renameNoReplace (source destination : Path) (resourceKey destinationResourceKey : String)
  | captureDirectory (source quarantine : Path) (resourceKey : String) (destinationResourceKey : Option String)

/-- `_require_matching_file_resource_key`. -/
def requireMatchingFileResourceKey (path : Path) (resourceKey : String) : Except OperationError Unit :=
  require (resourceKey = fileResourceKey path) (.fileResourceKeyMismatch ("resource_key " ++
    pyRepr resourceKey ++ " does not match canonical file resource " ++ pyRepr (fileResourceKey path)))

/-- `_require_matching_directory_resource_key`. -/
def requireMatchingDirectoryResourceKey (path : Path) (resourceKey : String) : Except OperationError Unit :=
  require (resourceKey = directoryResourceKey path) (.directoryResourceKeyMismatch ("resource_key " ++
    pyRepr resourceKey ++ " does not match canonical directory resource " ++ pyRepr (directoryResourceKey path)))

/-- `_require_matching_rename_resource_key`. -/
def requireMatchingRenameResourceKey (path : Path) (resourceKey : String) : Except OperationError Unit :=
  if "file:".toList.isPrefixOf resourceKey.toList then requireMatchingFileResourceKey path resourceKey
  else requireMatchingDirectoryResourceKey path resourceKey

/-- `_normalized_text`: every line end is made a line feed, and that the new line end. -/
def normalizedText (content : String) (newline : Option String) : String :=
  match newline with
  | none => content
  | some "" => content
  | some nl => ((content.replace "\r\n" "\n").replace "\r" "\n").replace "\n" nl

/-- What is wanted of a written file. -/
def desiredFile (content : Bytes) : Desired := ⟨true, .file, some content.length, some (contentDigest content)⟩

/-- The mutation of `write_text_file`, with the default encoding. -/
def writeTextMutation (C : Coordinator φ ω) (path : Path) (content resourceKey : String) (newline : Option String) :
    FileMutation φ ω :=
  let desired := (normalizedText content newline).toUTF8.toList
  { path := path
    resourceKey := resourceKey
    operationType := .writeText
    preflightOperation := some "write_text"
    intent := .writeText path resourceKey newline desired.length (contentDigest desired)
    recovery := { RecoveryDetails.empty with desired := some (desiredFile desired) }
    mutate := fun o fs => C.ops.writeText o fs path content newline }

/-- `write_text_file`. -/
def writeTextFile (C : Coordinator φ ω) (c : Caller) (path : Path) (content resourceKey : String)
    (newline : Option String) : Op φ ω Unit := do
  .ofExcept (requireMatchingFileResourceKey path resourceKey)
  runFileMutation C c (writeTextMutation C path content resourceKey newline)

/-- The mutation of `write_bytes_file`. -/
def writeBytesMutation (C : Coordinator φ ω) (path : Path) (content : Bytes) (resourceKey : String)
    (permissions : Option Nat) (effectiveMaxBytes : Nat) (effectiveAllowLarge : Bool) : FileMutation φ ω where
  path := path
  resourceKey := resourceKey
  operationType := .writeBytes
  preflightOperation := some "write_text"
  intent := .writeBytes path resourceKey content.length (contentDigest content) permissions effectiveMaxBytes
    effectiveAllowLarge
  recovery := { RecoveryDetails.empty with desired := some (desiredFile content) }
  mutate := fun o fs => C.ops.writeBytes o fs path content permissions

/-- More bytes than the policy allows. -/
def writeBytesRefused (size maxBytes : Nat) : OperationError := .valueError
  ("write_bytes refused " ++ toString size ++ " byte(s); max_bytes is " ++ toString maxBytes ++
    ". Pass allow_large=True or configure write_bytes_large_policy='allow' to opt in.")

/-- `write_bytes_file`. -/
def writeBytesFile (C : Coordinator φ ω) (c : Caller) (path : Path) (content : Bytes) (resourceKey : String)
    (permissions maxBytes : Option Nat) (allowLarge : Option Bool) : Op φ ω Unit := do
  .ofExcept (requireMatchingFileResourceKey path resourceKey)
  let effectiveMaxBytes := maxBytes.getD C.writeBytesMaxBytes
  let effectiveAllowLarge := allowLarge.getD C.writeBytesLargePolicyAllow
  let m := writeBytesMutation C path content resourceKey permissions effectiveMaxBytes effectiveAllowLarge
  if effectiveMaxBytes < content.length ∧ effectiveAllowLarge = false then
    .raise (writeBytesRefused content.length effectiveMaxBytes)
  else runFileMutation C c m

/-- The mutation of `delete_file`. -/
def deleteFileMutation (C : Coordinator φ ω) (path : Path) (resourceKey : String) (missingOk : Bool) :
    FileMutation φ ω where
  path := path
  resourceKey := resourceKey
  operationType := .deleteFile
  preflightOperation := some "delete_file"
  intent := .deleteFile path resourceKey missingOk
  recovery := { RecoveryDetails.empty with desired := some ⟨false, .missing, none, none⟩ }
  mutate := fun o fs => C.ops.deleteFile o fs path missingOk

/-- `delete_file`. -/
def deleteFile (C : Coordinator φ ω) (c : Caller) (path : Path) (resourceKey : String) (missingOk : Bool) :
    Op φ ω Unit := do
  .ofExcept (requireMatchingFileResourceKey path resourceKey)
  runFileMutation C c (deleteFileMutation C path resourceKey missingOk)

/-- The mutation of `make_directory`; a step of a recursive one brings its metadata. -/
def makeDirectoryMutation (C : Coordinator φ ω) (path : Path) (resourceKey : String) (parents existOk : Bool)
    (recursive : Option RecursiveMkdirStepMetadata) : FileMutation φ ω where
  path := path
  resourceKey := resourceKey
  operationType := .makeDirectory
  preflightOperation := some "make_directory"
  intent := .makeDirectory path resourceKey parents existOk recursive
  recovery := { RecoveryDetails.empty with
    desired := some ⟨true, .directory, none, none⟩, recursive := recursive }
  mutate := fun o fs => C.ops.makeDirectory o fs path parents existOk

/-- `make_directory` makes no parents. -/
def parentsDeferred : OperationError :=
  .notImplemented "journaled make_directory(..., parents=True) is deferred until ancestor journaling exists"

/-- `make_directory`. -/
def makeDirectory (C : Coordinator φ ω) (c : Caller) (path : Path) (resourceKey : String)
    (parents existOk : Bool) (recursive : Option RecursiveMkdirStepMetadata) : Op φ ω Unit := do
  .ofExcept (requireMatchingDirectoryResourceKey path resourceKey)
  if parents then .raise parentsDeferred
  else runFileMutation C c (makeDirectoryMutation C path resourceKey parents existOk recursive)

/-- The mutation of `record_directory_noop`: all the records, around no change. -/
def directoryNoopMutation (path : Path) (resourceKey : String) : FileMutation φ ω where
  path := path
  resourceKey := resourceKey
  operationType := .makeDirectoryNoop
  preflightOperation := none
  intent := .makeDirectoryNoop path resourceKey
  recovery := { RecoveryDetails.empty with desired := some ⟨true, .directory, none, none⟩ }
  mutate := fun _ fs => (.ok (), fs)

/-- `record_directory_noop`. -/
def recordDirectoryNoop (C : Coordinator φ ω) (c : Caller) (path : Path) (resourceKey : String) :
    Op φ ω Unit := do
  .ofExcept (requireMatchingDirectoryResourceKey path resourceKey)
  runFileMutation C c (directoryNoopMutation path resourceKey)

/-- `rename_no_replace`. -/
def renameNoReplace (C : Coordinator φ ω) (c : Caller) (source destination : Path)
    (resourceKey destinationResourceKey : String) : Op φ ω Unit := do
  .ofExcept (requireMatchingRenameResourceKey source resourceKey)
  .ofExcept (requireMatchingRenameResourceKey destination destinationResourceKey)
  requireAuthority c resourceKey
  requireAuthority c destinationResourceKey
  runRenameMutation C c ⟨source, destination, resourceKey, destinationResourceKey⟩

/-- `capture_directory`. -/
def captureDirectory (C : Coordinator φ ω) (c : Caller) (source quarantine : Path) (resourceKey : String)
    (destinationResourceKey : Option String) : Op φ ω Unit := do
  .ofExcept (requireMatchingDirectoryResourceKey source resourceKey)
  match destinationResourceKey with
  | none => .raise (.valueError "capture_directory requires destination_resource_key for the quarantine path")
  | some destinationKey => do
    .ofExcept (requireMatchingDirectoryResourceKey quarantine destinationKey)
    requireAuthority c destinationKey
    runCaptureDirectoryMutation C c ⟨source, quarantine, resourceKey, destinationKey⟩

/-- A request as a program. -/
def runMutation (C : Coordinator φ ω) (c : Caller) : MutationRequest → Op φ ω Unit
  | .writeTextFile path content key newline => writeTextFile C c path content key newline
  | .writeBytesFile path content key permissions maxBytes allowLarge =>
    writeBytesFile C c path content key permissions maxBytes allowLarge
  | .deleteFile path key missingOk => deleteFile C c path key missingOk
  | .makeDirectory path key parents existOk recursive => makeDirectory C c path key parents existOk recursive
  | .recordDirectoryNoop path key => recordDirectoryNoop C c path key
  | .renameNoReplace source destination key destinationKey =>
    renameNoReplace C c source destination key destinationKey
  | .captureDirectory source quarantine key destinationKey =>
    captureDirectory C c source quarantine key destinationKey

end SafeFsOps
