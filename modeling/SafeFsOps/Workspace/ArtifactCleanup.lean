import SafeFsOps.OperationJournal.Mutations
import SafeFsOps.Workspace.Workspace

/-!
# Cleaning up artifacts

The artifact half of `workspace_rollback.py`, with `file_backup_artifacts.py` and
the cleanups of `captured_directory_recovery_actions.py` and `tree_backup_recovery.py`:
once a batch is finished, for good or undone, its backup file, its captured directory
or the objects of a tree backup that was cut off are disposed of.
A cleanup is planned, marked attempting right before the disposal, and closed with
what came of it; what could not be disposed of is a *debt*.

The disposal needs a current lease of the workspace: the one at hand, or one
acquired for the purpose.
-/

namespace SafeFsOps

variable {φ ω : Type}

/-! ## Candidates -/

inductive ArtifactKind where
  | backupFile | capturedDirectory | treeBackupObject
deriving DecidableEq

/-- The kind as it stands in payloads. -/
def ArtifactKind.text : ArtifactKind → String
  | backupFile => "backup_file"
  | capturedDirectory => "captured_directory"
  | treeBackupObject => "tree_backup_object"

/-- The kind as it stands in messages. -/
def ArtifactKind.what : ArtifactKind → String
  | backupFile => "backup artifact"
  | capturedDirectory => "captured directory"
  | treeBackupObject => "tree backup artifact"

/-- What a candidate is to dispose of, or why it cannot. -/
inductive CleanupTarget where
  | backupFile (expectedContentPath : Path) (contentHash : ContentDigest) (size : Nat)
  | capturedDirectory (record : CapturedDirectoryRecord)
  | treeObject (storePath : Path) (digest : ContentDigest) (size : Nat)
  | debt (reasonCode detail : String)
deriving DecidableEq

/-- `BackupArtifactCleanupCandidate`, `CapturedDirectoryCleanupCandidate` and `TreeBackupArtifactCleanupCandidate`. -/
structure CleanupCandidate where
  kind : ArtifactKind
  artifactId : String
  checkpointId : String
  resourceKey : String
  artifactPath : Path
  expectedContentPath : Option Path
  capturedDirectoryCleanup : Option CapturedDirectoryCleanup
  target : CleanupTarget
deriving DecidableEq

/-- `backup_artifacts_root`. -/
def backupArtifactsRoot (statePath : Path) : Path :=
  parentPath statePath ++ [(statePath.getLastD "") ++ ".artifacts"]

/-- `"".join(path.suffixes)`. -/
def pathExtension (path : Path) : String :=
  let name := (path.getLastD "").toList
  if name.getLast? = some '.' then "" else .ofList ((name.dropWhile (· = '.')).dropWhile (· ≠ '.'))

/-- `_legacy_backup_content_path_for_state_path`. -/
def legacyBackupContentPath (C : Coordinator φ ω) (batchId operationId : String) (path : Path) : Path :=
  backupArtifactsRoot C.statePath ++
    ["file-backups", batchId, C.uuid5 (pathText path), operationId ++ pathExtension path ++ ".bak"]

/-- `_expected_backup_content_path_for_checkpoint`. -/
def expectedBackupContentPath (C : Coordinator φ ω) (batchId operationId : String) (path contentPath : Path) :
    Path :=
  let legacy := legacyBackupContentPath C batchId operationId path
  if contentPath = legacy then legacy else backupContentPath C batchId operationId path

/-- The fields a backup checkpoint should have and has not. -/
def missingBackupFields (operationId : Option String) (hash : Option ContentDigest) (size : Option Nat) :
    List String :=
  (if operationId = none then ["operation_id"] else []) ++ (if hash = none then ["content_hash"] else []) ++
    (if size = none then ["size"] else [])

/-- The candidate of a backup checkpoint. -/
def backupCandidate (C : Coordinator φ ω) (c : CheckpointRow Payload) : Option CleanupCandidate :=
  match c.payload with
  | .backup (.file contentPath hash size _ snapshot) =>
    let expected := c.operationId.map fun id => expectedBackupContentPath C c.batchId id snapshot.path contentPath
    let candidate (artifactId : String) (target : CleanupTarget) : CleanupCandidate :=
      ⟨.backupFile, artifactId, c.checkpointId, c.resourceKey, contentPath, expected, none, target⟩
    match expected, hash, size with
    | some path, some hash, some size => some (candidate (pathText path) (.backupFile path hash size))
    | _, _, _ => some (candidate ((expected.map pathText).getD ("checkpoint:" ++ c.checkpointId))
        (.debt "malformed_backup_checkpoint" ("backup checkpoint is missing required field(s): " ++
          ", ".intercalate (missingBackupFields c.operationId hash size))))
  | _ => none

/-- Whether a backup intent is superseded by a backup of its operation. -/
def intentSuperseded (checkpoints : List (CheckpointRow Payload)) (c : CheckpointRow Payload) : Bool :=
  checkpoints.any fun b => b.checkpointType = "backup" ∧ b.batchId = c.batchId ∧
    b.operationId = c.operationId ∧ b.payload.path? = c.payload.path?

/-- The first candidate of each artifact. -/
def distinctArtifacts (candidates : List CleanupCandidate) : List CleanupCandidate :=
  candidates.foldl (fun seen c => if seen.any (fun s => s.artifactId = c.artifactId) then seen else seen ++ [c]) []

/-- `plan_backup_artifact_cleanup_candidates`. -/
def planBackupArtifactCleanupCandidates (C : Coordinator φ ω) (checkpoints : List (CheckpointRow Payload)) :
    List CleanupCandidate :=
  let relevant := checkpoints.filter fun c => c.checkpointType = "backup" ∨
    c.checkpointType = "backup_artifact_intent" ∧ intentSuperseded checkpoints c = false
  distinctArtifacts (relevant.filterMap (backupCandidate C))

/-- The reason code of a captured directory that is no proof. -/
def captureDebtReason : OperationError → String
  | .actionManual _ reasonCode => reasonCode
  | _ => "malformed_captured_directory_checkpoint"

/-- `_captured_directory_cleanup_candidate`. -/
def capturedCandidate (c : CheckpointRow Payload) : Option CleanupCandidate :=
  match c.payload with
  | .capturedDirectory p =>
    let candidate (artifactId : String) (target : CleanupTarget) : CleanupCandidate :=
      ⟨.capturedDirectory, artifactId, c.checkpointId, c.resourceKey, p.capturedIdentity.path, none, p.cleanup,
        target⟩
    match capturedRecordFromPayload p with
    | .ok record => some (candidate (capturedDirectoryCleanupArtifactId record) (.capturedDirectory record))
    | .error e => some (candidate ("checkpoint:" ++ c.checkpointId) (.debt (captureDebtReason e) e.text))
  | _ => none

/-- `plan_captured_directory_cleanup_candidates`. -/
def planCapturedDirectoryCleanupCandidates (checkpoints : List (CheckpointRow Payload)) : List CleanupCandidate :=
  distinctArtifacts ((checkpoints.filter fun c => c.checkpointType = "captured_directory").filterMap
    capturedCandidate)

/-- `_content_ref_path`. -/
def contentRefPath (C : Coordinator φ ω) (storePath : Path) (digest : ContentDigest) : Path :=
  let hex := C.hexdigest digest
  storePath ++ ["sha256", .ofList (hex.toList.take 2), hex]

/-- `_tree_backup_artifact_candidate_from_payload`. -/
def treeObjectCandidate (C : Coordinator φ ω) (c : CheckpointRow Payload) (storePath : Path) (ref : ContentRef) :
    CleanupCandidate :=
  ⟨.treeBackupObject, pathText (contentRefPath C storePath ref.digest), c.checkpointId, c.resourceKey, ref.path, none,
    none, .treeObject storePath ref.digest ref.size⟩

/-- The candidates of a checkpoint of objects that a tree backup has created. -/
def treeObjectCandidates (C : Coordinator φ ω) (c : CheckpointRow Payload) : List CleanupCandidate :=
  match c.payload with
  | .partialArtifacts p => p.contentRefs.map (treeObjectCandidate C c p.storePath)
  | _ => []

/-- `plan_tree_backup_artifact_cleanup_candidates`: a backup that came to its end keeps its objects. -/
def planTreeObjectCleanupCandidates (C : Coordinator φ ω) (checkpoints : List (CheckpointRow Payload)) :
    List CleanupCandidate :=
  let completed (c : CheckpointRow Payload) : Bool :=
    checkpoints.any fun b => b.checkpointType = "tree_backup" ∧ b.batchId = c.batchId
  let relevant := checkpoints.filter fun c => c.checkpointType = "tree_backup_partial_artifacts" ∧ completed c = false
  distinctArtifacts (relevant.flatMap (treeObjectCandidates C))

/-! ## Disposal -/

/-- `BackupArtifactCleanupResult`, `CapturedDirectoryCleanupResult` and `TreeBackupArtifactCleanupResult`. -/
structure CleanupResult where
  status : ArtifactCleanupStatus
  reasonCode : Option String
  detail : Option String
deriving DecidableEq

def CleanupResult.succeeded : CleanupResult := ⟨.succeeded, none, none⟩

def CleanupResult.because (status : ArtifactCleanupStatus) (reasonCode detail : String) : CleanupResult :=
  ⟨status, some reasonCode, some detail⟩

/-- A backup file or a tree backup's object that is to be deleted: where it lies, what it
should hold and how that is read, and what it is called in reasons and details. -/
structure FileArtifact (φ ω : Type) where
  what : String
  reason : String
  unsafeReason : String
  path : Path
  root : Path
  hash : ContentDigest
  size : Nat
  hashFile : ω → φ → Path → Except FilesystemError (ContentDigest × Nat)

section FileArtifact

variable (W : Workspace φ ω) (a : FileArtifact φ ω)

/-- An artifact that is gone already. -/
def artifactMissing : CleanupResult :=
  .because .skipped "artifact_missing" (a.what ++ " already missing at " ++ pathText a.path)

/-- `isinstance(exc, OSError)`. -/
def isOsError : FilesystemError → Bool
  | .fileNotFound _ | .fileExists _ | .osError _ => true
  | _ => false

/-- `_verify_backup_artifact_cleanup_candidate` and `_verify_tree_backup_artifact_cleanup_candidate`:
`none` where the artifact is as recorded. -/
def verifyArtifact : Op φ ω (Option CleanupResult) := do
  let seen ← (fsRead fun o fs => a.hashFile o fs a.path).outcome
  match seen with
  | .ok actual =>
    if actual = (a.hash, a.size) then return none
    else return some (.because .manualInterventionRequired (a.reason ++ "_content_mismatch")
      (a.what ++ " content changed at " ++ pathText a.path))
  | .error (.filesystem (.fileNotFound _)) => return some (artifactMissing a)
  | .error (.filesystem f) =>
    if isOsError f then return some (.because .manualInterventionRequired
      (a.reason ++ "_verification_failed") f.text)
    else .raise (.filesystem f)
  | .error e => .raise e

/-- Whether one element of a chain is a symbolic link, or cannot be looked at. -/
def symlinkViolation (path : Path) : Op φ ω (Option String) := do
  let seen ← (fsRead fun o fs => W.coordinator.ops.lstat o fs path).outcome
  match seen with
  | .ok stat =>
    return if stat.fileType = .symlink then
      some ("refusing to remove " ++ a.what ++ " beneath symlinked path " ++ pathText path) else none
  | .error (.filesystem (.fileNotFound _)) => return none
  | .error e => return some ("refusing to inspect " ++ a.what ++ " path " ++ pathText path ++ ": " ++ e.text)

/-- `_symlink_chain_violation`. -/
def symlinkChainViolation : Op φ ω (Option String) :=
  if a.root.isPrefixOf a.path = false then
    return some ("refusing to remove " ++ a.what ++ " outside " ++ pathText a.root)
  else do
    let chain := (a.path.inits.filter fun p => a.root.isPrefixOf p)
    let seen ← .mapEach chain (symlinkViolation W a)
    return seen.findSome? id

/-- A deletion, and what its errors count as. -/
def deleteArtifact (delete : ω → φ → Except FilesystemError Unit × φ) : Op φ ω CleanupResult := do
  let deleted ← (fsCall delete).outcome
  match deleted with
  | .ok _ => return .succeeded
  | .error (.filesystem (.fileNotFound _)) => return artifactMissing a
  | .error (.filesystem f) =>
    if isOsError f then return .because .failed "artifact_cleanup_failed" f.text else .raise (.filesystem f)
  | .error e => .raise e

/-- The deletion; the default one verifies the artifact once more before it unlinks it. -/
def deleteVerifiedArtifact : Op φ ω CleanupResult :=
  match W.backupArtifactCleanupOperation with
  | some operation => deleteArtifact a fun o fs => operation o fs a.path
  | none => do
    let changed ← verifyArtifact a
    match changed with
    | some result => return result
    | none => deleteArtifact a fun o fs => W.coordinator.ops.deleteFile o fs a.path false

/-- The disposal of an artifact that lies where it should. -/
def disposeArtifact (beforeDelete : Option (Op φ ω Unit)) : Op φ ω CleanupResult := do
  let verified ← verifyArtifact a
  match verified, beforeDelete with
  | some result, _ => return result
  | none, none => deleteVerifiedArtifact W a
  | none, some mark => do
    mark
    let again ← verifyArtifact a
    match again with
    | some result => return result
    | none => deleteVerifiedArtifact W a

/-- The disposal, refused with `unexpected` where the artifact does not lie where it should. -/
def executeArtifactCleanup (expected : Path) (unexpected : String) (beforeDelete : Option (Op φ ω Unit)) :
    Op φ ω CleanupResult :=
  let unsafePath (detail : String) : CleanupResult := .because .manualInterventionRequired a.unsafeReason detail
  if a.path ≠ expected then return unsafePath unexpected
  else do
    let violation ← symlinkChainViolation W a
    match violation with
    | some detail => return unsafePath detail
    | none => disposeArtifact W a beforeDelete

end FileArtifact

/-- `execute_backup_artifact_cleanup_candidate`. -/
def executeBackupCleanup (W : Workspace φ ω) (path expected : Path) (hash : ContentDigest) (size : Nat)
    (beforeDelete : Option (Op φ ω Unit)) : Op φ ω CleanupResult :=
  executeArtifactCleanup W
    { what := "backup artifact"
      reason := "backup_artifact"
      unsafeReason := "unsafe_artifact_path"
      path := path
      root := backupArtifactsRoot W.coordinator.statePath
      hash := hash
      size := size
      hashFile := W.coordinator.ops.hashRegularFile }
    expected ("refusing to remove backup artifact with unexpected path " ++ pathText path ++ "; expected " ++
      pathText expected) beforeDelete

/-- `execute_tree_backup_artifact_cleanup_candidate`. -/
def executeTreeObjectCleanup (W : Workspace φ ω) (path storePath : Path) (digest : ContentDigest) (size : Nat)
    (beforeDelete : Option (Op φ ω Unit)) : Op φ ω CleanupResult :=
  let expected := contentRefPath W.coordinator storePath digest
  executeArtifactCleanup W
    { what := "tree backup artifact"
      reason := "tree_backup_artifact"
      unsafeReason := "unsafe_tree_backup_artifact_path"
      path := path
      root := storePath
      hash := digest
      size := size
      hashFile := W.coordinator.ops.hashOpenedFile }
    expected ("refusing to remove tree backup artifact " ++ pathText path ++ "; expected " ++ pathText expected)
    beforeDelete

/-- The reason `execute_captured_directory_cleanup_candidate` gives for an unsafe path. -/
def captureCleanupReason : FilesystemError → String
  | .identitySafeRemoveUnavailable _ => "identity_safe_remove_directory_unavailable"
  | _ => "captured_directory_cleanup_unsafe"

/-- `execute_captured_directory_cleanup_candidate`. -/
def executeCapturedCleanup (W : Workspace φ ω) (record : CapturedDirectoryRecord)
    (beforeDelete : Option (Op φ ω Unit)) : Op φ ω CleanupResult := do
  beforeDelete.getD (.ret ())
  let deleted ← (fsCall fun o fs => W.coordinator.ops.cleanupCapturedDirectory o fs record).outcome
  match deleted with
  | .ok _ => return .succeeded
  | .error (.filesystem (.fileNotFound _)) =>
    return .because .skipped "captured_directory_missing"
      ("captured directory already missing at " ++ pathText record.quarantinePath)
  | .error (.filesystem f) =>
    if f.isUnsafePath then return .because .manualInterventionRequired (captureCleanupReason f) f.text
    else if isOsError f then return .because .failed "captured_directory_cleanup_failed" f.text
    else .raise (.filesystem f)
  | .error e => .raise e

/-- Dispose of a candidate, calling `beforeDelete` right before. -/
def executeCleanup (W : Workspace φ ω) (c : CleanupCandidate) (beforeDelete : Option (Op φ ω Unit)) :
    Op φ ω CleanupResult :=
  match c.target with
  | .debt reasonCode detail => return .because .manualInterventionRequired reasonCode detail
  | .backupFile expected hash size => executeBackupCleanup W c.artifactPath expected hash size beforeDelete
  | .treeObject storePath digest size => executeTreeObjectCleanup W c.artifactPath storePath digest size beforeDelete
  | .capturedDirectory record => executeCapturedCleanup W record beforeDelete

/-! ## The cleanup log -/

/-- `_artifact_cleanup_payload`, with what the execution came to. -/
def cleanupPayload (c : CleanupCandidate) (result : Option CleanupResult) : Payload :=
  let debt : Option (String × String) :=
    match c.target with
    | .debt reasonCode detail => some (reasonCode, detail)
    | _ => none
  .artifactCleanup
    { checkpointId := c.checkpointId
      artifactType := c.kind.text
      artifactPath := c.artifactPath
      expectedContentPath := c.expectedContentPath
      status := result.map fun r => r.status.text
      reasonCode := (result.bind CleanupResult.reasonCode).or (debt.map Prod.fst)
      detail := (result.bind CleanupResult.detail).or (debt.map Prod.snd) }

/-- `_artifact_cleanup_records_for_candidate`. -/
def cleanupRecordsFor (batchId : String) (c : CleanupCandidate) : Op φ ω (List (ArtifactCleanupRow Payload)) :=
  databaseRead fun _ w =>
    let named (artifactId : String) := w.journal.listArtifactCleanupRecords batchId (some artifactId)
    .ok <| match named c.artifactId with
      | [] =>
        match (w.journal.listArtifactCleanupRecords batchId none).find? fun r =>
            r.payload.checkpointId? = some c.checkpointId with
        | some r => named r.artifactId
        | none => []
      | records => records

/-- `_PreparedArtifactCleanupAttempt`. -/
structure PreparedCleanup where
  artifactId : String
  shouldMarkAttempting : Bool
  shouldExecute : Bool

/-- `_captured_directory_cleanup_policy`. -/
def captureCleanupPolicy (W : Workspace φ ω) (batch : BatchRow Payload) (c : CleanupCandidate) :
    CapturedDirectoryCleanup :=
  c.capturedDirectoryCleanup.getD <|
    match batch.payload with
    | .intent (.captureDirectory _ _ _ _ cleanup) => cleanup
    | _ => W.coordinator.capturedDirectoryCleanup

/-- A cleanup that is planned under the trigger. -/
def planCleanup (h : LeaseHolder) (batchId artifactId : String) (c : CleanupCandidate)
    (trigger : ArtifactCleanupTrigger) : Op φ ω PreparedCleanup := do
  let _ ← recordArtifactCleanupPlannedStep h batchId artifactId trigger (some c.resourceKey) (cleanupPayload c none)
  return ⟨artifactId, true, true⟩

/-- `_record_retained_captured_directory_cleanup`. -/
def recordRetainedCapture (h : LeaseHolder) (batchId : String) (c : CleanupCandidate)
    (trigger : ArtifactCleanupTrigger) : Op φ ω PreparedCleanup := do
  let _ ← recordArtifactCleanupPlannedStep h batchId c.artifactId trigger (some c.resourceKey)
    (cleanupPayload c none)
  let _ ← transitionArtifactCleanupStep h batchId c.artifactId .skipped (some "captured_directory_retained")
    (cleanupPayload c (some ⟨.skipped, some "captured_directory_retained", none⟩))
  return ⟨c.artifactId, false, false⟩

/-- `_allows_legacy_artifact_cleanup_backfill`. -/
def allowsCleanupBackfill (batch : BatchRow Payload) (trigger : ArtifactCleanupTrigger) : Bool :=
  trigger = .commitCleanup ∧ batch.phase = .succeeded ∨ trigger = .recoveryCleanup ∧ batch.phase = .recoverySucceeded

/-- `_prepare_artifact_cleanup_attempt` for an artifact that has no cleanup yet. -/
def prepareFirstCleanup (W : Workspace φ ω) (h : LeaseHolder) (batch : BatchRow Payload) (c : CleanupCandidate)
    (trigger : ArtifactCleanupTrigger) : Op φ ω PreparedCleanup :=
  if c.kind = .capturedDirectory ∧ captureCleanupPolicy W batch c = .retain then
    recordRetainedCapture h batch.batchId c trigger
  else if allowsCleanupBackfill batch trigger = false then .raise (.safeWorkspace ("batch " ++
    pyRepr batch.batchId ++ " is missing durable artifact cleanup intent for " ++ pyRepr c.artifactId))
  else planCleanup h batch.batchId c.artifactId c trigger

/-- `_prepare_artifact_cleanup_attempt`. -/
def prepareCleanup (W : Workspace φ ω) (h : LeaseHolder) (batch : BatchRow Payload) (c : CleanupCandidate)
    (trigger : ArtifactCleanupTrigger) : Op φ ω PreparedCleanup := do
  let records ← cleanupRecordsFor batch.batchId c
  match records.getLast? with
  | none => prepareFirstCleanup W h batch c trigger
  | some latest =>
    let mismatch : OperationError := .safeWorkspace ("batch " ++ pyRepr batch.batchId ++
      " artifact cleanup resource mismatch for " ++ pyRepr c.artifactId)
    match latest.status with
    | .planned => return ⟨latest.artifactId, true, true⟩
    | .failed | .manualInterventionRequired => planCleanup h batch.batchId latest.artifactId c trigger
    | .succeeded | .skipped =>
      if latest.resourceKey ≠ some c.resourceKey then .raise mismatch else return ⟨latest.artifactId, false, false⟩
    | .attempting =>
      if latest.resourceKey ≠ some c.resourceKey then .raise mismatch else return ⟨latest.artifactId, false, true⟩

/-- What could not be disposed of. -/
structure CleanupDebt where
  kind : ArtifactKind
  batchId : String
  artifactPath : Path
  reasonCode : String
  detail : String
deriving DecidableEq

/-- `_artifact_cleanup_result_debt`. -/
def cleanupDebt (batchId : String) (c : CleanupCandidate) (r : CleanupResult) : Option CleanupDebt :=
  if r.status = .failed ∨ r.status = .manualInterventionRequired then
    some ⟨c.kind, batchId, c.artifactPath, r.reasonCode.getD "", r.detail.getD ""⟩
  else none

/-- One candidate: prepared, disposed of, and the result recorded. -/
def cleanupCandidate (W : Workspace φ ω) (h : LeaseHolder) (batch : BatchRow Payload)
    (trigger : ArtifactCleanupTrigger) (c : CleanupCandidate) : Op φ ω (Option CleanupDebt) := do
  let prepared ← prepareCleanup W h batch c trigger
  if prepared.shouldExecute = false then return none
  else do
    let what := match c.kind with | .backupFile => "deleting backup artifact"
                                  | .capturedDirectory => "deleting captured directory artifact"
                                  | .treeBackupObject => "deleting tree backup artifact"
    let mark : Op φ ω Unit := do
      let _ ← transitionArtifactCleanupStep h batch.batchId prepared.artifactId .attempting (some what)
        (cleanupPayload c none)
      return ()
    let result ← maintainLease h
      (executeCleanup W c (if prepared.shouldMarkAttempting then some mark else none))
    let _ ← transitionArtifactCleanupStep h batch.batchId prepared.artifactId result.status
      (if result.status = .succeeded then none else result.reasonCode) (cleanupPayload c (some result))
    return cleanupDebt batch.batchId c result

/-- The artifacts of one batch. -/
def cleanupBatchArtifacts (W : Workspace φ ω) (h : LeaseHolder) (trigger : ArtifactCleanupTrigger)
    (batch : BatchRow Payload) : Op φ ω (List CleanupDebt) := do
  let checkpoints ← listCheckpointsOf batch.batchId
  let backups ← .mapEach (planBackupArtifactCleanupCandidates W.coordinator checkpoints)
    (cleanupCandidate W h batch trigger)
  let captures ← .mapEach (planCapturedDirectoryCleanupCandidates checkpoints) (cleanupCandidate W h batch trigger)
  let objects ← .mapEach (planTreeObjectCleanupCandidates W.coordinator checkpoints)
    (cleanupCandidate W h batch trigger)
  return (backups ++ captures ++ objects).reduceOption

/-- The lease at hand, where it is current. -/
def leaseAtHand (lease : Option LeaseRecord) : Op φ ω (Option LeaseRecord) :=
  match lease with
  | none => return none
  | some lease => do
    let current ← isCurrent ⟨lease, none⟩
    return if current then some lease else none

/-- `with _artifact_cleanup_lease(…)`. -/
def withCleanupLease {α : Type} (W : Workspace φ ω) (lease : Option LeaseRecord) (body : LeaseRecord → Op φ ω α) :
    Op φ ω α := do
  let usable ← leaseAtHand lease
  match usable with
  | some lease => body lease
  | none => do
    let acquired ← acquireLease W none
    if acquired.acquired = false then .raise (.safeWorkspace (leaseIsHeld W acquired))
    else (body acquired).finallyDo (releaseHeldLease ⟨acquired, none⟩ >>= fun _ => .ret ())

/-- The messages of `BackupArtifactCleanupError`, `CapturedDirectoryCleanupError` and `TreeBackupArtifactCleanupError`. -/
def cleanupErrorMessage (what : String) (debts : List CleanupDebt) : String :=
  match debts with
  | [d] => what ++ " cleanup debt for batch " ++ pyRepr d.batchId ++ ": " ++ d.reasonCode ++ " at " ++
      pathText d.artifactPath ++ " (" ++ d.detail ++ ")"
  | _ => what ++ " cleanup debt for " ++ toString debts.length ++ " batches: " ++
      ", ".intercalate (debts.map fun d => pyRepr d.batchId ++ ":" ++ d.reasonCode ++ ":" ++ pathText d.artifactPath)

/-- `_artifact_cleanup_error`. -/
def cleanupError (debts : List CleanupDebt) : String :=
  let message (kind : ArtifactKind) : List String :=
    match debts.filter fun d => d.kind = kind with
    | [] => []
    | own => [cleanupErrorMessage kind.what own]
  "; ".intercalate (message .backupFile ++ message .capturedDirectory ++ message .treeBackupObject)

/-- `_cleanup_artifacts_for_batches`: the debts that were left. -/
def cleanupArtifactsForBatches (W : Workspace φ ω) (lease : Option LeaseRecord) (trigger : ArtifactCleanupTrigger)
    (batches : List (BatchRow Payload)) : Op φ ω (List CleanupDebt) :=
  withCleanupLease W lease fun lease => do
    let debts ← .mapEach batches (cleanupBatchArtifacts W ⟨lease, none⟩ trigger)
    return debts.flatten

end SafeFsOps
