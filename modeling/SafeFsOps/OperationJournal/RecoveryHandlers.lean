import SafeFsOps.OperationJournal.RecoveryPlanning

/-!
# Recovery actions at work

The handlers of `recovery_runner.py`, `rename_recovery_actions.py`,
`captured_directory_recovery_actions.py`, `recursive_mkdir_recovery_actions.py` and
`tree_backup_recovery.py`: each checks the payload of its action,
then the authority of the attempt, and changes the disk in one call. A handler
that finds the disk restored already raises `actionSkipped`; one that cannot
prove what it would change raises `actionManual`.
-/

namespace SafeFsOps

variable {φ ω : Type}

/-- `require_active_recovery_attempt`, and the check `run_with_active_recovery_attempt`
makes before it runs. -/
def requireActiveAttempt (h : LeaseHolder) (batchId recoveryAttemptId : String) : Op φ ω Unit :=
  databaseRead fun i w =>
    ((checkActiveRecoveryAttempt w.journal batchId recoveryAttemptId (h.context i)).map fun _ => ()).mapError
      .journal

/-- `RecoveryAuthority.require_current`. -/
def requireRecoveryAuthority (h : LeaseHolder) (batchId recoveryAttemptId : String) : Op φ ω Unit := do
  requireCurrent h
  requireActiveAttempt h batchId recoveryAttemptId

/-- `RecoveryAuthority.require_action_current`: the latest record of the action is `attempting`. -/
def requireActionCurrent (h : LeaseHolder) (batchId recoveryAttemptId : String)
    (action : RecoveryActionRow Payload) : Op φ ω Unit := do
  requireRecoveryAuthority h batchId recoveryAttemptId
  databaseRead fun _ w =>
    let latest := (w.journal.listRecoveryActions batchId (some recoveryAttemptId)).reverse.find?
      fun a => a.actionId = action.actionId
    require (latest.any (fun a => a.status = .attempting) = true) (.journal (.recoveryAttemptMismatch
      ("batch " ++ pyRepr batchId ++ " recovery action " ++ pyRepr action.actionId ++
        " is not actively attempting")))

/-- `require_recovery_action_authority`, in a context with its authority. -/
def requireRecoveryActionAuthority (h : LeaseHolder) (ctx : RecoveryContext) (attempt : RecoveryRow Payload)
    (action : RecoveryActionRow Payload) : Op φ ω Unit := do
  requireRecoveryAuthority h ctx.batch.batchId attempt.recoveryId
  if action.batchId ≠ ctx.batch.batchId ∨ action.recoveryAttemptId ≠ attempt.recoveryId then
    .raise (.actionManual "recovery mutation requires an active recovery action" "recovery_action_attempt_mismatch")
  else do
    requireRecoveryAuthority h ctx.batch.batchId attempt.recoveryId
    requireActionCurrent h ctx.batch.batchId attempt.recoveryId action

/-! ## Restoring a backup -/

/-- `_restore_backup_reason_code`. -/
def restoreBackupReasonCode : FilesystemError → String
  | .restoreConflict _ => "restore_conflict"
  | .backupContentMismatch _ => "backup_content_mismatch"
  | _ => "unsafe_path"

/-- What `_restore_backup_recovery_action` makes of an error of the restore. -/
def restoreBackupRaises (path : Path) (e : OperationError) : OperationError :=
  match e with
  | .filesystem f =>
    if f.isUnsafePath = true ∨ f.className = "BackupContentMismatchError" then
      .actionManual ("backup restore requires manual intervention: " ++ pathText path) (restoreBackupReasonCode f)
    else e
  | _ => e

/-- `_restore_backup_recovery_action`. -/
def restoreBackupHandler (C : Coordinator φ ω) (authority : Op φ ω Unit) (payload : Payload) : Op φ ω Unit :=
  match payload with
  | .restoreBackup _ backup expected allowOverwrite => do
    authority
    (fsCall fun o fs => C.ops.restoreBackup o fs backup (some expected) allowOverwrite).onRaise
      (fun e => .raise (restoreBackupRaises backup.path e)) >>= fun _ => return ()
  | _ => .raise (.valueError "recovery action payload must include a backup mapping")

/-! ## Undoing a rename -/

/-- What has to be equal for a rename to count as undone, its ctime included. -/
def RenameRecord.isAt (r : RenameRecord) (s : FileStat) : Bool :=
  s.identity = ⟨r.device, r.inode⟩ ∧ s.size = r.size ∧ s.mtimeNs = r.mtimeNs ∧
    r.ctimeNs.all (· = s.ctimeNs)

/-- `_skip_if_already_restored` of a rename. -/
def skipIfRenameRestored (C : Coordinator φ ω) (r : RenameRecord) : Op φ ω Unit := do
  let source ← fsRead fun o fs => C.ops.inspectPath o fs r.sourcePath
  let destination ← fsRead fun o fs => C.ops.inspectPath o fs r.destinationPath
  if destination.pathExists = true ∨ source.pathExists = false ∨ source.fileType ≠ r.fileType then return ()
  else do
    let stat ← fsRead fun o fs => C.ops.lstat o fs r.sourcePath
    if r.isAt stat = false then return ()
    else .raise (.actionSkipped ("inverse rename restore skipped because path is already restored: " ++
      pathText r.sourcePath) "already_restored")

/-- `_manual_intervention` of a rename. -/
def renameManual (r : RenameRecord) (reasonCode : String) : OperationError :=
  .actionManual ("inverse rename restore requires manual intervention: " ++ pathText r.sourcePath) reasonCode

/-- What `restore_inverse_rename_recovery_action` does about an error of the rename. -/
def inverseRenameFailed (C : Coordinator φ ω) (r : RenameRecord) (e : OperationError) : Op φ ω Unit :=
  match e with
  | .filesystem (.fileNotFound _) => do
    skipIfRenameRestored C r
    .raise (renameManual r "rename_destination_missing")
  | .filesystem (.fileExists _) => do
    skipIfRenameRestored C r
    .raise (renameManual r "restore_destination_exists")
  | .filesystem f => .raise (if f.isUnsafePath then renameManual r "rename_identity_mismatch" else e)
  | _ => .raise e

/-- `restore_inverse_rename_recovery_action`. -/
def restoreInverseRenameHandler (C : Coordinator φ ω) (authority : Op φ ω Unit) (payload : Payload) :
    Op φ ω Unit :=
  match payload with
  | .renameRecord r =>
    if r.fileType ≠ .file ∧ r.fileType ≠ .directory then .raise (.actionManual
      "inverse rename restore refused because payload file_type is invalid" "invalid_payload")
    else do
      authority
      ((fsCall fun o fs => C.ops.restoreInverseRename o fs r) >>= fun _ => return ()).onRaise
        (inverseRenameFailed C r)
  | _ => .raise (.actionManual "inverse rename restore refused because payload file_type is invalid" "invalid_payload")

/-! ## Restoring a captured directory -/

/-- `_captured_directory_record_from_payload`. -/
def capturedRecordFromPayload (p : CapturedDirectoryPayload) : Except OperationError CapturedDirectoryRecord :=
  let refused (what code : String) : OperationError := .actionManual ("captured-directory " ++ what ++ ": " ++
    pathText p.path) code
  do
    require (p.originalIdentity.path = p.path ∧ p.originalIdentity.resourceKey = p.stepResourceKey ∧
        p.capturedIdentity.resourceKey = p.stepResourceKey)
      (refused "restore refused because identity payload did not match expected path" "identity_payload_mismatch")
    match p.captureToken with
    | none => .error (refused "recovery requires capture-token evidence" "missing_directory_capture_token")
    | some token => return ⟨p.path, p.capturedIdentity.path, p.originalIdentity.identity,
        p.capturedIdentity.identity, some token⟩

/-- `_skip_if_already_restored` of a capture. -/
def skipIfCaptureRestored (C : Coordinator φ ω) (r : CapturedDirectoryRecord) : Op φ ω Unit := do
  let quarantine ← fsRead fun o fs => C.ops.inspectPath o fs r.quarantinePath
  let original ← fsRead fun o fs => C.ops.inspectPath o fs r.originalPath
  if quarantine.pathExists = true ∨ original.isPlainDirectory = false then return ()
  else do
    let stat ← fsRead fun o fs => C.ops.lstat o fs r.originalPath
    if stat.identity ≠ r.capturedIdentity then return ()
    else do
      let proven ← (fsRead fun o fs =>
        C.ops.requireDirectoryCaptureToken o fs r.originalPath stat.identity (r.captureToken.getD "")).outcome
      match proven with
      | .error _ => return ()
      | .ok _ => .raise (.actionSkipped
          ("captured-directory restore skipped because directory is already restored: " ++ pathText r.originalPath)
          "already_restored")

/-- `_manual_intervention_required` of a capture. -/
def captureManual (r : CapturedDirectoryRecord) (reasonCode : String) : OperationError :=
  .actionManual ("captured-directory restore requires manual intervention: " ++ pathText r.originalPath) reasonCode

/-- What `restore_captured_directory_recovery_action` does about an error of the restore. -/
def captureRestoreFailed (C : Coordinator φ ω) (r : CapturedDirectoryRecord) (e : OperationError) : Op φ ω Unit :=
  match e with
  | .filesystem (.fileNotFound _) => do
    skipIfCaptureRestored C r
    .raise (captureManual r "captured_directory_missing")
  | .filesystem (.fileExists _) => do
    skipIfCaptureRestored C r
    .raise (captureManual r "restore_destination_exists")
  | .filesystem f => .raise (if f.isUnsafePath then captureManual r "captured_directory_tampered" else e)
  | _ => .raise e

/-- `restore_captured_directory_recovery_action`. -/
def restoreCapturedDirectoryHandler (C : Coordinator φ ω) (authority : Op φ ω Unit) (payload : Payload) :
    Op φ ω Unit :=
  match payload with
  | .capturedDirectory p => do
    let r ← .ofExcept (capturedRecordFromPayload p)
    authority
    ((fsCall fun o fs => C.ops.restoreCapturedDirectory o fs r) >>= fun _ => return ()).onRaise
      (captureRestoreFailed C r)
  | _ => .raise (.actionManual "captured-directory restore refused because ownership proof is missing"
      "missing_ownership_proof")

/-! ## Removing a created directory -/

/-- The checks of `remove_created_directory_recovery_action` on its payload. -/
def checkCreatedDirectoryRemoval (ctx : RecoveryContext) (r : CreatedDirectoryRemoval) : Except OperationError Unit :=
  let refused (what code : String) : OperationError := .actionManual
    ("directory cleanup refused because " ++ what ++ ": " ++ pathText r.path) code
  do
    require (r.ownershipClass = "created_by_transaction")
      (refused "ownership proof is missing" "missing_ownership_proof")
    require (r.cleanupPolicy = "owned_empty_directory_safe_ish")
      (refused "cleanup policy is missing or unsupported" "missing_cleanup_policy")
    require (r.backendGuarantee = "identity_conditional_remove")
      (refused "backend guarantee is missing or unsupported" "missing_backend_guarantee")
    require (r.stepResourceKey = directoryResourceKey r.path)
      (refused "resource key did not match path" "")
    require (r.createdDirectoryIdentity.path = r.path ∧ r.createdDirectoryIdentity.resourceKey = r.stepResourceKey)
      (refused "ownership proof did not match action path" "ownership_proof_path_mismatch")
    require (creationProofMatches r.journaledCreationProof r.path r.stepResourceKey
        r.createdDirectoryIdentity.identity ctx = true)
      (refused "journaled ownership proof did not match action path" "journaled_creation_proof_mismatch")

/-- What `remove_created_directory_recovery_action` makes of an error of the removal. -/
def removalRaises (path : Path) (e : OperationError) : OperationError :=
  match e with
  | .filesystem f =>
    if f.isUnsupportedMutation then .actionManual
      ("directory cleanup refused because identity-conditional directory removal is unsupported: " ++ pathText path)
      "identity_safe_remove_directory_unsupported"
    else e
  | _ => e

/-- The removal itself: of the directory of that identity, and only when it is empty. -/
def removeOwnedDirectory (C : Coordinator φ ω) (authority : Op φ ω Unit) (r : CreatedDirectoryRemoval) :
    Op φ ω Unit := do
  let refused (what code : String) : OperationError := .actionManual
    ("directory cleanup refused because " ++ what ++ ": " ++ pathText r.path) code
  let stat ← fsRead fun o fs => C.ops.lstat o fs r.path
  if stat.identity ≠ r.createdDirectoryIdentity.identity then
    .raise (refused "directory identity changed" "created_directory_identity_mismatch")
  else do
    let entries ← fsRead fun o fs => C.ops.listDirectory o fs r.path
    if entries ≠ [] then .raise (refused "directory is not empty" "directory_not_empty")
    else
      match C.ops.identityRemoveDirectory with
      | none => .raise (refused "no identity-conditional directory remover is available"
          "identity_safe_remove_directory_unavailable")
      | some remove => do
        authority
        (fsCall fun o fs => remove o fs r.path r.createdDirectoryIdentity.identity).onRaise
          fun e => .raise (removalRaises r.path e)

/-- `remove_created_directory_recovery_action`. -/
def removeCreatedDirectoryHandler (C : Coordinator φ ω) (ctx : RecoveryContext) (authority : Op φ ω Unit)
    (payload : Payload) : Op φ ω Unit :=
  match payload with
  | .removeCreatedDirectory r => do
    .ofExcept (checkCreatedDirectoryRemoval ctx r)
    let safety ← fsRead fun o fs => C.ops.inspectPath o fs r.path
    if safety.pathExists = false then .raise (.actionSkipped
      ("directory cleanup skipped because path is already absent: " ++ pathText r.path) "")
    else if safety.isPlainDirectory = false then .raise (.actionManual
      ("directory cleanup refused because path is unsafe: " ++ pathText r.path) "")
    else removeOwnedDirectory C authority r
  | _ => .raise (.actionManual "directory cleanup refused because ownership proof is missing"
      "missing_ownership_proof")

/-! ## Restoring a tree -/

/-- `_restore_tree_backup_reason_code`. -/
def restoreTreeBackupReasonCode : FilesystemError → String
  | .restoreConflict _ => "restore_conflict"
  | .fileNotFound _ => "tree_backup_content_missing"
  | .backupContentMismatch _ | .valueError _ => "tree_backup_content_mismatch"
  | _ => "unsafe_path"

/-- What `restore_tree_backup_recovery_action` makes of an error of the restore. -/
def restoreTreeBackupRaises (e : OperationError) : OperationError :=
  match e with
  | .filesystem f =>
    if f.isUnsafePath = true ∨ f.className ∈ ["BackupContentMismatchError", "FileNotFoundError", "ValueError"] then
      .actionManual "tree backup restore requires manual intervention" (restoreTreeBackupReasonCode f)
    else e
  | _ => e

/-- `restore_tree_backup_recovery_action`; the call of the restore asks for the authority again. -/
def restoreTreeBackupHandler (C : Coordinator φ ω) (authority : Op φ ω Unit) (resourceKey : Option String)
    (payload : Payload) : Op φ ω Unit :=
  match payload with
  | .restoreTreeBackup backup storePath destinationRoot allowOverwrite =>
    if resourceKey.any (· ≠ treeResourceKey destinationRoot) then .raise (.actionManual
      "tree backup restore requires manual intervention: destination does not match resource"
      "tree_backup_resource_mismatch")
    else do
      authority
      authority
      let policy : ConflictPolicy := if allowOverwrite then .replace else .noReplace
      (fsCall fun o fs => C.ops.restoreTreeBackup o fs backup storePath destinationRoot policy).onRaise
        (fun e => .raise (restoreTreeBackupRaises e)) >>= fun _ => return ()
  | _ => .raise (.actionManual "tree backup restore requires manual intervention: malformed recovery payload"
      "malformed_tree_backup_recovery_payload")

/-- `_recovery_action_handlers`: those of the file, rename, capture, directory and tree actions.
An action planned here is on the resource of its batch. -/
def recoveryActionHandler (C : Coordinator φ ω) (ctx : RecoveryContext) (authority : Op φ ω Unit)
    (actionType : String) : Option (Payload → Op φ ω Unit) :=
  if actionType = restoreBackupAction then some (restoreBackupHandler C authority)
  else if actionType = restoreInverseRenameAction then some (restoreInverseRenameHandler C authority)
  else if actionType = restoreCapturedDirectoryAction then some (restoreCapturedDirectoryHandler C authority)
  else if actionType = removeCreatedDirectoryAction ∨ actionType = "remove_empty_directory" then
    some (removeCreatedDirectoryHandler C ctx authority)
  else if actionType = restoreTreeBackupAction then some (restoreTreeBackupHandler C authority ctx.batch.resourceKey)
  else none

end SafeFsOps
