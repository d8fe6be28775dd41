import SafeFsOps.OperationJournal.Coordinator

/-!
# Planning a recovery

`file_recovery_planning.py`, `rename_recovery_planning.py`,
`captured_directory_recovery_planning.py`, `recursive_mkdir_recovery_planning.py` and
the planning of `tree_backup_recovery.py`: from what the journal holds of a batch to
the actions that undo it. Planning reads records only, but for one case: a
capture of which nothing but the `before` checkpoint is left is looked up on the
disk (`observedCapturedDirectoryPlan`).

A planner that cannot prove what to do asks for manual intervention. A planner
that has nothing to do plans nothing, and a recovery without actions succeeds.
-/

namespace SafeFsOps

/-- A batch with its operations and checkpoints. -/
structure BatchRecords where
  batch : BatchRow Payload
  operations : List (OperationRow Payload)
  checkpoints : List (CheckpointRow Payload)
deriving DecidableEq

/-- `JournaledFilesystemRecoveryContext`. -/
structure RecoveryContext extends BatchRecords where
  recoveryRecords : List (RecoveryRow Payload)
  recoveryAttempt : Option (RecoveryRow Payload)
  recoveryActions : List (RecoveryActionRow Payload)
  proofContexts : List BatchRecords
deriving DecidableEq

/-- An action to be planned. -/
structure ActionPlan where
  actionId : String
  actionType : String
  resourceKey : Option String
  payload : Payload
deriving DecidableEq

def manualInterventionRequired : String := "manual_intervention_required"
def restoreBackupAction : String := "restore_backup"
def restoreInverseRenameAction : String := "restore_inverse_rename"
def restoreCapturedDirectoryAction : String := "restore_captured_directory"
def removeCreatedDirectoryAction : String := "remove_created_directory"
def restoreTreeBackupAction : String := "restore_tree_backup"

section Reading

/-- `str(None)` for a missing resource key. -/
def optionText (key : Option String) : String := key.getD "None"

/-- `_proof_batch_ids_from_recovery_records`. -/
def proofBatchIds (records : List (RecoveryRow Payload)) (batchId : String) : List String :=
  (records.flatMap fun r => match r.payload.recursive? with
    | some m => m.priorCreatedSteps.map fun s => s.journaledCreationProof.batchId
    | none => []).filter (· ≠ batchId) |>.dedup

/-- The batch with its operations and checkpoints. -/
def readBatchRecords (db : JournalDb Payload) (batchId : String) : Option BatchRecords :=
  (db.batchRow batchId).map fun row => ⟨row, db.listOperations batchId, db.listCheckpoints batchId⟩

/-- `read_recovery_context`: one transaction. -/
def readRecoveryContext (db : JournalDb Payload) (batchId : String) : Except JournalError RecoveryContext :=
  match readBatchRecords db batchId with
  | none => .error (.batchNotFound ("batch " ++ pyRepr batchId ++ " does not exist"))
  | some records => do
    let attempt :=
      if records.batch.phase = .recovering then db.latestRecoveringRecoveryRow batchId else none
    require (records.batch.phase = .recovering → attempt ≠ none) (.recoveryContext
      ("batch " ++ pyRepr batchId ++ " is recovering but has no active recovery attempt record"))
    return { records with
      recoveryRecords := db.listRecoveryRecords batchId
      recoveryAttempt := attempt
      recoveryActions := db.listRecoveryActions batchId none
      proofContexts := (proofBatchIds (db.listRecoveryRecords batchId) batchId).filterMap (readBatchRecords db) }

/-- `_latest_recursive_mkdir_failure_payload`: the last recovery record of a recursive step. -/
def RecoveryContext.recursiveFailure (ctx : RecoveryContext) : Option RecursiveMkdirStepMetadata :=
  ctx.recoveryRecords.reverse.findSome? fun r => r.payload.recursive?

/-- The last ambiguous move of this kind that was left to manual intervention. -/
def RecoveryContext.latestManualAction (ctx : RecoveryContext) (operation : OperationType) : Option ManualAction :=
  ctx.recoveryRecords.reverse.findSome? fun r =>
    r.payload.manualInterventionAction?.filter fun a => a.operation = operation

/-- `_latest_failure_payload`: of the batch's status first, then of the recovery records. -/
def RecoveryContext.latestFailure (ctx : RecoveryContext) : Option FailurePayload :=
  ctx.batch.statusPayload.failure?.or (ctx.recoveryRecords.reverse.findSome? fun r => r.payload.failure?)

end Reading

/-! ## Files -/

/-- What the records prove about a file mutation. -/
inductive FileProof where
  | restore (actionId : String) (resourceKey : String) (path : Path) (backup : FileBackup)
      (expectedCurrent : ResourceSnapshot)
  | noop (actionId : String) (resourceKey : String)
  | manual (actionId : String) (resourceKey : String) (payload : ManualPayload)
deriving DecidableEq

/-- `_latest_checkpoint_from_records`. -/
def latestCheckpoint (checkpoints : List (CheckpointRow Payload)) (checkpointType resourceKey : String)
    (path : Path) : Option (CheckpointRow Payload) :=
  checkpoints.reverse.find? fun c =>
    c.checkpointType = checkpointType ∧ c.resourceKey = resourceKey ∧ c.payload.path? = some path

/-- `_is_backup_payload`, and the backup. -/
def backupOf (c : CheckpointRow Payload) (path : Path) : Option FileBackup :=
  match c.payload with
  | .backup (.missing s) =>
    if s.path = path ∧ s.fileType = .missing ∧ s.pathExists = false then some (.missing s) else none
  | .backup (.file contentPath hash size permissions s) =>
    if s.path = path ∧ s.fileType = .file ∧ s.pathExists = true
    then some (.file contentPath hash size permissions s) else none
  | _ => none

/-- `_same_snapshot_payload`: equal but for the ctime. -/
def sameSnapshot (left right : ResourceSnapshot) (path : Path) : Bool :=
  left.path = path ∧ right.path = path ∧ left.pathExists = right.pathExists ∧
    left.fileType = right.fileType ∧ left.contentHash = right.contentHash ∧ left.size = right.size ∧
    left.mtimeNs = right.mtimeNs ∧ left.symlinkTarget = right.symlinkTarget ∧ left.device = right.device ∧
    left.inode = right.inode

/-- `_failure_snapshot_matches_expected_after`. -/
def matchesExpectedAfter (s : ResourceSnapshot) (expected : Payload) (path : Path) : Bool :=
  match expected with
  | .expectedAfter p (some desired) =>
    s.path = path ∧ p = path ∧
      (if desired.pathExists = false then s.pathExists = false ∧ s.fileType = .missing
      else desired.fileType = .file ∧ s.pathExists = true ∧ s.fileType = .file ∧ s.size = desired.size ∧
        s.contentHash = desired.sha256)
  | _ => false

/-- `_failure_stage_is_before_mutation`. -/
def isBeforeMutation (failure : Option FailurePayload) : Bool :=
  failure.any fun f => f.stage = some "prepare_checkpoints"

/-- The failure's snapshot, where it is of the path. -/
def failureSnapshot (failure : Option FailurePayload) : Option ResourceSnapshot :=
  failure.bind FailurePayload.snapshot

/-- `_failure_observed_after_payload`. -/
def failureObservedAfter (failure : Option FailurePayload) : Option ResourceSnapshot :=
  (failure.bind FailurePayload.after).or (failureSnapshot failure)

/-- `_before_mutation_noop_proof`. -/
def beforeMutationNoop (checkpoints : List (CheckpointRow Payload)) (resourceKey : String) (path : Path)
    (failure : Option FailurePayload) : Bool :=
  isBeforeMutation failure &&
    match latestCheckpoint checkpoints "before" resourceKey path, failureSnapshot failure with
    | some before, some s => before.payload.snapshot?.any fun b => sameSnapshot b s path
    | _, _ => false

/-- `expected_current` of the restore: what the mutation is known to have left. -/
def expectedCurrent (checkpoints : List (CheckpointRow Payload)) (resourceKey : String) (path : Path)
    (failure : Option FailurePayload) : Option ResourceSnapshot :=
  let latest (type : String) := latestCheckpoint checkpoints type resourceKey path
  let expectedAfter := (latest "expected_after").map CheckpointRow.payload
  let proven (s : ResourceSnapshot) : Bool := expectedAfter.any fun e => matchesExpectedAfter s e path
  match (latest "after").bind fun c => c.payload.snapshot? with
  | some after => some after
  | none =>
    ((failureObservedAfter failure).filter proven).or <|
      (((latest "failure").bind fun c => c.payload.snapshot?).filter proven).or <|
        if isBeforeMutation failure then (failureSnapshot failure).filter fun s => s.path = path else none

/-- `_no_side_effect_noop_proof`: what was seen at the failure is what was there before. -/
def noSideEffectNoop (checkpoints : List (CheckpointRow Payload)) (resourceKey : String) (path : Path)
    (backup : FileBackup) (failure : Option FailurePayload) : Bool :=
  match failureSnapshot failure with
  | none => false
  | some s =>
    (latestCheckpoint checkpoints "expected_after" resourceKey path).isSome &&
      (((latestCheckpoint checkpoints "before" resourceKey path).bind fun c => c.payload.snapshot?).any
          (fun b => sameSnapshot b s path) ||
        sameSnapshot backup.snapshot s path)

/-- `_file_recovery_proof_from_records`. -/
def fileRecoveryProofFromRecords (payload : Payload) (checkpoints : List (CheckpointRow Payload))
    (resourceKey : Option String) (failure : Option FailurePayload) : Option FileProof := do
  let intent ← payload.intent?
  guard (intent.operation ∈ [OperationType.writeBytes, .writeText, .deleteFile])
  let path ← intent.path?
  let key ← resourceKey
  let actionId := "restore-backup:self:" ++ key
  let stage := failure.bind FailurePayload.stage
  match (latestCheckpoint checkpoints "backup" key path).bind fun c => backupOf c path with
  | none =>
    if beforeMutationNoop checkpoints key path failure then some (.noop ("noop:" ++ actionId) key)
    else some (.manual ("manual:" ++ actionId) key (.fileRollback path none "missing_backup_proof" stage))
  | some backup =>
    match expectedCurrent checkpoints key path failure with
    | some current => some (.restore actionId key path backup current)
    | none =>
      if noSideEffectNoop checkpoints key path backup failure then some (.noop ("noop:" ++ actionId) key)
      else some (.manual ("manual:" ++ actionId) key
        (.fileRollback path (some backup) "missing_expected_current_proof" stage))

/-- `_file_recovery_proof`. -/
def fileRecoveryProof (ctx : RecoveryContext) : Option FileProof :=
  fileRecoveryProofFromRecords ctx.batch.payload ctx.checkpoints ctx.batch.resourceKey ctx.latestFailure

/-- `file_recovery_action_plans`. -/
def fileRecoveryActionPlans (ctx : RecoveryContext) : List ActionPlan :=
  match fileRecoveryProof ctx with
  | some (.restore actionId key path backup current) =>
    [⟨actionId, restoreBackupAction, some key, .restoreBackup path backup current false⟩]
  | _ => []

/-- `file_rollback_manual_intervention_payload`. -/
def fileRollbackManualIntervention (ctx : RecoveryContext) : Option (String × String × ManualPayload) :=
  match fileRecoveryProof ctx with
  | some (.manual actionId key payload) => some (actionId, key, payload)
  | _ => none

/-! ## Renames -/

/-- `_latest_rename_payload`: of the checkpoints first, then of the recovery records. -/
def latestRenameRecord (ctx : RecoveryContext) : Option RenameRecord :=
  (ctx.checkpoints.reverse.findSome? fun c =>
    match c.payload with
    | .renameRecord r => if c.checkpointType = "rename_record" then some r else none
    | _ => none).or
  (ctx.recoveryRecords.reverse.findSome? fun r => r.payload.renameRecord?)

/-- `rename_recovery_action_plans`. -/
def renameRecoveryActionPlans (ctx : RecoveryContext) : List ActionPlan :=
  match latestRenameRecord ctx with
  | some r =>
    [⟨"restore-inverse-rename:" ++ pathText r.destinationPath ++ ":" ++ pathText r.sourcePath,
      restoreInverseRenameAction, ctx.batch.resourceKey, .renameRecord r⟩]
  | none =>
    match ctx.latestManualAction .renameNoReplace, ctx.batch.payload with
    | some a, _ => [⟨a.actionId, manualInterventionRequired, ctx.batch.resourceKey, .manual (.ambiguousMove a)⟩]
    | none, .intent (.renameNoReplace source destination _ _) =>
      [⟨"rename-no-replace-manual:" ++ ctx.batch.batchId ++ ":" ++ optionText ctx.batch.resourceKey,
        manualInterventionRequired, ctx.batch.resourceKey,
        .manual (.missingRenameProof ctx.batch.batchId ctx.batch.resourceKey source destination)⟩]
    | none, _ => []

/-! ## Created directories -/

/-- A checkpoint of a directory that was there, with its identity. -/
def directoryIdentityOf (s : ResourceSnapshot) : Option DirectoryIdentity := do
  guard (s.pathExists = true ∧ s.fileType = .directory)
  let device ← s.device
  let inode ← s.inode
  return ⟨device, inode⟩

/-- The path, resource key and number of the step a batch creates. -/
def createdStep (path : Path) (resourceKey : String) (recursive : Option RecursiveMkdirStepMetadata) :
    Path × String × Nat :=
  match recursive with
  | some m => (m.stepPath, m.stepResourceKey, m.stepIndex)
  | none => (path, resourceKey, 0)

/-- `_direct_recursive_mkdir_cleanup_plan`: the directory was missing, and a later
checkpoint shows it. Without such a checkpoint there is no plan. -/
def directMkdirCleanupPlan (ctx : RecoveryContext) : Option ActionPlan :=
  match ctx.batch.payload with
  | .intent (.makeDirectory path key _ _ recursive) => do
    let (stepPath, stepKey, stepIndex) := createdStep path key recursive
    guard (ctx.checkpoints.any fun c => c.checkpointType = "before" ∧ c.resourceKey = stepKey ∧
      c.payload.path? = some stepPath ∧ (c.payload.snapshot?.any fun s => s.pathExists = false) = true)
    let operation ← ctx.operations.find? fun o =>
      o.operationType = OperationType.makeDirectory.text ∧ o.resourceKey = some stepKey ∧
        (o.payload.intent?.any fun i => i.path? = some stepPath ∧ i.resourceKey? = some stepKey) = true
    let checkpoint ← ctx.checkpoints.reverse.find? fun c =>
      c.checkpointType ∈ ["after", "failure"] ∧ c.resourceKey = stepKey ∧ c.payload.path? = some stepPath ∧
        (c.payload.snapshot?.any fun s => s.fileType = .directory ∧ s.pathExists = true) = true
    let identity ← checkpoint.payload.snapshot?.bind directoryIdentityOf
    return ⟨"recursive-mkdir-cleanup:self:" ++ stepKey, removeCreatedDirectoryAction, ctx.batch.resourceKey,
      .removeCreatedDirectory
        { path := stepPath
          stepResourceKey := stepKey
          ownershipClass := "created_by_transaction"
          createdDirectoryIdentity := ⟨stepPath, stepKey, identity⟩
          journaledCreationProof := ⟨ctx.batch.batchId, operation.operationId, .makeDirectory,
            checkpoint.checkpointId, checkpoint.checkpointType, stepPath, stepKey⟩
          cleanupPolicy := "owned_empty_directory_safe_ish"
          backendGuarantee := "identity_conditional_remove"
          stepIndex := stepIndex }⟩
  | _ => none

/-- `_same_recursive_batch_intent`. -/
def sameRecursiveBatchIntent (failed proof : Payload) : Bool :=
  match failed, proof with
  | .intent (.makeDirectory _ _ _ _ (some f)), .intent (.makeDirectory _ _ _ _ (some p)) =>
    f.requestedResourceKey = p.requestedResourceKey ∧ f.planTarget = p.planTarget ∧ f.stepCount = p.stepCount
  | .intent (.makeDirectory _ _ _ _ (some _)), _ => false
  | _, .intent (.makeDirectory _ _ _ _ (some _)) => false
  | _, _ => true

/-- `_proof_batch_matches_recursive_lineage`. -/
def proofBatchMatchesLineage (failed proof : BatchRow Payload) : Bool :=
  proof.owner = failed.owner ∧ proof.runId = failed.runId ∧ failed.operationRunId = proof.operationRunId ∧
    failed.operationPhaseId = proof.operationPhaseId ∧ sameRecursiveBatchIntent failed.payload proof.payload = true

/-- `_proof_context_for_batch`. -/
def proofContextForBatch (ctx : RecoveryContext) (batchId : String) : Option BatchRecords :=
  if batchId = ctx.batch.batchId then some ctx.toBatchRecords
  else ctx.proofContexts.find? fun p => p.batch.batchId = batchId

/-- The operation and the checkpoint that a creation proof names bear it out. -/
def creationRecordsMatch (proof : CreationProof) (path : Path) (resourceKey : String)
    (identity : DirectoryIdentity) (operation : OperationRow Payload) (checkpoint : CheckpointRow Payload) : Bool :=
  operation.batchId = proof.batchId ∧ checkpoint.batchId = proof.batchId ∧
    operation.operationType = OperationType.makeDirectory.text ∧ operation.resourceKey = some resourceKey ∧
    (operation.payload.intent?.all fun i => i.path?.all (· = path) ∧ i.resourceKey?.all (· = resourceKey)) = true ∧
    (checkpoint.operationId = none ∨ checkpoint.operationId = some operation.operationId) ∧
    checkpoint.checkpointType = proof.checkpointType ∧ checkpoint.resourceKey = resourceKey ∧
    checkpoint.payload.path? = some path ∧ checkpoint.payload.snapshot?.bind directoryIdentityOf = some identity

/-- `_journaled_creation_proof_matches_action`. -/
def creationProofMatches (proof : CreationProof) (path : Path) (resourceKey : String)
    (identity : DirectoryIdentity) (ctx : RecoveryContext) : Bool :=
  proof.path = path && proof.resourceKey = resourceKey && proof.operationType = .makeDirectory &&
    proof.checkpointType ∈ ["after", "failure"] &&
    match proofContextForBatch ctx proof.batchId with
    | none => false
    | some records =>
      proofBatchMatchesLineage ctx.batch records.batch &&
        match records.operations.find? fun o => o.operationId = proof.operationId,
            records.checkpoints.find? fun c => c.checkpointId = proof.checkpointId with
        | some operation, some checkpoint => creationRecordsMatch proof path resourceKey identity operation checkpoint
        | _, _ => false

/-- `_planned_recursive_mkdir_cleanup_payload`. -/
def priorStepRemoval (ctx : RecoveryContext) (step : CreatedStep) : Option CreatedDirectoryRemoval :=
  if step.ownershipClass = "created_by_transaction" ∧ step.cleanupPolicy = "owned_empty_directory_safe_ish" ∧
      step.backendGuarantee = "identity_conditional_remove" ∧
      step.createdDirectoryIdentity.path = step.stepPath ∧
      step.createdDirectoryIdentity.resourceKey = step.stepResourceKey ∧
      creationProofMatches step.journaledCreationProof step.stepPath step.stepResourceKey
        step.createdDirectoryIdentity.identity ctx = true
  then some ⟨step.stepPath, step.stepResourceKey, step.ownershipClass, step.createdDirectoryIdentity,
    step.journaledCreationProof, step.cleanupPolicy, step.backendGuarantee, step.stepIndex⟩
  else none

/-- The plans for the steps before a failed one, last step first. -/
def priorStepPlans (ctx : RecoveryContext) (m : RecursiveMkdirStepMetadata) : List ActionPlan :=
  let ordered := m.priorCreatedSteps.insertionSort fun a b => b.stepIndex ≤ a.stepIndex
  ((ordered.filterMap (priorStepRemoval ctx)).filter fun r => r.path ≠ m.stepPath).map fun r =>
    ⟨"recursive-mkdir-cleanup:" ++ toString r.stepIndex ++ ":" ++ r.stepResourceKey,
      removeCreatedDirectoryAction, ctx.batch.resourceKey, .removeCreatedDirectory r⟩

/-- `recursive_mkdir_recovery_action_plans`. -/
def recursiveMkdirRecoveryActionPlans (ctx : RecoveryContext) : List ActionPlan :=
  match ctx.recursiveFailure with
  | none => (directMkdirCleanupPlan ctx).toList
  | some m =>
    let prior := priorStepPlans ctx m
    if prior.length < m.stepIndex - 1 then
      [⟨"recursive-mkdir-cleanup:manual-incomplete-proof:" ++ ctx.batch.batchId, manualInterventionRequired,
        ctx.batch.resourceKey,
        .manual (.incompleteMkdirCleanup ctx.batch.batchId m.stepPath (m.stepIndex - 1) prior.length)⟩]
    else (directMkdirCleanupPlan ctx).toList ++ prior

/-! ## Tree backups -/

/-- `_latest_tree_backup_checkpoint`. -/
def latestTreeBackup (ctx : RecoveryContext) : Option (CheckpointRow Payload) :=
  ctx.checkpoints.reverse.find? fun c => c.checkpointType = "tree_backup" ∧ some c.resourceKey = ctx.batch.resourceKey

/-- The plan that a tree backup on record leads to. -/
def treeRestorePlan (ctx : RecoveryContext) (key : String) (c : CheckpointRow Payload) : ActionPlan :=
  let mismatch (detail : String) (backup : Option TreeBackup) : ActionPlan :=
    ⟨"tree-backup-root-mismatch:" ++ ctx.batch.batchId ++ ":" ++ key, manualInterventionRequired, some key,
      .manual (.treeBackupMismatch ctx.batch.batchId key c.checkpointId detail backup)⟩
  match c.payload with
  | .treeBackup b storePath =>
    match requireTreeBackupResourceKey b key with
    | .error detail => mismatch detail (some b)
    | .ok _ => ⟨"restore-tree-backup:self:" ++ key, restoreTreeBackupAction, some key,
        .restoreTreeBackup b storePath b.root false⟩
  | _ => mismatch "tree backup payload is missing a root path" none

/-- `_missing_tree_restore_proof_action_plans`. -/
def missingTreeRestoreProofPlans (ctx : RecoveryContext) (key : String) : List ActionPlan :=
  match ctx.batch.payload with
  | .intent (.restoreTreeBackup destinationRoot _ storePath _ _) =>
    [⟨"restore-tree-backup-manual:" ++ ctx.batch.batchId ++ ":" ++ key, manualInterventionRequired, some key,
      .manual (.missingTreeRestoreProof ctx.batch.batchId key destinationRoot storePath)⟩]
  | _ => []

/-- `tree_backup_recovery_action_plans`: a tree that was backed up is as it was, and one that
was restored over cannot be brought back. -/
def treeBackupRecoveryActionPlans (ctx : RecoveryContext) : List ActionPlan :=
  match ctx.batch.payload, ctx.batch.resourceKey with
  | .intent (.backupTree ..), _ => []
  | _, none => []
  | _, some key =>
    match latestTreeBackup ctx with
    | some c => [treeRestorePlan ctx key c]
    | none => missingTreeRestoreProofPlans ctx key

/-! ## Captured directories -/

section Captures

variable {φ ω : Type}

/-- `_direct_captured_directory_recovery_action_plans`. -/
def latestCapturedDirectory (ctx : RecoveryContext) : Option CapturedDirectoryPayload :=
  (ctx.checkpoints.reverse.findSome? fun c =>
    match c.payload with
    | .capturedDirectory p => if c.checkpointType = "captured_directory" then some p else none
    | _ => none).or
  (ctx.recoveryRecords.reverse.findSome? fun r => r.payload.capturedDirectoryRestore?)

/-- `_latest_directory_before_checkpoint`, with the identity and the token it holds. -/
def latestDirectoryBefore (ctx : RecoveryContext) (resourceKey : String) (source : Path) :
    Option (DirectoryIdentity × Option String) :=
  ctx.checkpoints.reverse.findSome? fun c =>
    match c.payload with
    | .snapshot s token =>
      if c.checkpointType = "before" ∧ c.resourceKey = resourceKey ∧ s.path = source then
        (directoryIdentityOf s).map fun identity => (identity, token)
      else none
    | _ => none

/-- `_resource_key_for_capture`. -/
def resourceKeyForCapture (ctx : RecoveryContext) (key : String) : Option String :=
  if key ≠ "" then some key else ctx.batch.resourceKey

/-- Whether the quarantine holds the directory of that identity and token. -/
def quarantineHolds (C : Coordinator φ ω) (quarantine : Path) (identity : DirectoryIdentity) (token : String) :
    Op φ ω Bool := do
  let safety ← fsRead fun o fs => C.ops.inspectPath o fs quarantine
  if safety.isPlainDirectory = false then return false
  else do
    let stat ← (fsRead fun o fs => C.ops.lstat o fs quarantine).outcome
    if stat.toOption.any (fun s => s.identity = identity) = false then return false
    else do
      let proven ← (fsRead fun o fs => C.ops.requireDirectoryCaptureToken o fs quarantine identity token).outcome
      return proven.toOption.isSome

/-- `_observed_captured_directory_recovery_action_plan`: the source is gone and the
quarantine holds the directory that was seen there before. -/
def observedCapturedDirectoryPlan (C : Coordinator φ ω) (ctx : RecoveryContext) (source quarantine : Path)
    (key : String) : Op φ ω (Option ActionPlan) :=
  match resourceKeyForCapture ctx key with
  | none => return none
  | some key =>
    match latestDirectoryBefore ctx key source with
    | none => return none
    | some (identity, token) => do
      let sourceSafety ← fsRead fun o fs => C.ops.inspectPath o fs source
      match sourceSafety.pathExists, token with
      | false, some token => do
        let holds ← quarantineHolds C quarantine identity token
        if holds = false then return none
        else return some ⟨"restore-captured-directory-from-before:" ++ key ++ ":" ++ pathText source,
          restoreCapturedDirectoryAction, ctx.batch.resourceKey,
          .capturedDirectory
            { path := source
              stepResourceKey := key
              cleanup := none
              originalIdentity := ⟨source, key, identity⟩
              capturedIdentity := ⟨quarantine, key, identity⟩
              captureToken := some token }⟩
      | _, _ => return none

/-- The plan for a capture of which the journal holds no captured directory. -/
def unprovenCapturePlans (C : Coordinator φ ω) (ctx : RecoveryContext) : Op φ ω (List ActionPlan) :=
  match ctx.latestManualAction .captureDirectory, ctx.batch.payload with
  | some a, _ =>
    return [⟨a.actionId, manualInterventionRequired, ctx.batch.resourceKey, .manual (.ambiguousMove a)⟩]
  | none, .intent (.captureDirectory path quarantine key _ _) => do
    let observed ← observedCapturedDirectoryPlan C ctx path quarantine key
    match observed with
    | some plan => return [plan]
    | none => return [⟨"capture-directory-manual:" ++ ctx.batch.batchId ++ ":" ++ optionText ctx.batch.resourceKey,
        manualInterventionRequired, ctx.batch.resourceKey,
        .manual (.missingCaptureProof ctx.batch.batchId ctx.batch.resourceKey path quarantine)⟩]
  | none, _ => return []

/-- `captured_directory_recovery_action_plans`. The steps of a recursive mkdir are
created, never captured, and nothing here adopts a capture without token. -/
def capturedDirectoryRecoveryActionPlans (C : Coordinator φ ω) (ctx : RecoveryContext) : Op φ ω (List ActionPlan) :=
  match latestCapturedDirectory ctx, ctx.recursiveFailure with
  | some p, _ =>
    return [⟨"restore-captured-directory:" ++ p.stepResourceKey ++ ":" ++ pathText p.path,
      restoreCapturedDirectoryAction, ctx.batch.resourceKey, .capturedDirectory p⟩]
  | none, some _ => return []
  | none, none => unprovenCapturePlans C ctx

end Captures

end SafeFsOps
