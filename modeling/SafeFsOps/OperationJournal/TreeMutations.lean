import SafeFsOps.OperationJournal.Mutations

/-!
# Trees and snapshot bundles

The other three methods of `operation_journal/filesystem_mutations.py`: `backupTree`
copies a tree into a content store, `restoreTreeBackup` brings a copy back, and
`snapshotBundle` puts a bundle of snapshots on record. They are journaled as the
mutations are, but for what they guard:

- a backup writes down every object that it creates in the store as it goes
  (`trackedTreeBackup`), and an error of it marks the batch failed, without
  putting it up for recovery;
- a restore records the `before` checkpoint outside of what records a failure;
- a snapshot bundle records no failure at all.
-/

namespace SafeFsOps

variable {φ ω : Type}

/-- `_require_matching_tree_resource_key`. -/
def requireMatchingTreeResourceKey (path : Path) (resourceKey : String) : Except OperationError Unit :=
  require (resourceKey = treeResourceKey path) (.treeResourceKeyMismatch ("resource_key " ++
    pyRepr resourceKey ++ " does not match canonical tree resource " ++ pyRepr (treeResourceKey path)))

/-! ## Backups -/

/-- The arguments of `backup_tree`, with its store. -/
structure TreeBackupMutation where
  path : Path
  relativePaths : List Path
  resourceKey : String
  storePath : Path

/-- `default_tree_backup_store_path`. -/
def defaultTreeBackupStorePath (C : Coordinator φ ω) : Path :=
  parentPath C.statePath ++ [(C.statePath.getLastD "") ++ ".artifacts", "tree-backups", "cas"]

/-- `_TreeBackupPartialArtifactTracker`: the objects that the backup has created, and how many
of them are on record. -/
structure PartialArtifactTracker where
  createdRefs : List ContentRef
  checkpointedCount : Nat

/-- What a backup that is tracked has come to. -/
abbrev TreeBackupOutcome := PartialArtifactTracker × Except OperationError TreeBackup

section Backup

variable (C : Coordinator φ ω) (c : Caller) (m : TreeBackupMutation) (batchId operationId : String)

/-- `record_checkpoint` of the tracker. -/
def recordPartialArtifacts (k : PartialArtifactTracker) : Op φ ω PartialArtifactTracker :=
  match k.createdRefs.drop k.checkpointedCount with
  | [] => return k
  | refs => do
    let _ ← recordCheckpointStep c batchId m.resourceKey "tree_backup_partial_artifacts"
      (.partialArtifacts ⟨m.path, m.relativePaths, m.storePath, refs⟩) (some operationId)
    return { k with checkpointedCount := k.createdRefs.length }

/-- `_TrackingContentAddressedStore`, once its store has answered: an object that was created is
on record before the backup goes on. -/
def trackPut (k : PartialArtifactTracker) (put : Option PutResult) :
    Op φ ω (PartialArtifactTracker × Except OperationError Unit) :=
  match put.filter PutResult.created with
  | none => return (k, .ok ())
  | some result => do
    let k := { k with createdRefs := k.createdRefs ++ [result.ref] }
    let recorded ← (recordPartialArtifacts c m batchId operationId k).outcome
    match recorded with
    | .error e => return (k, .error e)
    | .ok k => return (k, .ok ())

/-- `run_backup_tree_operation` over the tracking store. -/
def trackedTreeBackup : TreeBackupRun φ ω → PartialArtifactTracker → Op φ ω TreeBackupOutcome
  | .finished backup, k => return (k, .ok backup)
  | .raised e, k => return (k, .error (.filesystem e))
  | .call act next, k => do
    let answer ← (fsCall act).outcome
    match answer with
    | .error e => return (k, .error e)
    | .ok put => do
      let (k, tracked) ← trackPut c m batchId operationId k put
      match tracked with
      | .error e => return (k, .error e)
      | .ok _ => trackedTreeBackup (next put) k

/-- The backup `with _maintain_operation_lease(…)`. -/
def maintainedTreeBackup : Op φ ω TreeBackupOutcome :=
  let nothingCreated : PartialArtifactTracker := ⟨[], 0⟩
  let run := trackedTreeBackup c m batchId operationId (C.ops.backupTree m.path m.relativePaths m.storePath)
    nothingCreated
  if c.now ≠ none ∨ C.heartbeatLeases = false ∨ c.lease.ttl ≤ 0 then run
  else do
    let started ← (heartbeatOnce c).outcome
    match started with
    | .error e => return (nothingCreated, .error e)
    | .ok _ => do
      let (k, result) ← run
      match result with
      | .error e => return (k, .error e)
      | .ok backup => do
        let kept ← raiseIfFailed.outcome
        return (k, kept.map fun _ => backup)

/-- The checkpoint of a backup that was made. -/
def recordTreeBackup (backup : TreeBackup) : Op φ ω Unit := do
  .ofExcept ((requireTreeBackupResourceKey backup m.resourceKey).mapError .valueError)
  let _ ← recordCheckpointStep c batchId m.resourceKey "tree_backup" (.treeBackup backup m.storePath) (some operationId)
  return ()

/-- The backup and its checkpoint: what the failure of `backup_tree` is caught of. -/
def capturedTreeBackup : Op φ ω TreeBackupOutcome := do
  let (k, result) ← maintainedTreeBackup C c m batchId operationId
  match result with
  | .error e => return (k, .error e)
  | .ok backup => do
    let recorded ← (recordTreeBackup c m batchId operationId backup).outcome
    return (k, recorded.map fun _ => backup)

/-- `_record_tree_backup_failure`. -/
def recordTreeBackupFailure (k : PartialArtifactTracker) (e : OperationError) : Op φ ω Unit :=
  let failure := failurePayload m.path m.resourceKey none e
  let created : Option PartialArtifacts :=
    if k.createdRefs = [] then none else some ⟨m.path, m.relativePaths, m.storePath, k.createdRefs⟩
  let lost : Op φ ω Unit := do
    let _ ← recordLeaseLostRecoveryDesiredStep c batchId m.resourceKey "tree backup failed"
      (.treeBackupRecovery m.resourceKey failure created)
    return ()
  unlessLeaseLost (recordPartialArtifacts c m batchId operationId k) lost <|
    unlessLeaseLost (markFailedStep c batchId e.text (.failed failure)) lost (.ret ())

/-- `backup_tree` once the batch is started. -/
def startedTreeBackup : Op φ ω Unit := do
  let (k, result) ← capturedTreeBackup C c m batchId operationId
  match result with
  | .error e => do
    recordTreeBackupFailure c m batchId operationId k e
    .raise (.mutation e.text batchId)
  | .ok backup => do
    let _ ← markSucceededStep c batchId (.treeBackupSucceeded operationId m.resourceKey backup m.storePath)
    return ()

end Backup

/-- `backup_tree`. -/
def backupTree (C : Coordinator φ ω) (c : Caller) (path : Path) (relativePaths : List Path) (resourceKey : String)
    (storePath : Option Path) : Op φ ω Unit := do
  .ofExcept (requireMatchingTreeResourceKey path resourceKey)
  requireAuthority c resourceKey
  let m : TreeBackupMutation :=
    { path := path
      relativePaths := relativePaths
      resourceKey := resourceKey
      storePath := storePath.getD (defaultTreeBackupStorePath C) }
  let opened ← openBatch c (.backupTree path relativePaths resourceKey m.storePath) .backupTree resourceKey
    "record a tree backup"
  match opened with
  | none => return ()
  | some (batch, operation) => startedTreeBackup C c m batch.batchId operation.operationId

/-! ## Restores -/

/-- The arguments of `restore_tree_backup`, with its store. -/
structure TreeRestoreMutation where
  backup : TreeBackup
  destinationRoot : Path
  resourceKey : String
  storePath : Path
  conflictPolicy : ConflictPolicy

section Restore

variable (C : Coordinator φ ω) (c : Caller) (m : TreeRestoreMutation) (batchId operationId : String)

/-- The end of `restore_tree_backup`. -/
def finishTreeRestore (before : ResourceSnapshot) (resultType : String) : Op φ ω Unit :=
  finishMutation C c batchId operationId m.destinationRoot m.resourceKey before RecoveryDetails.empty fun _ =>
    .treeRestoreSucceeded operationId m.resourceKey m.storePath m.conflictPolicy resultType

/-- `restore_tree_backup` once the batch is started. -/
def startedTreeRestore : Op φ ω Unit := do
  let before ← recordAndRaise (fsRead fun o fs => C.ops.snapshot o fs m.destinationRoot)
    (recordBeforeSnapshotFailure c batchId m.destinationRoot m.resourceKey RecoveryDetails.empty)
  let _ ← recordCheckpointStep c batchId m.resourceKey "before" (.snapshot before none) (some operationId)
  let resultType ← (maintainOperationLease C c.toLeaseHolder (invoke c fun o fs =>
      C.ops.restoreTreeBackup o fs m.backup m.storePath m.destinationRoot m.conflictPolicy)).onRaise fun e => do
    recordMutationFailure C c batchId m.destinationRoot m.resourceKey before RecoveryDetails.empty none e
    .raise (.mutation e.text batchId)
  finishTreeRestore C c m batchId operationId before resultType

end Restore

/-- `restore_tree_backup`. -/
def restoreTreeBackup (C : Coordinator φ ω) (c : Caller) (backup : TreeBackup) (destinationRoot : Path)
    (resourceKey : String) (storePath : Option Path) (conflictPolicy : ConflictPolicy) : Op φ ω Unit := do
  .ofExcept (requireMatchingTreeResourceKey destinationRoot resourceKey)
  requireAuthority c resourceKey
  match storePath with
  | none => .raise (.valueError "artifact_store is required")
  | some storePath => do
    let m : TreeRestoreMutation := ⟨backup, destinationRoot, resourceKey, storePath, conflictPolicy⟩
    let opened ← openBatch c (.restoreTreeBackup destinationRoot resourceKey storePath conflictPolicy backup)
      .restoreTreeBackup resourceKey "restore a tree backup"
    match opened with
    | none => return ()
    | some (batch, operation) => startedTreeRestore C c m batch.batchId operation.operationId

/-! ## Snapshot bundles -/

/-- `start_batch_operation` of a snapshot bundle. -/
def startBundleOperationStep (c : Caller) (batchId resourceKey : String) :
    Op φ ω (BatchRow Payload × OperationRow Payload) :=
  journalWrite c.toLeaseHolder fun db ctx =>
    (startBatchOperation db batchId OperationType.snapshotBundle.text (some resourceKey) (some .bundleOperation)
      none none ctx).map fun (batch, operation, db) => ((batch, operation), db)

/-- `snapshot_bundle` once the batch is there. -/
def recordSnapshotBundle (c : Caller) (bundle : SnapshotBundle) (batchId resourceKey : String) : Op φ ω Unit := do
  let (batch, operation) ← startBundleOperationStep c batchId resourceKey
  let _ ← recordCheckpointStep c batch.batchId resourceKey "snapshot_bundle" (.snapshotBundle bundle)
    (some operation.operationId)
  let _ ← markSucceededStep c batch.batchId
    (.snapshotBundleSucceeded operation.operationId bundle.entries.length)
  return ()

/-- `snapshot_bundle`. -/
def snapshotBundle (c : Caller) (bundle : SnapshotBundle) (resourceKey : String) : Op φ ω Unit := do
  requireAuthority c resourceKey
  let batch ← createBatchStep c resourceKey (.snapshotBundle bundle)
  if batch.phase = .succeeded then return ()
  else if batch.phase ≠ .planned then .raise (cannotStart batch "record a snapshot bundle")
  else recordSnapshotBundle c bundle batch.batchId resourceKey

end SafeFsOps
