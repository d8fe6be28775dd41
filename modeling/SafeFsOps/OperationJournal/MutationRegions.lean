import SafeFsOps.OperationJournal.TreeMutations
import SafeFsOps.Regions

/-!
# The regions of the mutations

Once its batch is started, a mutation is attempting until it says otherwise: it marks
the batch succeeded in the end, and where it fails the handler of the region marks it
failed and puts it up for recovery. Not every region has such a handler:

- a file or directory mutation, and a restore but for its `before` checkpoint, are
  guarded from the start of the batch to its end;
- a rename looks at both its paths, and records what it saw, before its first guarded
  region, and so does a capture with its source and the token of it;
- the mark at the end of a tree backup is outside of what its handler is for;
- a snapshot bundle has no handler at all.

> `runMutation_regions`, `backupTree_regions`, `restoreTreeBackup_regions`, `snapshotBundle_regions`: each
> method is the program of its regions.

A handler is split where its record is made, that is, where the batch has been marked
failed, or the lease-lost marker has been left in its place (`Unsettled`).
-/

namespace SafeFsOps

open Program

variable {φ ω α β γ : Type}

/-- The regions of a method. -/
abbrev OpRegions (φ ω α : Type) := Regions (World φ) (Sample ω) OperationError α

/-! ## Failure records, up to the mark -/

/-- What is left to do about a batch that was marked failed: put it up for recovery for this
reason, with these details. Nothing is left where the lease-lost marker was. -/
abbrev Unsettled := Option (String × RecoveryDetails)

section Records

variable (c : Caller) (batchId resourceKey : String)

/-- The lease-lost marker, in the place of the mark. -/
def leaveMarker (reason : String) (details : RecoveryDetails) : Op φ ω Unsettled := do
  let _ ← recordLeaseLostRecoveryDesiredStep c batchId resourceKey reason (.recovery details)
  return none

/-- `recordFailure`, up to the mark. -/
def closeFailure (error reason : String) (failure : FailurePayload) (details : RecoveryDetails) : Op φ ω Unsettled :=
  unlessLeaseLost (markFailedStep c batchId error (.failed failure)) (leaveMarker c batchId resourceKey reason details)
    (.ret (some (reason, details)))

/-- What follows the mark. -/
def settleFailure : Unsettled → Op φ ω Unit
  | none => .ret ()
  | some (reason, details) =>
    unlessLeaseLost (recordRecoveryDesiredStep c batchId reason (.recovery details))
      (do
        let _ ← recordLeaseLostRecoveryDesiredStep c batchId resourceKey reason (.recovery details)
        return ())
      (.ret ())

/-- `recordMutationFailure`, up to the mark. -/
def closeMutationFailure (C : Coordinator φ ω) (path : Path) (before : ResourceSnapshot) (recovery : RecoveryDetails)
    (stage : Option String) (error : OperationError) : Op φ ω Unsettled := do
  let seen ← snapshotOutcome C path
  let base := failurePayload path resourceKey stage error
  let failure : FailurePayload :=
    match seen with
    | .ok snapshot => { base with snapshot := some snapshot }
    | .error e => { base with snapshotError := some (e.className, e.text) }
  let details : RecoveryDetails :=
    { recovery with resourceKey := some resourceKey, before := some before, failure := some failure }
  let mark := closeFailure c batchId resourceKey error.text "filesystem mutation failed" failure details
  match seen with
  | .error _ => mark
  | .ok snapshot =>
    unlessLeaseLost (recordCheckpointStep c batchId resourceKey "failure" (.snapshot snapshot none) none)
      (leaveMarker c batchId resourceKey "filesystem mutation failed" details) mark

/-- `recordBeforeSnapshotFailure`, up to the mark. -/
def closeBeforeSnapshotFailure (path : Path) (recovery : RecoveryDetails) (error : OperationError) :
    Op φ ω Unsettled :=
  let failure := failurePayload path resourceKey (some "before_snapshot") error
  closeFailure c batchId resourceKey error.text "filesystem before-snapshot failed" failure
    { recovery with resourceKey := some resourceKey, failure := some failure }

/-- `recordPostMutationFailure`, up to the mark. -/
def closePostMutationFailure (C : Coordinator φ ω) (path : Path) (before : ResourceSnapshot)
    (after : Option ResourceSnapshot) (recovery : RecoveryDetails) (stage : String) (error : OperationError) :
    Op φ ω Unsettled := do
  let failure ← afterPayload C path after (failurePayload path resourceKey (some stage) error)
  closeFailure c batchId resourceKey ("filesystem post-mutation journal failed during " ++ stage)
    "filesystem post-mutation journal failed" failure
    { recovery with resourceKey := some resourceKey, before := some before, failure := some failure }

/-- `recordMoveFailure`, up to the mark. -/
def closeMoveFailure (C : Coordinator φ ω) (path : Path) (before : ResourceSnapshot) (after : Option ResourceSnapshot)
    (ambiguous : Option RecoveryDetails) (stage : String) (error : OperationError) : Op φ ω Unsettled :=
  match ambiguous with
  | none => closeMutationFailure c batchId resourceKey C path before RecoveryDetails.empty none error
  | some recovery => closePostMutationFailure c batchId resourceKey C path before after recovery stage error

end Records

theorem unlessLeaseLost_bind (p : Op φ ω α) (lost next : Op φ ω β) (f : β → Op φ ω γ) :
    (unlessLeaseLost p lost next).bind f = unlessLeaseLost p (lost.bind f) (next.bind f) := by
  refine (bind_assoc p.outcome).trans (congrArg p.outcome.bind (funext fun r => ?_))
  cases r with
  | ok a => rfl
  | error e =>
    dsimp only
    split <;> rfl

section Records

variable {c : Caller} {batchId resourceKey : String}

theorem leaveMarker_bind (reason : String) (details : RecoveryDetails) :
    (leaveMarker c batchId resourceKey reason details).bind (settleFailure c batchId resourceKey) =
      (do
        let _ ← recordLeaseLostRecoveryDesiredStep c batchId resourceKey reason (.recovery details)
        return () : Op φ ω Unit) := bind_assoc _

theorem recordFailure_eq (error reason : String) (failure : FailurePayload) (details : RecoveryDetails) :
    (recordFailure c batchId resourceKey error reason failure details : Op φ ω Unit) =
      (closeFailure c batchId resourceKey error reason failure details).bind (settleFailure c batchId resourceKey) := by
  refine Eq.trans ?_ (unlessLeaseLost_bind _ _ _ _).symm
  exact congrArg (unlessLeaseLost _ · _) (leaveMarker_bind _ _).symm

theorem recordMutationFailure_eq {C : Coordinator φ ω} (path : Path) (before : ResourceSnapshot)
    (recovery : RecoveryDetails) (stage : Option String) (e : OperationError) :
    recordMutationFailure C c batchId path resourceKey before recovery stage e =
      (closeMutationFailure c batchId resourceKey C path before recovery stage e).bind
        (settleFailure c batchId resourceKey) := by
  refine Eq.trans (congrArg (snapshotOutcome C path).bind (funext fun seen => ?_)) (bind_assoc _).symm
  cases seen with
  | error e' => exact recordFailure_eq _ _ _ _
  | ok snapshot =>
    refine Eq.trans ?_ (unlessLeaseLost_bind _ _ _ _).symm
    exact congrArg₂ (unlessLeaseLost _) (leaveMarker_bind _ _).symm (recordFailure_eq _ _ _ _)

theorem recordBeforeSnapshotFailure_eq (path : Path) (recovery : RecoveryDetails) (e : OperationError) :
    (recordBeforeSnapshotFailure c batchId path resourceKey recovery e : Op φ ω Unit) =
      (closeBeforeSnapshotFailure c batchId resourceKey path recovery e).bind (settleFailure c batchId resourceKey) :=
  recordFailure_eq _ _ _ _

theorem recordPostMutationFailure_eq {C : Coordinator φ ω} (path : Path) (before : ResourceSnapshot)
    (after : Option ResourceSnapshot) (recovery : RecoveryDetails) (stage : String) (e : OperationError) :
    recordPostMutationFailure C c batchId path resourceKey before after recovery stage e =
      (closePostMutationFailure c batchId resourceKey C path before after recovery stage e).bind
        (settleFailure c batchId resourceKey) := by
  refine Eq.trans (congrArg (afterPayload C path after _).bind (funext fun failure => ?_)) (bind_assoc _).symm
  exact recordFailure_eq _ _ _ _

theorem recordMoveFailure_eq {C : Coordinator φ ω} (path : Path) (before : ResourceSnapshot)
    (after : Option ResourceSnapshot) (ambiguous : Option RecoveryDetails) (stage : String) (e : OperationError) :
    recordMoveFailure C c batchId path resourceKey before after ambiguous stage e =
      (closeMoveFailure c batchId resourceKey C path before after ambiguous stage e).bind
        (settleFailure c batchId resourceKey) := by
  cases ambiguous with
  | none => exact recordMutationFailure_eq _ _ _ _ _
  | some recovery => exact recordPostMutationFailure_eq _ _ _ _ _ _

end Records

/-! ## The regions, method by method -/

section Methods

variable (C : Coordinator φ ω) (c : Caller) (batchId operationId : String)

/-- `finishMutation` -/
def finishRegions (path : Path) (resourceKey : String) (before : ResourceSnapshot) (recovery : RecoveryDetails)
    (result : ResourceSnapshot → Payload) : OpRegions φ ω Unit :=
  let failed (after : Option ResourceSnapshot) (stage : String) :=
    closePostMutationFailure c batchId resourceKey C path before after recovery stage
  let settle (_ : OperationError) := settleFailure c batchId resourceKey
  .guarded (fsRead fun o fs => C.ops.snapshot o fs path) (failed none "after_snapshot") settle id fun after =>
  .guarded (recordCheckpointStep c batchId resourceKey "after" (.snapshot after none) (some operationId))
    (failed (some after) "after_checkpoint") settle id fun _ =>
  .guarded (markSucceededStep c batchId (result after)) (failed (some after) "mark_succeeded") settle id fun _ =>
  .ret ()

/-- `startedFileMutation` -/
def fileRegions (m : FileMutation φ ω) : OpRegions φ ω Unit :=
  let failed := closeMutationFailure c batchId m.resourceKey C m.path
  let settle (_ : OperationError) := settleFailure c batchId m.resourceKey
  .guarded (fsRead fun o fs => C.ops.snapshot o fs m.path)
    (closeBeforeSnapshotFailure c batchId m.resourceKey m.path m.recovery) settle id fun before =>
  .guarded (maintainOperationLease C c.toLeaseHolder (prepareMutationCheckpoints C c batchId operationId m before))
    (failed before m.recovery (some "prepare_checkpoints")) settle id fun recovery =>
  .guarded (requireAuthority c m.resourceKey) (failed before recovery none) settle id fun _ =>
  .guarded (maintainOperationLease C c.toLeaseHolder (invoke c m.mutate)) (failed before recovery none) settle
    (mutationRaises batchId) fun _ =>
  finishRegions C c batchId operationId m.path m.resourceKey before recovery fun after =>
    .succeeded operationId m.resourceKey (some after) none none

/-- `startedRenameMutation` -/
def renameRegions (m : RenameMutation) : OpRegions φ ω Unit :=
  let settle (_ : OperationError) := settleFailure c batchId m.resourceKey
  .bare (fsRead fun o fs => C.ops.snapshot o fs m.sourcePath) fun before =>
  .bare (recordCheckpointStep c batchId m.resourceKey "before" (.snapshot before none) (some operationId)) fun _ =>
  .bare (fsRead fun o fs => C.ops.snapshot o fs m.destinationPath) fun destination =>
  .bare (recordCheckpointStep c batchId m.resourceKey "destination_before" (.snapshot destination none)
    (some operationId)) fun _ =>
  .guarded (authorizedMove C c m.resourceKey m.destinationResourceKey
      (invoke c fun o fs => C.ops.renameNoReplace o fs m.sourcePath m.destinationPath))
    (fun e => do
      let sourceAfter ← snapshotOrNone C m.sourcePath
      let destinationAfter ← snapshotOrNone C m.destinationPath
      closeMoveFailure c batchId m.resourceKey C m.sourcePath before sourceAfter
        (ambiguousRenameRecovery m before sourceAfter destinationAfter e) "rename_ambiguous_success" e)
    settle (fun e => .mutation e.text batchId) fun record =>
  .guarded (recordRename C c batchId operationId m record)
    (closePostMutationFailure c batchId m.resourceKey C m.sourcePath before none
      { RecoveryDetails.empty with renameRecord := some record } "rename_journal") settle id fun _ =>
  .ret ()

/-- `startedCaptureMutation` -/
def captureRegions (m : CaptureMutation) : OpRegions φ ω Unit :=
  let settle (_ : OperationError) := settleFailure c batchId m.resourceKey
  .bare (fsRead fun o fs => C.ops.snapshot o fs m.sourcePath) fun before =>
  .bare (snapshotDirectoryCaptureToken C m.sourcePath before true) fun captureToken =>
  .bare (recordCheckpointStep c batchId m.resourceKey "before" (.snapshot before captureToken) (some operationId))
    fun _ =>
  .guarded (authorizedMove C c m.resourceKey m.destinationResourceKey
      (invoke c fun o fs => C.ops.captureDirectory o fs m.sourcePath m.quarantinePath))
    (fun e => do
      let sourceAfter ← snapshotOrNone C m.sourcePath
      let quarantineAfter ← snapshotOrNone C m.quarantinePath
      let ambiguous ← ambiguousCaptureRecovery C m before captureToken sourceAfter quarantineAfter e
      closeMoveFailure c batchId m.resourceKey C m.sourcePath before sourceAfter ambiguous
        "capture_directory_ambiguous_success" e)
    settle (fun e => .mutation e.text batchId) fun captured =>
  .guarded (recordCapture C c batchId operationId m captured)
    (closePostMutationFailure c batchId m.resourceKey C m.sourcePath before none
      { RecoveryDetails.empty with
        capturedDirectoryRestore := some
          (capturedDirectoryPayload captured m.resourceKey (some C.capturedDirectoryCleanup)) }
      "capture_directory_journal") settle id fun _ =>
  .ret ()

/-- `startedTreeBackup`. What is caught of the backup comes as an outcome (`capturedTreeBackup`
never raises), with the objects that are to be put on record. -/
def treeBackupRegions (m : TreeBackupMutation) : OpRegions φ ω Unit :=
  .bare (capturedTreeBackup C c m batchId operationId) fun (k, result) =>
  .guarded (.ofExcept result) (recordTreeBackupFailure c m batchId operationId k) (fun _ _ => .ret ())
    (fun e => .mutation e.text batchId) fun backup =>
  .bare (markSucceededStep c batchId (.treeBackupSucceeded operationId m.resourceKey backup m.storePath)) fun _ =>
  .ret ()

/-- `startedTreeRestore` -/
def treeRestoreRegions (m : TreeRestoreMutation) : OpRegions φ ω Unit :=
  let settle (_ : OperationError) := settleFailure c batchId m.resourceKey
  .guarded (fsRead fun o fs => C.ops.snapshot o fs m.destinationRoot)
    (closeBeforeSnapshotFailure c batchId m.resourceKey m.destinationRoot RecoveryDetails.empty) settle id fun before =>
  .bare (recordCheckpointStep c batchId m.resourceKey "before" (.snapshot before none) (some operationId)) fun _ =>
  .guarded (maintainOperationLease C c.toLeaseHolder (invoke c fun o fs =>
      C.ops.restoreTreeBackup o fs m.backup m.storePath m.destinationRoot m.conflictPolicy))
    (closeMutationFailure c batchId m.resourceKey C m.destinationRoot before RecoveryDetails.empty none) settle
    (fun e => .mutation e.text batchId) fun resultType =>
  finishRegions C c batchId operationId m.destinationRoot m.resourceKey before RecoveryDetails.empty fun _ =>
    .treeRestoreSucceeded operationId m.resourceKey m.storePath m.conflictPolicy resultType

/-- A batch that is created and started, before the regions that follow the start. -/
def openedRegions (intent : Intent) (operationType : OperationType) (resourceKey what : String)
    (started : String → String → OpRegions φ ω Unit) : OpRegions φ ω Unit :=
  .free (openBatch c intent operationType resourceKey what) fun
    | none => .ret ()
    | some (batch, operation) => started batch.batchId operation.operationId

/-- `runFileMutation` -/
def runFileRegions (m : FileMutation φ ω) : OpRegions φ ω Unit :=
  .free (preflight C m.preflightOperation) fun _ =>
  .free (requireAuthority c m.resourceKey) fun _ =>
  openedRegions c m.intent m.operationType m.resourceKey "start a file mutation" fun batchId operationId =>
    fileRegions C c batchId operationId m

/-- `runRenameMutation` -/
def runRenameRegions (m : RenameMutation) : OpRegions φ ω Unit :=
  .free (requireAuthority c m.resourceKey) fun _ =>
  .free (requireAuthority c m.destinationResourceKey) fun _ =>
  openedRegions c (.renameNoReplace m.sourcePath m.destinationPath m.resourceKey m.destinationResourceKey)
    .renameNoReplace m.resourceKey "start a rename mutation" fun batchId operationId =>
    renameRegions C c batchId operationId m

/-- `runCaptureDirectoryMutation` -/
def runCaptureRegions (m : CaptureMutation) : OpRegions φ ω Unit :=
  .free (requireAuthority c m.resourceKey) fun _ =>
  .free (requireAuthority c m.destinationResourceKey) fun _ =>
  openedRegions c (.captureDirectory m.sourcePath m.quarantinePath m.resourceKey m.destinationResourceKey
      C.capturedDirectoryCleanup) .captureDirectory m.resourceKey "start a capture-directory mutation"
    fun batchId operationId => captureRegions C c batchId operationId m

/-- `backupTree` -/
def runBackupRegions (path : Path) (relativePaths : List Path) (resourceKey : String) (storePath : Option Path) :
    OpRegions φ ω Unit :=
  let m : TreeBackupMutation :=
    { path := path
      relativePaths := relativePaths
      resourceKey := resourceKey
      storePath := storePath.getD (defaultTreeBackupStorePath C) }
  .free (.ofExcept (requireMatchingTreeResourceKey path resourceKey)) fun _ =>
  .free (requireAuthority c resourceKey) fun _ =>
  openedRegions c (.backupTree path relativePaths resourceKey m.storePath) .backupTree resourceKey
    "record a tree backup" fun batchId operationId => treeBackupRegions C c batchId operationId m

/-- `restoreTreeBackup` -/
def runRestoreRegions (backup : TreeBackup) (destinationRoot : Path) (resourceKey : String) (storePath : Option Path)
    (conflictPolicy : ConflictPolicy) : OpRegions φ ω Unit :=
  .free (.ofExcept (requireMatchingTreeResourceKey destinationRoot resourceKey)) fun _ =>
  .free (requireAuthority c resourceKey) fun _ =>
  match storePath with
  | none => .free (.raise (.valueError "artifact_store is required")) .ret
  | some storePath =>
    openedRegions c (.restoreTreeBackup destinationRoot resourceKey storePath conflictPolicy backup)
      .restoreTreeBackup resourceKey "restore a tree backup" fun batchId operationId =>
      treeRestoreRegions C c batchId operationId ⟨backup, destinationRoot, resourceKey, storePath, conflictPolicy⟩

/-- `snapshotBundle`: after the start, nothing is guarded. -/
def runBundleRegions (bundle : SnapshotBundle) (resourceKey : String) : OpRegions φ ω Unit :=
  .free (requireAuthority c resourceKey) fun _ =>
  .free (createBatchStep c resourceKey (.snapshotBundle bundle)) fun batch =>
  if batch.phase = .succeeded then .ret ()
  else if batch.phase ≠ .planned then .free (.raise (cannotStart batch "record a snapshot bundle")) .ret
  else
    .free (startBundleOperationStep c batch.batchId resourceKey) fun (batch, operation) =>
    .bare (recordCheckpointStep c batch.batchId resourceKey "snapshot_bundle" (.snapshotBundle bundle)
      (some operation.operationId)) fun _ =>
    .bare (markSucceededStep c batch.batchId
      (.snapshotBundleSucceeded operation.operationId bundle.entries.length)) fun _ =>
    .ret ()

/-- `runMutation` -/
def mutationRegions : MutationRequest → OpRegions φ ω Unit
  | .writeTextFile path content key newline =>
    .free (.ofExcept (requireMatchingFileResourceKey path key)) fun _ =>
    runFileRegions C c (writeTextMutation C path content key newline)
  | .writeBytesFile path content key permissions maxBytes allowLarge =>
    let effectiveMaxBytes := maxBytes.getD C.writeBytesMaxBytes
    let effectiveAllowLarge := allowLarge.getD C.writeBytesLargePolicyAllow
    .free (.ofExcept (requireMatchingFileResourceKey path key)) fun _ =>
    if effectiveMaxBytes < content.length ∧ effectiveAllowLarge = false then
      .free (.raise (writeBytesRefused content.length effectiveMaxBytes)) .ret
    else runFileRegions C c (writeBytesMutation C path content key permissions effectiveMaxBytes effectiveAllowLarge)
  | .deleteFile path key missingOk =>
    .free (.ofExcept (requireMatchingFileResourceKey path key)) fun _ =>
    runFileRegions C c (deleteFileMutation C path key missingOk)
  | .makeDirectory path key parents existOk recursive =>
    .free (.ofExcept (requireMatchingDirectoryResourceKey path key)) fun _ =>
    if parents then .free (.raise parentsDeferred) .ret
    else runFileRegions C c (makeDirectoryMutation C path key parents existOk recursive)
  | .recordDirectoryNoop path key =>
    .free (.ofExcept (requireMatchingDirectoryResourceKey path key)) fun _ =>
    runFileRegions C c (directoryNoopMutation path key)
  | .renameNoReplace source destination key destinationKey =>
    .free (.ofExcept (requireMatchingRenameResourceKey source key)) fun _ =>
    .free (.ofExcept (requireMatchingRenameResourceKey destination destinationKey)) fun _ =>
    .free (requireAuthority c key) fun _ =>
    .free (requireAuthority c destinationKey) fun _ =>
    runRenameRegions C c ⟨source, destination, key, destinationKey⟩
  | .captureDirectory source quarantine key destinationKey =>
    .free (.ofExcept (requireMatchingDirectoryResourceKey source key)) fun _ =>
    match destinationKey with
    | none => .free (.raise
        (.valueError "capture_directory requires destination_resource_key for the quarantine path")) .ret
    | some destinationKey =>
      .free (.ofExcept (requireMatchingDirectoryResourceKey quarantine destinationKey)) fun _ =>
      .free (requireAuthority c destinationKey) fun _ =>
      runCaptureRegions C c ⟨source, quarantine, key, destinationKey⟩

end Methods

/-! ## The methods are their regions -/

section Equal

variable {C : Coordinator φ ω} {c : Caller}

/-- A `recordAndRaise` whose record is split at the mark. -/
theorem bind_recordAndRaise {p : Op φ ω α} {record : OperationError → Op φ ω Unit}
    {close : OperationError → Op φ ω γ} {settle : OperationError → γ → Op φ ω Unit} {f : α → Op φ ω β}
    {next : α → OpRegions φ ω β} (hrecord : ∀ e, record e = (close e).bind (settle e)) (h : ∀ a, f a = (next a).run) :
    (recordAndRaise p record).bind f = (Regions.guarded p close settle id next).run :=
  Regions.bind_guarded (fun e => by rw [hrecord e]; exact bind_assoc _) h

/-- Nothing after it. -/
theorem recordAndRaise_guarded {p : Op φ ω α} {record : OperationError → Op φ ω Unit}
    {close : OperationError → Op φ ω γ} {settle : OperationError → γ → Op φ ω Unit}
    (hrecord : ∀ e, record e = (close e).bind (settle e)) :
    recordAndRaise p record = (Regions.guarded p close settle id .ret).run :=
  (bind_ret _).symm.trans (bind_recordAndRaise hrecord fun _ => rfl)

theorem finishMutation_regions (batchId operationId : String) (path : Path) (resourceKey : String)
    (before : ResourceSnapshot) (recovery : RecoveryDetails) (result : ResourceSnapshot → Payload) :
    finishMutation C c batchId operationId path resourceKey before recovery result =
      (finishRegions C c batchId operationId path resourceKey before recovery result).run := by
  refine bind_recordAndRaise (fun e => recordPostMutationFailure_eq _ _ _ _ _ _) fun after => ?_
  refine bind_recordAndRaise (fun e => recordPostMutationFailure_eq _ _ _ _ _ _) fun _ => ?_
  exact bind_recordAndRaise (fun e => recordPostMutationFailure_eq _ _ _ _ _ _) fun _ => rfl

theorem startedFileMutation_regions (m : FileMutation φ ω) (batchId operationId : String) :
    startedFileMutation C c m batchId operationId = (fileRegions C c batchId operationId m).run := by
  refine bind_recordAndRaise (fun e => recordBeforeSnapshotFailure_eq _ _ _) fun before => ?_
  refine bind_recordAndRaise (fun e => recordMutationFailure_eq _ _ _ _ _) fun recovery => ?_
  refine bind_recordAndRaise (fun e => recordMutationFailure_eq _ _ _ _ _) fun _ => ?_
  refine Regions.bind_guarded (fun e => ?_) fun _ => finishMutation_regions _ _ _ _ _ _ _
  simp only [bind_eq, bind_assoc, recordMutationFailure_eq]

theorem startedRenameMutation_regions (m : RenameMutation) (batchId operationId : String) :
    startedRenameMutation C c m batchId operationId = (renameRegions C c batchId operationId m).run := by
  refine Regions.bind_bare fun before => Regions.bind_bare fun _ => ?_
  refine Regions.bind_bare fun destination => Regions.bind_bare fun _ => ?_
  refine Regions.bind_guarded (fun e => ?_) fun record =>
    recordAndRaise_guarded fun e => recordPostMutationFailure_eq _ _ _ _ _ _
  simp only [bind_eq, bind_assoc, recordMoveFailure_eq]

theorem startedCaptureMutation_regions (m : CaptureMutation) (batchId operationId : String) :
    startedCaptureMutation C c m batchId operationId = (captureRegions C c batchId operationId m).run := by
  refine Regions.bind_bare fun before => Regions.bind_bare fun _ => Regions.bind_bare fun _ => ?_
  refine Regions.bind_guarded (fun e => ?_) fun captured =>
    recordAndRaise_guarded fun e => recordPostMutationFailure_eq _ _ _ _ _ _
  simp only [bind_eq, bind_assoc, recordMoveFailure_eq]

theorem startedTreeBackup_regions (m : TreeBackupMutation) (batchId operationId : String) :
    startedTreeBackup C c m batchId operationId = (treeBackupRegions C c batchId operationId m).run := by
  refine Regions.bind_bare fun (k, result) => ?_
  cases result with
  | ok backup => rfl
  | error e =>
    have hraise : (Regions.guarded (.ofExcept (.error e)) (recordTreeBackupFailure c m batchId operationId k)
        (fun _ _ => .ret ()) (fun e => .mutation e.text batchId) fun backup : TreeBackup =>
        .bare (markSucceededStep c batchId (.treeBackupSucceeded operationId m.resourceKey backup m.storePath)) fun _ =>
        .ret () : OpRegions φ ω Unit).run = (recordTreeBackupFailure c m batchId operationId k e).bind
          fun _ => .raise (.mutation e.text batchId) := bind_assoc (recordTreeBackupFailure c m batchId operationId k e)
    exact hraise.symm

theorem startedTreeRestore_regions (m : TreeRestoreMutation) (batchId operationId : String) :
    startedTreeRestore C c m batchId operationId = (treeRestoreRegions C c batchId operationId m).run := by
  refine bind_recordAndRaise (fun e => recordBeforeSnapshotFailure_eq _ _ _) fun before => ?_
  refine Regions.bind_bare fun _ => Regions.bind_guarded (fun e => ?_) fun _ => finishMutation_regions _ _ _ _ _ _ _
  simp only [bind_eq, bind_assoc, recordMutationFailure_eq]

/-- What follows the opening of a batch. -/
theorem opened_regions {intent : Intent} {operationType : OperationType} {resourceKey what : String}
    {f : Option (BatchRow Payload × OperationRow Payload) → Op φ ω Unit} {started : String → String → OpRegions φ ω Unit}
    (hnone : f none = .ret ())
    (hsome : ∀ batch operation, f (some (batch, operation)) = (started batch.batchId operation.operationId).run) :
    (openBatch c intent operationType resourceKey what).bind f =
      (openedRegions c intent operationType resourceKey what started).run := by
  refine Regions.bind_free fun opened => ?_
  cases opened with
  | none => exact hnone
  | some opened => exact hsome opened.1 opened.2

theorem runFileMutation_regions (m : FileMutation φ ω) : runFileMutation C c m = (runFileRegions C c m).run :=
  Regions.bind_free fun _ => Regions.bind_free fun _ => opened_regions rfl fun _ _ => startedFileMutation_regions _ _ _

theorem runRenameMutation_regions (m : RenameMutation) : runRenameMutation C c m = (runRenameRegions C c m).run :=
  Regions.bind_free fun _ => Regions.bind_free fun _ => opened_regions rfl fun _ _ => startedRenameMutation_regions _ _ _

theorem runCaptureDirectoryMutation_regions (m : CaptureMutation) :
    runCaptureDirectoryMutation C c m = (runCaptureRegions C c m).run :=
  Regions.bind_free fun _ => Regions.bind_free fun _ => opened_regions rfl fun _ _ => startedCaptureMutation_regions _ _ _

/-- **A mutation is the program of its regions**, whatever the request. -/
theorem runMutation_regions (r : MutationRequest) : runMutation C c r = (mutationRegions C c r).run := by
  cases r with
  | writeTextFile path content key newline => exact Regions.bind_free fun _ => runFileMutation_regions _
  | writeBytesFile path content key permissions maxBytes allowLarge =>
    refine Regions.bind_free fun _ => ?_
    dsimp only
    split
    · rfl
    · exact runFileMutation_regions _
  | deleteFile path key missingOk => exact Regions.bind_free fun _ => runFileMutation_regions _
  | makeDirectory path key parents existOk recursive =>
    refine Regions.bind_free fun _ => ?_
    split
    · rfl
    · exact runFileMutation_regions _
  | recordDirectoryNoop path key => exact Regions.bind_free fun _ => runFileMutation_regions _
  | renameNoReplace source destination key destinationKey =>
    exact Regions.bind_free fun _ => Regions.bind_free fun _ => Regions.bind_free fun _ =>
      Regions.bind_free fun _ => runRenameMutation_regions _
  | captureDirectory source quarantine key destinationKey =>
    refine Regions.bind_free fun _ => ?_
    cases destinationKey with
    | none => rfl
    | some destinationKey =>
      exact Regions.bind_free fun _ => Regions.bind_free fun _ => runCaptureDirectoryMutation_regions _

theorem backupTree_regions (path : Path) (relativePaths : List Path) (resourceKey : String) (storePath : Option Path) :
    backupTree C c path relativePaths resourceKey storePath =
      (runBackupRegions C c path relativePaths resourceKey storePath).run :=
  Regions.bind_free fun _ => Regions.bind_free fun _ => opened_regions rfl fun _ _ => startedTreeBackup_regions _ _ _

theorem restoreTreeBackup_regions (backup : TreeBackup) (destinationRoot : Path) (resourceKey : String)
    (storePath : Option Path) (conflictPolicy : ConflictPolicy) :
    restoreTreeBackup C c backup destinationRoot resourceKey storePath conflictPolicy =
      (runRestoreRegions C c backup destinationRoot resourceKey storePath conflictPolicy).run := by
  refine Regions.bind_free fun _ => Regions.bind_free fun _ => ?_
  cases storePath with
  | none => rfl
  | some storePath => exact opened_regions rfl fun _ _ => startedTreeRestore_regions _ _ _

theorem snapshotBundle_regions (bundle : SnapshotBundle) (resourceKey : String) :
    (snapshotBundle c bundle resourceKey : Op φ ω Unit) = (runBundleRegions c bundle resourceKey).run := by
  refine Regions.bind_free fun _ => Regions.bind_free fun batch => ?_
  split
  · rfl
  · split <;> rfl

end Equal

end SafeFsOps
