import SafeFsOps.OperationJournal.MutationSteps
import SafeFsOps.OperationJournal.TreeMutations

/-!
# The steps of tree backups, restores and snapshot bundles

They are steps of a mutation like those of the other methods
(`mutates_backupTree`, `mutates_restoreTreeBackup`, `mutates_snapshotBundle`). The
tree that a backup walks is finite, and so is the run of it: the induction is on
`TreeBackupRun`.
-/

namespace SafeFsOps

open Program
open JournalWrite (OfMutation OfStarted)

variable {φ ω : Type} {C : Coordinator φ ω} {c : Caller}

/-! ## Backups -/

section Backup

variable {K : JournalWrite Payload → Prop} {batchId : String} (hK : ∀ x, OfStarted batchId x → K x)
  (m : TreeBackupMutation) (operationId : String)

include hK

theorem quiet_recordPartialArtifacts (k : PartialArtifactTracker) :
    AllQuiet K c.lease (recordPartialArtifacts c m batchId operationId k : Op φ ω PartialArtifactTracker) := by
  unfold recordPartialArtifacts
  split
  · exact quiet_pure _
  · exact quiet_bind (quiet_recordCheckpointStep (fun _ _ _ _ _ _ => hK _ rfl) _ _ _ _) fun _ => quiet_pure _

theorem quiet_trackPut (k : PartialArtifactTracker) (put : Option PutResult) :
    AllQuiet K c.lease (trackPut c m batchId operationId k put :
      Op φ ω (PartialArtifactTracker × Except OperationError Unit)) := by
  unfold trackPut
  split
  · exact quiet_pure _
  · refine quiet_bind (quiet_outcome (quiet_recordPartialArtifacts hK _ _ _)) ?_
    rintro (e | k') <;> exact quiet_pure _

theorem quiet_trackedTreeBackup (run : TreeBackupRun φ ω) : ∀ k : PartialArtifactTracker,
    AllQuiet K c.lease (trackedTreeBackup c m batchId operationId run k) := by
  induction run with
  | finished backup => exact fun k => quiet_pure _
  | raised e => exact fun k => quiet_pure _
  | call act next ih =>
    intro k
    rw [trackedTreeBackup]
    refine quiet_bind (quiet_outcome (quiet_fsCall act)) ?_
    rintro (e | put)
    · exact quiet_pure _
    · refine quiet_bind (quiet_trackPut hK m operationId k put) ?_
      rintro ⟨k', e | _⟩
      · exact quiet_pure _
      · exact ih put k'

theorem quiet_maintainedTreeBackup :
    AllQuiet K c.lease (maintainedTreeBackup C c m batchId operationId) := by
  refine quiet_ite (quiet_trackedTreeBackup hK _ _ _ _) (quiet_bind (quiet_outcome (quiet_heartbeatOnce _)) ?_)
  rintro (e | _)
  · exact quiet_pure _
  · refine quiet_bind (quiet_trackedTreeBackup hK _ _ _ _) ?_
    rintro ⟨k, e | backup⟩
    · exact quiet_pure _
    · exact quiet_bind (quiet_outcome (quiet_databaseRead _)) fun _ => quiet_pure _

theorem quiet_capturedTreeBackup :
    AllQuiet K c.lease (capturedTreeBackup C c m batchId operationId) := by
  refine quiet_bind (quiet_maintainedTreeBackup hK _ _) ?_
  rintro ⟨k, e | backup⟩
  · exact quiet_pure _
  · refine quiet_bind (quiet_outcome (quiet_bind (quiet_ofExcept _) fun _ => ?_)) fun _ => quiet_pure _
    exact quiet_bind (quiet_recordCheckpointStep (fun _ _ _ _ _ _ => hK _ rfl) _ _ _ _) fun _ => quiet_pure _

theorem quiet_recordTreeBackupFailure (k : PartialArtifactTracker) (e : OperationError) :
    AllQuiet K c.lease (recordTreeBackupFailure c m batchId operationId k e : Op φ ω Unit) := by
  have hlost : ∀ payload, AllQuiet K c.lease (do
      let _ ← recordLeaseLostRecoveryDesiredStep c batchId m.resourceKey "tree backup failed" payload
      return () : Op φ ω Unit) := fun _ => quiet_bind (quiet_recordLeaseLostStep (fun _ _ => hK _ rfl) _ _ _) fun _ => quiet_pure _
  exact quiet_unlessLeaseLost (quiet_recordPartialArtifacts hK _ _ _) (hlost _) <|
    quiet_unlessLeaseLost (quiet_markFailedStep (fun _ _ => hK _ rfl) _ _) (hlost _) (quiet_ret _)

end Backup

theorem quiet_startedTreeBackup (m : TreeBackupMutation) (batchId operationId : String) :
    AllQuiet (OfMutation c) c.lease (startedTreeBackup C c m batchId operationId) := by
  refine quiet_bind (quiet_capturedTreeBackup OfStarted.mutation _ _) ?_
  rintro ⟨k, e | backup⟩
  · exact quiet_bind (quiet_recordTreeBackupFailure OfStarted.mutation _ _ _ _) fun _ => quiet_raise _
  · exact quiet_bind (quiet_markSucceededStep (fun _ => trivial) _) fun _ => quiet_pure _

/-- **Every step of a tree backup.** -/
theorem mutates_backupTree (path : Path) (relativePaths : List Path) (resourceKey : String) (storePath : Option Path) :
    AllMutate c (backupTree C c path relativePaths resourceKey storePath) :=
  mutates_after (quiet_ofExcept _) fun _ => mutates_after (quiet_requireAuthority _) fun _ =>
    mutates_opened trivial fun _ _ => (quiet_startedTreeBackup _ _ _).mutate

/-! ## Restores -/

theorem mutates_startedTreeRestore (m : TreeRestoreMutation) (batchId operationId : String) :
    AllMutate c (startedTreeRestore C c m batchId operationId) := by
  refine mutates_after (quiet_recordAndRaise (quiet_fsRead _) fun _ => quiet_recordFailure OfStarted.mutation _ _ _ _ _) fun before => ?_
  refine mutates_after (quiet_recordCheckpointStep (fun _ _ _ _ _ _ => trivial) _ _ _ _) fun _ => ?_
  refine mutates_before (mutates_onRaise (mutates_maintain (mutates_invoke _)) fun e => ?_)
    fun _ => quiet_finishMutation OfStarted.mutation _ _ _ _ _ _
  exact quiet_bind (quiet_recordMutationFailure OfStarted.mutation _ _ _ _ _ _) fun _ => quiet_raise _

/-- **Every step of a restore.** -/
theorem mutates_restoreTreeBackup (backup : TreeBackup) (destinationRoot : Path) (resourceKey : String)
    (storePath : Option Path) (conflictPolicy : ConflictPolicy) :
    AllMutate c (restoreTreeBackup C c backup destinationRoot resourceKey storePath conflictPolicy) := by
  refine mutates_after (quiet_ofExcept _) fun _ => mutates_after (quiet_requireAuthority _) fun _ => ?_
  cases storePath with
  | none => exact trivial
  | some storePath => exact mutates_opened trivial fun _ _ => mutates_startedTreeRestore _ _ _

/-! ## Snapshot bundles -/

theorem quiet_startBundleOperationStep (batchId resourceKey : String) : AllQuiet (OfMutation c) c.lease
    (startBundleOperationStep c batchId resourceKey : Op φ ω (BatchRow Payload × OperationRow Payload)) := by
  refine quiet_journalWrite fun db ctx a db' h => ⟨.startBatchOperation batchId OperationType.snapshotBundle.text
    (some resourceKey) (some .bundleOperation) none none, trivial, ?_⟩
  obtain ⟨⟨batch, operation, db''⟩, hstart, heq⟩ := map_eq_ok.1 h
  cases heq
  simp only [JournalWrite.run, hstart, Except.map]

/-- **Every step of a snapshot bundle.** -/
theorem mutates_snapshotBundle (bundle : SnapshotBundle) (resourceKey : String) :
    AllMutate c (snapshotBundle c bundle resourceKey : Op φ ω Unit) := by
  refine AllQuiet.mutate (quiet_bind (quiet_requireAuthority _) fun _ => ?_)
  refine quiet_bind (quiet_createBatchStep _ _) fun batch => quiet_ite (quiet_pure _) (quiet_ite (quiet_raise _) ?_)
  refine quiet_bind (quiet_startBundleOperationStep _ _) fun started => ?_
  exact quiet_bind (quiet_recordCheckpointStep (fun _ _ _ _ _ _ => trivial) _ _ _ _) fun _ =>
    quiet_bind (quiet_markSucceededStep (fun _ => trivial) _) fun _ => quiet_pure _

end SafeFsOps
