import SafeFsOps.OperationJournal.RecoverySteps
import SafeFsOps.Workspace.ArtifactCleanup

/-!
# The steps of a cleanup

What a workspace does around a recovery, on its own account: notes on operation
runs, and the disposal of artifacts. Neither sets a phase of any batch
(`touch_cleanupArtifactsForBatches`, `touch_recordTerminalDiagnostics`).
-/

namespace SafeFsOps

open Program

variable {φ ω α : Type} {W : Workspace φ ω} {h : LeaseHolder} {S : String → Prop} {P : List BatchPhase}

/-! ## Notes on operation runs -/

/-- A write that changes the tables of operation runs only. -/
theorem quiet_operationRunWrite {K : JournalWrite Payload → Prop} {L : LeaseRecord}
    {write : JournalDb Payload → WriteContext → Except JournalError (α × JournalDb Payload)}
    (hwrite : ∀ db ctx a db', write db ctx = .ok (a, db') → OnlyOperationRuns db db' ∧ ∃ d, OperationsMove d db db') :
    AllQuiet K L (journalWrite h write : Op φ ω α) := by
  refine quiet_transaction fun i w a w' hact => ?_
  split at hact
  · next a' db hrun =>
    cases hact
    obtain ⟨honly, d, hmoves⟩ := hwrite _ _ _ _ hrun
    exact Quiet.call (c := .operationRuns db.operationRuns db.operationPhases) trivial honly hmoves.kept
  · cases hact

theorem quiet_recordPhaseDiagnostic {K : JournalWrite Payload → Prop} {L : LeaseRecord} (id : Option String) :
    AllQuiet K L (recordPhaseDiagnostic h id : Op φ ω Unit) := by
  cases id with
  | none => exact quiet_ret ()
  | some id =>
    refine quiet_bind (quiet_databaseRead _) fun phase => quiet_ite ?_ (quiet_ret ())
    exact quiet_bind (quiet_operationRunWrite fun _ _ _ _ h => ⟨phaseDiagnostic_only h, true, phaseDiagnostic_moves h⟩) fun _ => quiet_ret ()

theorem quiet_recordRunDiagnostic {K : JournalWrite Payload → Prop} {L : LeaseRecord} (id : Option String) :
    AllQuiet K L (recordRunDiagnostic h id : Op φ ω Unit) := by
  cases id with
  | none => exact quiet_ret ()
  | some id =>
    refine quiet_bind (quiet_databaseRead _) fun run => quiet_ite ?_ (quiet_ret ())
    exact quiet_bind (quiet_operationRunWrite fun _ _ _ _ h => ⟨runDiagnostic_only h, true, runDiagnostic_moves h⟩) fun _ => quiet_ret ()

theorem touch_recordTerminalDiagnostics (batch : BatchRow Payload) :
    AllTouch S P (recordTerminalDiagnostics h batch : Op φ ω Unit) :=
  (quiet_bind (quiet_recordPhaseDiagnostic (L := h.lease) _) fun _ => quiet_recordRunDiagnostic _).touch

/-! ## Leases -/

theorem touch_acquireLease (now : Option DateTime) : AllTouch S P (acquireLease W now) := by
  refine touch_transaction fun i w a w' hact => ?_
  split at hact
  · cases hact
    exact Touches.leases _
  · cases hact

theorem touch_releaseHeldLease : AllTouch S P (releaseHeldLease h : Op φ ω Bool) := by
  refine touch_transaction fun i w a w' hact => ?_
  cases hact
  exact Touches.leases _

theorem touch_heartbeatLease : AllTouch S P (heartbeatLease W h) := by
  refine touch_transaction fun i w a w' hact => ?_
  split at hact
  · cases hact
    exact Touches.leases _
  · cases hact

/-! ## Disposal -/

section Disposal

variable {K : JournalWrite Payload → Prop} {L : LeaseRecord}

variable (a : FileArtifact φ ω)

theorem quiet_verifyArtifact : AllQuiet K L (verifyArtifact a) := by
  refine quiet_bind (quiet_outcome (quiet_fsRead _)) fun seen => ?_
  split
  · exact quiet_ite (quiet_pure _) (quiet_pure _)
  · exact quiet_pure _
  · exact quiet_ite (quiet_pure _) (quiet_raise _)
  · exact quiet_raise _

theorem quiet_symlinkChainViolation : AllQuiet K L (symlinkChainViolation W a) := by
  refine quiet_ite (quiet_pure _) (quiet_bind ?_ fun _ => quiet_pure _)
  refine eachStep_mapEach fun p _ => quiet_bind (quiet_outcome (quiet_fsRead _)) fun seen => ?_
  split <;> exact quiet_pure _

theorem quiet_deleteArtifact (delete : ω → φ → Except FilesystemError Unit × φ) :
    AllQuiet K L (deleteArtifact a delete) := by
  refine quiet_bind (quiet_outcome (quiet_fsCall _)) fun deleted => ?_
  split
  · exact quiet_pure _
  · exact quiet_pure _
  · exact quiet_ite (quiet_pure _) (quiet_raise _)
  · exact quiet_raise _

theorem quiet_deleteVerifiedArtifact : AllQuiet K L (deleteVerifiedArtifact W a) := by
  unfold deleteVerifiedArtifact
  split
  · exact quiet_deleteArtifact _ _
  · refine quiet_bind (quiet_verifyArtifact _) fun changed => ?_
    cases changed with
    | some result => exact quiet_pure _
    | none => exact quiet_deleteArtifact _ _

theorem quiet_disposeArtifact {mark : Option (Op φ ω Unit)} (hmark : ∀ m, mark = some m → AllQuiet K L m) :
    AllQuiet K L (disposeArtifact W a mark) := by
  refine quiet_bind (quiet_verifyArtifact _) fun verified => ?_
  split
  · exact quiet_pure _
  · exact quiet_deleteVerifiedArtifact _
  · next m =>
    refine quiet_bind (hmark m rfl) fun _ => quiet_bind (quiet_verifyArtifact _) fun again => ?_
    cases again with
    | some result => exact quiet_pure _
    | none => exact quiet_deleteVerifiedArtifact _

theorem quiet_executeArtifactCleanup (expected : Path) (unexpected : String) {mark : Option (Op φ ω Unit)}
    (hmark : ∀ m, mark = some m → AllQuiet K L m) :
    AllQuiet K L (executeArtifactCleanup W a expected unexpected mark) := by
  refine quiet_ite (quiet_pure _) (quiet_bind (quiet_symlinkChainViolation _) fun violation => ?_)
  cases violation with
  | some detail => exact quiet_pure _
  | none => exact quiet_disposeArtifact _ hmark

theorem quiet_executeCapturedCleanup (record : CapturedDirectoryRecord) {mark : Option (Op φ ω Unit)}
    (hmark : ∀ m, mark = some m → AllQuiet K L m) : AllQuiet K L (executeCapturedCleanup W record mark) := by
  have hgetD : AllQuiet K L (mark.getD (.ret ())) := by
    cases mark with
    | none => exact quiet_ret ()
    | some m => exact hmark m rfl
  refine quiet_bind hgetD fun _ => quiet_bind (quiet_outcome (quiet_fsCall _)) fun deleted => ?_
  split
  · exact quiet_pure _
  · exact quiet_pure _
  · exact quiet_ite (quiet_pure _) (quiet_ite (quiet_pure _) (quiet_raise _))
  · exact quiet_raise _

theorem quiet_executeCleanup (c : CleanupCandidate) {mark : Option (Op φ ω Unit)}
    (hmark : ∀ m, mark = some m → AllQuiet K L m) : AllQuiet K L (executeCleanup W c mark) := by
  unfold executeCleanup
  split
  · exact quiet_pure _
  · exact quiet_executeArtifactCleanup _ _ _ hmark
  · exact quiet_executeArtifactCleanup _ _ _ hmark
  · exact quiet_executeCapturedCleanup _ hmark

end Disposal

/-! ## The cleanup log -/

theorem quiet_planned (batchId artifactId : String) (trigger : ArtifactCleanupTrigger) (key : Option String)
    (payload : Payload) : AllQuiet (OnBatch batchId []) h.lease
      (recordArtifactCleanupPlannedStep h batchId artifactId trigger key payload :
        Op φ ω (ArtifactCleanupRow Payload)) :=
  quiet_recordArtifactCleanupPlannedStep
    (fun _ _ _ _ _ => ⟨⟨batchId, rfl, rfl⟩, by simp [JournalWrite.phases]⟩) _ _ _ _

theorem quiet_transitioned (batchId artifactId : String) (status : ArtifactCleanupStatus) (reason : Option String)
    (payload : Payload) : AllQuiet (OnBatch batchId []) h.lease
      (transitionArtifactCleanupStep h batchId artifactId status reason payload :
        Op φ ω (ArtifactCleanupRow Payload)) :=
  quiet_transitionArtifactCleanupStep
    (fun _ _ _ _ _ => ⟨⟨batchId, rfl, rfl⟩, by simp [JournalWrite.phases]⟩) _ _ _ _

theorem quiet_planCleanup (batchId artifactId : String) (c : CleanupCandidate) (trigger : ArtifactCleanupTrigger) :
    AllQuiet (OnBatch batchId []) h.lease (planCleanup h batchId artifactId c trigger : Op φ ω PreparedCleanup) :=
  quiet_bind (quiet_planned _ _ _ _ _) fun _ => quiet_pure _

theorem quiet_prepareFirstCleanup (batch : BatchRow Payload) (c : CleanupCandidate) (trigger : ArtifactCleanupTrigger) :
    AllQuiet (OnBatch batch.batchId []) h.lease (prepareFirstCleanup W h batch c trigger) := by
  refine quiet_ite ?_ (quiet_ite (quiet_raise _) (quiet_planCleanup _ _ _ _))
  exact quiet_bind (quiet_planned _ _ _ _ _) fun _ => quiet_bind (quiet_transitioned _ _ _ _ _) fun _ => quiet_pure _

theorem quiet_prepareCleanup (batch : BatchRow Payload) (c : CleanupCandidate) (trigger : ArtifactCleanupTrigger) :
    AllQuiet (OnBatch batch.batchId []) h.lease (prepareCleanup W h batch c trigger) := by
  refine quiet_bind (quiet_databaseRead _) fun records => ?_
  cases records.getLast? with
  | none => exact quiet_prepareFirstCleanup _ _ _
  | some latest =>
    dsimp only
    split
    · exact quiet_pure _
    · exact quiet_planCleanup _ _ _ _
    · exact quiet_planCleanup _ _ _ _
    all_goals exact quiet_ite (quiet_raise _) (quiet_pure _)

theorem quiet_cleanupCandidate (batch : BatchRow Payload) (trigger : ArtifactCleanupTrigger) (c : CleanupCandidate) :
    AllQuiet (OnBatch batch.batchId []) h.lease (cleanupCandidate W h batch trigger c) := by
  refine quiet_bind (quiet_prepareCleanup _ _ _) fun prepared => quiet_ite (quiet_pure _) ?_
  refine quiet_bind (quiet_maintainLease (quiet_executeCleanup c fun m hm => ?_)) fun result => ?_
  · split at hm
    · cases hm
      exact quiet_bind (quiet_transitioned _ _ _ _ _) fun _ => quiet_pure _
    · cases hm
  · exact quiet_bind (quiet_transitioned _ _ _ _ _) fun _ => quiet_pure _

theorem quiet_cleanupBatchArtifacts (trigger : ArtifactCleanupTrigger) (batch : BatchRow Payload) :
    AllQuiet (OnBatch batch.batchId []) h.lease (cleanupBatchArtifacts W h trigger batch) :=
  quiet_bind (quiet_databaseRead _) fun _ =>
    quiet_bind (eachStep_mapEach fun c _ => quiet_cleanupCandidate _ _ c) fun _ =>
      quiet_bind (eachStep_mapEach fun c _ => quiet_cleanupCandidate _ _ c) fun _ =>
        quiet_bind (eachStep_mapEach fun c _ => quiet_cleanupCandidate _ _ c) fun _ => quiet_pure _

/-- A cleanup writes nothing but the cleanup log of its batches. -/
theorem touch_cleanupArtifactsForBatches (lease : Option LeaseRecord) (trigger : ArtifactCleanupTrigger)
    (batches : List (BatchRow Payload)) (hS : ∀ batch ∈ batches, S batch.batchId) :
    AllTouch S P (cleanupArtifactsForBatches W lease trigger batches) := by
  have hbody : ∀ lease : LeaseRecord, AllTouch S P (do
      let debts ← .mapEach batches (cleanupBatchArtifacts W ⟨lease, none⟩ trigger)
      return debts.flatten) := by
    intro lease
    refine eachStep_bind (fun debts => ?_) (eachStep_mapEach fun batch hbatch => ?_)
    · exact trivial
    · refine eachStep_mono (fun w w' hstep => ?_) (quiet_cleanupBatchArtifacts trigger batch).touch
      refine hstep.mono ?_ fun _ hp => by cases hp
      rintro id rfl
      exact hS batch hbatch
  have hhand : AllTouch S P (leaseAtHand lease : Op φ ω (Option LeaseRecord)) := by
    cases lease with
    | none => exact trivial
    | some lease => exact (quiet_bind (quiet_databaseRead (L := lease) _) fun _ => quiet_pure _).touch
  refine eachStep_bind (fun usable => ?_) hhand
  cases usable with
  | some lease => exact hbody lease
  | none =>
    refine eachStep_bind (fun acquired => ?_) (touch_acquireLease none)
    dsimp only
    split
    · exact trivial
    · refine eachStep_finallyDo (hbody acquired) (eachStep_bind (fun _ => ?_) touch_releaseHeldLease)
      exact trivial

end SafeFsOps
