import SafeFsOps.OperationJournal.Mutations
import SafeFsOps.OperationJournal.StatusMoves

/-!
# Quiet steps

Most steps of a coordinator's method write the journal under its own lease, renew
that lease, read, or touch the disk. `Quiet K L` is such a step: the writes are of
a kind `K`, under lease `L`, and nothing else of the database changes.
`AllQuiet K L p` says so of every step of `p`.

> `quiet_journalWrite`: a journal write of kind `K` is quiet.

The mutations are quiet but for two steps, the start of their batch and their
invocation; `AllQuiet` of their parts is proved here once, and every later
argument about interleavings starts from it.
-/

namespace SafeFsOps

variable {φ ω α β : Type}

/-- A write of kind `K` under lease `L`, a heartbeat of `L`, or a change to the tables of operation runs. -/
def JournalCall.Under (K : JournalWrite Payload → Prop) (L : LeaseRecord) : JournalCall Payload → Prop
  | .write x ctx => ctx.lease = L ∧ K x
  | .lease (.heartbeat l _ _) => l = L
  | .operationRuns .. => True
  | _ => False

/-- The journal moved on by writes of kind `K` under lease `L`, operation runs and
phases at most by their statuses, and nothing but the disk changed besides. -/
structure Quiet (K : JournalWrite Payload → Prop) (L : LeaseRecord) (w w' : World φ) : Prop where
  history : w'.history = w.history
  claims : w'.claims = w.claims
  live : w'.live = w.live
  scans : w'.scans = w.scans
  journal : ∃ calls : List (JournalCall Payload), (∀ c ∈ calls, c.Under K L) ∧
    w'.journal = after JournalDb.step w.journal calls
  operations : OperationsKept w.journal w'.journal

/-- Every step of the program is quiet. -/
def AllQuiet (K : JournalWrite Payload → Prop) (L : LeaseRecord) (p : Op φ ω α) : Prop :=
  Program.EachStep (Quiet K L) p

section Rules

variable {K : JournalWrite Payload → Prop} {L : LeaseRecord}

theorem Quiet.refl (w : World φ) : Quiet K L w w := ⟨rfl, rfl, rfl, rfl, ⟨[], by simp, rfl⟩, .refl⟩

/-- The disk may change. -/
theorem Quiet.disk (w : World φ) (fs : φ) : Quiet K L w { w with fs := fs } :=
  ⟨rfl, rfl, rfl, rfl, ⟨[], by simp, rfl⟩, .refl⟩

/-- One call of the journal. -/
theorem Quiet.call {w : World φ} {db : JournalDb Payload} {c : JournalCall Payload} (hc : c.Under K L)
    (hdb : db = w.journal.step c) (hkept : OperationsKept w.journal db) : Quiet K L w { w with journal := db } := by
  refine ⟨rfl, rfl, rfl, rfl, ⟨[c], ?_, hdb⟩, hkept⟩
  intro c' hc'
  rw [List.mem_singleton.1 hc']
  exact hc

theorem quiet_ret (a : α) : AllQuiet K L (.ret a : Op φ ω α) := trivial

theorem quiet_pure (a : α) : AllQuiet K L (pure a : Op φ ω α) := trivial

theorem quiet_raise (e : OperationError) : AllQuiet K L (.raise e : Op φ ω α) := trivial

theorem quiet_ofExcept (x : Except OperationError α) : AllQuiet K L (.ofExcept x : Op φ ω α) :=
  Program.eachStep_ofExcept x

theorem quiet_bind {p : Op φ ω α} {f : α → Op φ ω β} (hp : AllQuiet K L p) (hf : ∀ a, AllQuiet K L (f a)) :
    AllQuiet K L (p >>= f) := Program.eachStep_bind hf hp

theorem quiet_onRaise {p : Op φ ω α} {handler : OperationError → Op φ ω α} (hp : AllQuiet K L p)
    (hh : ∀ e, AllQuiet K L (handler e)) : AllQuiet K L (p.onRaise handler) := Program.eachStep_onRaise hh hp

theorem quiet_outcome {p : Op φ ω α} (hp : AllQuiet K L p) : AllQuiet K L p.outcome :=
  Program.eachStep_outcome hp

theorem quiet_forEach {γ : Type} {xs : List γ} {body : γ → Op φ ω Unit} (hb : ∀ x ∈ xs, AllQuiet K L (body x)) :
    AllQuiet K L (.forEach xs body) := Program.eachStep_forEach hb

theorem quiet_ite {c : Prop} [Decidable c] {p q : Op φ ω α} (hp : AllQuiet K L p) (hq : AllQuiet K L q) :
    AllQuiet K L (if c then p else q) := by
  split
  · exact hp
  · exact hq

theorem quiet_call {act : Sample ω → World φ → Except OperationError α × World φ}
    (h : ∀ i w, Quiet K L w (act i w).2) : AllQuiet K L (.call act) := Program.eachStep_call h

theorem quiet_transaction {act : Sample ω → World φ → Except OperationError (α × World φ)}
    (h : ∀ i w a w', act i w = .ok (a, w') → Quiet K L w w') : AllQuiet K L (transaction act) := by
  refine quiet_call fun i w => ?_
  split
  · exact Quiet.refl w
  · split
    · next a w' hact => exact h i w a w' hact
    · exact Quiet.refl w

theorem quiet_databaseRead (read : Sample ω → World φ → Except OperationError α) :
    AllQuiet K L (databaseRead read) := by
  refine quiet_transaction fun i w a w' h => ?_
  obtain ⟨b, -, hb⟩ := map_eq_ok.1 h
  cases hb
  exact Quiet.refl w

theorem quiet_fsRead (read : ω → φ → Except FilesystemError α) : AllQuiet K L (fsRead read) :=
  quiet_call fun _ w => Quiet.refl w

theorem quiet_fsCall (act : ω → φ → Except FilesystemError α × φ) : AllQuiet K L (fsCall act) :=
  quiet_call fun i w => Quiet.disk w (act i.os w.fs).2

/-- A write of the journal is quiet. -/
theorem quiet_journalWrite {holder : LeaseHolder}
    {write : JournalDb Payload → WriteContext → Except JournalError (α × JournalDb Payload)}
    (h : ∀ db ctx a db', write db ctx = .ok (a, db') → ∃ w : JournalWrite Payload, K w ∧ w.run db ctx = .ok db') :
    AllQuiet K holder.lease (journalWrite holder write : Op φ ω α) := by
  refine quiet_transaction fun i w a w' hw => ?_
  split at hw
  · next a' db hwrite =>
    cases hw
    obtain ⟨write', hK, hrun⟩ := h _ _ _ _ hwrite
    refine Quiet.call (c := .write write' (holder.context i)) ⟨rfl, hK⟩ ?_ (run_operationsKept hrun)
    simp only [JournalDb.step, hrun]
  · cases hw

theorem quiet_heartbeatOnce (holder : LeaseHolder) :
    AllQuiet K holder.lease (heartbeatOnce holder : Op φ ω Unit) := by
  refine quiet_transaction fun i w a w' h => ?_
  split at h
  · cases h
  · cases h
  · next renewed leases hbeat =>
    cases h
    refine Quiet.call (c := .lease (.heartbeat holder.lease holder.lease.ttl (holder.operationTime i))) rfl ?_
      (OperationsKept.of_eq rfl rfl)
    simp only [JournalDb.step, LeaseCall.run, hbeat]

theorem quiet_maintainLease {holder : LeaseHolder} {body : Op φ ω α} (h : AllQuiet K holder.lease body) :
    AllQuiet K holder.lease (maintainLease holder body) :=
  quiet_ite h <| quiet_bind (quiet_heartbeatOnce holder) fun _ => quiet_bind h fun _ =>
    quiet_bind (quiet_databaseRead _) fun _ => quiet_pure _

theorem quiet_maintain {C : Coordinator φ ω} {holder : LeaseHolder} {body : Op φ ω α}
    (h : AllQuiet K holder.lease body) : AllQuiet K holder.lease (maintainOperationLease C holder body) :=
  quiet_ite h (quiet_maintainLease h)

theorem quiet_recordAndRaise {p : Op φ ω α} {record : OperationError → Op φ ω Unit} (hp : AllQuiet K L p)
    (hr : ∀ e, AllQuiet K L (record e)) : AllQuiet K L (recordAndRaise p record) :=
  quiet_onRaise hp fun e => quiet_bind (hr e) fun _ => quiet_raise e

theorem quiet_unlessLeaseLost {p : Op φ ω α} {lost next : Op φ ω β} (hp : AllQuiet K L p)
    (hl : AllQuiet K L lost) (hn : AllQuiet K L next) : AllQuiet K L (unlessLeaseLost p lost next) := by
  refine quiet_bind (quiet_outcome hp) ?_
  rintro (e | a)
  · exact quiet_ite hl (quiet_raise e)
  · exact hn

end Rules

/-! ## The writes -/

section Writes

variable {K : JournalWrite Payload → Prop} {h : LeaseHolder}

theorem quiet_recordRecoveryDesiredStep {batchId : String} (hK : ∀ n, K (.recordRecoveryDesired batchId n))
    (reason : String) (payload : Payload) : AllQuiet K h.lease
      (recordRecoveryDesiredStep h batchId reason payload : Op φ ω (RecoveryRow Payload)) := by
  refine quiet_journalWrite fun db ctx a db' hw =>
    ⟨.recordRecoveryDesired batchId ⟨some reason, some payload, none⟩, hK _, ?_⟩
  simp only [JournalWrite.run, hw, Except.map]

theorem quiet_recordInterruptedStep {batchId : String}
    (hK : ∀ k n, K (.recordInterruptedRecoveryDesired batchId k n)) (resourceKey : Option String) (reason : String) (payload : Payload) : AllQuiet K h.lease
      (recordInterruptedRecoveryDesiredStep h batchId resourceKey reason payload :
        Op φ ω (RecoveryRow Payload)) := by
  refine quiet_journalWrite fun db ctx a db' hw =>
    ⟨.recordInterruptedRecoveryDesired batchId resourceKey ⟨some reason, some payload, none⟩, hK _ _, ?_⟩
  simp only [JournalWrite.run, hw, Except.map]

theorem quiet_recordArtifactCleanupPlannedStep {batchId : String}
    (hK : ∀ a t k p i, K (.recordArtifactCleanupPlanned batchId a t k p i)) (artifactId : String)
    (trigger : ArtifactCleanupTrigger) (resourceKey : Option String) (payload : Payload) : AllQuiet K h.lease
      (recordArtifactCleanupPlannedStep h batchId artifactId trigger resourceKey payload :
        Op φ ω (ArtifactCleanupRow Payload)) := by
  refine quiet_journalWrite fun db ctx a db' hw =>
    ⟨.recordArtifactCleanupPlanned batchId artifactId trigger resourceKey (some payload) none, hK _ _ _ _ _, ?_⟩
  simp only [JournalWrite.run, hw, Except.map]

theorem quiet_transitionArtifactCleanupStep {batchId : String}
    (hK : ∀ a s r p i, K (.transitionArtifactCleanup batchId a s r p i)) (artifactId : String) (status : ArtifactCleanupStatus) (reason : Option String) (payload : Payload) :
    AllQuiet K h.lease (transitionArtifactCleanupStep h batchId artifactId status reason payload :
      Op φ ω (ArtifactCleanupRow Payload)) := by
  refine quiet_journalWrite fun db ctx a db' hw =>
    ⟨.transitionArtifactCleanup batchId artifactId status reason (some payload) none, hK _ _ _ _ _, ?_⟩
  simp only [JournalWrite.run, hw, Except.map]

end Writes

/-! ## The parts of the mutations

They are quiet up to the start of their batch and their invocation. -/

namespace JournalWrite

/-- The writes a mutation makes for its caller, whose links a new batch gets. -/
def OfMutation (c : Caller) : JournalWrite Payload → Prop
  | createBatch req _ => req.operationRunId = c.operationRunId ∧ req.operationPhaseId = c.operationPhaseId
  | startBatchOperation .. | recordCheckpoint .. | markSucceeded .. | markFailed .. => True
  | recordRecoveryDesired .. | recordInterruptedRecoveryDesired .. | recordLeaseLostRecoveryDesired .. => True
  | recordArtifactCleanupPlanned .. | transitionArtifactCleanup .. => True
  | _ => False

/-- The writes a mutation makes of its batch once that is started. -/
def OfStarted (batchId : String) : JournalWrite Payload → Prop
  | recordCheckpoint b .. | markSucceeded b .. | markFailed b .. => b = batchId
  | recordRecoveryDesired b .. | recordLeaseLostRecoveryDesired b .. => b = batchId
  | recordArtifactCleanupPlanned b .. | transitionArtifactCleanup b .. => b = batchId
  | _ => False

theorem OfStarted.mutation {c : Caller} {batchId : String} (x : JournalWrite Payload) (h : OfStarted batchId x) :
    OfMutation c x := by
  cases x <;> first | exact trivial | exact h.elim

end JournalWrite

open JournalWrite (OfMutation OfStarted)

section Methods

variable {K : JournalWrite Payload → Prop} {L : LeaseRecord} {C : Coordinator φ ω} {c : Caller}

theorem quiet_requireCurrent (h : LeaseHolder) : AllQuiet K L (requireCurrent h : Op φ ω Unit) := quiet_databaseRead _

theorem quiet_requireAuthority (resourceKey : String) :
    AllQuiet K L (requireAuthority c resourceKey : Op φ ω Unit) :=
  quiet_bind (quiet_requireCurrent _) fun _ => quiet_bind (quiet_databaseRead _) fun _ => quiet_ofExcept _

theorem quiet_createBatchStep (resourceKey : String) (intent : Intent) :
    AllQuiet (OfMutation c) c.lease (createBatchStep c resourceKey intent : Op φ ω (BatchRow Payload)) := by
  refine quiet_journalWrite fun db ctx a db' h => ⟨.createBatch (c.batchRequest resourceKey intent) none, ⟨rfl, rfl⟩, ?_⟩
  simp only [JournalWrite.run, h, Except.map]

theorem quiet_recordCheckpointStep {batchId : String} (hK : ∀ k t p o i a, K (.recordCheckpoint batchId k t p o i a))
    (resourceKey type : String) (payload : Payload) (operationId : Option String) : AllQuiet K c.lease
      (recordCheckpointStep c batchId resourceKey type payload operationId : Op φ ω (CheckpointRow Payload)) := by
  refine quiet_journalWrite fun db ctx a db' h =>
    ⟨.recordCheckpoint batchId resourceKey type (some payload) operationId none none, hK _ _ _ _ _ _, ?_⟩
  simp only [JournalWrite.run, h, Except.map]

theorem quiet_markSucceededStep {batchId : String} (hK : ∀ p, K (.markSucceeded batchId p)) (result : Payload) :
    AllQuiet K c.lease (markSucceededStep c batchId result : Op φ ω (BatchRow Payload)) := by
  refine quiet_journalWrite fun db ctx a db' h => ⟨.markSucceeded batchId (some result), hK _, ?_⟩
  simp only [JournalWrite.run, h, Except.map]

theorem quiet_markFailedStep {batchId : String} (hK : ∀ e p, K (.markFailed batchId e p)) (error : String)
    (observed : Payload) : AllQuiet K c.lease (markFailedStep c batchId error observed : Op φ ω (BatchRow Payload)) := by
  refine quiet_journalWrite fun db ctx a db' h => ⟨.markFailed batchId error (some observed), hK _ _, ?_⟩
  simp only [JournalWrite.run, h, Except.map]

theorem quiet_recordLeaseLostStep {batchId : String} (hK : ∀ k n, K (.recordLeaseLostRecoveryDesired batchId k n))
    (resourceKey reason : String) (payload : Payload) : AllQuiet K c.lease
    (recordLeaseLostRecoveryDesiredStep c batchId resourceKey reason payload : Op φ ω (RecoveryRow Payload)) := by
  refine quiet_journalWrite fun db ctx a db' h =>
    ⟨.recordLeaseLostRecoveryDesired batchId (some resourceKey) ⟨some reason, some payload, none⟩, hK _ _, ?_⟩
  simp only [JournalWrite.run, h, Except.map]

theorem quiet_recordInterruptedIfTakenOver {batch : BatchRow Payload}
    (hK : ∀ k n, K (.recordInterruptedRecoveryDesired batch.batchId k n)) (resourceKey reason : String) :
    AllQuiet K c.lease (recordInterruptedIfTakenOver c batch resourceKey reason : Op φ ω Unit) :=
  quiet_ite (quiet_ret _) <| quiet_ite (quiet_ret _) <|
    quiet_bind (quiet_recordInterruptedStep hK _ _ _) fun _ => quiet_pure _

theorem quiet_snapshotOutcome (path : Path) : AllQuiet K L (snapshotOutcome C path) :=
  quiet_outcome (quiet_fsRead _)

theorem quiet_snapshotOrNone (path : Path) : AllQuiet K L (snapshotOrNone C path) :=
  quiet_bind (quiet_snapshotOutcome path) fun _ => quiet_pure _

theorem quiet_snapshotDirectoryCaptureToken (path : Path) (snapshot : ResourceSnapshot) (create : Bool) :
    AllQuiet K L (snapshotDirectoryCaptureToken C path snapshot create) := by
  unfold snapshotDirectoryCaptureToken
  split
  · exact quiet_bind (quiet_outcome (quiet_fsCall _)) fun _ => quiet_pure _
  · exact quiet_pure _

theorem quiet_capturedDirectoryFromSnapshots (m : CaptureMutation) (before : ResourceSnapshot)
    (captureToken : Option String) (quarantineAfter : Option ResourceSnapshot) :
    AllQuiet K L (capturedDirectoryFromSnapshots C m before captureToken quarantineAfter) := by
  unfold capturedDirectoryFromSnapshots
  split
  · exact quiet_bind (quiet_snapshotDirectoryCaptureToken _ _ _) fun _ => quiet_ite (quiet_pure _) (quiet_pure _)
  · exact quiet_pure _

theorem quiet_ambiguousCaptureRecovery (m : CaptureMutation) (before : ResourceSnapshot)
    (captureToken : Option String) (sourceAfter quarantineAfter : Option ResourceSnapshot) (e : OperationError) :
    AllQuiet K L (ambiguousCaptureRecovery C m before captureToken sourceAfter quarantineAfter e) := by
  refine quiet_ite (quiet_pure _) (quiet_bind (quiet_capturedDirectoryFromSnapshots _ _ _ _) fun payload => ?_)
  cases payload <;> exact quiet_pure _

section Started

variable {batchId : String} (hK : ∀ x, OfStarted batchId x → K x)

include hK

theorem quiet_recordFailure (resourceKey error reason : String) (failure : FailurePayload)
    (details : RecoveryDetails) :
    AllQuiet K c.lease (recordFailure c batchId resourceKey error reason failure details : Op φ ω Unit) := by
  have hlost : AllQuiet K c.lease (do
      let _ ← recordLeaseLostRecoveryDesiredStep c batchId resourceKey reason (.recovery details)
      return () : Op φ ω Unit) := quiet_bind (quiet_recordLeaseLostStep (fun _ _ => hK _ rfl) _ _ _) fun _ => quiet_pure _
  exact quiet_unlessLeaseLost (quiet_markFailedStep (fun _ _ => hK _ rfl) _ _) hlost <|
    quiet_unlessLeaseLost (quiet_recordRecoveryDesiredStep (fun _ => hK _ rfl) _ _) hlost (quiet_ret _)

theorem quiet_recordMutationFailure (path : Path) (resourceKey : String)
    (before : ResourceSnapshot) (recovery : RecoveryDetails) (stage : Option String) (e : OperationError) :
    AllQuiet K c.lease (recordMutationFailure C c batchId path resourceKey before recovery stage e) := by
  refine quiet_bind (quiet_snapshotOutcome path) ?_
  rintro (e' | snapshot)
  · exact quiet_recordFailure hK _ _ _ _ _
  · refine quiet_unlessLeaseLost (quiet_recordCheckpointStep (fun _ _ _ _ _ _ => hK _ rfl) _ _ _ _) ?_ (quiet_recordFailure hK _ _ _ _ _)
    exact quiet_bind (quiet_recordLeaseLostStep (fun _ _ => hK _ rfl) _ _ _) fun _ => quiet_pure _

theorem quiet_recordPostMutationFailure (path : Path) (resourceKey : String)
    (before : ResourceSnapshot) (after : Option ResourceSnapshot) (recovery : RecoveryDetails) (stage : String)
    (e : OperationError) :
    AllQuiet K c.lease (recordPostMutationFailure C c batchId path resourceKey before after recovery stage e) := by
  refine quiet_bind ?_ fun _ => quiet_recordFailure hK _ _ _ _ _
  cases after with
  | some snapshot => exact quiet_pure _
  | none =>
    refine quiet_bind (quiet_snapshotOutcome path) ?_
    rintro (e' | snapshot) <;> exact quiet_pure _

theorem quiet_recordMoveFailure (path : Path) (resourceKey : String)
    (before : ResourceSnapshot) (after : Option ResourceSnapshot) (ambiguous : Option RecoveryDetails)
    (stage : String) (e : OperationError) :
    AllQuiet K c.lease (recordMoveFailure C c batchId path resourceKey before after ambiguous stage e) := by
  cases ambiguous with
  | none => exact quiet_recordMutationFailure hK _ _ _ _ _ _
  | some recovery => exact quiet_recordPostMutationFailure hK _ _ _ _ _ _ _

theorem quiet_captureFileRollbackProof (operationId : String) (m : FileMutation φ ω)
    (before : ResourceSnapshot) : AllQuiet K c.lease (captureFileRollbackProof C c batchId operationId m before) := by
  refine quiet_bind (quiet_ite (quiet_pure _) (quiet_bind (quiet_ite (quiet_raise _) ?_) fun _ => quiet_pure _))
    fun backup => quiet_bind (quiet_recordCheckpointStep (fun _ _ _ _ _ _ => hK _ rfl) _ _ _ _) fun checkpoint => ?_
  · refine quiet_bind (quiet_onRaise (quiet_fsRead _) fun _ => quiet_raise _) fun _ => ?_
    exact quiet_ite (quiet_raise _) (quiet_ite (quiet_raise _) (quiet_pure _))
  · refine quiet_bind ?_ fun _ => quiet_bind (quiet_ite (quiet_pure _) (quiet_fsCall _)) fun captured => ?_
    · cases backup with
      | missing snapshot => exact quiet_ret _
      | file contentPath => exact quiet_bind (quiet_recordArtifactCleanupPlannedStep (fun _ _ _ _ _ => hK _ rfl) _ _ _ _) fun _ => quiet_pure _
    · exact quiet_ite (quiet_raise _) <| quiet_bind (quiet_recordCheckpointStep (fun _ _ _ _ _ _ => hK _ rfl) _ _ _ _) fun _ =>
        quiet_bind (quiet_recordCheckpointStep (fun _ _ _ _ _ _ => hK _ rfl) _ _ _ _) fun _ => quiet_pure _

theorem quiet_prepareMutationCheckpoints (operationId : String) (m : FileMutation φ ω)
    (before : ResourceSnapshot) : AllQuiet K c.lease (prepareMutationCheckpoints C c batchId operationId m before) :=
  quiet_bind (quiet_recordCheckpointStep (fun _ _ _ _ _ _ => hK _ rfl) _ _ _ _) fun _ =>
    quiet_ite (quiet_pure _) (quiet_captureFileRollbackProof hK _ _ _)

theorem quiet_finishMutation (operationId : String) (path : Path) (resourceKey : String)
    (before : ResourceSnapshot) (recovery : RecoveryDetails) (result : ResourceSnapshot → Payload) :
    AllQuiet K c.lease (finishMutation C c batchId operationId path resourceKey before recovery result) := by
  refine quiet_bind (quiet_recordAndRaise (quiet_fsRead _) fun _ => quiet_recordPostMutationFailure hK _ _ _ _ _ _ _)
    fun after => ?_
  refine quiet_bind (quiet_recordAndRaise (quiet_recordCheckpointStep (fun _ _ _ _ _ _ => hK _ rfl) _ _ _ _)
    fun _ => quiet_recordPostMutationFailure hK _ _ _ _ _ _ _) fun _ => ?_
  exact quiet_bind (quiet_recordAndRaise (quiet_markSucceededStep (fun _ => hK _ rfl) _)
    fun _ => quiet_recordPostMutationFailure hK _ _ _ _ _ _ _) fun _ => quiet_pure _

theorem quiet_finishFileMutation (operationId : String) (m : FileMutation φ ω)
    (before : ResourceSnapshot) (recovery : RecoveryDetails) :
    AllQuiet K c.lease (finishFileMutation C c batchId operationId m before recovery) :=
  quiet_finishMutation hK _ _ _ _ _ _

theorem quiet_recordRename (operationId : String) (m : RenameMutation) (record : RenameRecord) :
    AllQuiet K c.lease (recordRename C c batchId operationId m record) :=
  quiet_bind (quiet_recordCheckpointStep (fun _ _ _ _ _ _ => hK _ rfl) _ _ _ _) fun _ => quiet_bind (quiet_fsRead _) fun _ =>
    quiet_bind (quiet_fsRead _) fun _ => quiet_bind (quiet_recordCheckpointStep (fun _ _ _ _ _ _ => hK _ rfl) _ _ _ _) fun _ =>
      quiet_bind (quiet_markSucceededStep (fun _ => hK _ rfl) _) fun _ => quiet_pure _

theorem quiet_recordCapturedDirectoryCleanup (resourceKey : String) (checkpoint : CheckpointRow Payload)
    (captured : CapturedDirectoryRecord) :
    AllQuiet K c.lease (recordCapturedDirectoryCleanup C c batchId resourceKey checkpoint captured) := by
  refine quiet_bind (quiet_recordArtifactCleanupPlannedStep (fun _ _ _ _ _ => hK _ rfl) _ _ _ _) fun _ => ?_
  cases C.capturedDirectoryCleanup with
  | automatic => exact quiet_pure _
  | retain => exact quiet_bind (quiet_transitionArtifactCleanupStep (fun _ _ _ _ _ => hK _ rfl) _ _ _ _) fun _ => quiet_pure _

theorem quiet_recordCapture (operationId : String) (m : CaptureMutation)
    (captured : CapturedDirectoryRecord) : AllQuiet K c.lease (recordCapture C c batchId operationId m captured) :=
  quiet_bind (quiet_recordCheckpointStep (fun _ _ _ _ _ _ => hK _ rfl) _ _ _ _) fun _ =>
    quiet_bind (quiet_recordCapturedDirectoryCleanup hK _ _ _) fun _ => quiet_bind (quiet_fsRead _) fun _ =>
      quiet_bind (quiet_fsRead _) fun _ => quiet_bind (quiet_recordCheckpointStep (fun _ _ _ _ _ _ => hK _ rfl) _ _ _ _) fun _ =>
        quiet_bind (quiet_markSucceededStep (fun _ => hK _ rfl) _) fun _ => quiet_pure _

end Started

end Methods

end SafeFsOps
