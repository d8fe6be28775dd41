import SafeFsOps.OperationJournal.BatchMoves
import SafeFsOps.OperationJournal.MutationRegions
import SafeFsOps.OperationJournal.StepRules
import SafeFsOps.OperationJournal.TreeMutationSteps

/-!
# What closes a batch

From its start to its end a mutation writes its own batch only, and of the phases only
those an attempt ends in (`closedPhases`): `touch_…`. A program `Closes` the batch if it
is in such a phase wherever the program has a result.

> `closes_closeMutationFailure` and its siblings: a failure record has closed the batch
> once it is made up to the mark, lease-lost marker included.
> `closes_markSucceededStep`: so has the mark at the end.
-/

namespace SafeFsOps

open Program
open JournalWrite (OfStarted)

variable {φ ω α β : Type} {C : Coordinator φ ω} {c : Caller} {batchId : String}

/-- The phases an attempt ends in. -/
def closedPhases : List BatchPhase := [.succeeded, .failed, .recoveryDesired]

/-- The batch is in one of these phases. -/
def Closed (P : List BatchPhase) (batchId : String) (w : World φ) : Prop :=
  ∃ row, w.journal.batchRow batchId = some row ∧ row.phase ∈ P

theorem Closed.touch {S : String → Prop} {P : List BatchPhase} {w w' : World φ} (h : Closed P batchId w)
    (ht : Touches S P w w') : Closed P batchId w' := by
  obtain ⟨row, hrow, hp⟩ := h
  obtain ⟨row', hrow', -, hp'⟩ := ht.journal.row _ _ hrow
  exact ⟨row', hrow', hp'.elim (fun h => h ▸ hp) id⟩

/-! ## The steps from the start on -/

/-- Every step of the program writes the batch only, and closes it if it moves it at all. -/
abbrev TouchesOwn (P : List BatchPhase) (batchId : String) (p : Op φ ω α) : Prop := AllTouch (fun id => id = batchId) P p

theorem JournalWrite.OfStarted.on (x : JournalWrite Payload) (h : OfStarted batchId x) :
    x.On (fun id => id = batchId) closedPhases := by
  cases x <;> first
    | exact h.elim
    | cases h; exact ⟨⟨_, rfl, rfl⟩, by simp [JournalWrite.phases, closedPhases]⟩

section Touches

variable {P : List BatchPhase}

theorem touch_fsRead (read : ω → φ → Except FilesystemError α) : TouchesOwn P batchId (fsRead read) :=
  eachStep_call fun _ _ => Touches.refl

theorem touch_invoke (act : ω → φ → Except FilesystemError α × φ) : TouchesOwn P batchId (invoke c act) :=
  eachStep_call fun _ _ => ⟨rfl, rfl, rfl, Moves.refl, .refl⟩

theorem touch_requireAuthority (resourceKey : String) :
    TouchesOwn P batchId (requireAuthority c resourceKey : Op φ ω Unit) :=
  AllQuiet.touch (L := c.lease) (quiet_requireAuthority _)

theorem touch_recordCheckpointStep (resourceKey type : String) (payload : Payload) (operationId : Option String) :
    TouchesOwn P batchId
      (recordCheckpointStep c batchId resourceKey type payload operationId : Op φ ω (CheckpointRow Payload)) :=
  (quiet_recordCheckpointStep (fun _ _ _ _ _ _ => ⟨⟨_, rfl, rfl⟩, fun _ hp => by cases hp⟩) _ _ _ _).touch

theorem touch_markSucceededStep (hP : .succeeded ∈ P) (result : Payload) :
    TouchesOwn P batchId (markSucceededStep c batchId result : Op φ ω (BatchRow Payload)) :=
  (quiet_markSucceededStep (fun _ => ⟨⟨_, rfl, rfl⟩, fun _ hp => List.mem_singleton.1 hp ▸ hP⟩) _).touch

theorem touch_maintain {body : Op φ ω α} (hb : TouchesOwn P batchId body) :
    TouchesOwn P batchId (maintainOperationLease C c.toLeaseHolder body) := by
  have hbeat : TouchesOwn P batchId (heartbeatOnce c.toLeaseHolder : Op φ ω Unit) := (quiet_heartbeatOnce _).touch
  have hfailed : TouchesOwn P batchId (raiseIfFailed : Op φ ω Unit) :=
    AllQuiet.touch (L := c.lease) (quiet_databaseRead _)
  unfold maintainOperationLease maintainLease
  split
  · exact hb
  · split
    · exact hb
    · refine eachStep_bind (fun _ => eachStep_bind (fun _ => eachStep_bind (fun _ => ?_) hfailed) hb) hbeat
      exact trivial

theorem touch_authorizedMove {move : Op φ ω α} (resourceKey destinationKey : String) (hm : TouchesOwn P batchId move) :
    TouchesOwn P batchId (authorizedMove C c resourceKey destinationKey move) := by
  refine eachStep_bind (fun _ => eachStep_bind (fun _ => ?_) (touch_requireAuthority _)) (touch_requireAuthority _)
  refine touch_maintain (eachStep_bind (fun _ => ?_) (touch_requireAuthority _))
  exact eachStep_bind (fun _ => hm) (touch_requireAuthority _)

theorem touch_settleFailure (resourceKey : String) (u : Unsettled) :
    TouchesOwn closedPhases batchId (settleFailure c batchId resourceKey u : Op φ ω Unit) := by
  cases u with
  | none => exact trivial
  | some u =>
    refine AllQuiet.touch (L := c.lease) (quiet_unlessLeaseLost (quiet_recordRecoveryDesiredStep ?_ _ _) ?_ (quiet_ret _))
    · exact fun _ => OfStarted.on _ rfl
    · exact quiet_bind (quiet_recordLeaseLostStep (fun _ _ => OfStarted.on _ rfl) _ _ _) fun _ => quiet_pure _

theorem touch_closeMutationFailure (resourceKey : String) (path : Path) (before : ResourceSnapshot)
    (recovery : RecoveryDetails) (stage : Option String) (e : OperationError) :
    TouchesOwn closedPhases batchId (closeMutationFailure c batchId resourceKey C path before recovery stage e) := by
  have hrecord : AllQuiet _ c.lease (recordMutationFailure C c batchId path resourceKey before recovery stage e) :=
    quiet_recordMutationFailure OfStarted.on _ _ _ _ _ _
  rw [recordMutationFailure_eq] at hrecord
  exact eachStep_of_bind hrecord.touch

theorem touch_closeBeforeSnapshotFailure (resourceKey : String) (path : Path) (recovery : RecoveryDetails)
    (e : OperationError) : TouchesOwn closedPhases batchId
      (closeBeforeSnapshotFailure c batchId resourceKey path recovery e : Op φ ω Unsettled) := by
  have hrecord : AllQuiet _ c.lease (recordBeforeSnapshotFailure c batchId path resourceKey recovery e : Op φ ω Unit) :=
    quiet_recordFailure OfStarted.on _ _ _ _ _
  rw [recordBeforeSnapshotFailure_eq] at hrecord
  exact eachStep_of_bind hrecord.touch

theorem touch_closePostMutationFailure (resourceKey : String) (path : Path) (before : ResourceSnapshot)
    (after : Option ResourceSnapshot) (recovery : RecoveryDetails) (stage : String) (e : OperationError) :
    TouchesOwn closedPhases batchId
      (closePostMutationFailure c batchId resourceKey C path before after recovery stage e) := by
  have hrecord : AllQuiet _ c.lease
      (recordPostMutationFailure C c batchId path resourceKey before after recovery stage e) :=
    quiet_recordPostMutationFailure OfStarted.on _ _ _ _ _ _ _
  rw [recordPostMutationFailure_eq] at hrecord
  exact eachStep_of_bind hrecord.touch

theorem touch_closeMoveFailure (resourceKey : String) (path : Path) (before : ResourceSnapshot)
    (after : Option ResourceSnapshot) (ambiguous : Option RecoveryDetails) (stage : String) (e : OperationError) :
    TouchesOwn closedPhases batchId (closeMoveFailure c batchId resourceKey C path before after ambiguous stage e) := by
  cases ambiguous with
  | none => exact touch_closeMutationFailure _ _ _ _ _ _
  | some recovery => exact touch_closePostMutationFailure _ _ _ _ _ _ _

end Touches

/-! ## Closing -/

/-- Wherever the program has a result, the batch is in one of these phases. -/
def Closes (P : List BatchPhase) (batchId : String) (p : Op φ ω α) : Prop :=
  ∀ w, Finishes (fun r w' => ∀ a, r = .ok a → Closed P batchId w') p w

section Rules

variable {P : List BatchPhase}

/-- The last part closes it. -/
theorem closes_after {p : Op φ ω α} {f : α → Op φ ω β} (hf : ∀ a, Closes P batchId (f a)) : Closes P batchId (p >>= f) :=
  fun _ => finishes_last fun a w' => hf a w'

/-- The first part closes it, and the other one leaves it so. -/
theorem closes_before {p : Op φ ω α} {f : α → Op φ ω β} (hp : Closes P batchId p)
    (hf : ∀ a, TouchesOwn P batchId (f a)) : Closes P batchId (p >>= f) := by
  intro w
  refine along_seq (hp w) (fun a w' hclosed => ?_) fun _ _ _ _ ha => by cases ha
  exact along_mono (fun _ _ _ => trivial) (fun r w'' ht _ _ => (hclosed a rfl).touch ht) (along_touch (hf a) w')

theorem closes_raise (e : OperationError) : Closes P batchId (.raise e : Op φ ω α) := fun _ _ ha => by cases ha

/-- The record that follows closes it, and so does what stands in for it. -/
theorem closes_unlessLeaseLost {p : Op φ ω α} {lost next : Op φ ω β} (hl : Closes P batchId lost)
    (hn : Closes P batchId next) : Closes P batchId (unlessLeaseLost p lost next) := by
  refine closes_after fun r => ?_
  cases r with
  | ok a => exact hn
  | error e =>
    dsimp only
    split
    · exact hl
    · exact closes_raise e

/-- It is closed already. -/
theorem closes_marked {p : Op φ ω α} {lost next : Op φ ω β} (hp : Closes P batchId p) (hl : Closes P batchId lost)
    (hn : TouchesOwn P batchId next) : Closes P batchId (unlessLeaseLost p lost next) := by
  intro w
  refine along_outcome_seq (hp w) fun r w' hclosed => ?_
  cases r with
  | ok a => exact along_mono (fun _ _ _ => trivial) (fun r w'' ht _ _ => (hclosed a rfl).touch ht) (along_touch hn w')
  | error e =>
    dsimp only
    split
    · exact hl w'
    · exact closes_raise e w'

theorem closes_journalWrite {h : LeaseHolder}
    {write : JournalDb Payload → WriteContext → Except JournalError (α × JournalDb Payload)}
    (hwrite : ∀ db ctx a db', write db ctx = .ok (a, db') → ∃ row, db'.batchRow batchId = some row ∧ row.phase ∈ P) :
    Closes P batchId (journalWrite h write : Op φ ω α) := by
  refine fun w => along_journalWrite trivial (fun _ _ _ _ _ ha => by cases ha) (fun _ _ _ _ _ _ ha => by cases ha) ?_
  exact fun i a db _ _ h => ⟨trivial, fun _ _ => hwrite _ _ _ _ h⟩

end Rules

/-- The phase of a batch that was moved on. -/
theorem transitionBatch_phase {π : Type} [JournalPayload π] {db db' : JournalDb π} {phase : BatchPhase}
    {message : Option String} {status : Option π} {ctx : WriteContext} {r : BatchRow π}
    (h : transitionBatch db batchId phase message status ctx = .ok (r, db')) :
    ∃ row, db'.batchRow batchId = some row ∧ row.phase = phase := by
  simp only [transitionBatch, bind_eq_ok, pure_eq_ok, Prod.mk.injEq] at h
  obtain ⟨_, -, row, hrow, _, -, _, -, -, rfl⟩ := h
  obtain ⟨-, hrow, -⟩ := requireBatchForWrite_ok hrow
  refine ⟨row.setPhase phase message (payloadToJson status) ctx.now, ?_, rfl⟩
  refine (batchRow_updateBatch (KeepsBatch.setPhase _ _ _ _) batchId).trans ?_
  rw [if_pos rfl, hrow]
  rfl

/-- The phase of a batch with a lease-lost marker. -/
theorem recordLeaseLost_phase {π : Type} [JournalPayload π] {db db' : JournalDb π} {key : Option String}
    {note : RecoveryNote π} {ctx : WriteContext} {r : RecoveryRow π}
    (h : recordLeaseLostRecoveryDesired db batchId key note ctx = .ok (r, db')) :
    ∃ row, db'.batchRow batchId = some row ∧ row.phase = .recoveryDesired := by
  simp only [recordLeaseLostRecoveryDesired, bind_eq_ok] at h
  obtain ⟨_, -, _, -, row, hrow, _, -, hwrite⟩ := h
  exact ⟨_, writeRecovery_row hwrite KeepsBatch.id (requireBatchRow_ok hrow), rfl⟩

theorem closes_markSucceededStep {P : List BatchPhase} (hP : .succeeded ∈ P) (result : Payload) :
    Closes P batchId (markSucceededStep c batchId result : Op φ ω (BatchRow Payload)) := by
  refine closes_journalWrite fun db ctx a db' h => ?_
  obtain ⟨row, hrow, hphase⟩ := transitionBatch_phase h
  exact ⟨row, hrow, hphase ▸ hP⟩

theorem closes_markFailedStep (error : String) (observed : Payload) :
    Closes closedPhases batchId (markFailedStep c batchId error observed : Op φ ω (BatchRow Payload)) := by
  refine closes_journalWrite fun db ctx a db' h => ?_
  simp only [markFailed, bind_eq_ok] at h
  obtain ⟨_, -, h⟩ := h
  obtain ⟨row, hrow, hphase⟩ := transitionBatch_phase h
  exact ⟨row, hrow, hphase ▸ by decide⟩

theorem closes_recordLeaseLostStep (resourceKey reason : String) (payload : Payload) : Closes closedPhases batchId
    (recordLeaseLostRecoveryDesiredStep c batchId resourceKey reason payload : Op φ ω (RecoveryRow Payload)) := by
  refine closes_journalWrite fun db ctx a db' h => ?_
  obtain ⟨row, hrow, hphase⟩ := recordLeaseLost_phase h
  exact ⟨row, hrow, hphase ▸ by decide⟩

theorem closes_leaveMarker (resourceKey reason : String) (details : RecoveryDetails) :
    Closes closedPhases batchId (leaveMarker c batchId resourceKey reason details : Op φ ω Unsettled) :=
  closes_before (closes_recordLeaseLostStep _ _ _) fun _ => trivial

/-! ## The failure records -/

theorem closes_closeFailure (resourceKey error reason : String) (failure : FailurePayload) (details : RecoveryDetails) :
    Closes closedPhases batchId
      (closeFailure c batchId resourceKey error reason failure details : Op φ ω Unsettled) :=
  closes_marked (closes_markFailedStep _ _) (closes_leaveMarker _ _ _) trivial

theorem closes_closeMutationFailure (resourceKey : String) (path : Path) (before : ResourceSnapshot)
    (recovery : RecoveryDetails) (stage : Option String) (e : OperationError) :
    Closes closedPhases batchId (closeMutationFailure c batchId resourceKey C path before recovery stage e) := by
  refine closes_after fun seen => ?_
  cases seen with
  | error e' => exact closes_closeFailure _ _ _ _ _
  | ok snapshot => exact closes_unlessLeaseLost (closes_leaveMarker _ _ _) (closes_closeFailure _ _ _ _ _)

theorem closes_closePostMutationFailure (resourceKey : String) (path : Path) (before : ResourceSnapshot)
    (after : Option ResourceSnapshot) (recovery : RecoveryDetails) (stage : String) (e : OperationError) :
    Closes closedPhases batchId (closePostMutationFailure c batchId resourceKey C path before after recovery stage e) :=
  closes_after fun _ => closes_closeFailure _ _ _ _ _

theorem closes_closeMoveFailure (resourceKey : String) (path : Path) (before : ResourceSnapshot)
    (after : Option ResourceSnapshot) (ambiguous : Option RecoveryDetails) (stage : String) (e : OperationError) :
    Closes closedPhases batchId (closeMoveFailure c batchId resourceKey C path before after ambiguous stage e) := by
  cases ambiguous with
  | none => exact closes_closeMutationFailure _ _ _ _ _ _
  | some recovery => exact closes_closePostMutationFailure _ _ _ _ _ _ _

theorem closes_recordTreeBackupFailure (m : TreeBackupMutation) (operationId : String) (k : PartialArtifactTracker)
    (e : OperationError) :
    Closes closedPhases batchId (recordTreeBackupFailure c m batchId operationId k e : Op φ ω Unit) := by
  have hlost : ∀ payload, Closes closedPhases batchId (do
      let _ ← recordLeaseLostRecoveryDesiredStep c batchId m.resourceKey "tree backup failed" payload
      return () : Op φ ω Unit) := fun _ => closes_before (closes_recordLeaseLostStep _ _ _) fun _ => trivial
  exact closes_unlessLeaseLost (hlost _) (closes_marked (closes_markFailedStep _ _) (hlost _) trivial)

/-- A handler that closes the batch, and writes nothing else. -/
def RecordsFailure (P : List BatchPhase) (batchId : String) (record : OperationError → Op φ ω α) : Prop :=
  ∀ e, TouchesOwn P batchId (record e) ∧ Closes P batchId (record e)

theorem records_closeMutationFailure (resourceKey : String) (path : Path) (before : ResourceSnapshot)
    (recovery : RecoveryDetails) (stage : Option String) :
    RecordsFailure closedPhases batchId (closeMutationFailure c batchId resourceKey C path before recovery stage) :=
  fun _ => ⟨touch_closeMutationFailure _ _ _ _ _ _, closes_closeMutationFailure _ _ _ _ _ _⟩

theorem records_closeBeforeSnapshotFailure (resourceKey : String) (path : Path) (recovery : RecoveryDetails) :
    RecordsFailure closedPhases batchId
      (closeBeforeSnapshotFailure c batchId resourceKey path recovery : OperationError → Op φ ω Unsettled) :=
  fun _ => ⟨touch_closeBeforeSnapshotFailure _ _ _ _, closes_closeFailure _ _ _ _ _⟩

theorem records_closePostMutationFailure (resourceKey : String) (path : Path) (before : ResourceSnapshot)
    (after : Option ResourceSnapshot) (recovery : RecoveryDetails) (stage : String) :
    RecordsFailure closedPhases batchId
      (closePostMutationFailure c batchId resourceKey C path before after recovery stage) :=
  fun _ => ⟨touch_closePostMutationFailure _ _ _ _ _ _ _, closes_closePostMutationFailure _ _ _ _ _ _ _⟩

theorem records_recordTreeBackupFailure (m : TreeBackupMutation) (operationId : String) (k : PartialArtifactTracker) :
    RecordsFailure closedPhases batchId
      (recordTreeBackupFailure c m batchId operationId k : OperationError → Op φ ω Unit) :=
  fun _ => ⟨(quiet_recordTreeBackupFailure OfStarted.on _ _ _ _).touch, closes_recordTreeBackupFailure _ _ _ _⟩

/-- What the handler of a rename does before its record only looks. -/
theorem records_renameFailure (m : RenameMutation) (before : ResourceSnapshot) :
    RecordsFailure closedPhases batchId (fun e => do
      let sourceAfter ← snapshotOrNone C m.sourcePath
      let destinationAfter ← snapshotOrNone C m.destinationPath
      closeMoveFailure c batchId m.resourceKey C m.sourcePath before sourceAfter
        (ambiguousRenameRecovery m before sourceAfter destinationAfter e) "rename_ambiguous_success" e) := by
  have hlook : ∀ path, TouchesOwn closedPhases batchId (snapshotOrNone C path) :=
    fun path => AllQuiet.touch (L := c.lease) (quiet_snapshotOrNone path)
  refine fun e => ⟨?_, closes_after fun _ => closes_after fun _ => closes_closeMoveFailure _ _ _ _ _ _ _⟩
  exact eachStep_bind (fun _ => eachStep_bind (fun _ => touch_closeMoveFailure _ _ _ _ _ _ _) (hlook _)) (hlook _)

/-- The handler of a capture looks at its token besides. -/
theorem records_captureFailure (m : CaptureMutation) (before : ResourceSnapshot) (captureToken : Option String) :
    RecordsFailure closedPhases batchId (fun e => do
      let sourceAfter ← snapshotOrNone C m.sourcePath
      let quarantineAfter ← snapshotOrNone C m.quarantinePath
      let ambiguous ← ambiguousCaptureRecovery C m before captureToken sourceAfter quarantineAfter e
      closeMoveFailure c batchId m.resourceKey C m.sourcePath before sourceAfter ambiguous
        "capture_directory_ambiguous_success" e) := by
  have hlook : ∀ path, TouchesOwn closedPhases batchId (snapshotOrNone C path) :=
    fun path => AllQuiet.touch (L := c.lease) (quiet_snapshotOrNone path)
  have htoken : ∀ sourceAfter quarantineAfter e, TouchesOwn closedPhases batchId
      (ambiguousCaptureRecovery C m before captureToken sourceAfter quarantineAfter e) :=
    fun _ _ _ => AllQuiet.touch (L := c.lease) (quiet_ambiguousCaptureRecovery _ _ _ _ _ _)
  refine fun e => ⟨?_, closes_after fun _ => closes_after fun _ => closes_after fun _ =>
    closes_closeMoveFailure _ _ _ _ _ _ _⟩
  refine eachStep_bind (fun _ => eachStep_bind (fun _ => ?_) (hlook _)) (hlook _)
  exact eachStep_bind (fun _ => touch_closeMoveFailure _ _ _ _ _ _ _) (htoken _ _ _)

/-! ## The last regions -/

theorem closes_recordRename (operationId : String) (m : RenameMutation) (record : RenameRecord) :
    Closes closedPhases batchId (recordRename C c batchId operationId m record) :=
  closes_after fun _ => closes_after fun _ => closes_after fun _ => closes_after fun _ =>
    closes_before (closes_markSucceededStep (by decide) _) fun _ => trivial

theorem closes_recordCapture (operationId : String) (m : CaptureMutation) (captured : CapturedDirectoryRecord) :
    Closes closedPhases batchId (recordCapture C c batchId operationId m captured) :=
  closes_after fun _ => closes_after fun _ => closes_after fun _ => closes_after fun _ => closes_after fun _ =>
    closes_before (closes_markSucceededStep (by decide) _) fun _ => trivial

end SafeFsOps
