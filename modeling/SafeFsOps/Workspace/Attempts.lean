import SafeFsOps.OperationJournal.MutationClosings
import SafeFsOps.Workspace.RollbackSteps

/-!
# What a mutation leaves of its batch

The exit of a transaction resolves a batch that it rolls back (`rollsBackPending`), and
has nothing to do about one that is succeeded, recovered, or planned still; any other is
passed by. While a mutation works on its batch, that batch is attempting, which is such a
phase, and all others of the instance stay as they were (`Attempts`):

> `leaves_mutationRegions`, `leaves_runBackupRegions`, `leaves_runRestoreRegions`,
> `leaves_runBundleRegions`: a method that starts where all batches of the instance are
> resolvable ends so, unless a bare region raises or a failure is not recorded.
-/

namespace SafeFsOps

open Program
open JournalWrite (OfStarted)

variable {φ ω α β γ : Type} {T : Transaction φ ω} {C : Coordinator φ ω} {c : Caller} {batchId : String}
  {P : List BatchPhase}

/-- What the exit of a transaction resolves: it rolls the batch back, or has nothing to do. -/
def Resolvable (b : BatchRow Payload) : Prop :=
  rollsBackPending b = true ∨ b.phase = .succeeded ∨ b.phase = .recoverySucceeded ∨ b.phase = .planned

/-- No batch of the instance is such that its exit would pass it by. -/
def AllResolvable (T : Transaction φ ω) (w : World φ) : Prop :=
  ∀ b ∈ w.journal.batches, belongsTo T b = true → Resolvable b

/-- Whose a batch is stands in columns that never change. -/
theorem belongsTo_created {b b' : BatchRow Payload} (h : b'.created = b.created) : belongsTo T b' = belongsTo T b := by
  have hcreated : ∀ b : BatchRow Payload, belongsTo T b = belongsTo T b.created := fun _ => rfl
  rw [hcreated, h, ← hcreated]

/-- Whether a batch is resolvable stands in its payload, which never changes, and in its phase. -/
theorem resolvable_created {b b' : BatchRow Payload} (h : b'.created = b.created) (hphase : b'.phase = b.phase)
    (hb : Resolvable b) : Resolvable b' := by
  have hpayload : b'.payload = b.payload := BatchRow.column_eq (f := BatchRow.payload) (fun _ => rfl) h
  unfold Resolvable rollsBackPending isReadOnlyBatch batchOperation at *
  rw [hpayload, hphase]
  exact hb

/-- The batches, each under its id, are all resolvable. -/
structure Resolved (T : Transaction φ ω) (w : World φ) : Prop where
  distinct : DistinctBatches w.journal
  all : AllResolvable T w

/-- Whatever is not this batch is resolvable, and so is this one in any of these phases. -/
structure Attempts (T : Transaction φ ω) (P : List BatchPhase) (batchId : String) (w : World φ) : Prop where
  distinct : DistinctBatches w.journal
  others : ∀ b ∈ w.journal.batches, belongsTo T b = true → b.batchId ≠ batchId → Resolvable b
  marks : ∀ b, w.journal.batchRow batchId = some b → ∀ p ∈ P, Resolvable { b with phase := p }

section Worlds

variable {w w' : World φ}

theorem Attempts.touch {P' : List BatchPhase} (h : Attempts T P batchId w)
    (ht : Touches (fun id => id = batchId) P' w w') : Attempts T P batchId w' := by
  have hdistinct := ht.journal.distinct h.distinct
  refine ⟨hdistinct, fun b hb hown hne => ?_, fun b hb p hp => ?_⟩
  · have hrow := hdistinct.row_of_mem hb
    rw [ht.journal.other _ hne] at hrow
    exact h.others b (findRow_mem hrow) hown hne
  · obtain ⟨r, hr, hcreated, -⟩ := ht.journal.source hb
    have hsame : ({ b with phase := p } : BatchRow Payload).created = ({ r with phase := p } : BatchRow Payload).created :=
      hcreated
    exact resolvable_created hsame rfl (h.marks r hr p hp)

/-- The batch is closed, so all are resolvable. -/
theorem Attempts.resolved (h : Attempts T P batchId w) (hclosed : Closed P batchId w) : Resolved T w := by
  refine ⟨h.distinct, fun b hb hown => ?_⟩
  by_cases hid : b.batchId = batchId
  · obtain ⟨row, hrow, hp⟩ := hclosed
    have hb' := h.distinct.row_of_mem hb
    rw [hid, hrow] at hb'
    cases hb'
    exact h.marks b hrow b.phase hp
  · exact h.others b hb hown hid

theorem Resolved.attempts (h : Resolved T w)
    (hmarks : ∀ b, w.journal.batchRow batchId = some b → ∀ p ∈ P, Resolvable { b with phase := p }) :
    Attempts T P batchId w := ⟨h.distinct, fun b hb hown _ => h.all b hb hown, hmarks⟩

/-- A batch that is not attempting may be marked. -/
theorem Resolved.touch (h : Resolved T w) (ha : Attempts T P batchId w)
    (ht : Touches (fun id => id = batchId) P w w') : Resolved T w' := by
  have hdistinct := ht.journal.distinct h.distinct
  refine ⟨hdistinct, fun b hb hown => ?_⟩
  have hrow := hdistinct.row_of_mem hb
  obtain ⟨r, hr, hcreated, hphase⟩ := ht.journal.source hrow
  have hr' : Resolvable r := h.all r (findRow_mem hr) ((belongsTo_created hcreated).symm.trans hown)
  rcases hphase with hphase | hp
  · exact resolvable_created hcreated hphase hr'
  · by_cases hid : b.batchId = batchId
    · rw [hid] at hrow
      exact (ha.touch ht).marks b hrow b.phase hp
    · rw [ht.journal.other _ hid, hr] at hrow
      cases hrow
      exact hr'

/-- What moves no batch. -/
theorem Resolved.still (h : Resolved T w) (hm : Moves (fun _ => True) [] w.journal w'.journal) : Resolved T w' := by
  have hdistinct := hm.distinct h.distinct
  refine ⟨hdistinct, fun b hb hown => ?_⟩
  obtain ⟨r, hr, hcreated, hphase | hp⟩ := hm.source (hdistinct.row_of_mem hb)
  · exact resolvable_created hcreated hphase (h.all r (findRow_mem hr) ((belongsTo_created hcreated).symm.trans hown))
  · cases hp

end Worlds

/-! ## The regions of a started batch -/

section Regions

variable {w : World φ} {K : Except OperationError α → World φ → Prop}

theorem leaves_free {p : Op φ ω β} {next : β → OpRegions φ ω α} (hp : AllMove (fun _ => True) [] p)
    (hnext : ∀ b w', Resolved T w' → (next b).Leaves (fun _ => Resolved T) w') (hw : Resolved T w) :
    (Regions.free p next).Leaves (fun _ => Resolved T) w := by
  refine along_mono (fun _ _ _ => trivial) (fun r w' hw' => ?_)
    (along_eachStep (R := fun _ _ => True) (I := Resolved T) (fun _ _ hs hI => ⟨trivial, hI.still hs.journal⟩) hp hw)
  cases r with
  | ok b => exact hnext b w' hw'
  | error e => exact hw'

/-- A region of the attempt: the batch stays open, unless it is what the region closes. -/
theorem finishes_attempt {p : Op φ ω β} (hp : TouchesOwn P batchId p) (hw : Attempts T P batchId w) :
    Finishes (fun r w' => Attempts T P batchId w' ∧ (Closes P batchId p → ∀ b, r = .ok b → Closed P batchId w')) p w := by
  have htouch : Finishes (fun _ w' => Attempts T P batchId w') p w :=
    along_mono (fun _ _ _ => trivial) (fun _ _ ht => hw.touch ht) (along_touch hp w)
  by_cases hcloses : Closes P batchId p
  · exact along_mono (fun _ _ _ => trivial) (fun _ _ h => ⟨h.1, fun _ => h.2⟩) (along_and htouch (hcloses w))
  · exact along_mono (fun _ _ _ => trivial) (fun _ _ h => ⟨h, fun hc => (hcloses hc).elim⟩) htouch

theorem leaves_bare {p : Op φ ω β} {next : β → OpRegions φ ω α} (hp : TouchesOwn P batchId p)
    (hnext : ∀ b w', Attempts T P batchId w' → (Closes P batchId p → Closed P batchId w') → (next b).Leaves K w')
    (hw : Attempts T P batchId w) : (Regions.bare p next).Leaves K w := by
  refine along_mono (fun _ _ _ => trivial) (fun r w' h => ?_) (finishes_attempt hp hw)
  cases r with
  | ok b => exact hnext b w' h.1 fun hc => h.2 hc b rfl
  | error e => trivial

theorem leaves_guarded {p : Op φ ω β} {record : OperationError → Op φ ω γ} {rest : OperationError → γ → Op φ ω Unit}
    {raised : OperationError → OperationError} {next : β → OpRegions φ ω α} (hp : TouchesOwn P batchId p)
    (hrecord : RecordsFailure P batchId record)
    (hrest : ∀ e g, TouchesOwn P batchId (rest e g))
    (hnext : ∀ b w', Attempts T P batchId w' → (Closes P batchId p → Closed P batchId w') →
      (next b).Leaves (fun _ => Resolved T) w')
    (hw : Attempts T P batchId w) : (Regions.guarded p record rest raised next).Leaves (fun _ => Resolved T) w := by
  refine along_mono (fun _ _ _ => trivial) (fun r w' h => ?_) (finishes_attempt hp hw)
  cases r with
  | ok b => exact hnext b w' h.1 fun hc => h.2 hc b rfl
  | error e =>
    refine along_mono (fun _ _ _ => trivial) (fun r w₁ h₁ => ?_) (finishes_attempt (hrecord e).1 h.1)
    cases r with
    | error e' => trivial
    | ok g =>
      have hclosed := h₁.2 (hrecord e).2 g rfl
      refine along_mono (fun _ _ _ => trivial) (fun r w₂ ht => ?_) (along_touch (hrest e g) w₁)
      have hw₂ : Resolved T w₂ := (h₁.1.touch ht).resolved (hclosed.touch ht)
      cases r <;> exact hw₂

/-- A region with the handler of most. -/
theorem leaves_recorded {p : Op φ ω β} {record : OperationError → Op φ ω Unsettled} {resourceKey : String}
    {raised : OperationError → OperationError} {next : β → OpRegions φ ω α} (hp : TouchesOwn closedPhases batchId p)
    (hrecord : RecordsFailure closedPhases batchId record)
    (hnext : ∀ b w', Attempts T closedPhases batchId w' → (Closes closedPhases batchId p → Closed closedPhases batchId w') →
      (next b).Leaves (fun _ => Resolved T) w')
    (hw : Attempts T closedPhases batchId w) :
    (Regions.guarded p record (fun _ => settleFailure c batchId resourceKey) raised next).Leaves
      (fun _ => Resolved T) w :=
  leaves_guarded hp hrecord (fun _ => touch_settleFailure _) hnext hw

theorem leaves_finishRegions {operationId : String} {path : Path} {resourceKey : String} {before : ResourceSnapshot}
    {recovery : RecoveryDetails} {result : ResourceSnapshot → Payload} (hw : Attempts T closedPhases batchId w) :
    (finishRegions C c batchId operationId path resourceKey before recovery result).Leaves (fun _ => Resolved T) w := by
  refine leaves_recorded (touch_fsRead _) (records_closePostMutationFailure _ _ _ _ _ _) (fun after w₁ h₁ _ => ?_) hw
  refine leaves_recorded (touch_recordCheckpointStep _ _ _ _) (records_closePostMutationFailure _ _ _ _ _ _)
    (fun _ w₂ h₂ _ => ?_) h₁
  refine leaves_recorded (touch_markSucceededStep (by decide) _) (records_closePostMutationFailure _ _ _ _ _ _)
    (fun _ w₃ h₃ hc => ?_) h₂
  exact h₃.resolved (hc (closes_markSucceededStep (by decide) _))

theorem leaves_fileRegions {operationId : String} {m : FileMutation φ ω} (hw : Attempts T closedPhases batchId w) :
    (fileRegions C c batchId operationId m).Leaves (fun _ => Resolved T) w := by
  refine leaves_recorded (touch_fsRead _) (records_closeBeforeSnapshotFailure _ _ _) (fun before w₁ h₁ _ => ?_) hw
  refine leaves_recorded (touch_maintain (quiet_prepareMutationCheckpoints OfStarted.on _ _ _).touch)
    (records_closeMutationFailure _ _ _ _ _) (fun recovery w₂ h₂ _ => ?_) h₁
  refine leaves_recorded (touch_requireAuthority _) (records_closeMutationFailure _ _ _ _ _) (fun _ w₃ h₃ _ => ?_) h₂
  refine leaves_recorded (touch_maintain (touch_invoke _)) (records_closeMutationFailure _ _ _ _ _)
    (fun _ w₄ h₄ _ => ?_) h₃
  exact leaves_finishRegions h₄

/-- The look at both paths and the two checkpoints of it are bare. -/
theorem leaves_renameRegions {operationId : String} {m : RenameMutation} (hw : Attempts T closedPhases batchId w) :
    (renameRegions C c batchId operationId m).Leaves (fun _ => Resolved T) w := by
  refine leaves_bare (touch_fsRead _) (fun before w₁ h₁ _ => ?_) hw
  refine leaves_bare (touch_recordCheckpointStep _ _ _ _) (fun _ w₂ h₂ _ => ?_) h₁
  refine leaves_bare (touch_fsRead _) (fun destination w₃ h₃ _ => ?_) h₂
  refine leaves_bare (touch_recordCheckpointStep _ _ _ _) (fun _ w₄ h₄ _ => ?_) h₃
  refine leaves_recorded (touch_authorizedMove _ _ (touch_invoke _)) (records_renameFailure _ _)
    (fun record w₅ h₅ _ => ?_) h₄
  refine leaves_recorded (quiet_recordRename OfStarted.on _ _ _).touch (records_closePostMutationFailure _ _ _ _ _ _)
    (fun _ w₆ h₆ hc => ?_) h₅
  exact h₆.resolved (hc (closes_recordRename _ _ _))

/-- So are the look at the source, its token, and the checkpoint of them. -/
theorem leaves_captureRegions {operationId : String} {m : CaptureMutation} (hw : Attempts T closedPhases batchId w) :
    (captureRegions C c batchId operationId m).Leaves (fun _ => Resolved T) w := by
  have htoken : ∀ before, TouchesOwn closedPhases batchId (snapshotDirectoryCaptureToken C m.sourcePath before true) :=
    fun before => AllQuiet.touch (L := c.lease) (quiet_snapshotDirectoryCaptureToken _ _ _)
  refine leaves_bare (touch_fsRead _) (fun before w₁ h₁ _ => ?_) hw
  refine leaves_bare (htoken before) (fun token w₂ h₂ _ => ?_) h₁
  refine leaves_bare (touch_recordCheckpointStep _ _ _ _) (fun _ w₃ h₃ _ => ?_) h₂
  refine leaves_recorded (touch_authorizedMove _ _ (touch_invoke _)) (records_captureFailure _ _ _)
    (fun captured w₄ h₄ _ => ?_) h₃
  refine leaves_recorded (quiet_recordCapture OfStarted.on _ _ _).touch (records_closePostMutationFailure _ _ _ _ _ _)
    (fun _ w₅ h₅ hc => ?_) h₄
  exact h₅.resolved (hc (closes_recordCapture _ _ _))

/-- Of a backup the mark at the end is bare. -/
theorem leaves_treeBackupRegions {operationId : String} {m : TreeBackupMutation}
    (hw : Attempts T closedPhases batchId w) :
    (treeBackupRegions C c batchId operationId m).Leaves (fun _ => Resolved T) w := by
  refine leaves_bare (quiet_capturedTreeBackup OfStarted.on _ _).touch (fun (k, result) w₁ h₁ _ => ?_) hw
  refine leaves_guarded (eachStep_ofExcept _) (records_recordTreeBackupFailure _ _ _) (fun _ _ => trivial)
    (fun backup w₂ h₂ _ => ?_) h₁
  refine leaves_bare (touch_markSucceededStep (by decide) _) (fun _ w₃ h₃ hc => ?_) h₂
  exact h₃.resolved (hc (closes_markSucceededStep (by decide) _))

theorem leaves_treeRestoreRegions {operationId : String} {m : TreeRestoreMutation}
    (hw : Attempts T closedPhases batchId w) :
    (treeRestoreRegions C c batchId operationId m).Leaves (fun _ => Resolved T) w := by
  refine leaves_recorded (touch_fsRead _) (records_closeBeforeSnapshotFailure _ _ _) (fun before w₁ h₁ _ => ?_) hw
  refine leaves_bare (touch_recordCheckpointStep _ _ _ _) (fun _ w₂ h₂ _ => ?_) h₁
  refine leaves_recorded (touch_maintain (touch_invoke _)) (records_closeMutationFailure _ _ _ _ _)
    (fun _ w₃ h₃ _ => ?_) h₂
  exact leaves_finishRegions h₃

end Regions

/-! ## Opening a batch -/

/-- A batch that was created, or that was there under its key: it is of the request. -/
theorem createBatch_row {π : Type} [JournalPayload π] [DecidableEq π] {db db' : JournalDb π} {req : BatchRequest π}
    {given : Option String} {ctx : WriteContext} {row : BatchRow π} (h : createBatch db req given ctx = .ok (row, db')) :
    (row.owner = req.owner ∧ row.runId = req.runId ∧ row.operationRunId = req.operationRunId ∧
      row.operationPhaseId = req.operationPhaseId ∧ row.payload = payloadToJson req.payload) ∧
    (db' = db ∧ row ∈ db.batches ∨
      db' = { db with batches := db.batches ++ [row] } ∧ row.phase = .planned ∧ db.batchRow row.batchId = none) := by
  simp only [createBatch, bind_eq_ok] at h
  obtain ⟨_, -, _, -, _, -, _, -, h⟩ := h
  split at h
  · next existing hexisting =>
    simp only [requireMatchingIdempotentBatch, bind_eq_ok, require_eq_ok, pure_eq_ok, Prod.mk.injEq] at h
    obtain ⟨_, ⟨_, -, hsame⟩, rfl, rfl⟩ := h
    simp only [idempotencyMismatches, List.append_eq_nil_iff, ite_eq_left_iff, List.cons_ne_nil, imp_false, not_not]
      at hsame
    obtain ⟨⟨⟨⟨⟨⟨⟨howner, hrun⟩, hoperationRun⟩, hphase⟩, -⟩, -⟩, -⟩, hpayload⟩ := hsame
    exact ⟨⟨howner, hrun, hoperationRun, hphase, hpayload⟩, Or.inl ⟨rfl, findRow_mem hexisting⟩⟩
  · simp only [bind_eq_ok, require_eq_ok, pure_eq_ok, Prod.mk.injEq] at h
    obtain ⟨_, -, _, hfree, rfl, rfl⟩ := h
    exact ⟨⟨rfl, rfl, rfl, rfl, rfl⟩, Or.inr ⟨rfl, rfl, Option.isNone_iff_eq_none.1 hfree⟩⟩

/-- A batch that is no bundle can be rolled back however it was marked, unless it is succeeded. -/
theorem resolvable_mark {b : BatchRow Payload} {intent : Intent} (hI : intent.operation ≠ .snapshotBundle)
    (hb : b.payload = .intent intent) : ∀ p ∈ closedPhases, Resolvable { b with phase := p } := by
  have hop : batchOperation b = some intent.operation := by rw [batchOperation, hb]; rfl
  intro p hp
  have hread : p ≠ .succeeded → isReadOnlyBatch { b with phase := p } = false := by
    intro hne
    unfold isReadOnlyBatch
    rw [show batchOperation { b with phase := p } = some intent.operation from hop]
    split
    · next heq => exact absurd (Option.some.inj heq) hI
    · exact decide_eq_false hne
    · rfl
  simp only [closedPhases, List.mem_cons, List.not_mem_nil, or_false] at hp
  rcases hp with rfl | rfl | rfl
  · exact Or.inr (Or.inl rfl)
  · exact Or.inl (by rw [rollsBackPending, hread (by decide)]; rfl)
  · exact Or.inl (by rw [rollsBackPending, hread (by decide)]; rfl)

section Opening

variable {w : World φ} {intent : Intent} {operationType : OperationType} {resourceKey what : String}

theorem finishes_createBatchStep (hw : Resolved T w) : Finishes (fun r w' => Resolved T w' ∧ ∀ row, r = .ok row →
      w'.journal.batchRow row.batchId = some row ∧ row.payload = .intent intent)
    (createBatchStep c resourceKey intent : Op φ ω (BatchRow Payload)) w := by
  refine along_journalWrite trivial (fun _ _ _ _ => ⟨hw, fun _ h => by cases h⟩)
    (fun _ _ _ _ _ => ⟨hw, fun _ h => by cases h⟩) fun i row db _ _ hcreate => ⟨trivial, ?_⟩
  obtain ⟨⟨-, -, -, -, hpayload⟩, ⟨rfl, hmem⟩ | ⟨rfl, hplanned, hnone⟩⟩ := createBatch_row hcreate
  · refine ⟨hw, fun row' h => ?_⟩
    cases h
    exact ⟨hw.distinct.row_of_mem hmem, hpayload⟩
  · have hdistinct : DistinctBatches { w.journal with batches := w.journal.batches ++ [row] } :=
      nodup_append_one hw.distinct hnone
    refine ⟨⟨hdistinct, fun b hb hown => ?_⟩, fun row' h => ?_⟩
    · rcases List.mem_append.1 hb with hb | hb
      · exact hw.all b hb hown
      · rw [List.mem_singleton.1 hb]
        exact Or.inr (Or.inr (Or.inr hplanned))
    · cases h
      exact ⟨hdistinct.row_of_mem (List.mem_append_right _ (List.mem_singleton.2 rfl)), hpayload⟩

/-- A start touches the batch that it answers with, or nothing. -/
def StartedFrom (batchId : String) (w : World φ) (r : Except OperationError (BatchRow Payload × OperationRow Payload))
    (w' : World φ) : Prop :=
  match r with
  | .ok (b, _) => b.batchId = batchId ∧ Touches (fun id => id = batchId) [.attempting] w w'
  | .error _ => w' = w

theorem startedFrom_of_start {op : String} {key id : Option String} {payload status : Option Payload}
    {ctx : WriteContext} {b : BatchRow Payload} {r : OperationRow Payload} {db : JournalDb Payload}
    {history : List MutationEvent}
    (h : startBatchOperation w.journal batchId op key payload id status ctx = .ok (b, r, db)) :
    StartedFrom batchId w (.ok (b, r)) { w with journal := db, history := history } := by
  obtain ⟨-, hadvances, -, hrow, -⟩ := startBatchOperation_advances h
  have hrun : (JournalWrite.startBatchOperation batchId op key payload id status).run w.journal ctx = .ok db := by
    show (startBatchOperation ..).map _ = _
    rw [h]
    rfl
  exact ⟨findRow_key hrow, rfl, rfl, rfl, hadvances.moves rfl fun _ hp => hp, run_operationsKept hrun⟩

theorem finishes_startBatchOperationStep : Finishes (StartedFrom batchId w)
    (startBatchOperationStep c batchId operationType resourceKey intent :
      Op φ ω (BatchRow Payload × OperationRow Payload)) w := by
  refine along_transaction trivial (fun _ _ _ _ => rfl) (fun _ _ _ _ _ => rfl) fun i a w' _ _ hact => ⟨trivial, ?_⟩
  split at hact
  · next b r db hstart =>
    cases hact
    exact startedFrom_of_start hstart
  · cases hact

theorem finishes_startBundleOperationStep : Finishes (StartedFrom batchId w)
    (startBundleOperationStep c batchId resourceKey : Op φ ω (BatchRow Payload × OperationRow Payload)) w := by
  refine along_journalWrite trivial (fun _ _ _ _ => rfl) (fun _ _ _ _ _ => rfl) fun i a db _ _ h => ⟨trivial, ?_⟩
  obtain ⟨⟨b, r, db'⟩, hstart, heq⟩ := map_eq_ok.1 h
  cases heq
  exact startedFrom_of_start hstart

theorem touch_recordInterruptedIfTakenOver {batch : BatchRow Payload} (hid : batch.batchId = batchId)
    (reason : String) : TouchesOwn closedPhases batchId
      (recordInterruptedIfTakenOver c batch resourceKey reason : Op φ ω Unit) := by
  subst hid
  exact AllQuiet.touch (L := c.lease) (quiet_recordInterruptedIfTakenOver
    (fun _ _ => ⟨⟨_, rfl, rfl⟩, by simp [JournalWrite.phases, closedPhases]⟩) _ _)

/-- A takeover that is noted, before a raise. -/
theorem finishes_interrupted {batch : BatchRow Payload} (hid : batch.batchId = batchId) (hw : Resolved T w)
    (ha : Attempts T closedPhases batchId w) (reason : String) (e : OperationError) :
    Finishes (fun r w' => (∀ a, r ≠ .ok a) ∧ Resolved T w')
      (recordInterruptedIfTakenOver c batch resourceKey reason >>= fun _ => (.raise e : Op φ ω α)) w := by
  have hresolved : Finishes (fun _ w' => Resolved T w')
      (recordInterruptedIfTakenOver c batch resourceKey reason : Op φ ω Unit) w :=
    along_mono (fun _ _ _ => trivial) (fun _ _ ht => hw.touch ha ht)
      (along_touch (touch_recordInterruptedIfTakenOver hid reason) w)
  exact along_seq hresolved (fun _ _ h => ⟨fun _ => nofun, h⟩) fun _ _ h => ⟨fun _ => nofun, h⟩

theorem finishes_startConflict {batch : BatchRow Payload} (hw : Resolved T w)
    (ha : Attempts T closedPhases batch.batchId w) (e : OperationError) :
    Finishes (fun r w' => (∀ a, r ≠ .ok a) ∧ Resolved T w')
      (startConflict c batch resourceKey what e : Op φ ω (BatchRow Payload × OperationRow Payload)) w := by
  unfold startConflict
  split
  · refine finds_seq (finds_databaseRead trivial fun _ => rfl) ?_ fun e => ⟨fun _ => nofun, hw⟩
    refine finishes_interrupted ?_ hw ha _ _
    cases hrow : w.journal.batchRow batch.batchId with
    | none => rfl
    | some row => exact findRow_key hrow
  · exact ⟨fun _ => nofun, hw⟩

/-- A batch that was opened is attempted; where none was, all is as resolvable as it was. -/
theorem finishes_openBatch (hI : intent.operation ≠ .snapshotBundle) (hw : Resolved T w) :
    Finishes (fun r w' =>
      match r with
      | .ok (some (b, _)) => Attempts T closedPhases b.batchId w'
      | _ => Resolved T w')
      (openBatch c intent operationType resourceKey what :
        Op φ ω (Option (BatchRow Payload × OperationRow Payload))) w := by
  refine along_seq (finishes_createBatchStep hw) (fun batch w₁ h => ?_) fun e w₁ h => h.1
  obtain ⟨hbatch, hpayload⟩ := h.2 batch rfl
  have ha : Attempts T closedPhases batch.batchId w₁ := h.1.attempts fun b hb => by
    rw [hbatch] at hb
    cases hb
    exact resolvable_mark hI hpayload
  split
  · exact h.1
  · split
    · refine along_mono (fun _ _ _ => trivial) (fun r w₂ h₂ => ?_) (finishes_interrupted rfl h.1 ha _ _)
      cases r with
      | ok a => exact absurd rfl (h₂.1 a)
      | error e => exact h₂.2
    · refine along_seq (Q := fun r w' =>
        match r with
        | .ok (b, _) => Attempts T closedPhases b.batchId w'
        | .error _ => Resolved T w') (along_onRaise ?_) (fun started w₂ h₂ => h₂) fun e w₂ h₂ => h₂
      refine along_mono (fun _ _ _ => trivial) (fun r w₂ h₂ => ?_) finishes_startBatchOperationStep
      rcases r with e | ⟨b, r⟩
      · rw [show w₂ = w₁ from h₂]
        refine along_mono (fun _ _ _ => trivial) (fun r w₃ h₃ => ?_) (finishes_startConflict h.1 ha e)
        cases r with
        | ok a => exact absurd rfl (h₃.1 a)
        | error e => exact h₃.2
      · obtain ⟨hid, ht⟩ := h₂
        have hb : Attempts T closedPhases b.batchId w₂ := hid ▸ ha.touch ht
        exact hb

theorem leaves_openedRegions {started : String → String → OpRegions φ ω Unit}
    (hI : intent.operation ≠ .snapshotBundle)
    (hstarted : ∀ batchId operationId w', Attempts T closedPhases batchId w' →
      (started batchId operationId).Leaves (fun _ => Resolved T) w') (hw : Resolved T w) :
    (openedRegions c intent operationType resourceKey what started).Leaves (fun _ => Resolved T) w := by
  refine along_mono (fun _ _ _ => trivial) (fun r w' h => ?_) (finishes_openBatch hI hw)
  rcases r with e | _ | ⟨b, operation⟩
  · exact h
  · exact h
  · exact hstarted _ _ _ h

end Opening

/-! ## The methods -/

section Methods

variable {w : World φ}

theorem move_requireAuthority {S : String → Prop} (resourceKey : String) :
    AllMove S P (requireAuthority c resourceKey : Op φ ω Unit) :=
  eachStep_mono (fun _ _ h => h ▸ .refl) (read_requireAuthority c resourceKey)

theorem leaves_runFileRegions {m : FileMutation φ ω} (hm : m.intent.operation ≠ .snapshotBundle) (hw : Resolved T w) :
    (runFileRegions C c m).Leaves (fun _ => Resolved T) w := by
  have hpreflight : AllMove (fun _ => True) [] (preflight C m.preflightOperation : Op φ ω Unit) := by
    cases m.preflightOperation with
    | some operation => exact eachStep_ofExcept _
    | none => exact move_ret ()
  refine leaves_free hpreflight (fun _ w₁ h₁ => ?_) hw
  refine leaves_free (move_requireAuthority _) (fun _ w₂ h₂ => ?_) h₁
  exact leaves_openedRegions hm (fun _ _ _ ha => leaves_fileRegions ha) h₂

theorem leaves_runRenameRegions {m : RenameMutation} (hw : Resolved T w) :
    (runRenameRegions C c m).Leaves (fun _ => Resolved T) w := by
  refine leaves_free (move_requireAuthority _) (fun _ w₁ h₁ => ?_) hw
  refine leaves_free (move_requireAuthority _) (fun _ w₂ h₂ => ?_) h₁
  exact leaves_openedRegions (fun h => by cases h) (fun _ _ _ ha => leaves_renameRegions ha) h₂

theorem leaves_runCaptureRegions {m : CaptureMutation} (hw : Resolved T w) :
    (runCaptureRegions C c m).Leaves (fun _ => Resolved T) w := by
  refine leaves_free (move_requireAuthority _) (fun _ w₁ h₁ => ?_) hw
  refine leaves_free (move_requireAuthority _) (fun _ w₂ h₂ => ?_) h₁
  exact leaves_openedRegions (fun h => by cases h) (fun _ _ _ ha => leaves_captureRegions ha) h₂

/-- A check that refuses. -/
theorem leaves_refused {e : OperationError} (hw : Resolved T w) :
    (Regions.free (.raise e) .ret : OpRegions φ ω Unit).Leaves (fun _ => Resolved T) w := hw

/-- **What a mutation leaves**, whatever the request. -/
theorem leaves_mutationRegions (r : MutationRequest) (hw : Resolved T w) :
    (mutationRegions C c r).Leaves (fun _ => Resolved T) w := by
  cases r with
  | writeTextFile path content key newline =>
    exact leaves_free (eachStep_ofExcept _) (fun _ _ h => leaves_runFileRegions (fun hm => by cases hm) h) hw
  | writeBytesFile path content key permissions maxBytes allowLarge =>
    refine leaves_free (eachStep_ofExcept _) (fun _ w₁ h₁ => ?_) hw
    split
    · exact leaves_refused h₁
    · exact leaves_runFileRegions (fun hm => by cases hm) h₁
  | deleteFile path key missingOk =>
    exact leaves_free (eachStep_ofExcept _) (fun _ _ h => leaves_runFileRegions (fun hm => by cases hm) h) hw
  | makeDirectory path key parents existOk recursive =>
    refine leaves_free (eachStep_ofExcept _) (fun _ w₁ h₁ => ?_) hw
    split
    · exact leaves_refused h₁
    · exact leaves_runFileRegions (fun hm => by cases hm) h₁
  | recordDirectoryNoop path key =>
    exact leaves_free (eachStep_ofExcept _) (fun _ _ h => leaves_runFileRegions (fun hm => by cases hm) h) hw
  | renameNoReplace source destination key destinationKey =>
    refine leaves_free (eachStep_ofExcept _) (fun _ w₁ h₁ => leaves_free (eachStep_ofExcept _) (fun _ w₂ h₂ => ?_) h₁) hw
    refine leaves_free (move_requireAuthority _) (fun _ w₃ h₃ => ?_) h₂
    exact leaves_free (move_requireAuthority _) (fun _ w₄ h₄ => leaves_runRenameRegions h₄) h₃
  | captureDirectory source quarantine key destinationKey =>
    refine leaves_free (eachStep_ofExcept _) (fun _ w₁ h₁ => ?_) hw
    cases destinationKey with
    | none => exact leaves_refused h₁
    | some destinationKey =>
      refine leaves_free (eachStep_ofExcept _) (fun _ w₂ h₂ => ?_) h₁
      exact leaves_free (move_requireAuthority _) (fun _ w₃ h₃ => leaves_runCaptureRegions h₃) h₂

theorem leaves_runBackupRegions (path : Path) (relativePaths : List Path) (resourceKey : String)
    (storePath : Option Path) (hw : Resolved T w) :
    (runBackupRegions C c path relativePaths resourceKey storePath).Leaves (fun _ => Resolved T) w := by
  refine leaves_free (eachStep_ofExcept _) (fun _ w₁ h₁ => ?_) hw
  refine leaves_free (move_requireAuthority _) (fun _ w₂ h₂ => ?_) h₁
  exact leaves_openedRegions (fun h => by cases h) (fun _ _ _ ha => leaves_treeBackupRegions ha) h₂

theorem leaves_runRestoreRegions (backup : TreeBackup) (destinationRoot : Path) (resourceKey : String)
    (storePath : Option Path) (conflictPolicy : ConflictPolicy) (hw : Resolved T w) :
    (runRestoreRegions C c backup destinationRoot resourceKey storePath conflictPolicy).Leaves
      (fun _ => Resolved T) w := by
  refine leaves_free (eachStep_ofExcept _) (fun _ w₁ h₁ => ?_) hw
  refine leaves_free (move_requireAuthority _) (fun _ w₂ h₂ => ?_) h₁
  cases storePath with
  | none => exact leaves_refused h₂
  | some storePath =>
    exact leaves_openedRegions (fun h => by cases h) (fun _ _ _ ha => leaves_treeRestoreRegions ha) h₂

/-- A bundle is succeeded, or still planned, where nothing raises after its start. -/
theorem leaves_runBundleRegions (bundle : SnapshotBundle) (resourceKey : String) (hw : Resolved T w) :
    (runBundleRegions c bundle resourceKey : OpRegions φ ω Unit).Leaves (fun _ => Resolved T) w := by
  refine leaves_free (move_requireAuthority _) (fun _ w₁ h₁ => ?_) hw
  refine along_mono (fun _ _ _ => trivial) (fun r w₂ h₂ => ?_) (finishes_createBatchStep h₁)
  cases r with
  | error e => exact h₂.1
  | ok batch =>
    have hmarks : ∀ b : BatchRow Payload, w₂.journal.batchRow batch.batchId = some b →
        ∀ p ∈ [BatchPhase.succeeded], Resolvable { b with phase := p } :=
      fun b _ p hp => Or.inr (Or.inl (List.mem_singleton.1 hp))
    show Regions.Leaves (if batch.phase = .succeeded then _ else _) _ _
    split
    · exact h₂.1
    · split
      · exact leaves_refused h₂.1
      · refine along_mono (fun _ _ _ => trivial) (fun r w₃ h₃ => ?_) finishes_startBundleOperationStep
        rcases r with e | ⟨b, operation⟩
        · rw [show w₃ = w₂ from h₃]
          exact h₂.1
        · obtain ⟨hid, ht⟩ := h₃
          have ha : Attempts T [.succeeded] b.batchId w₃ := hid ▸ (h₂.1.attempts hmarks).touch ht
          refine leaves_bare (touch_recordCheckpointStep _ _ _ _) (fun _ w₄ h₄ _ => ?_) ha
          refine leaves_bare (touch_markSucceededStep (by decide) _) (fun _ w₅ h₅ hc => ?_) h₄
          exact h₅.resolved (hc (closes_markSucceededStep (by decide) _))

end Methods

end SafeFsOps
