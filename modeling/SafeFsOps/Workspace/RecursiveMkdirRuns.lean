import SafeFsOps.Workspace.Attempts
import SafeFsOps.Workspace.RecursiveMkdirRollback
import SafeFsOps.Workspace.TransactionSteps

/-!
# Running a recursive mkdir

`StepFailed` is what the undoing of a failed step starts from. Here it comes out of the loop
itself: the steps that were answered are journaled for the caller of the loop, and the records of
a batch tell of no step but the one it intends (`StepsTold`).

> `finishes_makeDirectoryResult`: a step that is made is journaled (`StepJournaled`).
> `executeSteps_failed`: a run of the loop that raises leaves `StepFailed`, whatever it meets.
-/

namespace SafeFsOps

open Program
open JournalWrite (OfMutation OfStarted)

variable {φ ω α : Type}

/-! ## What is told of steps -/

/-- The step of a recursive mkdir that an intent is of. -/
def Payload.intendedStep? : Payload → Option RecursiveMkdirStepMetadata
  | .intent (.makeDirectory _ _ _ _ recursive) => recursive
  | _ => none

/-- The step that a batch intends. -/
def JournalDb.intendedStep? (db : JournalDb Payload) (b : String) : Option RecursiveMkdirStepMetadata :=
  (db.batchRow b).bind fun row => row.payload.intendedStep?

/-- Details that tell of the intended step, or of none. -/
def ofStep (intended : Option RecursiveMkdirStepMetadata) : Testimony where
  checkpoint _ _ := True
  failure _ := True
  details d := ∀ m, d.recursive = some m → intended = some m

/-- Batches have ids of their own, records are numbered, and those of a batch tell of no step but its own. -/
structure StepsTold (db : JournalDb Payload) : Prop where
  distinct : DistinctBatches db
  numbered : Numbered db
  told : ∀ b, (ofStep (db.intendedStep? b)).Upheld b db

theorem stepsTold_init : StepsTold (JournalDb.init Payload) where
  distinct := List.nodup_nil
  numbered := numbered_init
  told _ := ⟨fun _ hc => absurd hc List.not_mem_nil, fun _ hr => absurd hr List.not_mem_nil,
    fun _ hrow => absurd (findRow_mem hrow) List.not_mem_nil⟩

/-- Nothing is lost, and no more is told of a step. -/
structure Prolongs (db db' : JournalDb Payload) : Prop where
  grows : Grows db db'
  appends : Appends db db'
  told : StepsTold db → StepsTold db'

section Journal

variable {db db' db₁ db₂ : JournalDb Payload} {b : String} {m : RecursiveMkdirStepMetadata} {ctx : WriteContext}

protected theorem Prolongs.refl : Prolongs db db := ⟨Grows.refl, .of_rows_eq fun _ => rfl, id⟩

protected theorem Prolongs.trans (h₁ : Prolongs db db₁) (h₂ : Prolongs db₁ db₂) : Prolongs db db₂ :=
  ⟨h₁.grows.trans h₂.grows, h₁.appends.trans h₂.appends, fun h => h₂.told (h₁.told h)⟩

/-- What a batch intends is settled when it is made. -/
theorem Grows.intendedStep? (h : Grows db db') (hb : db.intendedStep? b = some m) : db'.intendedStep? b = some m := by
  obtain ⟨row, hrow, hm⟩ := Option.bind_eq_some_iff.1 hb
  obtain ⟨row', hrow', hc, -⟩ := h.row b row hrow
  have hpayload : row'.payload = row.payload := BatchRow.column_eq (f := BatchRow.payload) (fun _ => rfl) hc
  rw [JournalDb.intendedStep?, hrow', Option.bind_some, hpayload]
  exact hm

/-- Calls that tell of no other steps. -/
theorem prolongs_after {calls : List (JournalCall Payload)}
    (h : ∀ b, (ofStep (db.intendedStep? b)).Upheld b db →
      (ofStep (db.intendedStep? b)).Upheld b (after JournalDb.step db calls)) :
    Prolongs db (after JournalDb.step db calls) where
  grows := grows_after calls db
  appends := appends_after db calls
  told ht := by
    refine ⟨(grows_after calls db).distinct ht.distinct, after_invariant numbered_step calls db ht.numbered, ?_⟩
    intro b
    -- a batch that is new has had nothing to tell, and one that was there intends what it did
    refine (h b (ht.told b)).mono (fun _ _ h => h) (fun _ h => h) fun d hd m hm => ?_
    exact (grows_after calls db).intendedStep? (hd m hm)

/-- One write that tells of no other step. -/
theorem prolongs_run {x : JournalWrite Payload} (hrun : x.run db ctx = .ok db')
    (hsaid : ∀ b, x.Says (ofStep (db.intendedStep? b)) b) : Prolongs db db' := by
  have hstep : after JournalDb.step db [.write x ctx] = db' := by
    rw [after_cons, after_nil]
    simp only [JournalDb.step, hrun]
  rw [← hstep]
  refine prolongs_after fun b ht => ?_
  rw [hstep]
  exact upholds_run ht (hsaid b) hrun

/-- Writes of one batch leave what is said of the others. -/
theorem upheld_others {T : Testimony} {b' : String} {P : List BatchPhase} (hne : b' ≠ b) :
    ∀ {calls : List (JournalCall Payload)} {db : JournalDb Payload}, (∀ c ∈ calls, c.On (fun id => id = b) P) →
      T.Upheld b' db → T.Upheld b' (after JournalDb.step db calls)
  | [], _, _, h => h
  | c :: calls, db, hcalls, h => by
    rw [after_cons]
    refine upheld_others hne (fun c' hc' => hcalls c' (List.mem_cons_of_mem _ hc')) ?_
    have hc := hcalls c List.mem_cons_self
    cases c with
    | lease c => exact h.congr rfl rfl rfl
    | operationRuns runs phases => exact h.congr rfl rfl rfl
    | write x ctx =>
      obtain ⟨⟨b₁, hb₁, rfl⟩, -⟩ := hc
      have hspares : x.batch ≠ some b' := by
        rw [hb₁]
        exact fun heq => hne (Option.some.inj heq).symm
      simp only [JournalDb.step]
      split
      · next db' hrun => exact upholds_run h (says_of_spares hspares) hrun
      · exact h

/-- Steps that write the one batch, and tell of its own step. -/
theorem prolongs_own {P : List BatchPhase} {L : LeaseRecord} {w w' : World φ}
    (hq : Quiet (JournalWrite.On (fun id => id = b) P) L w w')
    (hn : (ofStep (some m)).Upheld b w.journal → (ofStep (some m)).Upheld b w'.journal)
    (hb : w.journal.intendedStep? b = some m) : Prolongs w.journal w'.journal := by
  obtain ⟨calls, hcalls, hj⟩ := hq.journal
  rw [hj] at hn ⊢
  refine prolongs_after fun b' ht => ?_
  by_cases hb' : b' = b
  · subst hb'
    rw [hb] at ht ⊢
    exact hn ht
  · exact upheld_others (P := P) hb' (fun c hc => (hcalls c hc).on) ht

/-- Steps that tell nothing new of any batch. -/
theorem prolongs_silent {K : JournalWrite Payload → Prop} {L : LeaseRecord} {w w' : World φ} (hq : Quiet K L w w')
    (hn : ∀ (T : Testimony) b, T.Upheld b w.journal → T.Upheld b w'.journal) : Prolongs w.journal w'.journal := by
  obtain ⟨calls, -, hj⟩ := hq.journal
  have hn' := fun b => hn (ofStep (w.journal.intendedStep? b)) b
  rw [hj] at hn' ⊢
  exact prolongs_after hn'

/-- A row that was its table's only one under its id stays so. -/
theorem isRow_appends {T : RecordTable} {r : T.Row Payload} (h : Appends db db') (hdb : Numbered db')
    (hr : r ∈ db.rows T) :
    r ∈ db'.rows T ∧ ∀ r' ∈ db'.rows T, SequencedRow.rowId r' = SequencedRow.rowId r → r' = r := by
  obtain ⟨new, hnew, -⟩ := h T
  have hmem : r ∈ db'.rows T := by
    rw [hnew]
    exact List.mem_append_left _ hr
  exact ⟨hmem, fun r' hr' hid => List.inj_on_of_nodup_map (hdb.keys T) hr' hmem hid⟩

end Journal

/-! ## Programs that tell of one step -/

/-- While the batch intends step `m`, the journal goes on, and tells of no other. -/
def Tells (m : RecursiveMkdirStepMetadata) (b : String) (w w' : World φ) : Prop :=
  w.journal.intendedStep? b = some m → Prolongs w.journal w'.journal

/-- Every step of the program is so. -/
def AllTell (m : RecursiveMkdirStepMetadata) (b : String) (p : Op φ ω α) : Prop := EachStep (Tells m b) p

section Programs

variable {m : RecursiveMkdirStepMetadata} {b : String} {C : Coordinator φ ω} {c : Caller} {w : World φ}
  {L : LeaseRecord}

theorem tell_of {p : Op φ ω α} (hq : AllQuiet (JournalWrite.On (fun id => id = b) closedPhases) L p)
    (hn : AllNote (ofStep (some m)) b p) : AllTell m b p :=
  eachStep_mono (fun _ _ h hb => prolongs_own h.1 h.2.upholds hb) (eachStep_and hq hn)

/-- Steps that say nothing at all prolong the journal, whatever is intended. -/
theorem prolong_of {K : JournalWrite Payload → Prop} {p : Op φ ω α} (hq : AllQuiet K L p)
    (hn : ∀ T b, AllNote T b p) : EachStep (fun w w' : World φ => Prolongs w.journal w'.journal) p :=
  eachStep_mono (fun _ _ h => prolongs_silent h.1 fun T b => (h.2 T b).upholds)
    (eachStep_and hq (eachStep_forall fun T => eachStep_forall (hn T)))

theorem tell_ret (a : α) : AllTell m b (.ret a : Op φ ω α) := trivial

theorem tell_raise (e : OperationError) : AllTell m b (.raise e : Op φ ω α) := trivial

theorem tell_fsRead (read : ω → φ → Except FilesystemError α) : AllTell m b (fsRead read) :=
  eachStep_call fun _ _ _ => .refl

theorem tell_invoke (act : ω → φ → Except FilesystemError α × φ) : AllTell m b (invoke c act) :=
  eachStep_call fun _ _ _ => .refl

theorem tell_requireAuthority (resourceKey : String) :
    AllTell m b (requireAuthority c resourceKey : Op φ ω Unit) :=
  tell_of (L := c.lease) (quiet_requireAuthority _) note_requireAuthority

theorem tell_recordAndRaise {p : Op φ ω α} {record : OperationError → Op φ ω Unit} (hp : AllTell m b p)
    (hr : ∀ e, AllTell m b (record e)) : AllTell m b (recordAndRaise p record) :=
  eachStep_onRaise (fun e => eachStep_bind (fun _ => tell_raise e) (hr e)) hp

theorem tell_maintain {body : Op φ ω α} (hb : AllTell m b body) :
    AllTell m b (maintainOperationLease C c.toLeaseHolder body) := by
  have hbeat : AllTell m b (heartbeatOnce c.toLeaseHolder : Op φ ω Unit) :=
    tell_of (quiet_heartbeatOnce _) (note_heartbeatOnce _)
  have hfailed : AllTell m b (raiseIfFailed : Op φ ω Unit) :=
    tell_of (L := c.lease) (quiet_databaseRead _) (note_databaseRead _)
  unfold maintainOperationLease maintainLease
  split
  · exact hb
  · split
    · exact hb
    · refine eachStep_bind (fun _ => eachStep_bind (fun _ => eachStep_bind (fun _ => ?_) hfailed) hb) hbeat
      exact trivial

/-- Where such a program finishes, while the batch intends the step. -/
theorem finishes_tell {p : Op φ ω α} (hp : AllTell m b p) (hb : w.journal.intendedStep? b = some m) :
    Finishes (fun _ w' => Prolongs w.journal w'.journal) p w :=
  along_eachStep (I := fun w' : World φ => Prolongs w.journal w'.journal)
    (fun _ _ hstep hI => ⟨trivial, hI.trans (hstep (hI.grows.intendedStep? hb))⟩) hp .refl

theorem finishes_prolong {p : Op φ ω α} (hp : EachStep (fun w w' : World φ => Prolongs w.journal w'.journal) p)
    (w : World φ) : Finishes (fun _ w' => Prolongs w.journal w'.journal) p w :=
  along_eachStep (I := fun w' : World φ => Prolongs w.journal w'.journal)
    (fun _ _ hstep hI => ⟨trivial, hI.trans hstep⟩) hp .refl

end Programs

/-! ## A step's mutation -/

section Started

variable {m : RecursiveMkdirStepMetadata} {b operationId resourceKey : String} {C : Coordinator φ ω} {c : Caller}
  {path : Path} {before : ResourceSnapshot} {recovery : RecoveryDetails} {parents existOk : Bool}

/-- Details with the step of the mutation. -/
theorem details_ofStep {d : RecoveryDetails} (hd : d.recursive = some m) : (ofStep (some m)).details d := by
  intro m' hm'
  rw [← hd]
  exact hm'

theorem tell_recordBeforeSnapshotFailure (hrecovery : recovery.recursive = some m) (e : OperationError) :
    AllTell m b (recordBeforeSnapshotFailure c b path resourceKey recovery e : Op φ ω Unit) :=
  tell_of (quiet_recordFailure OfStarted.on _ _ _ _ _)
    (note_recordBeforeSnapshotFailure (fun _ _ => trivial) fun _ _ => details_ofStep hrecovery)

theorem tell_recordMutationFailure (hrecovery : recovery.recursive = some m) (stage : Option String)
    (e : OperationError) : AllTell m b (recordMutationFailure C c b path resourceKey before recovery stage e) :=
  tell_of (quiet_recordMutationFailure OfStarted.on _ _ _ _ _ _)
    (note_recordMutationFailure (fun _ _ => trivial) (fun _ => trivial) fun _ _ _ => details_ofStep hrecovery)

theorem tell_recordPostMutationFailure (hrecovery : recovery.recursive = some m) (after : Option ResourceSnapshot)
    (stage : String) (e : OperationError) :
    AllTell m b (recordPostMutationFailure C c b path resourceKey before after recovery stage e) :=
  tell_of (quiet_recordPostMutationFailure OfStarted.on _ _ _ _ _ _ _)
    (note_recordPostMutationFailure (fun _ _ => trivial) fun _ _ _ => details_ofStep hrecovery)

theorem tell_recordCheckpointStep (type : String) (payload : Payload) (operationId : Option String) :
    AllTell m b (recordCheckpointStep c b resourceKey type payload operationId : Op φ ω (CheckpointRow Payload)) :=
  tell_of (quiet_recordCheckpointStep (fun _ _ _ _ _ _ => OfStarted.on _ rfl) _ _ _ _)
    (note_recordCheckpointStep fun _ => trivial)

theorem tell_markSucceededStep (operationId : String) (after : Option ResourceSnapshot) :
    AllTell m b (markSucceededStep c b (.succeeded operationId resourceKey after none none) :
      Op φ ω (BatchRow Payload)) :=
  tell_of (quiet_markSucceededStep (fun _ => OfStarted.on _ rfl) _)
    (note_markSucceededStep fun _ => admits_none rfl rfl)

/-- No proof is taken of a directory that is made. -/
theorem prepareMutationCheckpoints_step : prepareMutationCheckpoints C c b operationId
      (stepMutation C path resourceKey parents existOk (some m)) before =
    (recordCheckpointStep c b resourceKey "before" (.snapshot before none) (some operationId) >>= fun _ =>
      .ret (stepMutation C path resourceKey parents existOk (some m)).recovery) := by
  have htakes : takesRollbackProof C .makeDirectory = false := by
    simp [takesRollbackProof]
  unfold prepareMutationCheckpoints
  rw [show (stepMutation C path resourceKey parents existOk (some m)).operationType = .makeDirectory from rfl, htakes]
  rfl

theorem tell_prepareMutationCheckpoints : AllTell m b (prepareMutationCheckpoints C c b operationId
    (stepMutation C path resourceKey parents existOk (some m)) before) := by
  rw [prepareMutationCheckpoints_step]
  exact eachStep_bind (fun _ => tell_ret _) (tell_recordCheckpointStep _ _ _)

theorem yields_prepareStep : Yields (fun recovery => recovery.recursive = some m) (prepareMutationCheckpoints C c b
    operationId (stepMutation C path resourceKey parents existOk (some m)) before) := by
  rw [prepareMutationCheckpoints_step]
  have hret : ∀ _ : CheckpointRow Payload, Yields (fun recovery => recovery.recursive = some m)
      (.ret (stepMutation C path resourceKey parents existOk (some m)).recovery : Op φ ω RecoveryDetails) :=
    fun _ => rfl
  exact yields_bind hret

/-- **A started step** tells of itself only. -/
theorem tell_startedFileMutationResult : AllTell m b (startedFileMutationResult C c
    (stepMutation C path resourceKey parents existOk (some m)) b operationId) := by
  refine eachStep_bind (fun before => ?_)
    (tell_recordAndRaise (tell_fsRead _) fun e => tell_recordBeforeSnapshotFailure rfl e)
  refine eachStep_yields (A := fun recovery => recovery.recursive = some m) (fun recovery hrecovery => ?_)
    (tell_recordAndRaise (tell_maintain tell_prepareMutationCheckpoints) fun e => tell_recordMutationFailure rfl _ e)
    (yields_onRaise (fun e => yields_bind (f := fun _ => .raise e) fun _ => trivial)
      (yields_maintain yields_prepareStep))
  refine eachStep_bind (fun _ => ?_)
    (tell_recordAndRaise (tell_requireAuthority _) fun e => tell_recordMutationFailure hrecovery _ e)
  refine eachStep_bind (fun _ => ?_) (eachStep_onRaise (fun e =>
    eachStep_bind (fun _ => tell_raise _) (tell_recordMutationFailure hrecovery _ e)) (tell_maintain (tell_invoke _)))
  refine eachStep_bind (fun after => ?_)
    (tell_recordAndRaise (tell_fsRead _) fun e => tell_recordPostMutationFailure hrecovery _ _ e)
  refine eachStep_bind (fun checkpoint => ?_)
    (tell_recordAndRaise (tell_recordCheckpointStep _ _ _) fun e => tell_recordPostMutationFailure hrecovery _ _ e)
  refine eachStep_bind (fun batch => tell_ret _)
    (tell_recordAndRaise (tell_markSucceededStep _ _) fun e => tell_recordPostMutationFailure hrecovery _ _ e)

end Started

/-! ## What a step leaves -/

/-- The batch is of the caller's run. -/
def OfCaller (c : Caller) (b : BatchRow Payload) : Prop :=
  b.owner = c.owner ∧ b.runId = c.runId ∧ b.operationRunId = c.operationRunId ∧
    b.operationPhaseId = c.operationPhaseId

/-- The batch of a request, and the operation it was started with. -/
structure Opened (c : Caller) (intent : Intent) (operationType : OperationType) (resourceKey : String)
    (db : JournalDb Payload) (batch : BatchRow Payload) (operation : OperationRow Payload) : Prop where
  row : ∃ row, db.batchRow batch.batchId = some row ∧ row.payload = .intent intent ∧ OfCaller c row
  mem : operation ∈ db.operations
  operation : operation.batchId = batch.batchId ∧ operation.operationType = operationType.text ∧
    operation.resourceKey = some resourceKey ∧ operation.payload = .intent intent

/-- The checkpoint after a mutation. -/
structure AfterRow (b operationId resourceKey : String) (db : JournalDb Payload) (row : CheckpointRow Payload) :
    Prop where
  mem : row ∈ db.checkpoints
  checkpoint : row.batchId = b ∧ row.operationId = some operationId ∧ row.checkpointType = "after" ∧
    row.resourceKey = resourceKey

section Rows

variable {db db' : JournalDb Payload} {b type resourceKey op : String} {key operationId : Option String}
  {payload status : Option Payload} {ctx : WriteContext} {batch : BatchRow Payload} {operation : OperationRow Payload}

theorem recordCheckpoint_row {row : CheckpointRow Payload}
    (h : recordCheckpoint db b resourceKey type payload operationId none none ctx = .ok (row, db')) :
    row ∈ db'.checkpoints ∧ row.batchId = b ∧ row.operationId = operationId ∧ row.checkpointType = type ∧
      row.resourceKey = resourceKey := by
  simp only [recordCheckpoint, bind_eq_ok, pure_eq_ok, Prod.mk.injEq] at h
  obtain ⟨_, -, _, -, _, -, ⟨_, db₁⟩, -, _, -, _, -, checkpoints, hins, rfl, rfl⟩ := h
  obtain ⟨rfl, -⟩ := insertRow_eq_ok hins
  exact ⟨List.mem_append_right _ (List.mem_singleton.2 rfl), rfl, rfl, rfl, rfl⟩

theorem markSucceeded_row (h : markSucceeded db b payload ctx = .ok (batch, db')) :
    batch.batchId = b ∧ db'.checkpoints = db.checkpoints := by
  simp only [markSucceeded, transitionBatch, bind_eq_ok, pure_eq_ok, Prod.mk.injEq] at h
  obtain ⟨_, -, _, -, _, -, updated, hupdated, rfl, rfl⟩ := h
  exact ⟨findRow_key (requireBatchRow_ok hupdated), rfl⟩

theorem startBatchOperation_row
    (h : startBatchOperation db b op key payload none status ctx = .ok (batch, operation, db')) :
    batch.batchId = b ∧ operation ∈ db'.operations ∧ operation.batchId = b ∧ operation.operationType = op ∧
      operation.resourceKey = key ∧ operation.payload = payloadToJson payload := by
  simp only [startBatchOperation, bind_eq_ok, pure_eq_ok, Prod.mk.injEq] at h
  obtain ⟨_, -, _, -, _, -, row, -, _, -, db₁, hins, started, hstarted, rfl, rfl, rfl⟩ := h
  simp only [insertOperation, bind_eq_ok, pure_eq_ok] at hins
  obtain ⟨operations, hins, rfl⟩ := hins
  obtain ⟨rfl, -⟩ := insertRow_eq_ok hins
  exact ⟨findRow_key (requireBatchRow_ok hstarted), List.mem_append_right _ (List.mem_singleton.2 rfl), rfl, rfl, rfl,
    rfl⟩

end Rows

section Finishing

variable {C : Coordinator φ ω} {c : Caller} {b operationId : String} {w : World φ}

/-- A failure that is recorded is raised again. -/
theorem finishes_recordAndRaise {K : α → World φ → Prop} {p : Op φ ω α} {record : OperationError → Op φ ω Unit}
    (hp : Finishes (fun r w' => ∀ x, r = .ok x → K x w') p w) :
    Finishes (fun r w' => ∀ x, r = .ok x → K x w') (recordAndRaise p record) w := by
  refine along_onRaise (along_mono (fun _ _ h => h) (fun r w' hr => ?_) hp)
  cases r with
  | ok a => exact hr
  | error e => exact finishes_last fun _ _ _ hx => by cases hx

theorem finishes_finishFileMutationResult {m : FileMutation φ ω} {before : ResourceSnapshot}
    {recovery : RecoveryDetails} :
    Finishes (fun r w' => ∀ rows, r = .ok rows →
        rows.1.batchId = b ∧ AfterRow b operationId m.resourceKey w'.journal rows.2)
      (finishFileMutationResult C c b operationId m before recovery) w := by
  refine finishes_last fun after w₁ => ?_
  have hcheckpoint : Finishes (fun r w' => ∀ row, r = .ok row → AfterRow b operationId m.resourceKey w'.journal row)
      (recordCheckpointStep c b m.resourceKey "after" (.snapshot after none) (some operationId) :
        Op φ ω (CheckpointRow Payload)) w₁ := by
    refine along_journalWrite trivial (fun _ _ _ _ _ h => by cases h) (fun _ _ _ _ _ _ h => by cases h) ?_
    intro i row db _ _ hrecord
    obtain ⟨hmem, hrow⟩ := recordCheckpoint_row hrecord
    exact ⟨trivial, fun _ h => by cases h; exact ⟨hmem, hrow⟩⟩
  refine along_seq (finishes_recordAndRaise hcheckpoint) (fun row w₂ h₂ => ?_) fun _ _ _ _ hx => by cases hx
  obtain ⟨hmem, hrow⟩ := h₂ row rfl
  have hmark : Finishes (fun r w' => ∀ batch : BatchRow Payload, r = .ok batch →
      batch.batchId = b ∧ AfterRow b operationId m.resourceKey w'.journal row)
      (markSucceededStep c b (.succeeded operationId m.resourceKey (some after) none none) :
        Op φ ω (BatchRow Payload)) w₂ := by
    refine along_journalWrite trivial (fun _ _ _ _ _ h => by cases h) (fun _ _ _ _ _ _ h => by cases h) ?_
    intro i batch db _ _ hmark
    obtain ⟨hid, hcheckpoints⟩ := markSucceeded_row hmark
    exact ⟨trivial, fun _ h => by cases h; exact ⟨hid, hcheckpoints ▸ hmem, hrow⟩⟩
  refine along_seq (finishes_recordAndRaise hmark) (fun batch w₃ h₃ => ?_) fun _ _ _ _ hx => by cases hx
  intro rows hrows
  cases hrows
  exact h₃ batch rfl

theorem finishes_startedFileMutationResult {m : FileMutation φ ω} :
    Finishes (fun r w' => ∀ rows, r = .ok rows →
        rows.1.batchId = b ∧ AfterRow b operationId m.resourceKey w'.journal rows.2)
      (startedFileMutationResult C c m b operationId) w :=
  finishes_last fun _ _ => finishes_last fun _ _ => finishes_last fun _ _ => finishes_last fun _ _ =>
    finishes_finishFileMutationResult

end Finishing

/-! ## Opening a step's batch -/

section Opening

variable {c : Caller} {b resourceKey what : String} {intent : Intent} {operationType : OperationType} {w : World φ}

theorem OfCaller.created {b b' : BatchRow Payload} (h : OfCaller c b) (hc : b'.created = b.created) :
    OfCaller c b' := by
  have hof : ∀ b : BatchRow Payload, OfCaller c b.created = OfCaller c b := fun _ => rfl
  rw [← hof, hc, hof]
  exact h

/-- The row of a batch stays the row of its request. -/
theorem row_grows {db db' : JournalDb Payload} (h : Grows db db')
    (hrow : ∃ row, db.batchRow b = some row ∧ row.payload = .intent intent ∧ OfCaller c row) :
    ∃ row, db'.batchRow b = some row ∧ row.payload = .intent intent ∧ OfCaller c row := by
  obtain ⟨row, hrow, hpayload, hcaller⟩ := hrow
  obtain ⟨row', hrow', hc, -⟩ := h.row b row hrow
  have hsame : row'.payload = row.payload := BatchRow.column_eq (f := BatchRow.payload) (fun _ => rfl) hc
  exact ⟨row', hrow', hsame.trans hpayload, hcaller.created hc⟩

theorem finishes_createStep (hw : StepsTold w.journal) : Finishes (fun r w' => Prolongs w.journal w'.journal ∧
      ∀ batch, r = .ok batch →
        ∃ row, w'.journal.batchRow batch.batchId = some row ∧ row.payload = .intent intent ∧ OfCaller c row)
    (createBatchStep c resourceKey intent : Op φ ω (BatchRow Payload)) w := by
  refine along_journalWrite trivial (fun _ _ _ _ => ⟨.refl, fun _ h => by cases h⟩)
    (fun _ _ _ _ _ => ⟨.refl, fun _ h => by cases h⟩) fun i batch db _ _ hcreate => ?_
  have hrun : (JournalWrite.createBatch (c.batchRequest resourceKey intent) none).run w.journal (c.context i) =
      .ok db := by
    simp only [JournalWrite.run, hcreate, Except.map]
  have hprolongs : Prolongs w.journal db := prolongs_run hrun fun _ => trivial
  obtain ⟨⟨howner, hrun, hoperationRun, hphase, hpayload⟩, hmem⟩ := createBatch_row hcreate
  refine ⟨trivial, hprolongs, fun _ h => ?_⟩
  cases h
  have hmem' : batch ∈ db.batches := by
    rcases hmem with ⟨rfl, hmem⟩ | ⟨rfl, -⟩
    · exact hmem
    · exact List.mem_append_right _ (List.mem_singleton.2 rfl)
  exact ⟨batch, (hprolongs.told hw).distinct.row_of_mem hmem', hpayload, howner, hrun, hoperationRun, hphase⟩

theorem finishes_startStep
    (hb : ∃ row, w.journal.batchRow b = some row ∧ row.payload = .intent intent ∧ OfCaller c row) :
    Finishes (fun r w' => Prolongs w.journal w'.journal ∧ ∀ started, r = .ok started →
        Opened c intent operationType resourceKey w'.journal started.1 started.2)
      (startBatchOperationStep c b operationType resourceKey intent :
        Op φ ω (BatchRow Payload × OperationRow Payload)) w := by
  refine along_transaction trivial (fun _ _ _ _ => ⟨.refl, fun _ h => by cases h⟩)
    (fun _ _ _ _ _ => ⟨.refl, fun _ h => by cases h⟩) fun i started w' _ _ hact => ⟨trivial, ?_⟩
  split at hact
  · next batch operation db hstart =>
    cases hact
    have hrun : (JournalWrite.startBatchOperation b operationType.text (some resourceKey) (some (.intent intent))
        none none).run w.journal (c.context i) = .ok db := by
      simp only [JournalWrite.run, hstart, Except.map]
    have hprolongs : Prolongs w.journal db := prolongs_run hrun fun _ _ _ hs => by cases hs
    refine ⟨hprolongs, fun _ h => ?_⟩
    cases h
    obtain ⟨hid, hmem, hbatch, htype, hkey, hpayload⟩ := startBatchOperation_row hstart
    refine ⟨?_, hmem, hbatch.trans hid.symm, htype, hkey, hpayload⟩
    rw [hid]
    exact row_grows hprolongs.grows hb
  · cases hact

/-- What a takeover leaves on record tells nothing of steps. -/
theorem prolong_recordInterruptedIfTakenOver (batch : BatchRow Payload) (resourceKey reason : String) :
    EachStep (fun w w' : World φ => Prolongs w.journal w'.journal)
      (recordInterruptedIfTakenOver c batch resourceKey reason : Op φ ω Unit) :=
  prolong_of (K := OfMutation c) (quiet_recordInterruptedIfTakenOver (fun _ _ => trivial) _ _)
    fun _ _ => note_recordInterruptedIfTakenOver

theorem prolong_startConflict (batch : BatchRow Payload) (e : OperationError) :
    EachStep (fun w w' : World φ => Prolongs w.journal w'.journal)
      (startConflict c batch resourceKey what e : Op φ ω (BatchRow Payload × OperationRow Payload)) := by
  unfold startConflict
  split
  · refine eachStep_bind (fun _ => eachStep_bind (fun _ => ?_) (prolong_recordInterruptedIfTakenOver _ _ _))
      (prolong_of (K := OfMutation c) (L := c.lease) (quiet_databaseRead _) fun _ _ => note_databaseRead _)
    exact trivial
  · exact trivial

theorem yields_startConflict (batch : BatchRow Payload) (e : OperationError) :
    Yields (fun _ => False)
      (startConflict c batch resourceKey what e : Op φ ω (BatchRow Payload × OperationRow Payload)) := by
  unfold startConflict
  split
  · exact yields_bind fun _ => yields_bind (f := fun _ => .raise _) fun _ => trivial
  · exact trivial

/-- **The batch of a step** is opened, or the journal has gone on without it. -/
theorem finishes_openStep (hw : StepsTold w.journal) : Finishes (fun r w' => Prolongs w.journal w'.journal ∧
      ∀ batch operation, r = .ok (some (batch, operation)) →
        Opened c intent operationType resourceKey w'.journal batch operation)
    (openBatch c intent operationType resourceKey what : Op φ ω (Option (BatchRow Payload × OperationRow Payload)))
    w := by
  refine along_seq (finishes_createStep hw) (fun batch w₁ h₁ => ?_) fun e w₁ h₁ => ⟨h₁.1, fun _ _ h => by cases h⟩
  obtain ⟨hprolongs, hbatch⟩ := h₁
  split
  · -- an earlier call has finished it
    exact ⟨hprolongs, fun _ _ h => by cases h⟩
  · split
    · -- it was found past its start, which is noted
      refine along_seq (finishes_prolong (prolong_recordInterruptedIfTakenOver _ _ _) w₁) (fun _ w₂ h₂ => ?_)
        fun _ w₂ h₂ => ⟨hprolongs.trans h₂, fun _ _ h => by cases h⟩
      exact ⟨hprolongs.trans h₂, fun _ _ h => by cases h⟩
    · refine along_seq (Q := fun r w' => Prolongs w.journal w'.journal ∧ ∀ started, r = .ok started →
          Opened c intent operationType resourceKey w'.journal started.1 started.2)
        (along_onRaise (along_mono (fun _ _ h => h) (fun r w₂ h₂ => ?_) (finishes_startStep (hbatch batch rfl))))
        (fun started w₂ h₂ => ?_) fun _ w₂ h₂ => ⟨h₂.1, fun _ _ h => by cases h⟩
      · cases r with
        | ok started => exact ⟨hprolongs.trans h₂.1, h₂.2⟩
        | error e =>
          -- a start that was refused has no result
          refine along_mono (fun _ _ h => h) (fun r w₃ h₃ => ?_)
            (along_yields (yields_startConflict batch e) (finishes_prolong (prolong_startConflict batch e) w₂))
          exact ⟨(hprolongs.trans h₂.1).trans h₃.1, fun started h => (h₃.2 started h).elim⟩
      · refine ⟨h₂.1, fun batch operation h => ?_⟩
        cases h
        exact h₂.2 _ rfl

end Opening

/-! ## Making a step -/

section Making

variable {C : Coordinator φ ω} {c : Caller} {plan : RecursiveMkdirPlan} {requested : String}
  {step : RecursiveMkdirStep} {stepIndex : Nat} {prior : List CreatedStep} {w w' : World φ}
  {failed : BatchRow Payload} {made : JournaledResult}

/-- A step stays journaled. -/
theorem StepJournaled.prolongs {db db' : JournalDb Payload}
    (h : StepJournaled db failed plan requested step stepIndex prior made) (hp : Prolongs db db')
    (hdb : StepsTold db) : StepJournaled db' failed plan requested step stepIndex prior made where
  batch := by
    obtain ⟨row, hrow, hpayload, howner, hrun, hoperationRun, hphase⟩ := h.batch
    obtain ⟨row', hrow', hc, -⟩ := hp.grows.row _ row hrow
    have hcolumn : ∀ {γ : Type} (f : BatchRow Payload → γ), (∀ r, f r.created = f r) → f row' = f row :=
      fun f hf => BatchRow.column_eq hf hc
    exact ⟨row', hrow', (hcolumn BatchRow.payload fun _ => rfl).trans hpayload,
      (hcolumn BatchRow.owner fun _ => rfl).trans howner, (hcolumn BatchRow.runId fun _ => rfl).trans hrun,
      (hcolumn BatchRow.operationRunId fun _ => rfl).trans hoperationRun,
      (hcolumn BatchRow.operationPhaseId fun _ => rfl).trans hphase⟩
  operationRow := isRow_appends (T := .operations) hp.appends (hp.told hdb).numbered h.operationRow.1
  operation := h.operation
  checkpointRow := isRow_appends (T := .checkpoints) hp.appends (hp.told hdb).numbered h.checkpointRow.1
  checkpoint := h.checkpoint

/-- A batch that was opened, and the checkpoint that was recorded at its end. -/
theorem stepJournaled_of {batch succeeded : BatchRow Payload} {operation : OperationRow Payload}
    {checkpoint : CheckpointRow Payload}
    (hopened : Opened c (stepIntent plan requested step stepIndex prior) .makeDirectory step.resourceKey w.journal
      batch operation) (hp : Prolongs w.journal w'.journal) (hw : StepsTold w.journal)
    (hafter : AfterRow batch.batchId operation.operationId step.resourceKey w'.journal checkpoint)
    (hid : succeeded.batchId = batch.batchId) (hfailed : OfCaller c failed) :
    StepJournaled w'.journal failed plan requested step stepIndex prior ⟨succeeded, operation, checkpoint⟩ where
  batch := by
    obtain ⟨row, hrow, hpayload, howner, hrun, hoperationRun, hphase⟩ := row_grows hp.grows hopened.row
    refine ⟨row, ?_, hpayload, howner.trans hfailed.1.symm, hrun.trans hfailed.2.1.symm,
      hoperationRun.trans hfailed.2.2.1.symm, hphase.trans hfailed.2.2.2.symm⟩
    rw [hid]
    exact hrow
  operationRow := isRow_appends (T := .operations) hp.appends (hp.told hw).numbered hopened.mem
  operation := by
    rw [hid]
    exact hopened.operation
  checkpointRow := isRow_appends (T := .checkpoints) (.of_rows_eq fun _ => rfl) (hp.told hw).numbered hafter.mem
  checkpoint := by
    rw [hid]
    exact hafter.checkpoint

/-- **A step that is made** is journaled, for whoever has its caller's run. -/
theorem finishes_makeDirectoryResult (hw : StepsTold w.journal) :
    Finishes (fun r w' => Prolongs w.journal w'.journal ∧ ∀ made, r = .ok (some made) → ∀ failed, OfCaller c failed →
        StepJournaled w'.journal failed plan requested step stepIndex prior made)
      (makeDirectoryResult C c step.path step.resourceKey false false
        (some (stepMetadata plan requested step stepIndex prior))) w := by
  have hpreflight : AllRead (preflight C (some "make_directory") : Op φ ω Unit) := eachStep_ofExcept _
  refine along_ofExcept_seq (fun _ _ => ⟨.refl, fun _ h => by cases h⟩) fun _ _ => ?_
  rw [if_neg Bool.false_ne_true]
  refine along_seq (along_read hpreflight trivial) (fun _ w₁ h₁ => ?_)
    fun _ _ h₁ => ⟨h₁ ▸ .refl, fun _ h => by cases h⟩
  subst h₁
  refine along_seq (along_read (read_requireAuthority c step.resourceKey) trivial) (fun _ w₂ h₂ => ?_)
    fun _ _ h₂ => ⟨h₂ ▸ .refl, fun _ h => by cases h⟩
  subst h₂
  refine along_seq (finishes_openStep hw) (fun opened w₃ h₃ => ?_) fun _ _ h₃ => ⟨h₃.1, fun _ h => by cases h⟩
  obtain ⟨hprolongs, hopened⟩ := h₃
  split
  · exact ⟨hprolongs, fun _ h => by cases h⟩
  · next batch operation =>
    have hrow := (hopened batch operation rfl).row
    have hintends : w₃.journal.intendedStep? batch.batchId =
        some (stepMetadata plan requested step stepIndex prior) := by
      obtain ⟨row, hrow, hpayload, -⟩ := hrow
      rw [JournalDb.intendedStep?, hrow, Option.bind_some, hpayload]
      rfl
    refine along_seq (along_mono (fun _ _ _ => trivial) (fun _ _ h => h)
      (along_and (finishes_tell tell_startedFileMutationResult hintends) finishes_startedFileMutationResult))
      (fun rows w₄ h₄ => ?_) fun _ _ h₄ => ⟨hprolongs.trans h₄.1, fun _ h => by cases h⟩
    refine ⟨hprolongs.trans h₄.1, fun made h failed hfailed => ?_⟩
    cases h
    obtain ⟨hid, hafter⟩ := h₄.2 rows rfl
    exact stepJournaled_of (hopened batch operation rfl) h₄.1 (hprolongs.told hw) hafter hid hfailed

end Making

/-! ## The loop -/

section Loop

variable {T : Transaction φ ω} {plan : RecursiveMkdirPlan} {call : RecursiveMkdirCall}
  {answered : List (Option JournaledResult)} {s : TransactionState} {step : RecursiveMkdirStep} {w : World φ}

/-- The batch is of the transaction's run, and linked as the call is. -/
def OfCall (T : Transaction φ ω) (call : RecursiveMkdirCall) (b : BatchRow Payload) : Prop :=
  b.owner = T.owner ∧ b.runId = T.runId ∧ b.operationRunId = call.links.operationRunId ∧
    b.operationPhaseId = call.links.operationPhaseId

/-- The loop before a step: the steps that were made are journaled. -/
structure Stepping (T : Transaction φ ω) (plan : RecursiveMkdirPlan) (call : RecursiveMkdirCall)
    (answered : List (Option JournaledResult)) (db : JournalDb Payload) : Prop where
  told : StepsTold db
  journaled : ∀ i s made, plan.steps[i]? = some s → answered[i]? = some (some made) → ∀ failed, OfCall T call failed →
    StepJournaled db failed plan call.requestedResourceKey s (i + 1) (priorCreatedSteps plan.steps (answered.take i))
      made

theorem Stepping.prolongs {db db' : JournalDb Payload} (h : Stepping T plan call answered db) (hp : Prolongs db db') :
    Stepping T plan call answered db' :=
  ⟨hp.told h.told, fun i s made hs hmade failed hfailed =>
    (h.journaled i s made hs hmade failed hfailed).prolongs hp h.told⟩

/-- One more answer. -/
theorem Stepping.answer {db : JournalDb Payload} (h : Stepping T plan call answered db)
    (hnext : plan.steps[answered.length]? = some step) {result : Option JournaledResult}
    (hresult : ∀ made, result = some made → ∀ failed, OfCall T call failed → StepJournaled db failed plan
      call.requestedResourceKey step (answered.length + 1) (priorCreatedSteps plan.steps answered) made) :
    Stepping T plan call (answered ++ [result]) db := by
  refine ⟨h.told, fun i s made hs hmade failed hfailed => ?_⟩
  rcases Nat.lt_trichotomy i answered.length with hi | rfl | hi
  · -- an earlier step
    rw [List.getElem?_append_left hi] at hmade
    rw [List.take_append_of_le_length hi.le]
    exact h.journaled i s made hs hmade failed hfailed
  · -- the one that was just answered
    rw [List.getElem?_concat_length, Option.some.injEq] at hmade
    rw [hnext, Option.some.injEq] at hs
    subst hs
    rw [List.take_left]
    exact hresult made hmade failed hfailed
  · rw [List.getElem?_eq_none (by rw [List.length_append, List.length_singleton]; omega)] at hmade
    cases hmade

theorem read_requireRuntimeSafeDescent {C : Coordinator φ ω} :
    AllRead (requireRuntimeSafeDescent C plan step) := by
  refine eachStep_forEach fun current _ => ?_
  refine read_bind (eachStep_call fun _ _ => rfl) fun safety => ?_
  split
  · exact trivial
  · exact read_bind (eachStep_call fun _ _ => rfl) fun _ => eachStep_ofExcept _

/-- A claim leaves the journal as it is. -/
theorem journal_claimDirectoryResource (resourceKey : String) (now : Option DateTime) :
    EachStep (fun w w' : World φ => w'.journal = w.journal) (claimDirectoryResource T s resourceKey now) := by
  unfold claimDirectoryResource
  split
  · exact trivial
  · refine eachStep_bind (f := fun claim => .ret (s.remember claim)) (fun _ => trivial) (eachStep_call fun i w => ?_)
    split
    · rfl
    · split
      · next hact =>
        dsimp only at hact
        split at hact
        · cases hact
          rfl
        · cases hact
      · rfl

/-- **A turn of the loop**: what it answers is journaled. -/
theorem finishes_executeStep (hw : Stepping T plan call answered w.journal)
    (hnext : plan.steps[answered.length]? = some step) :
    Finishes (fun r w' => ∃ s' result, r = .ok (s', result) ∧ Stepping T plan call answered w'.journal ∧
        ∀ a, result = .ok a → Stepping T plan call (answered ++ [a]) w'.journal)
      (executeStep T plan call s step answered) w := by
  refine along_outcome_seq (along_read read_requireRuntimeSafeDescent trivial) fun safe w₁ h₁ => ?_
  subst h₁
  cases safe with
  | error e => exact ⟨s, .error e, rfl, hw, fun _ h => by cases h⟩
  | ok _ =>
    have hclaim : Finishes (fun _ w' => w'.journal = w₁.journal)
        (claimDirectoryResource T s step.resourceKey call.now) w₁ :=
      along_eachStep (I := fun w' : World φ => w'.journal = w₁.journal)
        (fun _ _ hstep hI => ⟨trivial, hstep.trans hI⟩) (journal_claimDirectoryResource _ _) rfl
    refine along_outcome_seq hclaim fun claimed w₂ h₂ => ?_
    have hw₂ : Stepping T plan call answered w₂.journal := h₂ ▸ hw
    cases claimed with
    | error e => exact ⟨s, .error e, rfl, hw₂, fun _ h => by cases h⟩
    | ok s' =>
      refine along_outcome_seq (finishes_makeDirectoryResult hw₂.told) fun result w₃ h₃ => ?_
      refine ⟨s', result, rfl, hw₂.prolongs h₃.1, fun a ha => (hw₂.prolongs h₃.1).answer hnext ?_⟩
      rintro made rfl
      exact h₃.2 made ha

theorem finishes_executeSteps : ∀ {rest : List RecursiveMkdirStep} {s : TransactionState}
    {answered : List (Option JournaledResult)} {w : World φ}, plan.steps.drop answered.length = rest →
    Stepping T plan call answered w.journal →
    Finishes (fun r w' => ∀ s' answered' e, r = .ok (s', answered', some e) →
        Stepping T plan call answered' w'.journal ∧ ∃ step, plan.steps[answered'.length]? = some step)
      (executeSteps T plan call rest s answered) w
  | [], _, _, _, _, _ => fun _ _ _ h => by cases h
  | next :: rest, s, answered, w, hrest, hw => by
    have hnext : plan.steps[answered.length]? = some next := by
      rw [← List.head?_drop, hrest]
      rfl
    refine along_seq (finishes_executeStep hw hnext) (fun turn w₁ h₁ => ?_) fun e w₁ h₁ => ?_
    · obtain ⟨s', result, hturn, hw₁, hanswer⟩ := h₁
      cases hturn
      cases result with
      | error e =>
        intro _ _ _ h
        cases h
        exact ⟨hw₁, next, hnext⟩
      | ok a =>
        refine finishes_executeSteps ?_ (hanswer a rfl)
        rw [List.length_append, List.length_singleton, ← List.drop_drop, hrest]
        rfl
    · obtain ⟨_, _, h, -⟩ := h₁
      cases h

/-- **A recursive mkdir that fails.** From a journal whose batches tell of their own steps, as the empty one's do
(`stepsTold_init`), and whatever the loop meets: where it raises, it leaves such a journal, and whoever reads the
batch of the step it has raised at, to undo it, finds what `StepFailed` says. -/
theorem executeSteps_failed (T : Transaction φ ω) (plan : RecursiveMkdirPlan) (call : RecursiveMkdirCall)
    {s s' : TransactionState} {w w' : World φ} {inputs rest : List (Sample ω)} {e : OperationError}
    (hw : StepsTold w.journal)
    (hrun : (executeSteps T plan call plan.steps s []).exec w inputs =
      (some (.ok (s', answered, some e), rest), w')) :
    ∃ step, plan.steps[answered.length]? = some step ∧ StepsTold w'.journal ∧ ∀ ctx, OfCall T call ctx.batch →
      ctx.batch.payload = .intent (stepIntent plan call.requestedResourceKey step (answered.length + 1)
        (priorCreatedSteps plan.steps answered)) →
      readRecoveryContext w'.journal ctx.batch.batchId = .ok ctx →
      StepFailed w'.journal ctx plan call.requestedResourceKey step answered := by
  have hstart : Stepping T plan call [] w.journal := ⟨hw, fun _ _ _ _ h => by cases h⟩
  obtain ⟨hw', step, hnext⟩ := finishes_of_run (finishes_executeSteps List.drop_zero hstart) hrun _ _ _ rfl
  refine ⟨step, hnext, hw'.told, fun ctx hcall hintent hctx => ⟨hctx, hnext, hintent, fun r hr m hm => ?_, ?_⟩⟩
  · obtain ⟨hrow, -, hrecords⟩ := readRecoveryContext_eq_ok hctx
    rw [hrecords, JournalDb.listRecoveryRecords, mem_listRows] at hr
    obtain ⟨d, hd, hrecursive⟩ := Option.bind_eq_some_iff.1 hm
    have hadmits := (hw'.told.told ctx.batch.batchId).recoveries r hr.1 (of_decide_eq_true hr.2)
    have htold := hadmits.details d hd m hrecursive
    rw [JournalDb.intendedStep?, hrow, Option.bind_some, hintent] at htold
    exact (Option.some.inj htold).symm
  · exact fun i s made hs hmade => hw'.journaled i s made hs hmade _ hcall

end Loop

end SafeFsOps
