import SafeFsOps.OperationJournal.QuietSteps

/-!
# A mutation is invoked at most once per idempotency key

Any number of calls run side by side on one database, each step of each an atomic
transaction or filesystem call; calls come, are retried and are killed at any
point, leases are taken over, and the rest of the world writes the journal, the
claims and the disk as it likes.

A call earns the right to invoke its filesystem-changing call in three stages:
it has the batch of its key, it has *started* that batch, it has invoked. Only
one call can start a batch, since it finds it planned and leaves it attempting:

> `underway_step`: a batch that is past `planned` stays the batch of its key and
> stays past `planned`, whatever is called.

So of one key, at most one call has invoked or may still invoke (`Exclusive`),
and that holds of every pool (`pool_invariant`):

> `exactly_once_mutation`.
-/

namespace SafeFsOps

open JournalWrite (OfMutation OfStarted)

/-! ## Batches that were started -/

section Batches

variable {π : Type}

/-- The batch under an idempotency key. -/
def JournalDb.keyBatch (db : JournalDb π) (k : String) : Option String :=
  (db.batchRowByIdempotencyKey k).map BatchRow.batchId

/-- `b` is the batch of key `k`, and past `planned`. -/
def Underway (k b : String) (db : JournalDb π) : Prop :=
  db.keyBatch k = some b ∧ ∃ row, db.batchRow b = some row ∧ row.phase ≠ .planned

/-- The transaction found the batch of the key planned and without records, and left it attempting. -/
structure StartsBatch (k b : String) (db db' : JournalDb π) : Prop where
  keyed : db.keyBatch k = some b
  planned : ∃ row, db.batchRow b = some row ∧ row.phase = .planned
  unrecorded : db.batchHasJournalRecords b = false
  attempting : ∃ row, db'.batchRow b = some row ∧ row.phase = .attempting

/-- What `start_batch_operation` finds and leaves. -/
theorem startBatchOperation_starts [JournalPayload π] {db db' : JournalDb π} {ctx : WriteContext} {b op k : String}
    {key id : Option String} {payload status : Option π} {started : BatchRow π} {r : OperationRow π}
    (hk : db.keyBatch k = some b)
    (h : startBatchOperation db b op key payload id status ctx = .ok (started, r, db')) :
    StartsBatch k b db db' := by
  obtain ⟨-, -, hplanned, hrow', hphase'⟩ := startBatchOperation_advances h
  refine ⟨hk, hplanned, ?_, started, hrow', hphase'⟩
  simp only [startBatchOperation, requireStartableBatch, bind_eq_ok, require_eq_ok] at h
  obtain ⟨_, -, _, -, _, -, row, hrow, _, ⟨_, -, _, -, _, -, _, -, hrecords⟩, -⟩ := h
  rw [← findRow_key (requireBatchRow_ok hrow)]
  exact hrecords

variable [JournalPayload π] [DecidableEq π]

theorem keyBatch_step {db : JournalDb π} {k b : String} (h : db.keyBatch k = some b) (c : JournalCall π) :
    (db.step c).keyBatch k = some b := by
  cases c with
  | lease c => exact h
  | operationRuns runs phases => exact h
  | write w ctx =>
    simp only [JournalDb.step]
    split
    · next db' hrun =>
      cases hw : w.batch with
      | some b' => exact ((run_advances hw hrun).key k).trans h
      | none =>
        obtain ⟨-, rfl | ⟨req, id, rfl, -, -⟩⟩ := run_create hw hrun
        · exact h
        · obtain ⟨row, hrow, rfl⟩ := Option.map_eq_some_iff.1 h
          have hread := findRow_append_one BatchRow.idempotencyKey db.batches (newBatchRow db req id ctx) k
          refine Option.map_eq_some_iff.2 ⟨row, hread.trans ?_, rfl⟩
          rw [show findRow BatchRow.idempotencyKey db.batches k = some row from hrow]
          rfl
    · exact h

/-- A batch under way stays under way. -/
theorem underway_step {db : JournalDb π} {k b : String} (h : Underway k b db) (c : JournalCall π) :
    Underway k b (db.step c) := by
  refine ⟨keyBatch_step h.1 c, ?_⟩
  obtain ⟨-, row, hrow, hphase⟩ := h
  cases c with
  | lease c => exact ⟨row, hrow, hphase⟩
  | operationRuns runs phases => exact ⟨row, hrow, hphase⟩
  | write w ctx =>
    simp only [JournalDb.step]
    split
    · next db' hrun =>
      cases hw : w.batch with
      | some b' =>
        have hadv := run_advances hw hrun
        by_cases hb : b = b'
        · subst hb
          exact hadv.not_planned w.planned_not_mem_phases hrow hphase
        · exact ⟨row, (hadv.other b hb).trans hrow, hphase⟩
      | none =>
        obtain ⟨-, rfl | ⟨req, id, rfl, -, -⟩⟩ := run_create hw hrun
        · exact ⟨row, hrow, hphase⟩
        · have hread := findRow_append_one BatchRow.batchId db.batches (newBatchRow db req id ctx) b
          refine ⟨row, hread.trans ?_, hphase⟩
          rw [show findRow BatchRow.batchId db.batches b = some row from hrow]
          rfl
    · exact ⟨row, hrow, hphase⟩

end Batches

variable {φ ω α β : Type}

/-! ## The stages of a call -/

/-- How far a call has come: nowhere yet, or done; it has the batch of its key; it
has started that batch, and may invoke its filesystem call. -/
inductive MutationStage where
  | idle
  | created (key batchId : String)
  | started (key batchId : String)

/-- The database moved on by calls of the journal and its leases, and no mutation did anything. -/
def Uneventful (w w' : World φ) : Prop :=
  w'.history = w.history ∧ ∃ calls, w'.journal = after JournalDb.step w.journal calls

theorem Uneventful.refl (w : World φ) : Uneventful w w := ⟨rfl, [], rfl⟩

/-- What a call may do at a stage. -/
inductive MutationStep : MutationStage → World φ → World φ → MutationStage → Prop where
  | uneventful {m : MutationStage} {w w' : World φ} (h : Uneventful w w') : MutationStep m w w' m
  | create {k b : String} {w w' : World φ} (h : Uneventful w w') : MutationStep .idle w w' (.created k b)
  | start {k b : String} {w w' : World φ} (c : JournalCall Payload) (hj : w'.journal = w.journal.step c)
      (hs : StartsBatch k b w.journal w'.journal)
      (hh : w'.history = w.history ++ [.started k w.journal w'.journal]) :
      MutationStep (.created k b) w w' (.started k b)
  | invoke {k b : String} {w w' : World φ} (hj : w'.journal = w.journal)
      (hh : w'.history = w.history ++ [.invoked k]) : MutationStep (.started k b) w w' .idle

/-- The discipline of mutations. -/
def mutationDiscipline (φ : Type) : Discipline (World φ) MutationStage where
  start := .idle
  knows
    | .idle, _ => True
    | .created k b, w => w.journal.keyBatch k = some b
    | .started k b, w => Underway k b w.journal
  may := MutationStep

theorem keyBatch_after {db : JournalDb Payload} {k b : String} (h : db.keyBatch k = some b)
    (calls : List (JournalCall Payload)) : (after JournalDb.step db calls).keyBatch k = some b :=
  after_invariant (P := fun db => db.keyBatch k = some b) (fun _ c h => keyBatch_step h c) calls db h

theorem underway_after {db : JournalDb Payload} {k b : String} (h : Underway k b db)
    (calls : List (JournalCall Payload)) : Underway k b (after JournalDb.step db calls) :=
  after_invariant (P := Underway k b) (fun _ c h => underway_step h c) calls db h

/-- What a call knows stays true while the journal moves on. -/
theorem knows_after {m : MutationStage} {w w' : World φ} (calls : List (JournalCall Payload))
    (h : (mutationDiscipline φ).knows m w) (hj : w'.journal = after JournalDb.step w.journal calls) :
    (mutationDiscipline φ).knows m w' := by
  cases m with
  | idle => trivial
  | created k b =>
    show w'.journal.keyBatch k = some b
    rw [hj]
    exact keyBatch_after h calls
  | started k b =>
    show Underway k b w'.journal
    rw [hj]
    exact underway_after h calls

/-- Quiet steps are uneventful, at every stage. -/
theorem AllQuiet.keeps {K : JournalWrite Payload → Prop} {L : LeaseRecord} {p : Op φ ω α} (hp : AllQuiet K L p)
    (m : MutationStage) : Program.Keeps (mutationDiscipline φ) p m := by
  refine Program.keeps_eachStep (fun w w' hw hq => ?_) hp
  obtain ⟨calls, -, hj⟩ := hq.journal
  exact ⟨.uneventful ⟨hq.history, calls, hj⟩, knows_after calls hw hj⟩

/-! ## A call goes through its stages -/

section Stages

variable {C : Coordinator φ ω}

/-- From stage `m` on, the program keeps to the discipline. -/
def Disciplined (p : Op φ ω α) (m : MutationStage) : Prop :=
  Program.Follows (mutationDiscipline φ) (fun _ _ => True) p m

theorem AllQuiet.disciplined {K : JournalWrite Payload → Prop} {L : LeaseRecord} {p : Op φ ω α}
    (hp : AllQuiet K L p) (m : MutationStage) : Disciplined p m :=
  Program.follows_mono (fun _ _ _ => trivial) (hp.keeps m)

/-- Quiet steps first. -/
theorem disciplined_after (c : Caller) {p : Op φ ω α} {f : α → Op φ ω β} {m : MutationStage}
    (hp : AllQuiet (OfMutation c) c.lease p) (hf : ∀ a, Disciplined (f a) m) : Disciplined (p >>= f) m :=
  Program.follows_bind_keeps (hp.keeps m) hf fun _ => trivial

/-- Quiet steps last. -/
theorem disciplined_before (c : Caller) {p : Op φ ω α} {f : α → Op φ ω β} {m : MutationStage}
    (hp : Disciplined p m) (hf : ∀ a, AllQuiet (OfMutation c) c.lease (f a)) : Disciplined (p >>= f) m := by
  refine Program.follows_bind (Program.follows_mono ?_ hp)
  rintro (e | a) m' -
  · trivial
  · exact (hf a).disciplined m'

theorem disciplined_onRaise (c : Caller) {p : Op φ ω α} {handler : OperationError → Op φ ω α}
    {m : MutationStage} (hp : Disciplined p m) (hh : ∀ e, AllQuiet (OfMutation c) c.lease (handler e)) : Disciplined (p.onRaise handler) m := by
  refine Program.follows_onRaise (Program.follows_mono ?_ hp)
  rintro (e | a) m' -
  · exact (hh e).disciplined m'
  · trivial

variable {c : Caller}

theorem disciplined_maintain {body : Op φ ω α} {m : MutationStage} (hb : Disciplined body m) :
    Disciplined (maintainOperationLease C c.toLeaseHolder body) m := by
  unfold maintainOperationLease maintainLease
  split
  · exact hb
  split
  · exact hb
  · exact disciplined_after c (quiet_heartbeatOnce _) fun _ => disciplined_before c hb fun _ =>
      quiet_bind (quiet_databaseRead _) fun _ => quiet_pure _

/-- A call that has started its batch may invoke. -/
theorem disciplined_invoke (act : ω → φ → Except FilesystemError α × φ) (b : String) :
    Disciplined (invoke c act) (.started c.idempotencyKey b) := by
  intro i w _
  refine ⟨.idle, .invoke rfl rfl, trivial, ?_⟩
  dsimp only
  cases (act i.os w.fs).1 <;> trivial

/-- A transaction may lead to another stage where it succeeds. -/
theorem follows_transaction {act : Sample ω → World φ → Except OperationError (α × World φ)}
    {Q : Except OperationError α → MutationStage → Prop} {m : MutationStage} (hfail : ∀ e, Q (.error e) m)
    (h : ∀ i w a w', (mutationDiscipline φ).knows m w → act i w = .ok (a, w') →
      ∃ m', MutationStep m w w' m' ∧ (mutationDiscipline φ).knows m' w' ∧ Q (.ok a) m') :
    Program.Follows (mutationDiscipline φ) Q (transaction act) m := by
  intro i w hw
  have hstay : (mutationDiscipline φ).may m w w m := .uneventful (Uneventful.refl w)
  cases hi : i.fault with
  | some e =>
    refine ⟨m, ?_⟩
    simp only [hi]
    exact ⟨hstay, hw, hfail e⟩
  | none =>
    cases hact : act i w with
    | error e =>
      refine ⟨m, ?_⟩
      simp only [hi, hact]
      exact ⟨hstay, hw, hfail e⟩
    | ok r =>
      obtain ⟨a, w'⟩ := r
      obtain ⟨m', hmay, hknows, hQ⟩ := h i w a w' hw hact
      refine ⟨m', ?_⟩
      simp only [hi, hact]
      exact ⟨hmay, hknows, hQ⟩

/-- The row `create_batch` answers with is the one under the key. -/
theorem createBatch_keyed {db db' : JournalDb Payload} {req : BatchRequest Payload} {id : Option String}
    {ctx : WriteContext} {row : BatchRow Payload} (h : createBatch db req id ctx = .ok (row, db')) :
    db'.keyBatch req.idempotencyKey = some row.batchId := by
  obtain ⟨-, ⟨rfl, hrow⟩ | ⟨rfl, rfl, hnone, -⟩⟩ := createBatch_ok h
  · exact Option.map_eq_some_iff.2 ⟨row, hrow, rfl⟩
  · have hread := findRow_append_one BatchRow.idempotencyKey db.batches (newBatchRow db req id ctx)
      req.idempotencyKey
    rw [show findRow BatchRow.idempotencyKey db.batches req.idempotencyKey = none from hnone] at hread
    refine Option.map_eq_some_iff.2 ⟨_, hread.trans ?_, rfl⟩
    rw [Option.none_or, if_pos]
    rfl

theorem follows_createBatchStep (resourceKey : String) (intent : Intent) :
    Program.Follows (mutationDiscipline φ)
      (fun r m => match r with
        | .ok row => m = .created c.idempotencyKey row.batchId
        | .error _ => m = .idle)
      (createBatchStep c resourceKey intent : Op φ ω (BatchRow Payload)) .idle := by
  refine follows_transaction (fun _ => rfl) fun i w row w' _ h => ?_
  split at h
  · next row' db hcreate =>
    cases h
    refine ⟨.created c.idempotencyKey row.batchId, .create ⟨rfl, [.write
      (.createBatch (c.batchRequest resourceKey intent) none) (c.context i)], ?_⟩, createBatch_keyed hcreate, rfl⟩
    simp only [after_cons, after_nil, JournalDb.step, JournalWrite.run, hcreate, Except.map]
  · cases h

theorem follows_startBatchOperationStep {b : String} (operationType : OperationType) (resourceKey : String)
    (intent : Intent) :
    Program.Follows (mutationDiscipline φ)
      (fun r m => match r with
        | .ok (row, _) => m = .started c.idempotencyKey row.batchId
        | .error _ => m = .created c.idempotencyKey b)
      (startBatchOperationStep c b operationType resourceKey intent :
        Op φ ω (BatchRow Payload × OperationRow Payload)) (.created c.idempotencyKey b) := by
  refine follows_transaction (fun _ => rfl) fun i w r w' hw h => ?_
  split at h
  · next row op db hstart =>
    cases h
    have hstarts := startBatchOperation_starts hw hstart
    obtain ⟨-, hadv, -, hrow, -⟩ := startBatchOperation_advances hstart
    have hid : row.batchId = b := findRow_key hrow
    have hstep : db = w.journal.step (.write (.startBatchOperation b operationType.text (some resourceKey)
        (some (Payload.intent intent)) none none) (c.context i)) := by
      simp only [JournalDb.step, JournalWrite.run, hstart, Except.map]
    refine ⟨.started c.idempotencyKey b, .start _ hstep hstarts rfl, ?_, ?_⟩
    · obtain ⟨row', hrow', hphase⟩ := hstarts.attempting
      refine ⟨?_, row', hrow', ?_⟩
      · exact (hadv.key c.idempotencyKey).trans hw
      · rw [hphase]
        decide
    · show MutationStage.started _ _ = _
      rw [hid]
  · cases h

/-- A conflict is recorded, and raised. -/
theorem follows_startConflict
    {Q : Except OperationError (BatchRow Payload × OperationRow Payload) → MutationStage → Prop}
    (hQ : ∀ e m, Q (.error e) m) (batch : BatchRow Payload) (resourceKey what : String) (e : OperationError)
    (m : MutationStage) :
    Program.Follows (mutationDiscipline φ) Q (startConflict c batch resourceKey what e : Op φ ω _) m := by
  unfold startConflict
  split
  · refine Program.follows_bind_keeps ((quiet_databaseRead (L := c.lease) (K := OfMutation c) _).keeps m) (fun current => ?_) fun e => hQ e m
    exact Program.follows_bind_keeps
      ((quiet_recordInterruptedIfTakenOver (K := OfMutation c) (fun _ _ => trivial) _ _).keeps m)
      (fun _ => hQ _ m) fun e => hQ e m
  · exact hQ e m

/-- The stage in which opening a batch leaves a call that is to go on. -/
def OpenedAt (c : Caller) :
    Except OperationError (Option (BatchRow Payload × OperationRow Payload)) → MutationStage → Prop
  | .ok (some (batch, _)), m => m = .started c.idempotencyKey batch.batchId
  | _, _ => True

/-- Opening a batch ends with the batch started, or without one. -/
theorem follows_openBatch (intent : Intent) (operationType : OperationType) (resourceKey what : String) :
    Program.Follows (mutationDiscipline φ) (OpenedAt c)
      (openBatch c intent operationType resourceKey what : Op φ ω _) .idle := by
  refine Program.follows_bind (Program.follows_mono ?_ (follows_createBatchStep resourceKey intent))
  rintro (e | batch) m h
  · trivial
  · obtain rfl := h
    show Program.Follows _ _ (if _ then _ else _) _
    split
    · trivial
    split
    · exact Program.follows_bind_keeps
        ((quiet_recordInterruptedIfTakenOver (K := OfMutation c) (fun _ _ => trivial) _ _).keeps _)
        (fun _ => (trivial : OpenedAt c (.error _) _)) fun _ => trivial
    · refine Program.follows_bind (Program.follows_onRaise (Program.follows_mono ?_
        (follows_startBatchOperationStep operationType resourceKey intent)))
      rintro (e | ⟨row, op⟩) m h
      · obtain rfl := h
        exact follows_startConflict (fun _ _ => trivial) batch resourceKey what e _
      · exact h

/-- What follows the opening of a batch may rely on its start. -/
theorem disciplined_openBatch {intent : Intent} {operationType : OperationType} {resourceKey what : String}
    {f : Option (BatchRow Payload × OperationRow Payload) → Op φ ω α} (hnone : AllQuiet (OfMutation c) c.lease (f none))
    (hsome : ∀ batch operation,
      Disciplined (f (some (batch, operation))) (.started c.idempotencyKey batch.batchId)) :
    Disciplined (openBatch c intent operationType resourceKey what >>= f) .idle := by
  refine Program.follows_bind (Program.follows_mono ?_ (follows_openBatch intent operationType resourceKey what))
  rintro (e | _ | ⟨batch, operation⟩) m h
  · trivial
  · exact hnone.disciplined m
  · obtain rfl := h
    exact hsome batch operation

theorem disciplined_startedFileMutation (m : FileMutation φ ω) (batchId operationId : String) :
    Disciplined (startedFileMutation C c m batchId operationId) (.started c.idempotencyKey batchId) := by
  refine disciplined_after c (quiet_recordAndRaise (quiet_fsRead _) fun _ => ?_) fun before => ?_
  · exact quiet_recordFailure OfStarted.mutation _ _ _ _ _
  refine disciplined_after c (quiet_recordAndRaise (quiet_maintain (quiet_prepareMutationCheckpoints OfStarted.mutation _ _ _))
    fun _ => quiet_recordMutationFailure OfStarted.mutation _ _ _ _ _ _) fun recovery => ?_
  refine disciplined_after c (quiet_recordAndRaise (quiet_requireAuthority _)
    fun _ => quiet_recordMutationFailure OfStarted.mutation _ _ _ _ _ _) fun _ => ?_
  refine disciplined_before c (disciplined_onRaise c (disciplined_maintain (disciplined_invoke _ _)) fun e => ?_)
    fun _ => quiet_finishFileMutation OfStarted.mutation _ _ _ _
  exact quiet_bind (quiet_recordMutationFailure OfStarted.mutation _ _ _ _ _ _) fun _ => quiet_raise _

theorem disciplined_authorizedMove {move : Op φ ω α} {m : MutationStage} (resourceKey destinationKey : String)
    (hm : Disciplined move m) : Disciplined (authorizedMove C c resourceKey destinationKey move) m :=
  disciplined_after c (quiet_requireAuthority _) fun _ => disciplined_after c (quiet_requireAuthority _) fun _ =>
    disciplined_maintain <| disciplined_after c (quiet_requireAuthority _) fun _ =>
      disciplined_after c (quiet_requireAuthority _) fun _ => hm

theorem disciplined_startedRenameMutation (m : RenameMutation) (batchId operationId : String) :
    Disciplined (startedRenameMutation C c m batchId operationId) (.started c.idempotencyKey batchId) := by
  refine disciplined_after c (quiet_fsRead _) fun before => ?_
  refine disciplined_after c (quiet_recordCheckpointStep (fun _ _ _ _ _ _ => trivial) _ _ _ _) fun _ => ?_
  refine disciplined_after c (quiet_fsRead _) fun destination => ?_
  refine disciplined_after c (quiet_recordCheckpointStep (fun _ _ _ _ _ _ => trivial) _ _ _ _) fun _ => ?_
  refine disciplined_before c
    (disciplined_onRaise c (disciplined_authorizedMove _ _ (disciplined_invoke _ _)) fun e => ?_) fun record =>
      quiet_recordAndRaise (quiet_recordRename OfStarted.mutation _ _ _) fun _ => quiet_recordPostMutationFailure OfStarted.mutation _ _ _ _ _ _ _
  exact quiet_bind (quiet_snapshotOrNone _) fun _ => quiet_bind (quiet_snapshotOrNone _) fun _ =>
    quiet_bind (quiet_recordMoveFailure OfStarted.mutation _ _ _ _ _ _ _) fun _ => quiet_raise _

theorem disciplined_startedCaptureMutation (m : CaptureMutation) (batchId operationId : String) :
    Disciplined (startedCaptureMutation C c m batchId operationId) (.started c.idempotencyKey batchId) := by
  refine disciplined_after c (quiet_fsRead _) fun before => ?_
  refine disciplined_after c (quiet_snapshotDirectoryCaptureToken _ _ _) fun token => ?_
  refine disciplined_after c (quiet_recordCheckpointStep (fun _ _ _ _ _ _ => trivial) _ _ _ _) fun _ => ?_
  refine disciplined_before c
    (disciplined_onRaise c (disciplined_authorizedMove _ _ (disciplined_invoke _ _)) fun e => ?_) fun captured =>
      quiet_recordAndRaise (quiet_recordCapture OfStarted.mutation _ _ _) fun _ => quiet_recordPostMutationFailure OfStarted.mutation _ _ _ _ _ _ _
  exact quiet_bind (quiet_snapshotOrNone _) fun _ => quiet_bind (quiet_snapshotOrNone _) fun _ =>
    quiet_bind (quiet_ambiguousCaptureRecovery _ _ _ _ _ _) fun _ =>
      quiet_bind (quiet_recordMoveFailure OfStarted.mutation _ _ _ _ _ _ _) fun _ => quiet_raise _

theorem disciplined_runFileMutation (m : FileMutation φ ω) : Disciplined (runFileMutation C c m) .idle := by
  refine disciplined_after c ?_ fun _ => disciplined_after c (quiet_requireAuthority _) fun _ =>
    disciplined_openBatch (quiet_pure _) fun batch operation => disciplined_startedFileMutation _ _ _
  cases m.preflightOperation with
  | some operation => exact quiet_ofExcept _
  | none => exact quiet_ret _

/-- Every request keeps to the discipline. -/
theorem disciplined_runMutation (r : MutationRequest) : Disciplined (runMutation C c r) .idle := by
  cases r with
  | writeTextFile path content key newline =>
    exact disciplined_after c (quiet_ofExcept _) fun _ => disciplined_runFileMutation _
  | writeBytesFile path content key permissions maxBytes allowLarge =>
    refine disciplined_after c (quiet_ofExcept _) fun _ => ?_
    dsimp only
    split
    · exact trivial
    · exact disciplined_runFileMutation _
  | deleteFile path key missingOk =>
    exact disciplined_after c (quiet_ofExcept _) fun _ => disciplined_runFileMutation _
  | makeDirectory path key parents existOk recursive =>
    refine disciplined_after c (quiet_ofExcept _) fun _ => ?_
    split
    · exact trivial
    · exact disciplined_runFileMutation _
  | recordDirectoryNoop path key =>
    exact disciplined_after c (quiet_ofExcept _) fun _ => disciplined_runFileMutation _
  | renameNoReplace source destination key destinationKey =>
    refine disciplined_after c (quiet_ofExcept _) fun _ => disciplined_after c (quiet_ofExcept _) fun _ => ?_
    refine disciplined_after c (quiet_requireAuthority _) fun _ =>
      disciplined_after c (quiet_requireAuthority _) fun _ => ?_
    refine disciplined_after c (quiet_requireAuthority _) fun _ =>
      disciplined_after c (quiet_requireAuthority _) fun _ => ?_
    exact disciplined_openBatch (quiet_pure _) fun batch operation => disciplined_startedRenameMutation _ _ _
  | captureDirectory source quarantine key destinationKey =>
    refine disciplined_after c (quiet_ofExcept _) fun _ => ?_
    cases destinationKey with
    | none => exact trivial
    | some destinationKey =>
      refine disciplined_after c (quiet_ofExcept _) fun _ => disciplined_after c (quiet_requireAuthority _) fun _ => ?_
      refine disciplined_after c (quiet_requireAuthority _) fun _ =>
        disciplined_after c (quiet_requireAuthority _) fun _ => ?_
      exact disciplined_openBatch (quiet_pure _) fun batch operation => disciplined_startedCaptureMutation _ _ _

end Stages

/-! ## At most one call per key -/

/-- Whether an event is the invocation under a key. -/
def MutationEvent.invokes (k : String) : MutationEvent → Bool
  | started .. => false
  | invoked k' => k' = k

/-- Whether a call at this stage may invoke under a key. -/
def MutationStage.mayInvoke (k : String) : MutationStage → Bool
  | started k' _ => k' = k
  | _ => false

/-- The invocations under a key there have been. -/
def invocations (history : List MutationEvent) (k : String) : Nat := history.countP (MutationEvent.invokes k)

/-- The start of the batch of a key has been entered. -/
def StartEntered (k : String) (history : List MutationEvent) : Prop :=
  ∃ b db db', MutationEvent.started k db db' ∈ history ∧ StartsBatch k b db db'

/-- Every invocation comes after the start of its batch. -/
def StartedFirst (k : String) (history : List MutationEvent) : Prop :=
  ∀ earlier later, history = earlier ++ .invoked k :: later → StartEntered k earlier

/-- Of one key, at most one call has invoked or may invoke, and then its batch is under way. -/
structure Exclusive (k : String) (w : World φ) (stages : List MutationStage) : Prop where
  once : invocations w.history k + stages.countP (MutationStage.mayInvoke k) ≤ 1
  underway : 0 < invocations w.history k + stages.countP (MutationStage.mayInvoke k) →
    ∃ b, Underway k b w.journal
  entered : 0 < stages.countP (MutationStage.mayInvoke k) → StartEntered k w.history
  order : StartedFirst k w.history

theorem StartEntered.append {k : String} {history : List MutationEvent} (h : StartEntered k history)
    (more : List MutationEvent) : StartEntered k (history ++ more) := by
  obtain ⟨b, db, db', hmem, hs⟩ := h
  exact ⟨b, db, db', List.mem_append_left _ hmem, hs⟩

/-- One more event keeps the order, if an invocation finds its start entered. -/
theorem StartedFirst.append_one {k : String} {history : List MutationEvent} {e : MutationEvent}
    (h : StartedFirst k history) (he : e = .invoked k → StartEntered k history) :
    StartedFirst k (history ++ [e]) := by
  intro earlier later hsplit
  rcases List.eq_nil_or_concat later with rfl | ⟨later, e', rfl⟩
  · obtain ⟨rfl, he'⟩ := List.append_inj' hsplit rfl
    exact he (by simpa using he')
  · rw [List.concat_eq_append, ← List.cons_append, ← List.append_assoc] at hsplit
    obtain ⟨hsplit, -⟩ := List.append_inj' hsplit rfl
    exact h earlier later hsplit

/-- An uneventful step keeps what excludes. -/
theorem Exclusive.uneventful {k : String} {w w' : World φ} {stages : List MutationStage} (h : Exclusive k w stages)
    (hq : Uneventful w w') : Exclusive k w' stages := by
  obtain ⟨hh, calls, hj⟩ := hq
  refine ⟨hh ▸ h.once, fun hpos => ?_, hh ▸ h.entered, hh ▸ h.order⟩
  obtain ⟨b, hb⟩ := h.underway (hh ▸ hpos)
  exact ⟨b, hj ▸ underway_after hb calls⟩

/-- The calls that may invoke, when one of them changes its stage. -/
theorem countP_set_mayInvoke {stages : List MutationStage} {i : Nat} {m : MutationStage}
    (hm : stages[i]? = some m) (m' : MutationStage) (k : String) :
    (stages.set i m').countP (MutationStage.mayInvoke k) + (if m.mayInvoke k then 1 else 0) =
      stages.countP (MutationStage.mayInvoke k) + (if m'.mayInvoke k then 1 else 0) := by
  obtain ⟨hi, rfl⟩ := List.getElem?_eq_some_iff.1 hm
  have hle := List.boole_getElem_le_countP (p := MutationStage.mayInvoke k) hi
  rw [List.countP_set hi]
  omega

theorem invocations_append_one (history : List MutationEvent) (e : MutationEvent) (k : String) :
    invocations (history ++ [e]) k = invocations history k + (if e.invokes k then 1 else 0) := by
  simp [invocations, List.countP_append, List.countP_singleton]

/-- Nobody has invoked, nor may, while the batch of the key is planned. -/
theorem Exclusive.none_of_planned {k b : String} {w w' : World φ} {stages : List MutationStage}
    (h : Exclusive k w stages) (hs : StartsBatch k b w.journal w'.journal) :
    invocations w.history k + stages.countP (MutationStage.mayInvoke k) = 0 := by
  by_contra hne
  obtain ⟨b', hkey, row', hrow', hphase'⟩ := h.underway (Nat.pos_of_ne_zero hne)
  obtain ⟨row, hrow, hphase⟩ := hs.planned
  rw [hs.keyed, Option.some.injEq] at hkey
  rw [← hkey, hrow] at hrow'
  cases hrow'
  exact hphase' hphase

/-- Every step of a call keeps what excludes. -/
theorem exclusive_step {k : String} {w w' : World φ} {stages : List MutationStage} {i : Nat}
    {m m' : MutationStage} (h : Exclusive k w stages) (hm : stages[i]? = some m)
    (hstep : MutationStep m w w' m') : Exclusive k w' (stages.set i m') := by
  have hcount := countP_set_mayInvoke hm m' k
  cases hstep with
  | uneventful hq =>
    obtain ⟨hi, rfl⟩ := List.getElem?_eq_some_iff.1 hm
    rw [List.set_getElem_self]
    exact h.uneventful hq
  | create hq =>
    have h' := h.uneventful hq
    simp only [MutationStage.mayInvoke, Bool.false_eq_true, if_false, Nat.add_zero] at hcount
    exact ⟨hcount ▸ h'.once, hcount ▸ h'.underway, hcount ▸ h'.entered, h'.order⟩
  | @start k' b _ _ c hj hs hh =>
    have hinv := invocations_append_one w.history (.started k' w.journal w'.journal) k
    have horder : StartedFirst k w'.history := hh ▸ h.order.append_one fun he => by cases he
    simp only [MutationEvent.invokes, Bool.false_eq_true, if_false, Nat.add_zero] at hinv
    rw [← hh] at hinv
    by_cases hk : k' = k
    · subst hk
      -- a call that starts under `k` finds the batch planned, so that no other was under way
      have hnone := h.none_of_planned hs
      simp only [MutationStage.mayInvoke, decide_true, if_true, Bool.false_eq_true, if_false] at hcount
      refine ⟨by omega, fun _ => ⟨b, ?_⟩, fun _ => ?_, horder⟩
      · obtain ⟨row, hrow, hphase⟩ := hs.attempting
        refine ⟨?_, row, hrow, by rw [hphase]; decide⟩
        rw [hj]
        exact keyBatch_step hs.keyed c
      · exact ⟨b, w.journal, w'.journal, by simp [hh], hs⟩
    · simp only [MutationStage.mayInvoke, decide_eq_false hk, Bool.false_eq_true, if_false] at hcount
      refine ⟨by have := h.once; omega, fun hpos => ?_, fun hpos => ?_, horder⟩
      -- what goes on under another key moves nothing under `k`
      · obtain ⟨b', hb'⟩ := h.underway (by omega)
        exact ⟨b', hj ▸ underway_step hb' c⟩
      · exact hh ▸ (h.entered (by omega)).append _
  | @invoke k' b _ _ hj hh =>
    -- a call that invokes spends what it was let in for
    have hinv := invocations_append_one w.history (.invoked k') k
    rw [← hh] at hinv
    by_cases hk : k' = k
    · subst hk
      simp only [MutationStage.mayInvoke, MutationEvent.invokes, decide_true, if_true, Bool.false_eq_true,
        if_false] at hcount hinv
      refine ⟨by have := h.once; omega, fun _ => ?_, fun hpos => ?_, ?_⟩
      · obtain ⟨b', hb'⟩ := h.underway (by omega)
        exact ⟨b', hj ▸ hb'⟩
      · exact hh ▸ (h.entered (by omega)).append _
      · exact hh ▸ h.order.append_one fun _ => h.entered (by omega)
    · simp only [MutationStage.mayInvoke, MutationEvent.invokes, decide_eq_false hk, Bool.false_eq_true,
        if_false] at hcount hinv
      refine ⟨by have := h.once; omega, fun hpos => ?_, fun hpos => ?_, ?_⟩
      · obtain ⟨b', hb'⟩ := h.underway (by omega)
        exact ⟨b', hj ▸ hb'⟩
      · exact hh ▸ (h.entered (by omega)).append _
      · refine hh ▸ h.order.append_one fun he => ?_
        cases he
        exact absurd rfl hk

/-! ## Runs -/

/-- A call of a mutation by somebody. -/
structure MutationCall (φ ω : Type) where
  coordinator : Coordinator φ ω
  caller : Caller
  request : MutationRequest

/-- The program of a call. -/
def MutationCall.program (m : MutationCall φ ω) : Op φ ω Unit := runMutation m.coordinator m.caller m.request

/-- What else happens: a call on the leases or the journal (a takeover, a recovery),
new contents of the claims table, or of the disk. -/
inductive Interference (φ : Type) where
  | journal (c : JournalCall Payload)
  | claims (table : ClaimTable)
  | disk (fs : φ)

/-- The world after an interference. -/
def Interference.run (w : World φ) : Interference φ → World φ
  | .journal c => { w with journal := w.journal.step c }
  | .claims table => { w with claims := table }
  | .disk fs => { w with fs := fs }

theorem Interference.uneventful (w : World φ) (e : Interference φ) : Uneventful w (e.run w) := by
  cases e with
  | journal c => exact ⟨rfl, [c], rfl⟩
  | claims table => exact ⟨rfl, [], rfl⟩
  | disk fs => exact ⟨rfl, [], rfl⟩

theorem Uneventful.knows {m : MutationStage} {w w' : World φ} (hq : Uneventful w w')
    (h : (mutationDiscipline φ).knows m w) : (mutationDiscipline φ).knows m w' := by
  obtain ⟨-, calls, hj⟩ := hq
  exact knows_after calls h hj

/-- A step of one call leaves true what the others know. -/
theorem MutationStep.knows {m m' n : MutationStage} {w w' : World φ} (hstep : MutationStep m w w' m')
    (h : (mutationDiscipline φ).knows n w) : (mutationDiscipline φ).knows n w' := by
  cases hstep with
  | uneventful hq => exact hq.knows h
  | create hq => exact hq.knows h
  | start c hj hs hh => exact knows_after [c] h hj
  | invoke hj hh => exact knows_after [] h hj

/-- The pool of calls on a new database beside a disk. -/
def mutationRun (fs : φ) (run : List (PoolEvent (MutationCall φ ω) (Sample ω) (Interference φ))) : World φ :=
  (after (Pool.step MutationCall.program Interference.run) ⟨World.init fs, []⟩ run).state

/-- A call that starts may not invoke yet. -/
theorem Exclusive.call {k : String} {w : World φ} {stages : List MutationStage} (h : Exclusive k w stages) :
    Exclusive k w (stages ++ [.idle]) := by
  have hcount : (stages ++ [MutationStage.idle]).countP (MutationStage.mayInvoke k) =
      stages.countP (MutationStage.mayInvoke k) := by simp [MutationStage.mayInvoke]
  exact ⟨hcount ▸ h.once, hcount ▸ h.underway, hcount ▸ h.entered, h.order⟩

theorem exclusive_init (fs : φ) (k : String) : Exclusive k (World.init fs) [] where
  once := by simp [World.init, invocations]
  underway hpos := by simp [World.init, invocations] at hpos
  entered hpos := by simp at hpos
  order earlier later hsplit := by simp [World.init] at hsplit

/-- **Exactly-once mutation per idempotency key.** Of all calls with one key, in
whatever order their steps come, with calls repeated, killed and overtaken, and
leases, journal, claims and disk changed in between, the filesystem-changing call
is invoked at most once; and it comes after a transaction that found the batch of
the key planned and without records and left it attempting. -/
theorem exactly_once_mutation (fs : φ)
    (run : List (PoolEvent (MutationCall φ ω) (Sample ω) (Interference φ))) (k : String) :
    invocations (mutationRun fs run).history k ≤ 1 ∧ StartedFirst k (mutationRun fs run).history := by
  have hinit : Pool.Obeys (ι := Sample ω) (ε := OperationError) (mutationDiscipline φ) (Exclusive k)
      ⟨World.init fs, []⟩ [] :=
    ⟨rfl, fun _ _ _ ht => by simp at ht, fun _ hm => by simp at hm, exclusive_init fs k⟩
  have hprogram : ∀ call : MutationCall φ ω, Disciplined call.program .idle :=
    fun call => disciplined_runMutation call.request
  obtain ⟨stages, hobeys⟩ := Pool.pool_invariant hprogram (fun _ => trivial) (fun _ _ h => h.call)
    (fun w w' stages i m m' h _ hm hstep => ⟨exclusive_step h hm hstep, fun n hn => hstep.knows hn⟩)
    (fun w e stages h => ⟨h.uneventful (e.uneventful w), fun n hn => (e.uneventful w).knows hn⟩) run _ _ hinit
  exact ⟨Nat.le_trans (Nat.le_add_right _ _) hobeys.holds.once, hobeys.holds.order⟩

end SafeFsOps
