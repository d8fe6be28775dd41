import SafeFsOps.OperationJournal.ActionHistory
import SafeFsOps.OperationJournal.BatchMoves

/-!
# What the records of a batch say

A recovery knows of a mutation what its records say: the checkpoints, and the failure
and the details in the status of the batch or in a recovery record. A `Testimony` is
what they may say; it is *upheld* where all of them do.

> `upholds_run`: a write upholds a testimony if what it writes itself does. What the
> journal adds on its own account speaks neither of a failure nor of details.
-/

namespace SafeFsOps

open Program

variable {φ ω α β : Type}

/-- What the checkpoints of a batch, by their type, its failures, and the details of its recovery may say. -/
structure Testimony where
  checkpoint : String → Payload → Prop
  failure : FailurePayload → Prop
  details : RecoveryDetails → Prop

namespace Testimony

/-- A payload says nothing of a failure, and no details, that the testimony does not. -/
structure Admits (T : Testimony) (payload : Payload) : Prop where
  failure : ∀ f, payload.failure? = some f → T.failure f
  details : ∀ d, payload.details? = some d → T.details d

/-- All records of the batch keep to the testimony. -/
structure Upheld (T : Testimony) (b : String) (db : JournalDb Payload) : Prop where
  checkpoints : ∀ c ∈ db.checkpoints, c.batchId = b → T.checkpoint c.checkpointType c.payload
  recoveries : ∀ r ∈ db.recoveries, r.batchId = b → T.Admits r.payload
  status : ∀ row, db.batchRow b = some row → T.Admits row.statusPayload

/-- Where less may be said, more may. -/
theorem Upheld.mono {T T' : Testimony} {b : String} {db : JournalDb Payload} (h : T.Upheld b db)
    (hc : ∀ type payload, T.checkpoint type payload → T'.checkpoint type payload)
    (hf : ∀ f, T.failure f → T'.failure f) (hd : ∀ d, T.details d → T'.details d) : T'.Upheld b db where
  checkpoints c hmem hb := hc _ _ (h.checkpoints c hmem hb)
  recoveries r hmem hb :=
    ⟨fun f hfail => hf f ((h.recoveries r hmem hb).failure f hfail),
      fun d hdetails => hd d ((h.recoveries r hmem hb).details d hdetails)⟩
  status row hrow :=
    ⟨fun f hfail => hf f ((h.status row hrow).failure f hfail),
      fun d hdetails => hd d ((h.status row hrow).details d hdetails)⟩

end Testimony

/-- What a write says of the batch. -/
def JournalWrite.Says (T : Testimony) (b : String) : JournalWrite Payload → Prop
  | recordCheckpoint b' _ type payload .. => b' = b → T.checkpoint type (payloadToJson payload)
  | startBatchOperation b' _ _ _ _ status => b' = b → ∀ s, status = some s → T.Admits s
  | markAttempting b' payload | markSucceeded b' payload | markFailed b' _ payload =>
    b' = b → T.Admits (payloadToJson payload)
  | recordRecoveryDesired b' note | startRecovery b' note | recordRecoverySucceeded b' _ note
  | recordRecoveryFailed b' _ note | recordInterruptedRecoveryDesired b' _ note
  | recordLeaseLostRecoveryDesired b' _ note => b' = b → T.Admits (payloadToJson note.payload)
  | _ => True

/-! ## The primitive changes -/

section Primitives

variable {T : Testimony} {b : String} {db db' : JournalDb Payload} {ctx : WriteContext}

/-- Rows of other tables. -/
theorem Testimony.Upheld.congr (h : T.Upheld b db) (hc : db'.checkpoints = db.checkpoints)
    (hr : db'.recoveries = db.recoveries) (hb : db'.batches = db.batches) : T.Upheld b db' where
  checkpoints := by rw [hc]; exact h.checkpoints
  recoveries := by rw [hr]; exact h.recoveries
  status := by rw [JournalDb.batchRow, hb]; exact h.status

theorem upheld_updateBatch {b' : String} {f : BatchRow Payload → BatchRow Payload} (h : T.Upheld b db)
    (hf : KeepsBatch f)
    (hstatus : b' = b → ∀ row, (f row).statusPayload = row.statusPayload ∨ T.Admits (f row).statusPayload) :
    T.Upheld b (db.updateBatch b' f) where
  checkpoints := h.checkpoints
  recoveries := h.recoveries
  status := by
    intro row hrow
    rw [batchRow_updateBatch hf] at hrow
    split at hrow
    · next hb =>
      obtain ⟨row', hrow', rfl⟩ := Option.map_eq_some_iff.1 hrow
      rcases hstatus hb.symm row' with hsame | hadmits
      · rw [hsame]
        exact h.status row' hrow'
      · exact hadmits
    · exact h.status row hrow

theorem upheld_insertRecovery {r : RecoveryRow Payload} (h : T.Upheld b db)
    (hr : r.batchId = b → T.Admits r.payload) (hins : insertRecovery db r = .ok db') : T.Upheld b db' := by
  simp only [insertRecovery, bind_eq_ok, pure_eq_ok] at hins
  obtain ⟨recoveries, hins, rfl⟩ := hins
  obtain ⟨rfl, -⟩ := insertRow_eq_ok hins
  refine ⟨h.checkpoints, ?_, h.status⟩
  intro r' hr'
  rcases List.mem_append.1 hr' with hr' | hr'
  · exact h.recoveries r' hr'
  · rw [List.mem_singleton.1 hr']
    exact hr

theorem admits_none {p : Payload} (h : p.failure? = none) (hd : p.details? = none) : T.Admits p where
  failure f hf := by
    rw [h] at hf
    cases hf
  details d hdetails := by
    rw [hd] at hdetails
    cases hdetails

/-- A handoff speaks of leases only. -/
theorem upheld_handoff {row : BatchRow Payload} (h : T.Upheld b db)
    (hhand : recordRecoveryTakeoverHandoff db row ctx = .ok db') : T.Upheld b db' := by
  refine upheld_insertRecovery (upheld_updateBatch h (KeepsBatch.bindLease ctx) fun _ _ => Or.inl rfl) ?_ hhand
  exact fun _ => admits_none rfl rfl

theorem upheld_requireBatchForRecoveryWrite {b' : String} {phase : BatchPhase} {row : BatchRow Payload} {taken : Bool}
    (h : T.Upheld b db) (hguard : requireBatchForRecoveryWrite db b' phase ctx = .ok (row, taken, db')) :
    T.Upheld b db' := by
  simp only [requireBatchForRecoveryWrite, bind_eq_ok] at hguard
  obtain ⟨_, -, _, -, _, -, hguard⟩ := hguard
  split at hguard
  · simp only [pure_eq_ok, Prod.mk.injEq] at hguard
    obtain ⟨-, -, rfl⟩ := hguard
    exact h
  · split at hguard
    · simp only [bind_eq_ok, pure_eq_ok, Prod.mk.injEq] at hguard
      obtain ⟨db₁, hhand, _, -, -, -, rfl⟩ := hguard
      exact upheld_handoff h hhand
    · split at hguard <;> cases hguard

theorem upheld_requireBatchForRecoveryActionWrite {b' : String} {row : BatchRow Payload} (h : T.Upheld b db)
    (hguard : requireBatchForRecoveryActionWrite db b' ctx = .ok (row, db')) : T.Upheld b db' := by
  simp only [requireBatchForRecoveryActionWrite, bind_eq_ok] at hguard
  obtain ⟨_, -, _, -, _, -, _, -, hguard⟩ := hguard
  split at hguard
  · simp only [pure_eq_ok, Prod.mk.injEq] at hguard
    obtain ⟨-, rfl⟩ := hguard
    exact h
  · split at hguard
    · simp only [bind_eq_ok, pure_eq_ok, Prod.mk.injEq] at hguard
      obtain ⟨db₁, hhand, _, -, -, rfl⟩ := hguard
      exact upheld_handoff h hhand
    · cases hguard

theorem upheld_writeRecovery {b' : String} {phase : BatchPhase} {note : RecoveryNote Payload}
    {bind : BatchRow Payload → BatchRow Payload} {r : RecoveryRow Payload} (h : T.Upheld b db)
    (hbind : KeepsBatch bind) (hnote : b' = b → T.Admits (payloadToJson note.payload))
    (hwrite : writeRecovery db b' phase note bind ctx = .ok (r, db')) : T.Upheld b db' := by
  simp only [writeRecovery, bind_eq_ok, pure_eq_ok, Prod.mk.injEq] at hwrite
  obtain ⟨db₁, hins, -, rfl⟩ := hwrite
  refine upheld_insertRecovery (upheld_updateBatch h ((KeepsBatch.setPhase phase note.reason _ ctx.now).comp hbind)
    fun hb _ => Or.inr (hnote hb)) hnote hins

theorem upheld_transitionBatch {b' : String} {phase : BatchPhase} {message : Option String} {status : Option Payload}
    {r : BatchRow Payload} (h : T.Upheld b db) (hstatus : b' = b → T.Admits (payloadToJson status))
    (htransition : transitionBatch db b' phase message status ctx = .ok (r, db')) : T.Upheld b db' := by
  simp only [transitionBatch, bind_eq_ok, pure_eq_ok, Prod.mk.injEq] at htransition
  obtain ⟨_, -, _, -, _, -, _, -, -, rfl⟩ := htransition
  exact upheld_updateBatch h (KeepsBatch.setPhase _ _ _ _) fun hb _ => Or.inr (hstatus hb)

theorem upheld_recordRecoveryPhase {b' : String} {phase : BatchPhase} {attempt : Option String}
    {note : RecoveryNote Payload} {r : RecoveryRow Payload} (h : T.Upheld b db)
    (hnote : b' = b → T.Admits (payloadToJson note.payload))
    (hrecord : recordRecoveryPhase db b' phase attempt note ctx = .ok (r, db')) : T.Upheld b db' := by
  simp only [recordRecoveryPhase, bind_eq_ok] at hrecord
  obtain ⟨_, -, ⟨row, taken, db₁⟩, hguard, _, -, _, -, hwrite⟩ := hrecord
  exact upheld_writeRecovery (upheld_requireBatchForRecoveryWrite h hguard) KeepsBatch.id hnote hwrite

end Primitives

/-! ## All writes -/

section Writes

variable {T : Testimony} {b : String} {db db' : JournalDb Payload} {ctx : WriteContext}

theorem upheld_recordCheckpoint {b' key type : String} {payload : Option Payload} {op id attempt : Option String}
    {c : CheckpointRow Payload} (h : T.Upheld b db) (hsaid : b' = b → T.checkpoint type (payloadToJson payload))
    (hrecord : recordCheckpoint db b' key type payload op id attempt ctx = .ok (c, db')) : T.Upheld b db' := by
  simp only [recordCheckpoint, bind_eq_ok, pure_eq_ok, Prod.mk.injEq] at hrecord
  obtain ⟨_, -, _, -, _, -, ⟨row, db₁⟩, hguard, _, -, _, -, checkpoints, hins, -, rfl⟩ := hrecord
  have h₁ : T.Upheld b db₁ := by
    cases attempt with
    | none =>
      simp only [requireBatchForCheckpoint, bind_eq_ok, pure_eq_ok, Prod.mk.injEq] at hguard
      obtain ⟨_, -, _, -, -, rfl⟩ := hguard
      exact h
    | some a =>
      simp only [requireBatchForCheckpoint, bind_eq_ok, pure_eq_ok, Prod.mk.injEq] at hguard
      obtain ⟨⟨row', db₂⟩, hguard, _, -, -, rfl⟩ := hguard
      exact upheld_requireBatchForRecoveryActionWrite h hguard
  obtain ⟨rfl, -⟩ := insertRow_eq_ok hins
  refine ⟨?_, h₁.recoveries, h₁.status⟩
  intro c' hc'
  rcases List.mem_append.1 hc' with hc' | hc'
  · exact h₁.checkpoints c' hc'
  · rw [List.mem_singleton.1 hc']
    exact hsaid

/-- A started batch has a status, and nothing else to say. -/
theorem upheld_startBatchOperation {b' op : String} {key id : Option String} {payload status : Option Payload}
    {r : BatchRow Payload} {o : OperationRow Payload} (h : T.Upheld b db)
    (hsaid : b' = b → ∀ s, status = some s → T.Admits s)
    (hstart : startBatchOperation db b' op key payload id status ctx = .ok (r, o, db')) : T.Upheld b db' := by
  simp only [startBatchOperation, bind_eq_ok, pure_eq_ok, Prod.mk.injEq] at hstart
  obtain ⟨_, -, _, -, _, -, row, -, _, -, db₁, hins, started, -, -, -, rfl⟩ := hstart
  simp only [insertOperation, bind_eq_ok, pure_eq_ok] at hins
  obtain ⟨operations, -, rfl⟩ := hins
  have hbound : T.Upheld b (if row.leaseFencingToken = ctx.lease.fencingToken then db
      else db.updateBatch b' fun r => r.bindLease ctx) := by
    split
    · exact h
    · exact upheld_updateBatch h (KeepsBatch.bindLease ctx) fun _ _ => Or.inl rfl
  refine upheld_updateBatch (hbound.congr rfl rfl rfl) (KeepsBatch.setPhase _ _ _ _) fun hb _ => Or.inr ?_
  cases hs : status with
  | none => exact admits_none rfl rfl
  | some s => exact hsaid hb s hs

/-- Recovery actions are other records. -/
theorem upheld_recordRecoveryAction {b' attempt : String} {status : RecoveryActionStatus}
    {type key reason action record : Option String} {payload : Option Payload} {r : RecoveryActionRow Payload}
    (h : T.Upheld b db)
    (hrecord : recordRecoveryAction db b' attempt status type key reason payload action record ctx = .ok (r, db')) :
    T.Upheld b db' := by
  simp only [recordRecoveryAction, bind_eq_ok, pure_eq_ok, Prod.mk.injEq] at hrecord
  obtain ⟨_, -, _, -, ⟨row, db₁⟩, hguard, _, -, _, -, _, -, actions, -, -, rfl⟩ := hrecord
  exact (upheld_requireBatchForRecoveryActionWrite h hguard).congr rfl rfl rfl

theorem upheld_recordArtifactCleanup {b' artifact : String} {status : ArtifactCleanupStatus}
    {trigger : Option ArtifactCleanupTrigger} {key reason record : Option String} {payload : Option Payload}
    {r : ArtifactCleanupRow Payload} (h : T.Upheld b db)
    (hrecord : recordArtifactCleanup db b' artifact status trigger key reason payload record ctx = .ok (r, db')) :
    T.Upheld b db' := by
  simp only [recordArtifactCleanup, bind_eq_ok, pure_eq_ok, Prod.mk.injEq] at hrecord
  obtain ⟨_, -, _, -, _, -, _, -, _, -, _, -, cleanups, -, -, rfl⟩ := hrecord
  exact h.congr rfl rfl rfl

/-- A write to another batch says nothing of this one. -/
theorem says_of_spares {x : JournalWrite Payload} (hx : x.batch ≠ some b) : x.Says T b := by
  cases x with
  | recordCheckpoint | startBatchOperation | markAttempting | markSucceeded | markFailed | recordRecoveryDesired
  | startRecovery | recordRecoverySucceeded | recordRecoveryFailed | recordInterruptedRecoveryDesired
  | recordLeaseLostRecoveryDesired => exact fun hb => absurd (congrArg some hb) hx
  | createBatch | appendOperation | recordAbandonedSucceededBatchRecoveryDesired | recordRecoveryActionPlanned
  | transitionRecoveryAction | recordArtifactCleanupPlanned | transitionArtifactCleanup => trivial

/-- **A write** upholds a testimony if what it says of the batch does. -/
theorem upholds_run {x : JournalWrite Payload} (h : T.Upheld b db) (hsaid : x.Says T b)
    (hrun : x.run db ctx = .ok db') : T.Upheld b db' := by
  cases x <;> simp only [JournalWrite.run, map_eq_ok, Prod.exists, exists_eq_right] at hrun
  case createBatch req id =>
    obtain ⟨row, hcreate⟩ := hrun
    obtain ⟨-, ⟨rfl, -⟩ | ⟨rfl, hrow, -, -⟩⟩ := createBatch_ok hcreate
    · exact h
    -- a batch that is new has no status payload yet, which testifies to nothing
    · refine ⟨h.checkpoints, h.recoveries, fun row' hrow' => ?_⟩
      rw [JournalDb.batchRow, findRow_append_one] at hrow'
      rcases Option.or_eq_some_iff.1 hrow' with hold | ⟨-, hnew⟩
      · exact h.status row' hold
      · split at hnew
        · cases hnew
          rw [hrow]
          exact admits_none rfl rfl
        · cases hnew
  case appendOperation =>
    obtain ⟨_, happend⟩ := hrun
    simp only [SafeFsOps.appendOperation, bind_eq_ok, pure_eq_ok, Prod.mk.injEq] at happend
    obtain ⟨_, -, _, -, _, -, _, -, _, -, db₁, hins, -, rfl⟩ := happend
    simp only [insertOperation, bind_eq_ok, pure_eq_ok] at hins
    obtain ⟨operations, -, rfl⟩ := hins
    exact h.congr rfl rfl rfl
  -- the writes with a payload of their own: what they say is admitted
  case startBatchOperation =>
    obtain ⟨_, _, hstart⟩ := hrun
    exact upheld_startBatchOperation h hsaid hstart
  case recordCheckpoint =>
    obtain ⟨_, hrecord⟩ := hrun
    exact upheld_recordCheckpoint h hsaid hrecord
  case markAttempting =>
    obtain ⟨_, hmark⟩ := hrun
    exact upheld_transitionBatch h hsaid hmark
  case markSucceeded =>
    obtain ⟨_, hmark⟩ := hrun
    exact upheld_transitionBatch h hsaid hmark
  case markFailed =>
    obtain ⟨_, hmark⟩ := hrun
    simp only [SafeFsOps.markFailed, bind_eq_ok] at hmark
    obtain ⟨_, -, hmark⟩ := hmark
    exact upheld_transitionBatch h hsaid hmark
  case recordRecoveryDesired =>
    obtain ⟨_, hrecord⟩ := hrun
    exact upheld_recordRecoveryPhase h hsaid hrecord
  case startRecovery =>
    obtain ⟨_, _, hstart⟩ := hrun
    simp only [SafeFsOps.startRecovery, bind_eq_ok, pure_eq_ok, Prod.mk.injEq] at hstart
    obtain ⟨_, -, ⟨row, taken, db₁⟩, hguard, _, -, ⟨rec', db₂⟩, hwrite, _, -, -, -, rfl⟩ := hstart
    exact upheld_writeRecovery (upheld_requireBatchForRecoveryWrite h hguard) KeepsBatch.id hsaid hwrite
  case recordRecoverySucceeded =>
    obtain ⟨_, hrecord⟩ := hrun
    exact upheld_recordRecoveryPhase h hsaid hrecord
  case recordRecoveryFailed =>
    obtain ⟨_, hrecord⟩ := hrun
    exact upheld_recordRecoveryPhase h hsaid hrecord
  case recordInterruptedRecoveryDesired =>
    obtain ⟨_, hrecord⟩ := hrun
    simp only [SafeFsOps.recordInterruptedRecoveryDesired, bind_eq_ok] at hrecord
    obtain ⟨_, -, _, -, _, -, _, -, hwrite⟩ := hrecord
    exact upheld_writeRecovery h (KeepsBatch.bindLease ctx) hsaid hwrite
  case recordLeaseLostRecoveryDesired =>
    obtain ⟨_, hrecord⟩ := hrun
    simp only [SafeFsOps.recordLeaseLostRecoveryDesired, bind_eq_ok] at hrecord
    obtain ⟨_, -, _, -, _, -, _, -, hwrite⟩ := hrecord
    exact upheld_writeRecovery h KeepsBatch.id hsaid hwrite
  case recordAbandonedSucceededBatchRecoveryDesired =>
    simp only [SafeFsOps.recordAbandonedSucceededBatchRecoveryDesired, bind_eq_ok] at hrun
    obtain ⟨_, -, hrun⟩ := hrun
    split at hrun
    · cases hrun
    · split at hrun
      · simp only [pure_eq_ok] at hrun
        exact hrun ▸ h
      · simp only [bind_eq_ok, pure_eq_ok] at hrun
        obtain ⟨_, -, _, -, ⟨record, db₁⟩, hwrite, rfl⟩ := hrun
        refine upheld_writeRecovery h ?_ (fun _ => admits_none rfl rfl) hwrite
        exact fun _ => rfl
  -- the action and cleanup tables hold no evidence
  case recordRecoveryActionPlanned =>
    obtain ⟨_, hrecord⟩ := hrun
    simp only [SafeFsOps.recordRecoveryActionPlanned, bind_eq_ok] at hrecord
    obtain ⟨_, -, hrecord⟩ := hrecord
    exact upheld_recordRecoveryAction h hrecord
  case transitionRecoveryAction =>
    obtain ⟨_, hrecord⟩ := hrun
    exact upheld_recordRecoveryAction h hrecord
  case recordArtifactCleanupPlanned =>
    obtain ⟨_, hrecord⟩ := hrun
    exact upheld_recordArtifactCleanup h hrecord
  case transitionArtifactCleanup =>
    obtain ⟨_, hrecord⟩ := hrun
    exact upheld_recordArtifactCleanup h hrecord

end Writes

/-! ## Steps that write down -/

/-- A step that writes down no more of batch `b` than `T` allows, and leaves the disk alone. -/
structure Notes (T : Testimony) (b : String) (w w' : World φ) : Prop where
  fs : w'.fs = w.fs
  /-- no batch comes or goes under a key -/
  key : ∀ k, (w'.journal.batchRowByIdempotencyKey k).map BatchRow.batchId =
    (w.journal.batchRowByIdempotencyKey k).map BatchRow.batchId
  grows : Grows w.journal w'.journal
  upholds : T.Upheld b w.journal → T.Upheld b w'.journal
  kept : ActionsKept w.journal → ActionsKept w'.journal

/-- Every step of the program only writes down. -/
def AllNote (T : Testimony) (b : String) (p : Op φ ω α) : Prop := EachStep (Notes T b) p

section Notes

variable {T : Testimony} {b : String}

protected theorem Notes.refl (w : World φ) : Notes T b w w := ⟨rfl, fun _ => rfl, Grows.refl, id, id⟩

protected theorem Notes.trans {w w₁ w₂ : World φ} (h₁ : Notes T b w w₁) (h₂ : Notes T b w₁ w₂) : Notes T b w w₂ :=
  ⟨h₂.fs.trans h₁.fs, fun k => (h₂.key k).trans (h₁.key k), h₁.grows.trans h₂.grows, fun h => h₂.upholds (h₁.upholds h),
    fun h => h₂.kept (h₁.kept h)⟩

theorem note_ret (a : α) : AllNote T b (.ret a : Op φ ω α) := trivial

theorem note_raise (e : OperationError) : AllNote T b (.raise e : Op φ ω α) := trivial

theorem note_bind {p : Op φ ω α} {f : α → Op φ ω β} (hp : AllNote T b p) (hf : ∀ a, AllNote T b (f a)) :
    AllNote T b (p >>= f) := eachStep_bind hf hp

theorem note_ite {c : Prop} [Decidable c] {p q : Op φ ω α} (hp : AllNote T b p) (hq : AllNote T b q) :
    AllNote T b (if c then p else q) := by
  split
  · exact hp
  · exact hq

theorem note_transaction {act : Sample ω → World φ → Except OperationError (α × World φ)}
    (h : ∀ i w a w', act i w = .ok (a, w') → Notes T b w w') : AllNote T b (transaction act) := by
  refine eachStep_call fun i w => ?_
  split
  · exact Notes.refl w
  · split
    · next a w' hact => exact h i w a w' hact
    · exact Notes.refl w

theorem note_databaseRead (read : Sample ω → World φ → Except OperationError α) : AllNote T b (databaseRead read) := by
  refine note_transaction fun i w a w' h => ?_
  obtain ⟨a', -, heq⟩ := map_eq_ok.1 h
  cases heq
  exact Notes.refl w

theorem note_fsRead (read : ω → φ → Except FilesystemError α) : AllNote T b (fsRead read) :=
  eachStep_call fun _ w => Notes.refl w

/-- A write of an existing batch, where it is accepted. -/
theorem notes_run {x : JournalWrite Payload} {w : World φ} {ctx : WriteContext} {db : JournalDb Payload}
    (hx : x.batch.isSome = true) (hsaid : x.Says T b) (hnew : (JournalCall.write x ctx).DrawsNewActionId w.journal)
    (hrun : x.run w.journal ctx = .ok db) : Notes T b w { w with journal := db } := by
  obtain ⟨b', hb'⟩ := Option.isSome_iff_exists.1 hx
  have hstep : w.journal.step (.write x ctx) = db := by simp only [JournalDb.step, hrun]
  refine ⟨rfl, (run_advances hb' hrun).key, ?_, fun hT => upholds_run hT hsaid hrun, fun hkept => ?_⟩
  · exact hstep ▸ grows_step w.journal (.write x ctx)
  · exact hstep ▸ actionsKept_step w.journal (.write x ctx) hnew hkept

theorem note_journalWrite {h : LeaseHolder}
    {write : JournalDb Payload → WriteContext → Except JournalError (α × JournalDb Payload)}
    (hwrite : ∀ db ctx a db', write db ctx = .ok (a, db') → ∃ x : JournalWrite Payload, x.batch.isSome = true ∧
      x.Says T b ∧ (JournalCall.write x ctx).DrawsNewActionId db ∧ x.run db ctx = .ok db') :
    AllNote T b (journalWrite h write : Op φ ω α) := by
  refine note_transaction fun i w a w' hact => ?_
  split at hact
  · next a' db hok =>
    cases hact
    obtain ⟨x, hx, hsaid, hnew, hrun⟩ := hwrite _ _ _ _ hok
    exact notes_run hx hsaid hnew hrun
  · cases hact

theorem note_heartbeatOnce (h : LeaseHolder) : AllNote T b (heartbeatOnce h : Op φ ω Unit) := by
  refine note_transaction fun i w a w' hact => ?_
  split at hact
  · cases hact
  · cases hact
  · cases hact
    refine ⟨rfl, fun _ => rfl, Grows.of_batches rfl, fun hT => hT.congr rfl rfl rfl, fun hkept => ?_⟩
    exact ⟨hkept.numbered.congr fun T => by cases T <;> rfl, hkept.attempt, hkept.history⟩

theorem note_unlessLeaseLost {p : Op φ ω α} {lost next : Op φ ω β} (hp : AllNote T b p)
    (hl : AllNote T b lost) (hn : AllNote T b next) : AllNote T b (unlessLeaseLost p lost next) := by
  refine note_bind (eachStep_outcome hp) fun r => ?_
  cases r with
  | ok a => exact hn
  | error e => exact note_ite hl (note_raise e)

theorem note_getBatch (batchId : String) : AllNote T b (getBatch batchId : Op φ ω (Option (BatchRow Payload))) :=
  note_databaseRead _

theorem note_requireAuthority {c : Caller} {resourceKey : String} :
    AllNote T b (requireAuthority c resourceKey : Op φ ω Unit) :=
  note_bind (note_databaseRead _) fun _ => note_bind (note_databaseRead _) fun _ => eachStep_ofExcept _

/-- What a program that only writes down leaves. -/
theorem along_note {C : Sample ω → World φ → Prop} {p : Op φ ω α} (h : AllNote T b p) (w : World φ) :
    Along C (fun _ w' => Notes T b w w') (fun _ w' => Notes T b w w') p w :=
  along_eachStep (fun _ _ hstep hI => ⟨hI.trans hstep, hI.trans hstep⟩) h (Notes.refl w)

end Notes

/-! ## The writes of a mutation -/

section Mutations

variable {T : Testimony} {b : String} {h : LeaseHolder} {c : Caller} {C : Coordinator φ ω}

theorem note_recordCheckpointStep {batchId resourceKey type : String} {payload : Payload} {op : Option String}
    (hsaid : batchId = b → T.checkpoint type payload) :
    AllNote T b (recordCheckpointStep h batchId resourceKey type payload op : Op φ ω (CheckpointRow Payload)) := by
  refine note_journalWrite fun db ctx a db' hw =>
    ⟨.recordCheckpoint batchId resourceKey type (some payload) op none none, rfl, hsaid, trivial, ?_⟩
  simp only [JournalWrite.run, hw, Except.map]

theorem note_markSucceededStep {batchId : String} {result : Payload} (hsaid : batchId = b → T.Admits result) :
    AllNote T b (markSucceededStep h batchId result : Op φ ω (BatchRow Payload)) := by
  refine note_journalWrite fun db ctx a db' hw => ⟨.markSucceeded batchId (some result), rfl, hsaid, trivial, ?_⟩
  simp only [JournalWrite.run, hw, Except.map]

theorem note_markFailedStep {batchId error : String} {observed : Payload} (hsaid : batchId = b → T.Admits observed) :
    AllNote T b (markFailedStep h batchId error observed : Op φ ω (BatchRow Payload)) := by
  refine note_journalWrite fun db ctx a db' hw => ⟨.markFailed batchId error (some observed), rfl, hsaid, trivial, ?_⟩
  simp only [JournalWrite.run, hw, Except.map]

theorem note_recordRecoveryDesiredStep {batchId reason : String} {payload : Payload}
    (hsaid : batchId = b → T.Admits payload) :
    AllNote T b (recordRecoveryDesiredStep h batchId reason payload : Op φ ω (RecoveryRow Payload)) := by
  refine note_journalWrite fun db ctx a db' hw =>
    ⟨.recordRecoveryDesired batchId ⟨some reason, some payload, none⟩, rfl, hsaid, trivial, ?_⟩
  simp only [JournalWrite.run, hw, Except.map]

theorem note_recordLeaseLostStep {batchId resourceKey reason : String} {payload : Payload}
    (hsaid : batchId = b → T.Admits payload) : AllNote T b
      (recordLeaseLostRecoveryDesiredStep h batchId resourceKey reason payload : Op φ ω (RecoveryRow Payload)) := by
  refine note_journalWrite fun db ctx a db' hw =>
    ⟨.recordLeaseLostRecoveryDesired batchId (some resourceKey) ⟨some reason, some payload, none⟩, rfl, hsaid, trivial,
      ?_⟩
  simp only [JournalWrite.run, hw, Except.map]

theorem note_recordInterruptedStep {batchId reason : String} {resourceKey : Option String} {payload : Payload}
    (hsaid : batchId = b → T.Admits payload) : AllNote T b
      (recordInterruptedRecoveryDesiredStep h batchId resourceKey reason payload : Op φ ω (RecoveryRow Payload)) := by
  refine note_journalWrite fun db ctx a db' hw =>
    ⟨.recordInterruptedRecoveryDesired batchId resourceKey ⟨some reason, some payload, none⟩, rfl, hsaid, trivial, ?_⟩
  simp only [JournalWrite.run, hw, Except.map]

theorem note_recordArtifactCleanupPlannedStep {batchId artifactId : String} {trigger : ArtifactCleanupTrigger}
    {resourceKey : Option String} {payload : Payload} : AllNote T b
      (recordArtifactCleanupPlannedStep h batchId artifactId trigger resourceKey payload :
        Op φ ω (ArtifactCleanupRow Payload)) := by
  refine note_journalWrite fun db ctx a db' hw =>
    ⟨.recordArtifactCleanupPlanned batchId artifactId trigger resourceKey (some payload) none, rfl, trivial, trivial,
      ?_⟩
  simp only [JournalWrite.run, hw, Except.map]

theorem note_startBatchOperationStep {batchId resourceKey : String} {operationType : OperationType} {intent : Intent} :
    AllNote T b (startBatchOperationStep c batchId operationType resourceKey intent :
      Op φ ω (BatchRow Payload × OperationRow Payload)) := by
  refine note_transaction fun i w a w' hact => ?_
  split at hact
  · next batch operation db hstart =>
    cases hact
    have hrun : (JournalWrite.startBatchOperation batchId operationType.text (some resourceKey) (some (.intent intent))
        none none).run w.journal (c.context i) = .ok db := by
      simp only [JournalWrite.run, hstart, Except.map]
    have hsaid : (JournalWrite.startBatchOperation batchId operationType.text (some resourceKey)
        (some (.intent intent)) none none).Says T b := fun _ s hs => by cases hs
    have hnotes : Notes T b w { w with journal := db } := notes_run (by rfl) hsaid trivial hrun
    exact ⟨rfl, hnotes.key, hnotes.grows, hnotes.upholds, hnotes.kept⟩
  · cases hact

theorem note_recordInterruptedIfTakenOver {batch : BatchRow Payload} {resourceKey reason : String} :
    AllNote T b (recordInterruptedIfTakenOver c batch resourceKey reason : Op φ ω Unit) :=
  note_ite (note_ret _) <| note_ite (note_ret _) <|
    note_bind (note_recordInterruptedStep fun _ => admits_none rfl rfl) fun _ => note_ret _

/-- Putting a failed batch up for recovery says what the failure says. -/
theorem note_recordFailure {batchId resourceKey error reason : String} {failure : FailurePayload}
    {details : RecoveryDetails} (hfailure : ∀ f, details.failure = some f → T.failure f)
    (hdetails : T.details details) :
    AllNote T b (recordFailure c batchId resourceKey error reason failure details : Op φ ω Unit) := by
  have hsaid : T.Admits (.recovery details) := ⟨hfailure, fun d hd => by cases hd; exact hdetails⟩
  have hlost : AllNote T b (do
      let _ ← recordLeaseLostRecoveryDesiredStep c batchId resourceKey reason (.recovery details)
      return () : Op φ ω Unit) := note_bind (note_recordLeaseLostStep fun _ => hsaid) fun _ => note_ret _
  refine note_unlessLeaseLost (note_markFailedStep fun _ => admits_none rfl rfl) hlost ?_
  exact note_unlessLeaseLost (note_recordRecoveryDesiredStep fun _ => hsaid) hlost (note_ret _)

/-- A failure before anything was seen. -/
theorem note_recordBeforeSnapshotFailure {batchId resourceKey : String} {path : Path} {recovery : RecoveryDetails}
    {e : OperationError} (hblind : ∀ f : FailurePayload, f.snapshot = none → T.failure f)
    (hdetails : ∀ key failure, T.details { recovery with resourceKey := key, failure := failure }) :
    AllNote T b (recordBeforeSnapshotFailure c batchId path resourceKey recovery e : Op φ ω Unit) := by
  refine note_recordFailure (fun f hf => ?_) (hdetails _ _)
  cases hf
  exact hblind _ rfl

/-- A failure of the mutation itself. -/
theorem note_recordMutationFailure {batchId resourceKey : String} {path : Path} {before : ResourceSnapshot}
    {recovery : RecoveryDetails} {stage : Option String} {e : OperationError}
    (hcheckpoint : ∀ s, batchId = b → T.checkpoint "failure" (.snapshot s none)) (hfailure : ∀ f, T.failure f)
    (hdetails : ∀ key before failure, T.details
      { recovery with resourceKey := key, before := before, failure := failure }) :
    AllNote T b (recordMutationFailure C c batchId path resourceKey before recovery stage e) := by
  refine note_bind (eachStep_outcome (note_fsRead _)) fun seen => ?_
  cases seen with
  | error e => exact note_recordFailure (fun f _ => hfailure f) (hdetails _ _ _)
  | ok snapshot =>
    refine note_unlessLeaseLost (note_recordCheckpointStep (hcheckpoint snapshot)) ?_
      (note_recordFailure (fun f _ => hfailure f) (hdetails _ _ _))
    refine note_bind (note_recordLeaseLostStep fun _ => ⟨fun f _ => hfailure f, fun d hd => ?_⟩) fun _ => note_ret _
    cases hd
    exact hdetails _ _ _

/-- A failure after the change: what was seen is its `after`, and it has no snapshot. -/
theorem note_recordPostMutationFailure {batchId resourceKey stage : String} {path : Path} {before : ResourceSnapshot}
    {after : Option ResourceSnapshot} {recovery : RecoveryDetails} {e : OperationError}
    (hblind : ∀ f : FailurePayload, f.snapshot = none → T.failure f)
    (hdetails : ∀ key before failure, T.details
      { recovery with resourceKey := key, before := before, failure := failure }) :
    AllNote T b (recordPostMutationFailure C c batchId path resourceKey before after recovery stage e) := by
  have hafter : AllNote T b (afterPayload C path after (failurePayload path resourceKey (some stage) e)) ∧
      Yields (fun f : FailurePayload => f.snapshot = none)
        (afterPayload C path after (failurePayload path resourceKey (some stage) e)) := by
    cases after with
    | some snapshot => exact ⟨note_ret _, rfl⟩
    | none =>
      refine ⟨note_bind (eachStep_outcome (note_fsRead _)) fun seen => ?_, yields_bind fun seen => ?_⟩
      · cases seen <;> exact note_ret _
      · cases seen <;> exact rfl
  refine eachStep_yields (fun failure hsnapshot => note_recordFailure (fun f hf => ?_) (hdetails _ _ _)) hafter.1
    hafter.2
  cases hf
  exact hblind _ hsnapshot

end Mutations

end SafeFsOps
