import Mathlib.Data.List.Perm.Basic
import SafeFsOps.OperationJournal.Advances

/-!
# What a write does, row by row

`Advances` speaks of what a write does to a batch's phase and recovery. Here a write
is taken apart once more, into the rows it inserts and the columns it updates, in all
five tables that hold the records of a batch:

> `run_writes`: a write that succeeds updates columns of its batch, which it binds at
> most to its own lease, and inserts rows of the batch, each numbered by
> `_next_sequence` of the database it goes into, and only into the tables of its kind
> (`JournalWrite.tables`), the write's own record last.

`Writes` is an induction over these changes: what one update and one insertion keep,
every write keeps.
-/

namespace SafeFsOps

open SequencedRow

variable {π : Type}

/-! ## The five tables as one -/

/-- The tables whose rows are numbered within their batch. -/
inductive RecordTable where
  | operations | checkpoints | recoveries | recoveryActions | artifactCleanups
deriving DecidableEq

/-- The rows of a table. -/
def RecordTable.Row (π : Type) : RecordTable → Type
  | operations => OperationRow π
  | checkpoints => CheckpointRow π
  | recoveries => RecoveryRow π
  | recoveryActions => RecoveryActionRow π
  | artifactCleanups => ArtifactCleanupRow π

instance RecordTable.sequenced : (T : RecordTable) → SequencedRow (T.Row π)
  | operations => inferInstanceAs (SequencedRow (OperationRow π))
  | checkpoints => inferInstanceAs (SequencedRow (CheckpointRow π))
  | recoveries => inferInstanceAs (SequencedRow (RecoveryRow π))
  | recoveryActions => inferInstanceAs (SequencedRow (RecoveryActionRow π))
  | artifactCleanups => inferInstanceAs (SequencedRow (ArtifactCleanupRow π))

namespace JournalDb

/-- The rows of a table, in the order of their insertion. -/
def rows (db : JournalDb π) : (T : RecordTable) → List (T.Row π)
  | .operations => db.operations
  | .checkpoints => db.checkpoints
  | .recoveries => db.recoveries
  | .recoveryActions => db.recoveryActions
  | .artifactCleanups => db.artifactCleanups

/-- The database with another content of one table. -/
def setRows (db : JournalDb π) : (T : RecordTable) → List (T.Row π) → JournalDb π
  | .operations, t => { db with operations := t }
  | .checkpoints, t => { db with checkpoints := t }
  | .recoveries, t => { db with recoveries := t }
  | .recoveryActions, t => { db with recoveryActions := t }
  | .artifactCleanups, t => { db with artifactCleanups := t }

@[simp] theorem rows_setRows (db : JournalDb π) (T : RecordTable) (t : List (T.Row π)) :
    (db.setRows T t).rows T = t := by cases T <;> rfl

theorem rows_setRows_ne (db : JournalDb π) {T T' : RecordTable} (h : T' ≠ T) (t : List (T.Row π)) :
    (db.setRows T t).rows T' = db.rows T' := by
  cases T <;> cases T' <;> first | rfl | exact absurd rfl h

@[simp] theorem batches_setRows (db : JournalDb π) (T : RecordTable) (t : List (T.Row π)) :
    (db.setRows T t).batches = db.batches := by cases T <;> rfl

/-- The numbers of a batch's records, table by table. -/
def sequences (db : JournalDb π) (b : String) : List Nat :=
  numbersOf (db.rows .operations) b ++ (numbersOf (db.rows .checkpoints) b ++
    (numbersOf (db.rows .recoveries) b ++ (numbersOf (db.rows .recoveryActions) b ++
      numbersOf (db.rows .artifactCleanups) b)))

theorem mem_sequences {db : JournalDb π} {b : String} {n : Nat} :
    n ∈ db.sequences b ↔ ∃ T, n ∈ numbersOf (db.rows T) b := by
  simp only [sequences, List.mem_append]
  constructor
  · rintro (h | h | h | h | h)
    exacts [⟨_, h⟩, ⟨_, h⟩, ⟨_, h⟩, ⟨_, h⟩, ⟨_, h⟩]
  · intro ⟨T, h⟩
    cases T <;> simp only [h, true_or, or_true]

/-- The counter is one past the numbers of all five tables. -/
theorem nextSequence_eq (db : JournalDb π) (b : String) : db.nextSequence b = (db.sequences b).foldl max 0 + 1 := by
  rw [sequences, foldl_max_two, foldl_max_two, foldl_max_two, foldl_max_two]
  rfl

theorem lt_nextSequence {db : JournalDb π} {b : String} {n : Nat} (h : n ∈ db.sequences b) :
    n < db.nextSequence b := by
  rw [nextSequence_eq]
  exact Nat.lt_succ_of_le ((le_foldl_max _ 0).2 n h)

/-- A row inserted is the last of its batch in its table; other tables are as they were. -/
theorem numbersOf_insert (db : JournalDb π) (T T' : RecordTable) (r : T.Row π) (b : String) :
    numbersOf ((db.setRows T (db.rows T ++ [r])).rows T') b =
      numbersOf (db.rows T') b ++ if T' = T ∧ rowGroup r = b then [rowSequence r] else [] := by
  by_cases hT : T' = T
  · subst hT
    rw [rows_setRows, numbersOf_append_one]
    simp only [true_and]
  · rw [rows_setRows_ne db hT, if_neg fun h => hT h.1, List.append_nil]

/-- Inserting a row adds its number to those of its batch. -/
theorem sequences_insert (db : JournalDb π) (T : RecordTable) (r : T.Row π) (b : String) :
    ((db.setRows T (db.rows T ++ [r])).sequences b).Perm
      (db.sequences b ++ if rowGroup r = b then [rowSequence r] else []) := by
  rw [List.perm_iff_count]
  intro n
  simp only [sequences, numbersOf_insert, List.count_append]
  cases T <;> simp only [reduceCtorEq, false_and, true_and, if_false, List.count_nil] <;> omega

end JournalDb

/-! ## The columns that bind a batch -/

/-- The columns of a batch that name its lease and its lease's holder. -/
structure LeaseBinding where
  leaseName : String
  leaseFencingToken : Nat
  leaseOwner : Option String
  leaseTokenDigest : Option TokenDigest
deriving DecidableEq

/-- What a batch is bound to. -/
def BatchRow.binding (r : BatchRow π) : LeaseBinding :=
  ⟨r.leaseName, r.leaseFencingToken, r.leaseOwner, r.leaseTokenDigest⟩

/-- What a batch bound by a lease is bound to. -/
def LeaseRecord.binding (lease : LeaseRecord) : LeaseBinding :=
  ⟨lease.name, lease.fencingToken, some lease.owner, some (leaseTokenDigest lease)⟩

/-- An update keeps the binding, or binds a batch of an older lease of the same name to the caller's:
in all columns, or, unless `W`, a succeeded batch in its fencing token only. -/
def Rebinding (ctx : WriteContext) (W : Bool) (r r' : BatchRow π) : Prop :=
  r'.binding = r.binding ∨ r.leaseName = ctx.lease.name ∧ r.leaseFencingToken < ctx.lease.fencingToken ∧
    (r'.binding = ctx.lease.binding ∨ W = false ∧ r.phase = .succeeded ∧
      r'.binding = { r.binding with leaseFencingToken := ctx.lease.fencingToken })

/-! ## The changes of a write -/

/-- `db'` is `db` with columns of batch `b` updated and rows of it inserted into the tables `K`,
each numbered by the counter of the database it went into; `last` is the table of the last one. -/
inductive Writes (ctx : WriteContext) (W : Bool) (K : List RecordTable) (b : String) (db : JournalDb π) :
    Option RecordTable → JournalDb π → Prop
  | refl : Writes ctx W K b db none db
  | update {last : Option RecordTable} {d : JournalDb π} (f : BatchRow π → BatchRow π) :
    Writes ctx W K b db last d → KeepsBatch f →
    (∀ r, d.batchRow b = some r → Rebinding ctx W r (f r)) → Writes ctx W K b db last (d.updateBatch b f)
  | insert {last : Option RecordTable} {d : JournalDb π} (T : RecordTable) (r : T.Row π) :
    Writes ctx W K b db last d → T ∈ K → rowGroup r = b → rowSequence r = d.nextSequence b →
    (∀ x ∈ d.rows T, rowId x ≠ rowId r) → Writes ctx W K b db (some T) (d.setRows T (d.rows T ++ [r]))

section Writers

variable {W : Bool} {K : List RecordTable} {b : String} {db d d' : JournalDb π} {ctx : WriteContext}
  {row : BatchRow π} {last : Option RecordTable}

/-- Setting the phase binds nothing. -/
theorem Writes.setPhase (h : Writes ctx W K b db last d) (phase : BatchPhase) (message : Option String)
    (status : π) (now : DateTime) :
    Writes ctx W K b db last (d.updateBatch b fun r => r.setPhase phase message status now) :=
  h.update _ (KeepsBatch.setPhase _ _ _ _) fun _ _ => Or.inl rfl

/-- Binding a batch of an older lease. -/
theorem Writes.bindLease (h : Writes ctx W K b db last d) (hrow : d.batchRow b = some row)
    (hn : row.leaseName = ctx.lease.name) (hlt : row.leaseFencingToken < ctx.lease.fencingToken) :
    Writes ctx W K b db last (d.updateBatch b fun r => r.bindLease ctx) := by
  refine h.update _ (KeepsBatch.bindLease ctx) ?_
  intro r hr
  rw [hrow] at hr
  cases hr
  refine Or.inr ⟨hn, hlt, Or.inl ?_⟩
  rw [LeaseRecord.binding, ← hn]
  rfl

/-- An insertion under the table's constraints, numbered by the counter. -/
theorem Writes.inserted {T : RecordTable} {r : T.Row π} {t : List (T.Row π)} (h : Writes ctx W K b db last d)
    (hT : T ∈ K) (hb : rowGroup r = b) (hs : rowSequence r = d.nextSequence b)
    (hins : insertRow (d.rows T) r JournalError.integrity = .ok t) :
    Writes ctx W K b db (some T) (d.setRows T t) := by
  obtain ⟨rfl, hfresh⟩ := insertRow_eq_ok hins
  exact h.insert T r hT hb hs hfresh

theorem Writes.recovery {r : RecoveryRow π} (h : Writes ctx W K b db last d) (hT : .recoveries ∈ K)
    (hb : r.batchId = b) (hs : r.sequence = d.nextSequence b) (hins : insertRecovery d r = .ok d') :
    Writes ctx W K b db (some .recoveries) d' := by
  simp only [insertRecovery, bind_eq_ok, pure_eq_ok] at hins
  obtain ⟨recoveries, hins, rfl⟩ := hins
  exact h.inserted (T := .recoveries) hT hb hs hins

theorem Writes.operation {r : OperationRow π} (h : Writes ctx W K b db last d) (hT : .operations ∈ K)
    (hb : r.batchId = b) (hs : r.sequence = d.nextSequence b) (hins : insertOperation d r = .ok d') :
    Writes ctx W K b db (some .operations) d' := by
  simp only [insertOperation, bind_eq_ok, pure_eq_ok] at hins
  obtain ⟨operations, hins, rfl⟩ := hins
  exact h.inserted (T := .operations) hT hb hs hins

variable [JournalPayload π]

theorem handoff_writes (h : recordRecoveryTakeoverHandoff db row ctx = .ok d) (hT : .recoveries ∈ K)
    (hrow : db.batchRow row.batchId = some row) (hn : row.leaseName = ctx.lease.name)
    (hlt : row.leaseFencingToken < ctx.lease.fencingToken) :
    Writes ctx W K row.batchId db (some .recoveries) d :=
  (Writes.refl.bindLease hrow hn hlt).recovery hT rfl rfl h

/-- A recovery record with the phase it sets, after `bind`. -/
theorem writeRecovery_writes {phase : BatchPhase} {note : RecoveryNote π} {bind : BatchRow π → BatchRow π}
    {r : RecoveryRow π} (h : Writes ctx W K b db last d) (hT : .recoveries ∈ K)
    (hwrite : writeRecovery d b phase note bind ctx = .ok (r, d')) (hbind : KeepsBatch bind)
    (hrebind : ∀ r, d.batchRow b = some r → Rebinding ctx W r (bind r)) :
    Writes ctx W K b db (some .recoveries) d' := by
  simp only [writeRecovery, bind_eq_ok, pure_eq_ok, Prod.mk.injEq] at hwrite
  obtain ⟨_, hins, -, rfl⟩ := hwrite
  refine Writes.recovery (h.update _ ((KeepsBatch.setPhase phase note.reason _ ctx.now).comp hbind) ?_) hT rfl rfl hins
  exact hrebind

theorem requireBatchForRecoveryWrite_writes {phase : BatchPhase} {taken : Bool} (hT : .recoveries ∈ K)
    (h : requireBatchForRecoveryWrite db b phase ctx = .ok (row, taken, d)) :
    ∃ last, Writes ctx W K b db last d := by
  simp only [requireBatchForRecoveryWrite, bind_eq_ok, require_eq_ok] at h
  obtain ⟨_, -, r, hrow, _, hn, h⟩ := h
  have hrow := requireBatchRow_ok hrow
  have hkey : r.batchId = b := findRow_key hrow
  subst hkey
  split at h
  · simp only [pure_eq_ok, Prod.mk.injEq] at h
    obtain ⟨-, -, rfl⟩ := h
    exact ⟨none, Writes.refl⟩
  · split at h
    · next hlt =>
      simp only [bind_eq_ok, pure_eq_ok, Prod.mk.injEq] at h
      obtain ⟨_, hhand, _, -, -, -, rfl⟩ := h
      exact ⟨_, handoff_writes hhand hT hrow hn hlt.1⟩
    · split at h <;> cases h

theorem requireBatchForRecoveryActionWrite_writes (hT : .recoveries ∈ K)
    (h : requireBatchForRecoveryActionWrite db b ctx = .ok (row, d)) : ∃ last, Writes ctx W K b db last d := by
  simp only [requireBatchForRecoveryActionWrite, bind_eq_ok, require_eq_ok] at h
  obtain ⟨_, -, r, hrow, _, hn, _, -, h⟩ := h
  have hrow := requireBatchRow_ok hrow
  have hkey : r.batchId = b := findRow_key hrow
  subst hkey
  split at h
  · simp only [pure_eq_ok, Prod.mk.injEq] at h
    obtain ⟨-, rfl⟩ := h
    exact ⟨none, Writes.refl⟩
  · split at h
    · next hlt =>
      simp only [bind_eq_ok, pure_eq_ok, Prod.mk.injEq] at h
      obtain ⟨_, hhand, _, -, -, rfl⟩ := h
      exact ⟨_, handoff_writes hhand hT hrow hn hlt⟩
    · cases h

theorem requireBatchForCheckpoint_writes {attempt : Option String} (hT : .recoveries ∈ K)
    (h : requireBatchForCheckpoint db b attempt ctx = .ok (row, d)) : ∃ last, Writes ctx W K b db last d := by
  cases attempt with
  | none =>
    simp only [requireBatchForCheckpoint, bind_eq_ok, pure_eq_ok, Prod.mk.injEq] at h
    obtain ⟨_, -, _, -, -, rfl⟩ := h
    exact ⟨none, Writes.refl⟩
  | some attemptId =>
    simp only [requireBatchForCheckpoint, bind_eq_ok, pure_eq_ok, Prod.mk.injEq] at h
    obtain ⟨⟨_, _⟩, hguard, _, -, -, rfl⟩ := h
    exact requireBatchForRecoveryActionWrite_writes hT hguard

/-- The phases of a recovery, in all their variants, record one row. -/
theorem recordRecoveryPhase_writes {phase : BatchPhase} {attempt : Option String} {note : RecoveryNote π}
    {r : RecoveryRow π} (hT : .recoveries ∈ K)
    (h : recordRecoveryPhase db b phase attempt note ctx = .ok (r, d')) :
    Writes ctx W K b db (some .recoveries) d' := by
  simp only [recordRecoveryPhase, bind_eq_ok] at h
  obtain ⟨_, -, ⟨_, _, _⟩, hguard, _, -, _, -, hwrite⟩ := h
  obtain ⟨_, h⟩ := requireBatchForRecoveryWrite_writes (W := W) hT hguard
  exact writeRecovery_writes h hT hwrite KeepsBatch.id fun _ _ => Or.inl rfl

theorem transitionBatch_writes {phase : BatchPhase} {message : Option String} {status : Option π}
    {r : BatchRow π} (h : transitionBatch db b phase message status ctx = .ok (r, d')) :
    Writes ctx W K b db none d' := by
  simp only [transitionBatch, bind_eq_ok, pure_eq_ok, Prod.mk.injEq] at h
  obtain ⟨_, -, _, -, _, -, _, -, -, rfl⟩ := h
  exact Writes.refl.setPhase _ _ _ _

theorem recordRecoveryAction_writes {attempt : String} {status : RecoveryActionStatus}
    {type key reason action record : Option String} {payload : Option π} {r : RecoveryActionRow π}
    (hT : .recoveries ∈ K) (hT' : .recoveryActions ∈ K)
    (h : recordRecoveryAction db b attempt status type key reason payload action record ctx = .ok (r, d')) :
    Writes ctx W K b db (some .recoveryActions) d' := by
  simp only [recordRecoveryAction, bind_eq_ok, pure_eq_ok, Prod.mk.injEq] at h
  obtain ⟨_, -, _, -, ⟨_, d⟩, hguard, _, -, _, -, _, -, _, hins, -, rfl⟩ := h
  obtain ⟨_, h⟩ := requireBatchForRecoveryActionWrite_writes (W := W) hT hguard
  exact h.inserted (T := .recoveryActions) hT' rfl rfl hins

theorem recordArtifactCleanup_writes {artifact : String} {status : ArtifactCleanupStatus}
    {trigger : Option ArtifactCleanupTrigger} {key reason record : Option String} {payload : Option π}
    {r : ArtifactCleanupRow π} (hT : .artifactCleanups ∈ K)
    (h : recordArtifactCleanup db b artifact status trigger key reason payload record ctx = .ok (r, d')) :
    Writes ctx W K b db (some .artifactCleanups) d' := by
  simp only [recordArtifactCleanup, bind_eq_ok, pure_eq_ok, Prod.mk.injEq] at h
  obtain ⟨_, -, _, -, _, -, _, -, _, -, _, -, _, hins, -, rfl⟩ := h
  exact Writes.refl.inserted (T := .artifactCleanups) hT rfl rfl hins

end Writers

/-- The table a write's own record goes into. -/
def JournalWrite.table : JournalWrite π → Option RecordTable
  | .createBatch .. | .markAttempting .. | .markSucceeded .. | .markFailed .. => none
  | .appendOperation .. | .startBatchOperation .. => some .operations
  | .recordCheckpoint .. => some .checkpoints
  | .recordRecoveryDesired .. | .startRecovery .. | .recordRecoverySucceeded .. | .recordRecoveryFailed .. =>
    some .recoveries
  | .recordInterruptedRecoveryDesired .. | .recordLeaseLostRecoveryDesired ..
  | .recordAbandonedSucceededBatchRecoveryDesired .. => some .recoveries
  | .recordRecoveryActionPlanned .. | .transitionRecoveryAction .. => some .recoveryActions
  | .recordArtifactCleanupPlanned .. | .transitionArtifactCleanup .. => some .artifactCleanups

/-- The tables a write inserts into: its own and, with a handoff, that of the recovery records. -/
def JournalWrite.tables (w : JournalWrite π) : List RecordTable :=
  match w.table with
  | some .checkpoints => [.recoveries, .checkpoints]
  | some .recoveryActions => [.recoveries, .recoveryActions]
  | some T => [T]
  | none => []

/-- All writes but one bind a batch, if they do, in all columns. -/
def JournalWrite.bindsWhole : JournalWrite π → Bool
  | .recordAbandonedSucceededBatchRecoveryDesired .. => false
  | _ => true

section AllWrites

variable [JournalPayload π] [DecidableEq π] {db db' : JournalDb π} {ctx : WriteContext} {w : JournalWrite π}

/-- What a write that succeeds does, its own record last. Only the request for the recovery of
a succeeded batch may find nothing to do. -/
theorem run_writes {b : String} (hb : w.batch = some b) (h : w.run db ctx = .ok db') :
    Writes ctx w.bindsWhole w.tables b db w.table db' ∨ db' = db := by
  cases w <;> simp only [JournalWrite.batch, Option.some.injEq, reduceCtorEq] at hb <;> subst hb <;>
    simp only [JournalWrite.run, map_eq_ok, Prod.exists, exists_eq_right] at h
  case appendOperation =>
    obtain ⟨_, h⟩ := h
    simp only [SafeFsOps.appendOperation, bind_eq_ok, pure_eq_ok, Prod.mk.injEq] at h
    obtain ⟨_, -, _, -, _, -, _, -, _, -, _, hins, -, rfl⟩ := h
    exact Or.inl (Writes.refl.operation List.mem_cons_self rfl rfl hins)
  case startBatchOperation b op key payload id status =>
    obtain ⟨_, _, h⟩ := h
    simp only [SafeFsOps.startBatchOperation, bind_eq_ok, pure_eq_ok, Prod.mk.injEq] at h
    obtain ⟨_, -, _, -, _, -, row, hrow, _, hstart, db₁, hins, _, -, -, -, rfl⟩ := h
    simp only [requireStartableBatch, bind_eq_ok, require_eq_ok] at hstart
    obtain ⟨_, -, _, hn, _, hle, -⟩ := hstart
    refine Or.inl (Writes.setPhase ?_ _ _ _ _)
    -- binding the batch to the caller's lease does not move the counter
    by_cases hf : row.leaseFencingToken = ctx.lease.fencingToken
    · rw [if_pos hf] at hins
      exact Writes.refl.operation List.mem_cons_self rfl rfl hins
    · rw [if_neg hf] at hins
      have hbound := (Writes.refl (W := true) (K := [.operations])).bindLease (requireBatchRow_ok hrow) hn (by omega)
      exact hbound.operation List.mem_cons_self rfl rfl hins
  case recordCheckpoint =>
    obtain ⟨_, h⟩ := h
    simp only [SafeFsOps.recordCheckpoint, bind_eq_ok, pure_eq_ok, Prod.mk.injEq] at h
    obtain ⟨_, -, _, -, _, -, ⟨_, d⟩, hguard, _, -, _, -, _, hins, -, rfl⟩ := h
    obtain ⟨_, h⟩ := requireBatchForCheckpoint_writes List.mem_cons_self hguard
    exact Or.inl (h.inserted (T := .checkpoints) (List.mem_cons_of_mem _ List.mem_cons_self) rfl rfl hins)
  case markAttempting =>
    obtain ⟨_, h⟩ := h
    exact Or.inl (transitionBatch_writes h)
  case markSucceeded =>
    obtain ⟨_, h⟩ := h
    exact Or.inl (transitionBatch_writes h)
  case markFailed =>
    obtain ⟨_, h⟩ := h
    simp only [SafeFsOps.markFailed, bind_eq_ok] at h
    obtain ⟨_, -, h⟩ := h
    exact Or.inl (transitionBatch_writes h)
  case recordRecoveryDesired =>
    obtain ⟨_, h⟩ := h
    exact Or.inl (recordRecoveryPhase_writes List.mem_cons_self h)
  case startRecovery =>
    obtain ⟨_, _, h⟩ := h
    simp only [SafeFsOps.startRecovery, bind_eq_ok, pure_eq_ok, Prod.mk.injEq] at h
    obtain ⟨_, -, ⟨_, _, d⟩, hguard, _, -, ⟨_, _⟩, hwrite, _, -, -, -, rfl⟩ := h
    obtain ⟨_, h⟩ := requireBatchForRecoveryWrite_writes List.mem_cons_self hguard
    exact Or.inl (writeRecovery_writes h List.mem_cons_self hwrite KeepsBatch.id fun _ _ => Or.inl rfl)
  case recordRecoverySucceeded =>
    obtain ⟨_, h⟩ := h
    exact Or.inl (recordRecoveryPhase_writes List.mem_cons_self h)
  case recordRecoveryFailed =>
    obtain ⟨_, h⟩ := h
    exact Or.inl (recordRecoveryPhase_writes List.mem_cons_self h)
  case recordInterruptedRecoveryDesired =>
    obtain ⟨_, h⟩ := h
    simp only [SafeFsOps.recordInterruptedRecoveryDesired, requireRecoveryTakeover, bind_eq_ok, require_eq_ok] at h
    obtain ⟨_, -, _, -, row, hrow, _, ⟨_, -, _, hn, _, hlt, -⟩, hwrite⟩ := h
    refine Or.inl (writeRecovery_writes Writes.refl List.mem_cons_self hwrite (KeepsBatch.bindLease ctx) ?_)
    intro r hr
    rw [requireBatchRow_ok hrow] at hr
    cases hr
    refine Or.inr ⟨hn, hlt, Or.inl ?_⟩
    rw [LeaseRecord.binding, ← hn]
    rfl
  case recordLeaseLostRecoveryDesired =>
    obtain ⟨_, h⟩ := h
    simp only [SafeFsOps.recordLeaseLostRecoveryDesired, bind_eq_ok] at h
    obtain ⟨_, -, _, -, _, -, _, -, hwrite⟩ := h
    exact Or.inl (writeRecovery_writes Writes.refl List.mem_cons_self hwrite KeepsBatch.id fun _ _ => Or.inl rfl)
  case recordAbandonedSucceededBatchRecoveryDesired =>
    simp only [SafeFsOps.recordAbandonedSucceededBatchRecoveryDesired, bind_eq_ok] at h
    obtain ⟨_, -, h⟩ := h
    split at h
    · cases h
    · next row hrow =>
      split at h
      · simp only [pure_eq_ok] at h
        exact Or.inr h.symm
      · next hsucceeded =>
        simp only [bind_eq_ok, require_eq_ok, pure_eq_ok] at h
        obtain ⟨_, hn, _, hle, ⟨_, _⟩, hwrite, rfl⟩ := h
        refine Or.inl (writeRecovery_writes Writes.refl List.mem_cons_self hwrite (fun _ => rfl) ?_)
        intro r hr
        rw [hrow] at hr
        cases hr
        by_cases hf : row.leaseFencingToken = ctx.lease.fencingToken
        · left
          rw [← hf]
        · exact Or.inr ⟨hn, by omega, Or.inr ⟨rfl, not_not.1 hsucceeded, rfl⟩⟩
  case recordRecoveryActionPlanned =>
    obtain ⟨_, h⟩ := h
    simp only [SafeFsOps.recordRecoveryActionPlanned, bind_eq_ok] at h
    obtain ⟨_, -, h⟩ := h
    exact Or.inl (recordRecoveryAction_writes List.mem_cons_self (List.mem_cons_of_mem _ List.mem_cons_self) h)
  case transitionRecoveryAction =>
    obtain ⟨_, h⟩ := h
    exact Or.inl (recordRecoveryAction_writes List.mem_cons_self (List.mem_cons_of_mem _ List.mem_cons_self) h)
  case recordArtifactCleanupPlanned =>
    obtain ⟨_, h⟩ := h
    exact Or.inl (recordArtifactCleanup_writes List.mem_cons_self h)
  case transitionArtifactCleanup =>
    obtain ⟨_, h⟩ := h
    exact Or.inl (recordArtifactCleanup_writes List.mem_cons_self h)

end AllWrites

end SafeFsOps
