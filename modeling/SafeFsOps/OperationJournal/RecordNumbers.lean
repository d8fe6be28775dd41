import Mathlib.Data.List.Range
import SafeFsOps.OperationJournal.Writes

/-!
# The numbers of a batch's records

Five tables hold the records of a batch, and one counter runs through them all:
`_next_sequence` is one past the largest number the batch has in any of them. No
table's constraints speak of the others; that the numbers do not collide is up to
every writer asking the counter of the database its row goes into (`Writes`).

> `Numbered`: the numbers of a batch are 1, …, n across the tables, they rise in
> each table, and a table's keys are distinct.
> `Appends`: a later database has the earlier rows, and then rows numbered past them.
> `batch_sequence_integrity`: both hold of every run, and a write's own record has
> the largest number.

In each table the order of a batch's numbers is thus the order of insertion, and
the latest record is the last one written (`Numbered.latestRecoveryRow`).
-/

namespace SafeFsOps

open SequencedRow

variable {π : Type}

/-! ## What every insertion keeps -/

/-- `db'` has the rows of `db` and then others, each numbered past all its batch had. -/
def Appends (db db' : JournalDb π) : Prop :=
  ∀ T, ∃ new, db'.rows T = db.rows T ++ new ∧ ∀ r ∈ new, ∀ n ∈ db.sequences (rowGroup r), n < rowSequence r

/-- Each batch's numbers are 1, …, n, and rise in each table; a table's keys are distinct. -/
structure Numbered (db : JournalDb π) : Prop where
  keys : ∀ T, ((db.rows T).map rowId).Nodup
  gapless : ∀ b, ∃ n, (db.sequences b).Perm (List.range' 1 n)
  rising : ∀ T b, (numbersOf (db.rows T) b).Pairwise (· < ·)

section Insertions

variable {db db' d : JournalDb π}

theorem sequences_congr (h : ∀ T, db'.rows T = db.rows T) (b : String) : db'.sequences b = db.sequences b := by
  simp only [JournalDb.sequences, h]

theorem Appends.of_rows_eq (h : ∀ T, db'.rows T = db.rows T) : Appends db db' := by
  intro T
  exact ⟨[], by rw [h, List.append_nil], fun r hr => by cases hr⟩

theorem Appends.sequences_subset (h : Appends db db') {b : String} {n : Nat} (hn : n ∈ db.sequences b) :
    n ∈ db'.sequences b := by
  obtain ⟨T, hn⟩ := JournalDb.mem_sequences.1 hn
  obtain ⟨new, hnew, -⟩ := h T
  refine JournalDb.mem_sequences.2 ⟨T, ?_⟩
  rw [hnew, numbersOf, List.filter_append, List.map_append]
  exact List.mem_append_left _ hn

theorem Appends.trans (h₁ : Appends db d) (h₂ : Appends d db') : Appends db db' := by
  intro T
  obtain ⟨new₁, hnew₁, hpast₁⟩ := h₁ T
  obtain ⟨new₂, hnew₂, hpast₂⟩ := h₂ T
  refine ⟨new₁ ++ new₂, by rw [hnew₂, hnew₁, List.append_assoc], ?_⟩
  intro r hr n hn
  rcases List.mem_append.1 hr with hr | hr
  · exact hpast₁ r hr n hn
  · exact hpast₂ r hr n (h₁.sequences_subset hn)

/-- One insertion, numbered by the counter. -/
theorem Appends.insert {T : RecordTable} {r : T.Row π} (hs : rowSequence r = db.nextSequence (rowGroup r)) :
    Appends db (db.setRows T (db.rows T ++ [r])) := by
  intro T'
  by_cases hT : T' = T
  · subst hT
    refine ⟨[r], JournalDb.rows_setRows .., ?_⟩
    intro x hx n hn
    obtain rfl := List.mem_singleton.1 hx
    rw [hs]
    exact JournalDb.lt_nextSequence hn
  · exact ⟨[], by rw [JournalDb.rows_setRows_ne _ hT, List.append_nil], fun x hx => by cases hx⟩

theorem Numbered.congr (h : ∀ T, db'.rows T = db.rows T) (hdb : Numbered db) : Numbered db' where
  keys T := by
    rw [h]
    exact hdb.keys T
  gapless b := by
    rw [sequences_congr h]
    exact hdb.gapless b
  rising T b := by
    rw [h]
    exact hdb.rising T b

/-- One insertion under a new key, numbered by the counter. -/
theorem Numbered.insert (hdb : Numbered db) {T : RecordTable} {r : T.Row π}
    (hs : rowSequence r = db.nextSequence (rowGroup r)) (hfresh : ∀ x ∈ db.rows T, rowId x ≠ rowId r) :
    Numbered (db.setRows T (db.rows T ++ [r])) where
  keys T' := by
    by_cases hT : T' = T
    · subst hT
      rw [JournalDb.rows_setRows, List.map_append, List.nodup_append]
      refine ⟨hdb.keys T', List.nodup_singleton _, ?_⟩
      intro k hk k' hk'
      obtain ⟨x, hx, rfl⟩ := List.mem_map.1 hk
      rw [List.mem_singleton.1 hk']
      exact hfresh x hx
    · rw [JournalDb.rows_setRows_ne _ hT]
      exact hdb.keys T'
  gapless b := by
    obtain ⟨n, hn⟩ := hdb.gapless b
    by_cases hb : rowGroup r = b
    · -- the counter of a batch numbered 1, …, n stands at n + 1
      have hnext : db.nextSequence b = n + 1 := by
        have hbound := le_foldl_max (List.range' 1 n) 0
        rw [JournalDb.nextSequence_eq, hn.foldl_eq]
        have hle : (List.range' 1 n).foldl max 0 ≤ n :=
          foldl_max_le (Nat.zero_le n) fun x hx => by
            have := List.mem_range'_1.1 hx
            omega
        rcases Nat.eq_zero_or_pos n with rfl | hpos
        · rfl
        · have := hbound.2 n (List.mem_range'_1.2 ⟨hpos, by omega⟩)
          omega
      refine ⟨n + 1, (db.sequences_insert T r b).trans ?_⟩
      rw [if_pos hb, hs, hb, hnext, List.range'_1_concat, Nat.add_comm 1 n]
      exact hn.append_right _
    · refine ⟨n, (db.sequences_insert T r b).trans ?_⟩
      rw [if_neg hb, List.append_nil]
      exact hn
  rising T' b := by
    rw [JournalDb.numbersOf_insert]
    by_cases hr : T' = T ∧ rowGroup r = b
    · rw [if_pos hr, List.pairwise_append]
      refine ⟨hdb.rising T' b, List.pairwise_singleton _ _, ?_⟩
      intro x hx y hy
      obtain rfl := List.mem_singleton.1 hy
      rw [hs, hr.2]
      exact JournalDb.lt_nextSequence (JournalDb.mem_sequences.2 ⟨T', hx⟩)
    · rw [if_neg hr, List.append_nil]
      exact hdb.rising T' b

/-- Rows of one batch stand in the order of their numbers. -/
theorem Numbered.filter_rising (hdb : Numbered db) {T : RecordTable} {p : T.Row π → Bool} {b : String}
    (hp : ∀ r ∈ db.rows T, p r = true → rowGroup r = b) :
    ((db.rows T).filter p).Pairwise fun r r' => rowSequence r < rowSequence r' := by
  have hall : ((db.rows T).filter fun r => rowGroup r = b).Pairwise fun r r' => rowSequence r < rowSequence r' :=
    List.pairwise_map.1 (hdb.rising T b)
  have hsub : (db.rows T).filter p = ((db.rows T).filter fun r => rowGroup r = b).filter p := by
    rw [List.filter_filter]
    refine List.filter_congr fun r hmem => ?_
    by_cases hr : p r = true
    · simp only [hr, hp r hmem hr, decide_true, Bool.and_true]
    · rw [Bool.not_eq_true] at hr
      rw [hr]
      rfl
  rw [hsub]
  exact hall.filter p

/-- The recovery records of a batch, as they were written. -/
theorem Numbered.listRecoveryRecords (hdb : Numbered db) (b : String) :
    db.listRecoveryRecords b = db.recoveries.filter fun r => r.batchId = b :=
  listRows_eq_filter (hdb.filter_rising (T := .recoveries) fun _ _ hr => of_decide_eq_true hr)

/-- The checkpoints of a batch, as they were written. -/
theorem Numbered.listCheckpoints (hdb : Numbered db) (b : String) :
    db.listCheckpoints b = db.checkpoints.filter fun r => r.batchId = b :=
  listRows_eq_filter (hdb.filter_rising (T := .checkpoints) fun _ _ hr => of_decide_eq_true hr)

/-- The latest recovery record of a batch is the last one written. -/
theorem Numbered.latestRecoveryRow (hdb : Numbered db) (b : String) :
    db.latestRecoveryRow b = (db.recoveries.filter fun r => r.batchId = b).getLast? :=
  latestRow_eq_getLast? (hdb.filter_rising (T := .recoveries) fun _ _ hr => of_decide_eq_true hr)

@[simp] theorem JournalDb.rows_updateBatch (db : JournalDb π) (b : String) (f : BatchRow π → BatchRow π)
    (T : RecordTable) : (db.updateBatch b f).rows T = db.rows T := by cases T <;> rfl

variable {ctx : WriteContext} {W : Bool} {K : List RecordTable} {b : String} {last : Option RecordTable}

theorem Writes.appends (h : Writes ctx W K b db last db') : Appends db db' := by
  induction h with
  | refl => exact Appends.of_rows_eq fun _ => rfl
  | update f _ _ _ ih => exact ih.trans (Appends.of_rows_eq fun T => JournalDb.rows_updateBatch _ b f T)
  | insert T r _ _ hb hs _ ih => exact ih.trans (Appends.insert (hb ▸ hs))

theorem Writes.numbered (h : Writes ctx W K b db last db') (hdb : Numbered db) : Numbered db' := by
  induction h with
  | refl => exact hdb
  | update f _ _ _ ih => exact ih.congr fun T => JournalDb.rows_updateBatch _ b f T
  | insert T r _ _ hb hs hfresh ih => exact ih.insert (hb ▸ hs) hfresh

/-- A table a write does not insert into stays as it was. -/
theorem Writes.rows_eq (h : Writes ctx W K b db last db') {T : RecordTable} (hT : T ∉ K) : db'.rows T = db.rows T := by
  induction h with
  | refl => rfl
  | update f _ _ _ ih => rw [JournalDb.rows_updateBatch, ih]
  | insert T' r _ hT' _ _ _ ih =>
    have hne : T ≠ T' := fun h => hT (h ▸ hT')
    rw [JournalDb.rows_setRows_ne _ hne, ih]

/-- The rows of other batches stay as they were. -/
theorem Writes.rows_other (h : Writes ctx W K b db last db') {b' : String} (hb : b' ≠ b) (T : RecordTable) :
    (db'.rows T).filter (fun r => rowGroup r = b') = (db.rows T).filter fun r => rowGroup r = b' := by
  induction h with
  | refl => rfl
  | update f _ _ _ ih => rw [JournalDb.rows_updateBatch, ih]
  | insert T' r _ _ hr _ _ ih =>
    by_cases hT : T = T'
    · subst hT
      have hother : ¬ rowGroup r = b' := fun heq => hb (heq.symm.trans hr)
      rw [JournalDb.rows_setRows, List.filter_append, ih, List.filter_singleton, decide_eq_false hother]
      exact List.append_nil _
    · rw [JournalDb.rows_setRows_ne _ hT, ih]

/-- The row inserted last carries the largest number of its batch. -/
theorem Writes.own (h : Writes ctx W K b db last db') {T : RecordTable} (hT : last = some T) :
    ∃ r, (db'.rows T).getLast? = some r ∧ rowGroup r = b ∧ ∀ n ∈ db'.sequences b, n ≤ rowSequence r := by
  induction h with
  | refl => cases hT
  | update f _ _ _ ih =>
    obtain ⟨r, hr, hb, hmax⟩ := ih hT
    refine ⟨r, by rw [JournalDb.rows_updateBatch, hr], hb, ?_⟩
    rw [sequences_congr fun T => JournalDb.rows_updateBatch _ b f T]
    exact hmax
  | insert T' r _ _ hb hs _ _ =>
    cases hT
    refine ⟨r, by rw [JournalDb.rows_setRows, List.getLast?_concat], hb, ?_⟩
    intro n hn
    rw [(JournalDb.sequences_insert _ T r b).mem_iff, if_pos hb, List.mem_append, List.mem_singleton] at hn
    rcases hn with hn | rfl
    · rw [hs]
      exact Nat.le_of_lt (JournalDb.lt_nextSequence hn)
    · exact Nat.le_refl _

end Insertions

section Runs

variable [JournalPayload π] [DecidableEq π]

/-- A step of the journal leaves the five tables alone or writes to one batch. -/
theorem step_writes (db : JournalDb π) (c : JournalCall π) :
    (∀ T, (db.step c).rows T = db.rows T) ∨ ∃ ctx W K b last, Writes ctx W K b db last (db.step c) := by
  cases c with
  | lease c => exact Or.inl fun T => by cases T <;> rfl
  | operationRuns runs phases => exact Or.inl fun T => by cases T <;> rfl
  | write w ctx =>
    simp only [JournalDb.step]
    split
    · next db' hrun =>
      cases hb : w.batch with
      | none =>
        obtain ⟨-, rfl | ⟨req, batchId, rfl, -⟩⟩ := run_create hb hrun
        · exact Or.inl fun T => rfl
        · exact Or.inl fun T => by cases T <;> rfl
      | some b =>
        rcases run_writes hb hrun with h | rfl
        · exact Or.inr ⟨_, _, _, b, _, h⟩
        · exact Or.inl fun T => rfl
    · exact Or.inl fun T => rfl

theorem appends_step (db : JournalDb π) (c : JournalCall π) : Appends db (db.step c) := by
  rcases step_writes db c with h | ⟨ctx, W, K, b, last, h⟩
  · exact Appends.of_rows_eq h
  · exact h.appends

/-- Whatever calls follow, they only add records. -/
theorem appends_after (db : JournalDb π) (more : List (JournalCall π)) : Appends db (after JournalDb.step db more) :=
  after_relates (R := Appends) (fun _ => Appends.of_rows_eq fun _ => rfl) Appends.trans appends_step more db

theorem numbered_step (db : JournalDb π) (c : JournalCall π) (h : Numbered db) : Numbered (db.step c) := by
  rcases step_writes db c with hsame | ⟨ctx, W, K, b, last, hw⟩
  · exact h.congr hsame
  · exact hw.numbered h

omit [JournalPayload π] [DecidableEq π] in
theorem numbered_init : Numbered (JournalDb.init π) where
  keys T := by cases T <;> exact List.nodup_nil
  gapless _ := ⟨0, List.Perm.refl _⟩
  rising T _ := by cases T <;> exact List.Pairwise.nil

/-- Every reachable database is numbered. -/
theorem numbered_after (run : List (JournalCall π)) : Numbered (after JournalDb.step (JournalDb.init π) run) :=
  after_invariant numbered_step run _ numbered_init

/-- **The numbers of a batch.** After every run of the journal, whatever calls were interleaved,
took batches over or failed: the numbers of a batch's records in the five tables are 1, …, n, each
once; further calls only add records, numbered past all the batch had; and the record a write adds
as its own, past that of a handoff it began with, carries the largest number of the batch. -/
theorem batch_sequence_integrity (run : List (JournalCall π)) :
    let db := after JournalDb.step (JournalDb.init π) run
    (∀ b, (db.sequences b).Nodup ∧ ∃ n, ∀ k, k ∈ db.sequences b ↔ 1 ≤ k ∧ k ≤ n) ∧
    (∀ more, Appends db (after JournalDb.step db more)) ∧
    ∀ (w : JournalWrite π) ctx db', w.run db ctx = .ok db' → ∀ b T, w.batch = some b → w.table = some T → db' = db ∨
      ∃ r, (db'.rows T).getLast? = some r ∧ rowGroup r = b ∧ ∀ n ∈ db'.sequences b, n ≤ rowSequence r := by
  intro db
  have hdb : Numbered db := numbered_after run
  refine ⟨?_, ?_, ?_⟩
  · intro b
    obtain ⟨n, hn⟩ := hdb.gapless b
    refine ⟨hn.nodup_iff.2 (List.nodup_range' ..), n, ?_⟩
    intro k
    rw [hn.mem_iff, List.mem_range'_1]
    omega
  · intro more
    exact appends_after db more
  · intro w ctx db' hrun b T hb hT
    rcases run_writes hb hrun with h | rfl
    · exact Or.inr (h.own hT)
    · exact Or.inl rfl

end Runs

end SafeFsOps
