import Mathlib.Data.List.Nodup
import SafeFsOps.OperationJournal.Advances

/-!
# A recovery attempt that has ended stays ended

A recovery attempt is named by its `recovering` record, and it is *active* while
that is the latest recovery record of its batch. Everything that ends an attempt
appends a recovery record: a takeover its handoff, a completion or a new request
its own. Recovery records are only ever appended, under larger numbers, so

> `superseded_step`: once outdated by a later record of its batch, an attempt is
> outdated for good,

and each of the calls that name an attempt asks `_require_active_recovery_attempt`
before it writes, on the database its own guard has left, in which the guard may
just have outdated the attempt itself (`superseded_raises`).

> `ended_attempt_fenced`: after an attempt was taken over, requeued or completed,
> no call that names it succeeds, and none changes a row.
-/

namespace SafeFsOps

variable {π : Type}

/-- Recovery records have distinct keys. -/
def DistinctRecoveries (db : JournalDb π) : Prop := (db.recoveries.map RecoveryRow.recoveryId).Nodup

/-- The attempt is outdated by a later recovery record of its batch. -/
def Superseded (db : JournalDb π) (attemptId : String) : Prop :=
  ∃ attempt later, db.recoveryRow attemptId = some attempt ∧ later ∈ db.recoveries ∧
    later.batchId = attempt.batchId ∧ attempt.sequence < later.sequence

theorem Advances.recoveryRow {L : LeaseRecord} {P : List BatchPhase} {b : String} {db db' : JournalDb π}
    (h : Advances L P b db db') {id : String} {r : RecoveryRow π} (hr : db.recoveryRow id = some r) :
    db'.recoveryRow id = some r := by
  obtain ⟨new, hnew, -⟩ := h.recoveries
  simp only [JournalDb.recoveryRow, findRow] at hr ⊢
  rw [hnew, List.find?_append, hr]
  rfl

theorem Advances.superseded {L : LeaseRecord} {P : List BatchPhase} {b : String} {db db' : JournalDb π}
    (h : Advances L P b db db') {id : String} (hs : Superseded db id) : Superseded db' id := by
  obtain ⟨attempt, later, hattempt, hlater, hb, hlt⟩ := hs
  obtain ⟨new, hnew, -⟩ := h.recoveries
  exact ⟨attempt, later, h.recoveryRow hattempt, by rw [hnew]; exact List.mem_append_left _ hlater, hb, hlt⟩

/-- A record of the batch numbered past all its records outdates an attempt of it. -/
theorem superseded_of_later {db db' : JournalDb π} {attempt x : RecoveryRow π} {id : String}
    (hold : attempt ∈ db.recoveries) (hattempt : db'.recoveryRow id = some attempt) (hx : x ∈ db'.recoveries)
    (hb : x.batchId = attempt.batchId) (hs : db.nextSequence attempt.batchId ≤ x.sequence) :
    Superseded db' id := by
  have hle : attempt.sequence ≤ maxSequence db.recoveries attempt.batchId := sequence_le_maxSequence hold
  refine ⟨attempt, x, hattempt, hx, hb, ?_⟩
  simp only [JournalDb.nextSequence] at hs
  omega

/-- Two recovery records under one key are one record. -/
theorem recovery_eq {db : JournalDb π} (hdb : DistinctRecoveries db) {r r' : RecoveryRow π}
    (hr : r ∈ db.recoveries) (hr' : r' ∈ db.recoveries) (h : r.recoveryId = r'.recoveryId) : r = r' :=
  List.inj_on_of_nodup_map hdb hr hr' h

/-- An outdated attempt is not active. -/
theorem superseded_not_active {db : JournalDb π} (hdb : DistinctRecoveries db) {id b : String}
    (hs : Superseded db id) (r : RecoveryRow π) :
    requireActiveRecoveryAttempt db b (some id) ≠ .ok r := by
  intro h
  obtain ⟨attempt, later, hattempt, hlater, hb, hlt⟩ := hs
  simp only [requireActiveRecoveryAttempt, Option.getD_some, hattempt] at h
  split at h
  · cases h
  · split at h
    · cases h
    · next hbatch =>
      split at h
      · cases h
      · split at h
        · next latest hlatest =>
          split at h
          · next hid =>
            -- the latest record is the attempt itself, yet a later one exists
            have hbatch : attempt.batchId = b := not_not.1 hbatch
            have hmem := (latestRow_mem hlatest).1
            have heq : latest = attempt := by
              refine recovery_eq hdb hmem (findRow_mem hattempt) ?_
              rw [hid.1, findRow_key hattempt]
            obtain ⟨top, htop, hle⟩ := latestRow_sequence_le (p := fun r => decide (r.batchId = b)) hlater
              (by simp [hb, hbatch])
            rw [show db.latestRecoveryRow b = some top from htop] at hlatest
            cases hlatest
            rw [heq] at hle
            exact absurd hlt (Nat.not_lt.2 hle)
          · cases h
        · cases h

/-- The read-only check of an attempt refuses it as well. -/
theorem superseded_check_raises {db : JournalDb π} {ctx : WriteContext} (hdb : DistinctRecoveries db) {id b : String} (hs : Superseded db id) :
    ∃ e, checkActiveRecoveryAttempt db b id ctx = .error e := by
  cases h : checkActiveRecoveryAttempt db b id ctx with
  | error e => exact ⟨e, rfl⟩
  | ok r =>
    exfalso
    simp only [checkActiveRecoveryAttempt, bind_eq_ok] at h
    obtain ⟨_, -, _, -, hactive⟩ := h
    exact superseded_not_active hdb hs r hactive

section Runs

variable [JournalPayload π] [DecidableEq π] {db db' : JournalDb π} {ctx : WriteContext} {w : JournalWrite π}

theorem run_recoveries (h : w.run db ctx = .ok db') :
    (DistinctRecoveries db → DistinctRecoveries db') ∧
      ∀ id, Superseded db id → Superseded db' id := by
  cases hb : w.batch with
  | none =>
    obtain ⟨-, rfl | ⟨req, batchId, rfl, -⟩⟩ := run_create hb h
    · exact ⟨id, fun _ => id⟩
    · exact ⟨id, fun _ => id⟩
  | some b => exact ⟨(run_advances hb h).ids, fun _ => (run_advances hb h).superseded⟩

theorem distinct_step (db : JournalDb π) (c : JournalCall π) (h : DistinctRecoveries db) :
    DistinctRecoveries (db.step c) := by
  cases c with
  | lease c => exact h
  | operationRuns runs phases => exact h
  | write w ctx =>
    simp only [JournalDb.step]
    split
    · next db' hrun => exact (run_recoveries hrun).1 h
    · exact h

/-- Outdated is for good. -/
theorem superseded_step (id : String) (db : JournalDb π) (c : JournalCall π) (h : Superseded db id) :
    Superseded (db.step c) id := by
  cases c with
  | lease c => exact h
  | operationRuns runs phases => exact h
  | write w ctx =>
    simp only [JournalDb.step]
    split
    · next db' hrun => exact (run_recoveries hrun).2 id h
    · exact h

/-- No write that names an outdated attempt succeeds, whatever its guard has
changed before the attempt is looked at. -/
theorem superseded_raises (hdb : DistinctRecoveries db) {id : String} (hs : Superseded db id)
    (ha : w.attempt = some id) : ∃ e, w.run db ctx = .error e := by
  cases h : w.run db ctx with
  | error e => exact ⟨e, rfl⟩
  | ok db' =>
    exfalso
    cases w <;> simp only [JournalWrite.attempt, Option.some.injEq, reduceCtorEq] at ha <;> subst ha <;>
      simp only [JournalWrite.run, map_eq_ok, Prod.exists, exists_eq_right] at h
    -- the five writes that name an attempt: the guard may add records, and the attempt stays superseded
    case recordCheckpoint =>
      obtain ⟨_, h⟩ := h
      simp only [SafeFsOps.recordCheckpoint, bind_eq_ok] at h
      obtain ⟨_, -, _, -, _, -, ⟨row, db₁⟩, hguard, -⟩ := h
      simp only [requireBatchForCheckpoint, bind_eq_ok] at hguard
      obtain ⟨⟨row₂, db₂⟩, hguard, r, hactive, -⟩ := hguard
      obtain ⟨-, hadv, -⟩ := requireBatchForRecoveryActionWrite_ok hguard
      exact superseded_not_active (hadv.ids hdb) (hadv.superseded hs) r hactive
    case recordRecoverySucceeded =>
      obtain ⟨_, h⟩ := h
      simp only [SafeFsOps.recordRecoverySucceeded, recordRecoveryPhase, bind_eq_ok] at h
      obtain ⟨_, -, ⟨row, taken, db₁⟩, hguard, _, -, _, hfinish, -⟩ := h
      obtain ⟨-, hadv, -⟩ := requireBatchForRecoveryWrite_ok hguard
      simp only [requireAttemptToFinish, List.mem_cons, true_or, if_true, map_eq_ok] at hfinish
      obtain ⟨r, hactive, -⟩ := hfinish
      exact superseded_not_active (hadv.ids hdb) (hadv.superseded hs) r hactive
    case recordRecoveryFailed =>
      obtain ⟨_, h⟩ := h
      simp only [SafeFsOps.recordRecoveryFailed, recordRecoveryPhase, bind_eq_ok] at h
      obtain ⟨_, -, ⟨row, taken, db₁⟩, hguard, _, -, _, hfinish, -⟩ := h
      obtain ⟨-, hadv, -⟩ := requireBatchForRecoveryWrite_ok hguard
      simp only [requireAttemptToFinish, List.mem_cons, true_or, or_true, if_true, map_eq_ok] at hfinish
      obtain ⟨r, hactive, -⟩ := hfinish
      exact superseded_not_active (hadv.ids hdb) (hadv.superseded hs) r hactive
    case recordRecoveryActionPlanned =>
      obtain ⟨_, h⟩ := h
      simp only [SafeFsOps.recordRecoveryActionPlanned, recordRecoveryAction, bind_eq_ok] at h
      obtain ⟨_, -, _, -, _, -, ⟨row, db₁⟩, hguard, r, hactive, -⟩ := h
      obtain ⟨-, hadv, -⟩ := requireBatchForRecoveryActionWrite_ok hguard
      exact superseded_not_active (hadv.ids hdb) (hadv.superseded hs) r hactive
    case transitionRecoveryAction =>
      obtain ⟨_, h⟩ := h
      simp only [SafeFsOps.transitionRecoveryAction, recordRecoveryAction, bind_eq_ok] at h
      obtain ⟨_, -, _, -, ⟨row, db₁⟩, hguard, r, hactive, -⟩ := h
      obtain ⟨-, hadv, -⟩ := requireBatchForRecoveryActionWrite_ok hguard
      exact superseded_not_active (hadv.ids hdb) (hadv.superseded hs) r hactive

/-! ## How an attempt ends -/

/-- The writes that record a phase of a recovery: asking for one, starting one
and finishing one. -/
def JournalWrite.recordsRecovery : JournalWrite π → Bool
  | .recordRecoveryDesired .. | .recordInterruptedRecoveryDesired .. | .recordLeaseLostRecoveryDesired .. => true
  | .startRecovery .. | .recordRecoverySucceeded .. | .recordRecoveryFailed .. => true
  | _ => false

/-- The successful write `w`, from `db` to `db'`, ends the attempt: it requeues or
completes it, or it takes its batch over for a newer lease. -/
def EndsAttempt (db db' : JournalDb π) (attempt : RecoveryRow π) (w : JournalWrite π) : Prop :=
  w.batch = some attempt.batchId ∧ (w.recordsRecovery = true ∨
    ∃ row row', db.batchRow attempt.batchId = some row ∧ db'.batchRow attempt.batchId = some row' ∧
      row.leaseFencingToken < row'.leaseFencingToken)

omit [DecidableEq π] in
theorem writeRecovery_record {b : String} {phase : BatchPhase} {note : RecoveryNote π}
    {bind : BatchRow π → BatchRow π} {r : RecoveryRow π} (h : writeRecovery db b phase note bind ctx = .ok (r, db')) :
    ∃ x ∈ db'.recoveries, x.batchId = b ∧ db.nextSequence b ≤ x.sequence := by
  simp only [writeRecovery, insertRecovery, bind_eq_ok, pure_eq_ok, Prod.mk.injEq] at h
  obtain ⟨db₁, ⟨recoveries, hins, rfl⟩, -, rfl⟩ := h
  obtain ⟨rfl, -⟩ := insertRow_eq_ok hins
  exact ⟨_, List.mem_append_right _ List.mem_cons_self, rfl, Nat.le_refl _⟩

omit [DecidableEq π] in
theorem recordRecoveryPhase_record {b : String} {phase : BatchPhase} {attempt : Option String}
    {note : RecoveryNote π} {r : RecoveryRow π} (h : recordRecoveryPhase db b phase attempt note ctx = .ok (r, db')) :
    ∃ x ∈ db'.recoveries, x.batchId = b ∧ db.nextSequence b ≤ x.sequence := by
  simp only [recordRecoveryPhase, bind_eq_ok] at h
  obtain ⟨_, -, ⟨row, taken, db₁⟩, hguard, _, -, _, -, hwrite⟩ := h
  obtain ⟨-, hadv, -⟩ := requireBatchForRecoveryWrite_ok hguard
  obtain ⟨x, hx, hxb, hxs⟩ := writeRecovery_record hwrite
  exact ⟨x, hx, hxb, Nat.le_trans hadv.sequence hxs⟩

/-- A write that records a recovery phase appends a record past all others of the batch. -/
theorem run_record {b : String} (hb : w.batch = some b) (hw : w.recordsRecovery = true)
    (h : w.run db ctx = .ok db') : ∃ x ∈ db'.recoveries, x.batchId = b ∧ db.nextSequence b ≤ x.sequence := by
  cases w <;> simp only [JournalWrite.recordsRecovery, Bool.false_eq_true] at hw <;>
    simp only [JournalWrite.batch, Option.some.injEq] at hb <;> subst hb <;>
    simp only [JournalWrite.run, map_eq_ok, Prod.exists, exists_eq_right] at h
  case recordRecoveryDesired =>
    obtain ⟨_, h⟩ := h
    exact recordRecoveryPhase_record h
  case startRecovery =>
    obtain ⟨_, _, h⟩ := h
    simp only [SafeFsOps.startRecovery, bind_eq_ok, pure_eq_ok, Prod.mk.injEq] at h
    obtain ⟨_, -, ⟨row, taken, db₁⟩, hguard, _, -, ⟨record, db₂⟩, hwrite, _, -, -, -, rfl⟩ := h
    obtain ⟨-, hadv, -⟩ := requireBatchForRecoveryWrite_ok hguard
    obtain ⟨x, hx, hxb, hxs⟩ := writeRecovery_record hwrite
    exact ⟨x, hx, hxb, Nat.le_trans hadv.sequence hxs⟩
  case recordRecoverySucceeded =>
    obtain ⟨_, h⟩ := h
    exact recordRecoveryPhase_record h
  case recordRecoveryFailed =>
    obtain ⟨_, h⟩ := h
    exact recordRecoveryPhase_record h
  case recordInterruptedRecoveryDesired =>
    obtain ⟨_, h⟩ := h
    simp only [SafeFsOps.recordInterruptedRecoveryDesired, bind_eq_ok] at h
    obtain ⟨_, -, _, -, row, -, _, -, hwrite⟩ := h
    exact writeRecovery_record hwrite
  case recordLeaseLostRecoveryDesired =>
    obtain ⟨_, h⟩ := h
    simp only [SafeFsOps.recordLeaseLostRecoveryDesired, bind_eq_ok] at h
    obtain ⟨_, -, _, -, row, -, _, -, hwrite⟩ := h
    exact writeRecovery_record hwrite

/-- Whatever ends an attempt outdates it. -/
theorem superseded_of_ends {id : String} {attempt : RecoveryRow π} (hattempt : db.recoveryRow id = some attempt)
    (h : w.run db ctx = .ok db') (hends : EndsAttempt db db' attempt w) : Superseded db' id := by
  obtain ⟨hb, hends⟩ := hends
  have hadv := run_advances hb h
  have hmem := findRow_mem hattempt
  have hlater : ∃ x ∈ db'.recoveries, x.batchId = attempt.batchId ∧
      db.nextSequence attempt.batchId ≤ x.sequence := by
    rcases hends with hrec | ⟨row, row', hrow, hrow', hlt⟩
    · exact run_record hb hrec h
    · obtain ⟨row₁, hrow₁, -, -, hf⟩ := hadv.row row hrow
      rw [hrow'] at hrow₁
      cases hrow₁
      rcases hf with hf | ⟨-, -, -, hlater | hnone⟩
      · omega
      · exact hlater
      -- a batch without recovery records has no attempt
      · exact absurd rfl (hnone attempt hmem)
  obtain ⟨x, hx, hxb, hxs⟩ := hlater
  exact superseded_of_later hmem (hadv.recoveryRow hattempt) hx hxb hxs

/-- **An ended attempt is fenced.** In every run of the journal, once a write has
taken over, requeued or completed a recovery attempt, every later call that names
the attempt raises, and leaves every row as it was. -/
theorem ended_attempt_fenced (pre post : List (JournalCall π)) (w : JournalWrite π) (ctx : WriteContext)
    (db' : JournalDb π) (id : String) (attempt : RecoveryRow π)
    (hattempt : (after JournalDb.step (JournalDb.init π) pre).recoveryRow id = some attempt)
    (hrun : w.run (after JournalDb.step (JournalDb.init π) pre) ctx = .ok db')
    (hends : EndsAttempt (after JournalDb.step (JournalDb.init π) pre) db' attempt w) :
    (∀ late ctx', JournalWrite.attempt late = some id →
      (∃ e, late.run (after JournalDb.step (JournalDb.init π) (pre ++ .write w ctx :: post)) ctx' = .error e) ∧
      (after JournalDb.step (JournalDb.init π) (pre ++ .write w ctx :: post)).step (.write late ctx') =
        after JournalDb.step (JournalDb.init π) (pre ++ .write w ctx :: post)) ∧
    (∀ b ctx', ∃ e, checkActiveRecoveryAttempt
      (after JournalDb.step (JournalDb.init π) (pre ++ .write w ctx :: post)) b id ctx' = .error e) := by
  have hdistinct : DistinctRecoveries (after JournalDb.step (JournalDb.init π) (pre ++ .write w ctx :: post)) :=
    after_invariant distinct_step _ _ List.nodup_nil
  have hs : Superseded (after JournalDb.step (JournalDb.init π) (pre ++ .write w ctx :: post)) id := by
    rw [after_append, after_cons, JournalDb.step, hrun]
    exact after_invariant (superseded_step id) post db' (superseded_of_ends hattempt hrun hends)
  refine ⟨?_, fun b ctx' => superseded_check_raises hdistinct hs⟩
  intro late ctx' hlate
  have hraises : ∃ e, late.run (after JournalDb.step (JournalDb.init π) (pre ++ .write w ctx :: post)) ctx' =
      .error e := superseded_raises hdistinct hs hlate
  obtain ⟨e, he⟩ := hraises
  exact ⟨⟨e, he⟩, by simp only [JournalDb.step, he]⟩

end Runs

/-! ## A takeover, run -/

private def early : DateTime := ⟨5, by decide⟩
private def expired : DateTime := ⟨100, by decide⟩

/-- The lease of a first worker, and of the second one that takes it over. -/
private def holder (owner token : String) (fencingToken : Nat) : LeaseRecord :=
  leaseFromRow "lease" ⟨owner, token, fencingToken, early, early, expired⟩ true true

/-- A first worker fails, starts to recover its batch and loses its lease. -/
private def abandonedRecovery : List (JournalCall String) :=
  let first (n : String) : WriteContext := ⟨holder "a" "t1" 1, early, "handoff" ++ n, "id" ++ n⟩
  let file := some "file:/x"
  [.lease (.acquire "lease" "a" 95 none "t1" early),
    .write (.createBatch ⟨"key", "a", "run", none, none, file, none, none, none⟩ (some "batch")) (first "1"),
    .write (.startBatchOperation "batch" "write_bytes" file none none none) (first "2"),
    .write (.markFailed "batch" "error" none) (first "3"),
    .write (.recordRecoveryDesired "batch" ⟨none, none, none⟩) (first "4"),
    .write (.startRecovery "batch" ⟨none, none, some "attempt"⟩) (first "5"),
    .lease (.acquire "lease" "b" 95 none "t2" expired)]

/-- The second worker requeues the batch; the first one's report of an action of
its attempt, still under its early clock sample, is refused. -/
theorem ended_attempt_fenced_takeover : ∃ e,
    (JournalWrite.recordRecoveryActionPlanned "batch" "attempt" "restore_backup" (some "file:/x") none none
      none).run (after JournalDb.step (JournalDb.init String) (abandonedRecovery ++
        [.write (.recordRecoveryDesired "batch" ⟨none, none, none⟩)
          ⟨holder "b" "t2" 2, expired, "handoff6", "id6"⟩]))
      ⟨holder "a" "t1" 1, early, "h", "g"⟩ = .error e := by
  have hread : ((after JournalDb.step (JournalDb.init String) abandonedRecovery).recoveryRow "attempt").map
      RecoveryRow.batchId = some "batch" := rfl
  obtain ⟨attempt, hattempt, hbatch⟩ := Option.map_eq_some_iff.1 hread
  have hends := ended_attempt_fenced abandonedRecovery [] (.recordRecoveryDesired "batch" ⟨none, none, none⟩)
    ⟨holder "b" "t2" 2, expired, "handoff6", "id6"⟩ _ "attempt" attempt hattempt rfl
    ⟨congrArg some hbatch.symm, Or.inl rfl⟩
  exact (hends.1 _ _ rfl).1

end SafeFsOps
