import SafeFsOps.OperationJournal.RecoveryWalk
import Mathlib.Logic.Relation

/-!
# The life of a batch

`_VALID_TRANSITIONS` is only part of which phases follow one another: a newer lease may
put up what was interrupted, a holder that lost its lease may, and so may a replay that
finds a succeeded batch abandoned. `PhaseEdge` is all of it, read off the guards of every
write (`run_admitted`).

What no write is admitted to any more is settled. The argument is one of freezing: a
phase that has been left behind is never entered again, so a table that can only be
written in such phases stays as it is.

> `batch_life`: a batch goes along `PhaseEdge`; once its work is over, its operations are
> as they will be; and once it is recovered, so is its row, and every record of it but
> those of the cleanup of artifacts.
-/

namespace SafeFsOps

open Relation SequencedRow

variable {π : Type}

/-! ## Where a write is admitted -/

/-- All phases. -/
def BatchPhase.all : List BatchPhase :=
  [planned, attempting, succeeded, failed, recoveryDesired, recovering, recoverySucceeded, recoveryFailed]

/-- The phases in which a batch is worked on. -/
def BatchPhase.appendable : BatchPhase → Bool
  | planned | attempting => true
  | _ => false

/-- The phases of its batch in which a write may be accepted. -/
def JournalWrite.admitted : JournalWrite π → List BatchPhase
  | .createBatch .. => []
  | .appendOperation .. | .recordCheckpoint _ _ _ _ _ _ none => [.planned, .attempting]
  | .recordCheckpoint _ _ _ _ _ _ (some _) => [.recovering]
  | .startBatchOperation .. | .markAttempting .. => [.planned]
  | .markSucceeded .. | .markFailed .. => [.attempting]
  | .recordRecoveryDesired .. => [.succeeded, .failed, .recovering, .recoveryFailed]
  | .recordInterruptedRecoveryDesired .. => [.planned, .attempting, .failed, .recoveryFailed]
  | .recordLeaseLostRecoveryDesired .. => [.attempting, .failed, .recoveryFailed]
  | .startRecovery .. => [.recoveryDesired]
  | .recordRecoverySucceeded .. | .recordRecoveryFailed .. => [.recovering]
  | .recordRecoveryActionPlanned .. | .transitionRecoveryAction .. => [.recovering]
  | .recordAbandonedSucceededBatchRecoveryDesired .. => BatchPhase.all
  | .recordArtifactCleanupPlanned .. | .transitionArtifactCleanup .. => BatchPhase.all

theorem BatchPhase.mem_all (p : BatchPhase) : p ∈ BatchPhase.all := by cases p <;> decide

section Admitted

variable [JournalPayload π] {db db' : JournalDb π} {b : String} {ctx : WriteContext}

/-- A batch in one of these phases. -/
def InPhase (ps : List BatchPhase) (db : JournalDb π) (b : String) : Prop := ∃ p ∈ ps, db.phaseOf b = some p

omit [JournalPayload π] in
theorem inPhase_of_row {ps : List BatchPhase} {row : BatchRow π} (hrow : db.batchRow b = some row)
    (hp : row.phase ∈ ps) : InPhase ps db b := ⟨row.phase, hp, phaseOf_of_batchRow hrow⟩

/-- The transition that a mark makes is one of the valid ones. -/
theorem transitionBatch_admitted {phase : BatchPhase} {message : Option String} {status : Option π} {r : BatchRow π}
    (h : transitionBatch db b phase message status ctx = .ok (r, db')) :
    ∃ p, db.phaseOf b = some p ∧ phase ∈ validTransitions p := by
  simp only [transitionBatch, bind_eq_ok] at h
  obtain ⟨_, -, row, hguard, _, hvalid, -⟩ := h
  obtain ⟨-, hrow, -⟩ := requireBatchForWrite_ok hguard
  exact ⟨row.phase, phaseOf_of_batchRow hrow, require_eq_ok.1 hvalid⟩

/-- So is that of a recovery phase, unless it is excepted. -/
theorem recordRecoveryPhase_admitted {phase : BatchPhase} {attempt : Option String} {note : RecoveryNote π}
    {r : RecoveryRow π} (h : recordRecoveryPhase db b phase attempt note ctx = .ok (r, db')) :
    ∃ p, db.phaseOf b = some p ∧
      (phase ∈ validTransitions p ∨ phase = .recoveryDesired ∧ (p = .recovering ∨ p = .succeeded)) := by
  simp only [recordRecoveryPhase, bind_eq_ok] at h
  obtain ⟨_, -, ⟨row, taken, d⟩, hguard, _, hvalid, -⟩ := h
  obtain ⟨hphase, -⟩ := requireBatchForRecoveryWrite_history hguard
  refine ⟨row.phase, hphase, ?_⟩
  unfold requireRecoveryTransition at hvalid
  split at hvalid
  · next hexcepted =>
    simp only [recoveryPhaseExcepted, Bool.decide_or, Bool.decide_and, Bool.or_eq_true, Bool.and_eq_true,
      decide_eq_true_eq] at hexcepted
    rcases hexcepted with ⟨-, hp, hnext⟩ | ⟨hp, hnext⟩
    · exact Or.inr ⟨hnext, Or.inl hp⟩
    · exact Or.inr ⟨hnext, Or.inr hp⟩
  · exact Or.inl (require_eq_ok.1 hvalid)

/-- Records of an attempt go to a batch that is being recovered. -/
theorem recordRecoveryAction_admitted {attempt : String} {status : RecoveryActionStatus}
    {type key reason action record : Option String} {payload : Option π} {r : RecoveryActionRow π}
    (h : recordRecoveryAction db b attempt status type key reason payload action record ctx = .ok (r, db')) :
    InPhase [.recovering] db b := by
  simp only [recordRecoveryAction, bind_eq_ok] at h
  obtain ⟨_, -, _, -, ⟨row, d⟩, hguard, -⟩ := h
  exact ⟨_, List.mem_singleton_self _, (requireBatchForRecoveryActionWrite_history hguard).1⟩

theorem recordArtifactCleanup_admitted {artifact : String} {status : ArtifactCleanupStatus}
    {trigger : Option ArtifactCleanupTrigger} {key reason record : Option String} {payload : Option π}
    {r : ArtifactCleanupRow π}
    (h : recordArtifactCleanup db b artifact status trigger key reason payload record ctx = .ok (r, db')) :
    InPhase BatchPhase.all db b ∧ ∃ t, db' = { db with artifactCleanups := t } := by
  simp only [recordArtifactCleanup, bind_eq_ok, pure_eq_ok, Prod.mk.injEq] at h
  obtain ⟨_, -, _, -, row, hguard, _, -, _, -, _, -, cleanups, -, -, rfl⟩ := h
  exact ⟨inPhase_of_row (requireBatchForArtifactCleanupWrite_ok hguard).2 (BatchPhase.mem_all _), cleanups, rfl⟩

variable [DecidableEq π] {w : JournalWrite π}

/-- A write that is accepted found its batch in a phase that admits it. -/
theorem run_admitted (hb : w.batch = some b) (h : w.run db ctx = .ok db') : InPhase w.admitted db b := by
  cases w <;> simp only [JournalWrite.batch, Option.some.injEq, reduceCtorEq] at hb <;> subst hb <;>
    simp only [JournalWrite.run, map_eq_ok, Prod.exists, exists_eq_right] at h
  case appendOperation =>
    obtain ⟨_, h⟩ := h
    simp only [SafeFsOps.appendOperation, requireAppendablePhase, bind_eq_ok, require_eq_ok] at h
    obtain ⟨_, -, _, -, row, hguard, _, -, _, hphase, -⟩ := h
    obtain ⟨-, hrow, -⟩ := requireBatchForWrite_ok hguard
    exact inPhase_of_row hrow (by simpa [JournalWrite.admitted] using hphase)
  case startBatchOperation =>
    obtain ⟨_, _, h⟩ := h
    obtain ⟨-, -, ⟨row, hrow, hplanned⟩, -⟩ := startBatchOperation_advances h
    exact inPhase_of_row hrow (by simpa [JournalWrite.admitted] using hplanned)
  case recordCheckpoint _ _ _ _ _ _ attempt =>
    obtain ⟨_, h⟩ := h
    simp only [SafeFsOps.recordCheckpoint, bind_eq_ok] at h
    obtain ⟨_, -, _, -, _, -, ⟨row, d⟩, hguard, -⟩ := h
    cases attempt with
    | none =>
      simp only [requireBatchForCheckpoint, requireAppendablePhase, bind_eq_ok, require_eq_ok] at hguard
      obtain ⟨r, hguard, _, hphase, -⟩ := hguard
      obtain ⟨-, hrow, -⟩ := requireBatchForWrite_ok hguard
      exact inPhase_of_row hrow (by simpa [JournalWrite.admitted] using hphase)
    | some attemptId =>
      simp only [requireBatchForCheckpoint, bind_eq_ok] at hguard
      obtain ⟨⟨_, _⟩, hguard, -⟩ := hguard
      exact ⟨_, List.mem_singleton_self _, (requireBatchForRecoveryActionWrite_history hguard).1⟩
  -- what the table of transitions allows
  case markAttempting =>
    obtain ⟨_, h⟩ := h
    obtain ⟨p, hp, hvalid⟩ := transitionBatch_admitted h
    exact ⟨p, by cases p <;> simp_all [validTransitions, JournalWrite.admitted], hp⟩
  case markSucceeded =>
    obtain ⟨_, h⟩ := h
    obtain ⟨p, hp, hvalid⟩ := transitionBatch_admitted h
    exact ⟨p, by cases p <;> simp_all [validTransitions, JournalWrite.admitted], hp⟩
  case markFailed =>
    obtain ⟨_, h⟩ := h
    simp only [SafeFsOps.markFailed, bind_eq_ok] at h
    obtain ⟨_, -, h⟩ := h
    obtain ⟨p, hp, hvalid⟩ := transitionBatch_admitted h
    exact ⟨p, by cases p <;> simp_all [validTransitions, JournalWrite.admitted], hp⟩
  case recordRecoveryDesired =>
    obtain ⟨_, h⟩ := h
    obtain ⟨p, hp, hvalid⟩ := recordRecoveryPhase_admitted h
    exact ⟨p, by cases p <;> simp_all [validTransitions, JournalWrite.admitted], hp⟩
  case startRecovery =>
    obtain ⟨_, _, h⟩ := h
    exact ⟨_, List.mem_singleton_self _, (startRecovery_move h).1⟩
  case recordRecoverySucceeded =>
    obtain ⟨_, h⟩ := h
    obtain ⟨p, hp, hvalid⟩ := recordRecoveryPhase_admitted h
    exact ⟨p, by cases p <;> simp_all [validTransitions, JournalWrite.admitted], hp⟩
  case recordRecoveryFailed =>
    obtain ⟨_, h⟩ := h
    obtain ⟨p, hp, hvalid⟩ := recordRecoveryPhase_admitted h
    exact ⟨p, by cases p <;> simp_all [validTransitions, JournalWrite.admitted], hp⟩
  case recordInterruptedRecoveryDesired =>
    obtain ⟨_, h⟩ := h
    simp only [SafeFsOps.recordInterruptedRecoveryDesired, requireRecoveryTakeover, bind_eq_ok, require_eq_ok] at h
    obtain ⟨_, -, _, -, row, hrow, _, ⟨_, hphase, -⟩, -⟩ := h
    exact inPhase_of_row (requireBatchRow_ok hrow) hphase
  case recordLeaseLostRecoveryDesired =>
    obtain ⟨_, h⟩ := h
    simp only [SafeFsOps.recordLeaseLostRecoveryDesired, requireLeaseLostRecoveryMarker, bind_eq_ok,
      require_eq_ok] at h
    obtain ⟨_, -, _, -, row, hrow, _, ⟨_, -, _, -, _, -, _, -, hphase⟩, -⟩ := h
    exact inPhase_of_row (requireBatchRow_ok hrow) hphase
  case recordAbandonedSucceededBatchRecoveryDesired =>
    simp only [SafeFsOps.recordAbandonedSucceededBatchRecoveryDesired, bind_eq_ok] at h
    obtain ⟨_, -, h⟩ := h
    split at h
    · cases h
    · next row hrow => exact inPhase_of_row hrow (BatchPhase.mem_all _)
  case recordRecoveryActionPlanned =>
    obtain ⟨_, h⟩ := h
    simp only [SafeFsOps.recordRecoveryActionPlanned, bind_eq_ok] at h
    obtain ⟨_, -, h⟩ := h
    exact recordRecoveryAction_admitted h
  case transitionRecoveryAction =>
    obtain ⟨_, h⟩ := h
    exact recordRecoveryAction_admitted h
  case recordArtifactCleanupPlanned =>
    obtain ⟨_, h⟩ := h
    exact (recordArtifactCleanup_admitted h).1
  case transitionArtifactCleanup =>
    obtain ⟨_, h⟩ := h
    exact (recordArtifactCleanup_admitted h).1

end Admitted

/-! ## From phase to phase -/

/-- One phase after another. -/
inductive PhaseEdge : BatchPhase → BatchPhase → Prop where
  | started : PhaseEdge .planned .attempting
  | succeeded : PhaseEdge .attempting .succeeded
  | failed : PhaseEdge .attempting .failed
  | requested {p : BatchPhase} : p ≠ .recoveryDesired → p ≠ .recoverySucceeded → PhaseEdge p .recoveryDesired
  | recovering : PhaseEdge .recoveryDesired .recovering
  | recovered : PhaseEdge .recovering .recoverySucceeded
  | recoveryFailed : PhaseEdge .recovering .recoveryFailed

/-- From one phase to another, in any number of steps. -/
def Later : BatchPhase → BatchPhase → Prop := ReflTransGen PhaseEdge

/-- What is left behind is not entered again. -/
theorem Later.worked {p p' : BatchPhase} (h : Later p p') (hp : p.appendable = false) : p'.appendable = false := by
  induction h with
  | refl => exact hp
  | tail _ hedge ih => cases hedge <;> first | rfl | cases ih

/-- A batch that is recovered stays so. -/
theorem Later.recovered {p' : BatchPhase} (h : Later .recoverySucceeded p') : p' = .recoverySucceeded := by
  induction h with
  | refl => rfl
  | tail _ hedge ih =>
    subst ih
    cases hedge
    contradiction

/-- The records of a batch in one table. -/
def JournalDb.recordsOf (db : JournalDb π) (b : String) (T : RecordTable) : List (T.Row π) :=
  (db.rows T).filter fun r => rowGroup r = b

/-- One state of a batch, and another it may have come to. -/
structure Ages (b : String) (db db' : JournalDb π) : Prop where
  row : ∀ r, db.batchRow b = some r → ∃ r', db'.batchRow b = some r' ∧ r'.created = r.created ∧ Later r.phase r'.phase
  /-- once its work is over, there are no more operations -/
  worked : ∀ p, db.phaseOf b = some p → p.appendable = false →
    db'.recordsOf b .operations = db.recordsOf b .operations
  /-- once it is recovered, only artifacts are cleaned up -/
  closed : db.phaseOf b = some .recoverySucceeded → db'.batchRow b = db.batchRow b ∧
    ∀ T, T ≠ .artifactCleanups → db'.recordsOf b T = db.recordsOf b T

section Ages

variable {db db₁ db₂ db' : JournalDb π} {b : String}

protected theorem Ages.refl : Ages b db db :=
  ⟨fun r hr => ⟨r, hr, rfl, .refl⟩, fun _ _ _ => rfl, fun _ => ⟨rfl, fun _ _ => rfl⟩⟩

/-- The phase a batch has come to. -/
theorem Ages.phase (h : Ages b db db') {p : BatchPhase} (hp : db.phaseOf b = some p) :
    ∃ p', db'.phaseOf b = some p' ∧ Later p p' := by
  obtain ⟨r, hr, rfl⟩ := Option.map_eq_some_iff.1 hp
  obtain ⟨r', hr', -, hlater⟩ := h.row r hr
  exact ⟨r'.phase, phaseOf_of_batchRow hr', hlater⟩

protected theorem Ages.trans (h₁ : Ages b db db₁) (h₂ : Ages b db₁ db₂) : Ages b db db₂ where
  row r hr := by
    obtain ⟨r₁, hr₁, hc₁, hp₁⟩ := h₁.row r hr
    obtain ⟨r₂, hr₂, hc₂, hp₂⟩ := h₂.row r₁ hr₁
    exact ⟨r₂, hr₂, hc₂.trans hc₁, hp₁.trans hp₂⟩
  worked p hp hover := by
    obtain ⟨p₁, hp₁, hlater⟩ := h₁.phase hp
    exact (h₂.worked p₁ hp₁ (hlater.worked hover)).trans (h₁.worked p hp hover)
  closed hp := by
    obtain ⟨p₁, hp₁, hlater⟩ := h₁.phase hp
    rw [hlater.recovered] at hp₁
    obtain ⟨hrow₁, hrecords₁⟩ := h₁.closed hp
    obtain ⟨hrow₂, hrecords₂⟩ := h₂.closed hp₁
    exact ⟨hrow₂.trans hrow₁, fun T hT => (hrecords₂ T hT).trans (hrecords₁ T hT)⟩

/-- A batch whose row and records are what they were. -/
theorem Ages.of_same (hrow : ∀ r, db.batchRow b = some r → db'.batchRow b = some r)
    (hrecords : ∀ T, db'.recordsOf b T = db.recordsOf b T) : Ages b db db' := by
  refine ⟨fun r hr => ⟨r, hrow r hr, rfl, .refl⟩, fun _ _ _ => hrecords _, fun hp => ⟨?_, fun T _ => hrecords T⟩⟩
  obtain ⟨r, hr, -⟩ := Option.map_eq_some_iff.1 hp
  rw [hr, hrow r hr]

end Ages

section Steps

variable [JournalPayload π] [DecidableEq π] {db db' : JournalDb π} {b : String} {ctx : WriteContext}
  {w : JournalWrite π}

omit [JournalPayload π] [DecidableEq π] in
/-- A write that is admitted and sets a phase goes along an edge. One is admitted everywhere. -/
theorem phaseEdge_of_admitted {p p' : BatchPhase} (hp : p ∈ w.admitted) (hp' : p' ∈ w.phases) :
    PhaseEdge p p' ∨ ∃ batch, w = .recordAbandonedSucceededBatchRecoveryDesired batch := by
  cases w with
  | recordAbandonedSucceededBatchRecoveryDesired batch => exact Or.inr ⟨batch, rfl⟩
  | createBatch | appendOperation | recordRecoveryActionPlanned | transitionRecoveryAction
  | recordArtifactCleanupPlanned | transitionArtifactCleanup | recordCheckpoint => cases hp'
  | startBatchOperation | markAttempting =>
    obtain rfl := List.mem_singleton.1 hp
    obtain rfl := List.mem_singleton.1 hp'
    exact Or.inl .started
  | markSucceeded =>
    obtain rfl := List.mem_singleton.1 hp
    obtain rfl := List.mem_singleton.1 hp'
    exact Or.inl .succeeded
  | markFailed =>
    obtain rfl := List.mem_singleton.1 hp
    obtain rfl := List.mem_singleton.1 hp'
    exact Or.inl .failed
  | startRecovery =>
    obtain rfl := List.mem_singleton.1 hp
    obtain rfl := List.mem_singleton.1 hp'
    exact Or.inl .recovering
  | recordRecoverySucceeded =>
    obtain rfl := List.mem_singleton.1 hp
    obtain rfl := List.mem_singleton.1 hp'
    exact Or.inl .recovered
  | recordRecoveryFailed =>
    obtain rfl := List.mem_singleton.1 hp
    obtain rfl := List.mem_singleton.1 hp'
    exact Or.inl .recoveryFailed
  | recordRecoveryDesired | recordInterruptedRecoveryDesired | recordLeaseLostRecoveryDesired =>
    obtain rfl := List.mem_singleton.1 hp'
    have hne : p ≠ .recoveryDesired ∧ p ≠ .recoverySucceeded := by
      constructor <;> (rintro rfl; simp [JournalWrite.admitted] at hp)
    exact Or.inl (.requested hne.1 hne.2)

omit [DecidableEq π] in
/-- The request for the recovery of an abandoned batch does nothing to one that has not succeeded. -/
theorem abandoned_cases {batch : BatchRow π}
    (h : recordAbandonedSucceededBatchRecoveryDesired db batch ctx = .ok db') :
    db' = db ∨ db.phaseOf batch.batchId = some .succeeded := by
  simp only [recordAbandonedSucceededBatchRecoveryDesired, bind_eq_ok] at h
  obtain ⟨_, -, h⟩ := h
  split at h
  · cases h
  · next row hrow =>
    by_cases hp : row.phase = .succeeded
    · exact Or.inr (hp ▸ phaseOf_of_batchRow hrow)
    · rw [if_pos hp] at h
      exact Or.inl (pure_eq_ok.1 h).symm

/-- What a write does to the phase of its batch. -/
theorem run_later (hb : w.batch = some b) (h : w.run db ctx = .ok db') {r : BatchRow π} (hr : db.batchRow b = some r) :
    ∃ r', db'.batchRow b = some r' ∧ r'.created = r.created ∧ Later r.phase r'.phase := by
  obtain ⟨r', hr', hcreated, hphase, -⟩ := (run_advances hb h).row r hr
  refine ⟨r', hr', hcreated, ?_⟩
  rcases hphase with hsame | ⟨hnext, -⟩
  · rw [hsame]
    exact .refl
  obtain ⟨p, hp, hphaseOf⟩ := run_admitted hb h
  rw [phaseOf_of_batchRow hr] at hphaseOf
  cases hphaseOf
  rcases phaseEdge_of_admitted hp hnext with hedge | ⟨batch, rfl⟩
  · exact .single hedge
  · -- that request is admitted everywhere, and has an effect on a succeeded batch only
    cases hb
    rcases abandoned_cases h with rfl | hsucceeded
    · rw [hr] at hr'
      cases hr'
      exact .refl
    · rw [phaseOf_of_batchRow hr, Option.some.injEq] at hsucceeded
      obtain hdesired := List.mem_singleton.1 hnext
      rw [hdesired, hsucceeded]
      exact .single (.requested (by decide) (by decide))

/-- A recovered batch admits nothing but the cleanup of its artifacts. -/
theorem run_closed (hb : w.batch = some b) (h : w.run db ctx = .ok db') (hp : db.phaseOf b = some .recoverySucceeded) :
    ∃ t, db' = { db with artifactCleanups := t } := by
  obtain ⟨p, hmem, hphase⟩ := run_admitted hb h
  rw [hp, Option.some.injEq] at hphase
  subst hphase
  cases w with
  | recordArtifactCleanupPlanned =>
    simp only [JournalWrite.run, map_eq_ok, Prod.exists, exists_eq_right] at h
    obtain ⟨_, h⟩ := h
    exact (recordArtifactCleanup_admitted h).2
  | transitionArtifactCleanup =>
    simp only [JournalWrite.run, map_eq_ok, Prod.exists, exists_eq_right] at h
    obtain ⟨_, h⟩ := h
    exact (recordArtifactCleanup_admitted h).2
  | recordAbandonedSucceededBatchRecoveryDesired batch =>
    cases hb
    rcases abandoned_cases h with rfl | hsucceeded
    · exact ⟨_, rfl⟩
    · rw [hp] at hsucceeded
      cases hsucceeded
  | recordCheckpoint _ _ _ _ _ _ attempt => cases attempt <;> simp [JournalWrite.admitted] at hmem
  | createBatch => cases hb
  | _ => simp [JournalWrite.admitted] at hmem

omit [JournalPayload π] [DecidableEq π] in
/-- Operations are appended to a batch that is worked on. -/
theorem appendable_of_admitted {p : BatchPhase} (hw : .operations ∈ w.tables) (hp : p ∈ w.admitted) :
    p.appendable = true := by
  cases w with
  | appendOperation =>
    rcases List.mem_cons.1 hp with rfl | hp
    · rfl
    · obtain rfl := List.mem_singleton.1 hp
      rfl
  | startBatchOperation =>
    obtain rfl := List.mem_singleton.1 hp
    rfl
  | _ => simp [JournalWrite.tables, JournalWrite.table] at hw

theorem run_worked (hb : w.batch = some b) (h : w.run db ctx = .ok db') {p : BatchPhase} (hp : db.phaseOf b = some p)
    (hover : p.appendable = false) : db'.rows .operations = db.rows .operations := by
  rcases run_writes hb h with hwrites | rfl
  · refine hwrites.rows_eq fun hmem => ?_
    obtain ⟨q, hq, hphase⟩ := run_admitted hb h
    rw [hp, Option.some.injEq] at hphase
    subst hphase
    rw [appendable_of_admitted hmem hq] at hover
    cases hover
  · rfl

theorem ages_run (hb : w.batch = some b) (h : w.run db ctx = .ok db') : Ages b db db' where
  row _ hr := run_later hb h hr
  worked p hp hover := by
    rw [JournalDb.recordsOf, run_worked hb h hp hover]
    rfl
  closed hp := by
    obtain ⟨t, rfl⟩ := run_closed hb h hp
    refine ⟨rfl, fun T hT => ?_⟩
    cases T <;> first | rfl | exact absurd rfl hT

/-- **One call.** -/
theorem ages_step (b : String) (db : JournalDb π) (c : JournalCall π) : Ages b db (db.step c) := by
  cases c with
  | lease c => exact .of_same (fun _ hr => hr) fun T => by cases T <;> rfl
  | operationRuns runs phases => exact .of_same (fun _ hr => hr) fun T => by cases T <;> rfl
  | write x ctx =>
    simp only [JournalDb.step]
    split
    · next db' hrun =>
      cases hb : x.batch with
      | some b' =>
        by_cases hne : b = b'
        · subst hne
          exact ages_run hb hrun
        · refine .of_same (fun r hr => ((run_advances hb hrun).other b hne).trans hr) fun T => ?_
          rcases run_writes hb hrun with hwrites | rfl
          · exact hwrites.rows_other hne T
          · rfl
      | none =>
        obtain ⟨-, rfl | ⟨req, id, rfl, -, -⟩⟩ := run_create hb hrun
        · exact .refl
        · refine .of_same (fun r hr => ?_) fun T => by cases T <;> rfl
          rw [JournalDb.batchRow, findRow_append_one, show findRow BatchRow.batchId db.batches b = some r from hr]
          rfl
    · exact .refl

/-- **The life of a batch**, from any state of the journal and through any calls: it is never lost,
keeps the columns it was created with, and goes along the edges, so that it is never planned again
and, once recovered, stays recovered; its operations are complete when its work is over; and of a
batch that is recovered no more is written than how its artifacts were cleaned up. -/
theorem batch_life (db : JournalDb π) (calls : List (JournalCall π)) (b : String) :
    Ages b db (after JournalDb.step db calls) :=
  after_relates (R := Ages b) (fun _ => .refl) (fun h₁ h₂ => h₁.trans h₂) (ages_step b) calls db

/-- There are no records of a batch that is not there. -/
def RecordsHaveBatch (db : JournalDb π) : Prop := ∀ b, db.batchRow b = none → ∀ T, db.recordsOf b T = []

theorem recordsHaveBatch_step (db : JournalDb π) (c : JournalCall π) (h : RecordsHaveBatch db) :
    RecordsHaveBatch (db.step c) := by
  intro b hb T
  -- a batch is never lost, so it was not there before the call
  have habsent : db.batchRow b = none := by
    cases hr : db.batchRow b with
    | none => rfl
    | some r =>
      obtain ⟨r', hr', -⟩ := (ages_step b db c).row r hr
      rw [hr'] at hb
      cases hb
  suffices hsame : (db.step c).recordsOf b T = db.recordsOf b T by rw [hsame, h b habsent T]
  cases c with
  | lease c => cases T <;> rfl
  | operationRuns runs phases => cases T <;> rfl
  | write x ctx =>
    simp only [JournalDb.step]
    split
    · next db' hrun =>
      cases hx : x.batch with
      | none =>
        obtain ⟨-, rfl | ⟨req, id, rfl, -, -⟩⟩ := run_create hx hrun
        · rfl
        · cases T <;> rfl
      | some b' =>
        by_cases hne : b = b'
        · subst hne
          obtain ⟨p, -, hp⟩ := run_admitted hx hrun
          rw [JournalDb.phaseOf, habsent] at hp
          cases hp
        · rcases run_writes hx hrun with hwrites | rfl
          · exact hwrites.rows_other hne T
          · rfl
    · rfl

end Steps

end SafeFsOps
