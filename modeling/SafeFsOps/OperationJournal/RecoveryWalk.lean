import SafeFsOps.OperationJournal.RecordNumbers

/-!
# A batch's phase and its recovery records

The phase of a batch is a column of its row; its recovery is a log. Eight
operations write one or both, in four modules, two of them past the usual guard,
and none of them reads the log to see whether the column agrees with it. What
keeps the two together is how they change, which is only in five ways:

> `RecoveryMove`: nothing of the recovery changes, or the batch moves among the
> phases that know no recovery, or the recovery is requested, started or finished,
> and then records are appended of which the last carries the new phase. A handoff
> puts a further request before the record of a request or a start.

`run_moves` takes every write apart into one of them. A handoff may also begin a
write that names an attempt; but then the attempt is no longer the latest record,
and the write raises (`handed_not_active`).

> `recovery_walk`: in every reachable state a batch has recovery records exactly in
> the four phases of a recovery, the last of them carries its phase, and the
> records are a walk in which an attempt follows a request and an end its attempt.
-/

namespace SafeFsOps

open SequencedRow

variable {π : Type}

/-- The phases a batch is in once its recovery was requested. -/
def BatchPhase.recorded : BatchPhase → Bool
  | recoveryDesired | recovering | recoverySucceeded | recoveryFailed => true
  | _ => false

namespace JournalDb

/-- The phase of a batch. -/
def phaseOf (db : JournalDb π) (b : String) : Option BatchPhase := (db.batchRow b).map BatchRow.phase

/-- The recovery records of a batch, in the order they were written. -/
def recoveryHistory (db : JournalDb π) (b : String) : List (RecoveryRow π) :=
  db.recoveries.filter fun r => r.batchId = b

end JournalDb

/-! ## The five moves -/

/-- From one phase and history to the next. -/
inductive RecoveryMove : BatchPhase → List (RecoveryRow π) → BatchPhase → List (RecoveryRow π) → Prop
  | still (p : BatchPhase) (h : List (RecoveryRow π)) : RecoveryMove p h p h
  | forward {p p' : BatchPhase} (h : List (RecoveryRow π)) : p.recorded = false → p'.recorded = false →
    RecoveryMove p h p' h
  | request {p : BatchPhase} (h : List (RecoveryRow π)) {handed : List (RecoveryRow π)} {r : RecoveryRow π} :
    p ≠ .recoverySucceeded → (∀ x ∈ handed, x.phase = .recoveryDesired) → r.phase = .recoveryDesired →
    RecoveryMove p h .recoveryDesired (h ++ handed ++ [r])
  | start (h : List (RecoveryRow π)) {handed : List (RecoveryRow π)} {r : RecoveryRow π} :
    (∀ x ∈ handed, x.phase = .recoveryDesired) → r.phase = .recovering →
    RecoveryMove .recoveryDesired h .recovering (h ++ handed ++ [r])
  | finish {p : BatchPhase} {h : List (RecoveryRow π)} {attempt r : RecoveryRow π} : h.getLast? = some attempt →
    attempt.phase = .recovering → p = .recoverySucceeded ∨ p = .recoveryFailed → r.phase = p →
    RecoveryMove .recovering h p (h ++ [r])

/-- Which recovery record may directly follow which. -/
def RecoveryFollows (r r' : RecoveryRow π) : Prop :=
  match r'.phase with
  | .recoveryDesired => r.phase ≠ .recoverySucceeded
  | .recovering => r.phase = .recoveryDesired
  | .recoverySucceeded | .recoveryFailed => r.phase = .recovering
  | _ => False

/-- A batch in phase `p` has the history `h`: it is empty before a recovery is requested, and
then a walk from a request to a record of the phase. -/
structure HistoryOf (p : BatchPhase) (h : List (RecoveryRow π)) : Prop where
  walk : IsHistory (fun r => r.phase = .recoveryDesired) RecoveryFollows h
  last : h.getLast?.map RecoveryRow.phase = if p.recorded then some p else none

section Moves

variable {p p' : BatchPhase} {h h' : List (RecoveryRow π)}

theorem HistoryOf.nil (hp : p.recorded = false) : HistoryOf p ([] : List (RecoveryRow π)) where
  walk := IsHistory.nil
  last := by simp [hp]

theorem HistoryOf.eq_nil (hh : HistoryOf p h) (hp : p.recorded = false) : h = [] := by
  have hlast := hh.last
  rw [hp] at hlast
  simpa using hlast

/-- A record appended to a walk it may follow. -/
theorem HistoryOf.append (hh : HistoryOf p h) {r : RecoveryRow π}
    (hfirst : h = [] → r.phase = .recoveryDesired)
    (hnext : ∀ x, h.getLast? = some x → RecoveryFollows x r) (hr : r.phase.recorded = true) :
    HistoryOf r.phase (h ++ [r]) where
  walk := hh.walk.concat hfirst hnext
  last := by simp [hr]

/-- Further requests may be appended to every walk that has not succeeded. -/
theorem HistoryOf.append_requests (hh : HistoryOf p h) (hp : p ≠ .recoverySucceeded) {new : List (RecoveryRow π)}
    (hne : new ≠ []) (hnew : ∀ x ∈ new, x.phase = .recoveryDesired) : HistoryOf .recoveryDesired (h ++ new) := by
  induction new generalizing p h with
  | nil => exact absurd rfl hne
  | cons r new ih =>
    have hr : r.phase = .recoveryDesired := hnew r List.mem_cons_self
    have hone : HistoryOf .recoveryDesired (h ++ [r]) := by
      rw [← hr]
      refine hh.append (fun _ => hr) ?_ (by rw [hr]; rfl)
      intro x hx
      have hlast := hh.last
      rw [hx] at hlast
      simp only [RecoveryFollows, hr]
      intro hsucc
      split at hlast
      · exact hp (by simpa [hsucc] using hlast.symm)
      · cases hlast
    rw [List.append_cons]
    by_cases hnil : new = []
    · rw [hnil, List.append_nil]
      exact hone
    · exact ih hone (by decide) hnil fun x hx => hnew x (List.mem_cons_of_mem _ hx)

/-- Every move leads from a history of its phase to one of the next. -/
theorem RecoveryMove.historyOf (hmove : RecoveryMove p h p' h') (hh : HistoryOf p h) : HistoryOf p' h' := by
  cases hmove with
  | still => exact hh
  | forward _ hp hp' =>
    rw [hh.eq_nil hp]
    exact HistoryOf.nil hp'
  | request _ hp hhanded hr =>
    rw [List.append_assoc]
    refine hh.append_requests hp (by simp) ?_
    intro x hx
    rcases List.mem_append.1 hx with hx | hx
    · exact hhanded x hx
    · rw [List.mem_singleton.1 hx, hr]
  | @start _ handed r hhanded hr =>
    have hready : HistoryOf .recoveryDesired (h ++ handed) := by
      by_cases hnil : handed = []
      · rw [hnil, List.append_nil]
        exact hh
      · exact hh.append_requests (by decide) hnil hhanded
    rw [← hr]
    refine hready.append ?_ ?_ (by rw [hr]; rfl)
    · intro hnil
      have hlast := hready.last
      rw [hnil] at hlast
      cases hlast
    · intro x hx
      have hlast := hready.last
      rw [hx] at hlast
      simp only [RecoveryFollows, hr]
      exact Option.some.inj hlast
  | @finish _ _ attempt r hattempt hphase hp hr =>
    rw [← hr] at hp ⊢
    refine hh.append ?_ ?_ (by rcases hp with hp | hp <;> rw [hp] <;> rfl)
    · intro hnil
      rw [hnil] at hattempt
      cases hattempt
    · intro x hx
      rw [hattempt] at hx
      cases hx
      rcases hp with hp | hp <;> simp only [RecoveryFollows, hp, hphase]

end Moves

/-! ## The parts of a write -/

section Parts

variable {db d d' : JournalDb π} {b : String} {ctx : WriteContext} {row : BatchRow π}

theorem phaseOf_of_batchRow (h : db.batchRow b = some row) : db.phaseOf b = some row.phase := by
  rw [JournalDb.phaseOf, h]
  rfl

theorem phaseOf_updateBatch {f : BatchRow π → BatchRow π} (hf : KeepsBatch f) (h : db.batchRow b = some row) :
    (db.updateBatch b f).phaseOf b = some (f row).phase := by
  refine phaseOf_of_batchRow ?_
  rw [batchRow_updateBatch hf, if_pos rfl, h]
  rfl

theorem insertRecovery_history {r : RecoveryRow π} (hb : r.batchId = b) (h : insertRecovery d r = .ok d') :
    d'.recoveryHistory b = d.recoveryHistory b ++ [r] := by
  simp only [insertRecovery, bind_eq_ok, pure_eq_ok] at h
  obtain ⟨recoveries, hins, rfl⟩ := h
  obtain ⟨rfl, -⟩ := insertRow_eq_ok hins
  simp only [JournalDb.recoveryHistory, List.filter_append, List.filter_singleton, hb, decide_true, cond_true]

/-- An active attempt is the latest recovery record of its batch, and is recovering. -/
theorem requireActiveRecoveryAttempt_ok {attempt : Option String} {r : RecoveryRow π}
    (h : requireActiveRecoveryAttempt db b attempt = .ok r) :
    r.batchId = b ∧ attempt = some r.recoveryId ∧ r ∈ db.recoveries ∧
      ∃ latest, db.latestRecoveryRow b = some latest ∧ latest.recoveryId = r.recoveryId ∧
        latest.phase = .recovering := by
  simp only [requireActiveRecoveryAttempt] at h
  by_cases hid : attempt.getD "" = ""
  · rw [if_pos hid] at h
    cases h
  · rw [if_neg hid] at h
    obtain ⟨id, rfl⟩ : ∃ id, attempt = some id := by
      cases attempt with
      | none => exact absurd rfl hid
      | some id => exact ⟨id, rfl⟩
    split at h
    · cases h
    · next found hfound =>
      split at h
      · cases h
      · next hbatch =>
        split at h
        · cases h
        · split at h
          · next latest hlatest =>
            split at h
            · next hactive =>
              cases h
              have hkey : r.recoveryId = id := findRow_key hfound
              refine ⟨not_not.1 hbatch, congrArg some hkey.symm, findRow_mem hfound, latest, hlatest, ?_, hactive.2⟩
              rw [hkey]
              exact hactive.1
            · cases h
          · cases h

/-- In a numbered database the active attempt ends its batch's history. -/
theorem active_getLast? (hdb : Numbered db) {attempt : Option String} {r : RecoveryRow π}
    (h : requireActiveRecoveryAttempt db b attempt = .ok r) :
    ∃ latest, (db.recoveryHistory b).getLast? = some latest ∧ attempt = some latest.recoveryId ∧
      latest.phase = .recovering := by
  obtain ⟨-, hid, -, latest, hlatest, hkey, hphase⟩ := requireActiveRecoveryAttempt_ok h
  rw [hdb.latestRecoveryRow] at hlatest
  exact ⟨latest, hlatest, hid.trans (congrArg some hkey.symm), hphase⟩

/-- What a handoff has outdated is not active. -/
theorem handed_not_active (hdb : Numbered d) {h handed : List (RecoveryRow π)}
    (hd : d.recoveryHistory b = h ++ handed) (hhanded : ∀ x ∈ handed, x.phase = .recoveryDesired)
    {attempt : Option String} {r : RecoveryRow π} (hactive : requireActiveRecoveryAttempt d b attempt = .ok r) :
    handed = [] := by
  obtain ⟨latest, hlatest, -, hphase⟩ := active_getLast? hdb hactive
  rw [hd, List.getLast?_append] at hlatest
  cases hlast : handed.getLast? with
  | none => exact List.getLast?_eq_none_iff.1 hlast
  | some x =>
    rw [hlast] at hlatest
    obtain rfl : x = latest := Option.some.inj hlatest
    rw [hhanded x (List.mem_of_getLast? hlast)] at hphase
    cases hphase

variable [JournalPayload π]

theorem writeRecovery_history {phase : BatchPhase} {note : RecoveryNote π} {bind : BatchRow π → BatchRow π}
    {r : RecoveryRow π} (h : writeRecovery d b phase note bind ctx = .ok (r, d')) :
    r.phase = phase ∧ d'.recoveryHistory b = d.recoveryHistory b ++ [r] := by
  simp only [writeRecovery, bind_eq_ok, pure_eq_ok, Prod.mk.injEq] at h
  obtain ⟨_, hins, rfl, rfl⟩ := h
  refine ⟨rfl, ?_⟩
  rw [insertRecovery_history rfl hins]
  rfl

theorem writeRecovery_phaseOf {phase : BatchPhase} {note : RecoveryNote π} {bind : BatchRow π → BatchRow π}
    {r : RecoveryRow π} (h : writeRecovery d b phase note bind ctx = .ok (r, d')) (hbind : KeepsBatch bind)
    (hrow : d.batchRow b = some row) : d'.phaseOf b = some phase := by
  exact phaseOf_of_batchRow (writeRecovery_row h hbind hrow)

theorem handoff_history (h : recordRecoveryTakeoverHandoff db row ctx = .ok d) :
    ∃ x, x.phase = .recoveryDesired ∧ d.recoveryHistory row.batchId = db.recoveryHistory row.batchId ++ [x] := by
  have hhist := insertRecovery_history rfl h
  exact ⟨_, rfl, hhist⟩

/-- The recovery guard keeps the phase, and hands over only where that is allowed. -/
theorem requireBatchForRecoveryWrite_history {phase : BatchPhase} {taken : Bool}
    (h : requireBatchForRecoveryWrite db b phase ctx = .ok (row, taken, d)) :
    db.phaseOf b = some row.phase ∧ ∃ handed : List (RecoveryRow π),
      d.recoveryHistory b = db.recoveryHistory b ++ handed ∧ (∀ x ∈ handed, x.phase = .recoveryDesired) ∧
        (handed = [] ∨ takeoverAllowed phase row.phase = true) := by
  simp only [requireBatchForRecoveryWrite, bind_eq_ok, require_eq_ok] at h
  obtain ⟨_, -, r, hrow, _, -, h⟩ := h
  have hrow := requireBatchRow_ok hrow
  have hkey : r.batchId = b := findRow_key hrow
  subst hkey
  split at h
  · simp only [pure_eq_ok, Prod.mk.injEq] at h
    obtain ⟨rfl, -, rfl⟩ := h
    exact ⟨phaseOf_of_batchRow hrow, [], (List.append_nil _).symm, (fun x hx => by cases hx), Or.inl rfl⟩
  · split at h
    · next hlt =>
      simp only [bind_eq_ok, pure_eq_ok, Prod.mk.injEq] at h
      obtain ⟨d₁, hhand, updated, hup, rfl, -, rfl⟩ := h
      obtain rfl := Option.some.inj ((handoff_binds hhand hrow).symm.trans (requireBatchRow_ok hup))
      obtain ⟨x, hx, hhist⟩ := handoff_history hhand
      have hbefore : db.phaseOf r.batchId = some (r.bindLease ctx).phase := by
        rw [phaseOf_of_batchRow hrow]
        rfl
      refine ⟨hbefore, [x], hhist, ?_, Or.inr hlt.2⟩
      intro y hy
      rw [List.mem_singleton.1 hy, hx]
    · split at h <;> cases h

/-- The guard of actions and of an attempt's checkpoints wants a recovering batch. -/
theorem requireBatchForRecoveryActionWrite_history (h : requireBatchForRecoveryActionWrite db b ctx = .ok (row, d)) :
    db.phaseOf b = some .recovering ∧ d.phaseOf b = some .recovering ∧ ∃ handed : List (RecoveryRow π),
      d.recoveryHistory b = db.recoveryHistory b ++ handed ∧ ∀ x ∈ handed, x.phase = .recoveryDesired := by
  simp only [requireBatchForRecoveryActionWrite, requireRecoveringBatch, bind_eq_ok, require_eq_ok] at h
  obtain ⟨_, -, r, hrow, _, -, _, hphase, h⟩ := h
  have hrow := requireBatchRow_ok hrow
  have hkey : r.batchId = b := findRow_key hrow
  subst hkey
  have hbefore : db.phaseOf r.batchId = some .recovering := by
    rw [phaseOf_of_batchRow hrow, hphase]
  refine ⟨hbefore, ?_⟩
  split at h
  · simp only [pure_eq_ok, Prod.mk.injEq] at h
    obtain ⟨-, rfl⟩ := h
    exact ⟨hbefore, [], (List.append_nil _).symm, fun x hx => by cases hx⟩
  · split at h
    · simp only [bind_eq_ok, pure_eq_ok, Prod.mk.injEq] at h
      obtain ⟨d₁, hhand, _, -, -, rfl⟩ := h
      obtain ⟨x, hx, hhist⟩ := handoff_history hhand
      refine ⟨?_, [x], hhist, ?_⟩
      · rw [phaseOf_of_batchRow (handoff_binds hhand hrow)]
        exact congrArg some hphase
      · intro y hy
        rw [List.mem_singleton.1 hy, hx]
    · cases h

end Parts

/-! ## The writes -/

section Writes

variable [JournalPayload π] {db db' : JournalDb π} {b : String} {ctx : WriteContext}

/-- Completing a recovery: the call names the attempt that ends the history, its record follows. -/
theorem recordRecoveryPhase_finish {phase : BatchPhase} {attempt : Option String} {note : RecoveryNote π}
    {r : RecoveryRow π} (hdb : Numbered db) (hphase : phase = .recoverySucceeded ∨ phase = .recoveryFailed)
    (h : recordRecoveryPhase db b phase attempt note ctx = .ok (r, db')) :
    db.phaseOf b = some .recovering ∧ db'.phaseOf b = some phase ∧ r.phase = phase ∧
      db'.recoveryHistory b = db.recoveryHistory b ++ [r] ∧
      ∃ latest, (db.recoveryHistory b).getLast? = some latest ∧ attempt = some latest.recoveryId ∧
        latest.phase = .recovering := by
  simp only [recordRecoveryPhase, bind_eq_ok] at h
  obtain ⟨_, -, ⟨row, taken, d⟩, hguard, _, htransition, _, hfinish, hwrite⟩ := h
  have hnumbered : Numbered d := by
    obtain ⟨_, hwrites⟩ := requireBatchForRecoveryWrite_writes (W := true) (K := [.recoveries]) List.mem_cons_self hguard
    exact hwrites.numbered hdb
  obtain ⟨hbefore, handed, hhist, hhanded, hallowed⟩ := requireBatchForRecoveryWrite_history hguard
  obtain ⟨-, -, hrow, -⟩ := requireBatchForRecoveryWrite_ok hguard
  have hrecovering : row.phase = .recovering := by
    simp only [requireRecoveryTransition, recoveryPhaseExcepted, requireValidTransition] at htransition
    rcases hphase with rfl | rfl <;> cases hrp : row.phase <;>
      simp [hrp, validTransitions, require] at htransition
    all_goals rfl
  have hactive : ∃ x, requireActiveRecoveryAttempt d b attempt = .ok x := by
    simp only [requireAttemptToFinish] at hfinish
    rw [if_pos (by rcases hphase with rfl | rfl <;> decide)] at hfinish
    obtain ⟨x, hx, -⟩ := map_eq_ok.1 hfinish
    exact ⟨x, hx⟩
  obtain ⟨x, hactive⟩ := hactive
  have hnil : handed = [] := handed_not_active hnumbered hhist hhanded hactive
  rw [hnil, List.append_nil] at hhist
  obtain ⟨hr, hafter⟩ := writeRecovery_history hwrite
  rw [hhist] at hafter
  obtain ⟨latest, hlatest, hid, hlp⟩ := active_getLast? hnumbered hactive
  rw [hhist] at hlatest
  exact ⟨hbefore.trans (congrArg some hrecovering), writeRecovery_phaseOf hwrite KeepsBatch.id hrow, hr, hafter,
    latest, hlatest, hid, hlp⟩

theorem finish_move {phase : BatchPhase} {attempt : Option String} {note : RecoveryNote π} {r : RecoveryRow π}
    (hdb : Numbered db) (hphase : phase = .recoverySucceeded ∨ phase = .recoveryFailed)
    (h : recordRecoveryPhase db b phase attempt note ctx = .ok (r, db')) :
    ∃ p p', db.phaseOf b = some p ∧ db'.phaseOf b = some p' ∧
      RecoveryMove p (db.recoveryHistory b) p' (db'.recoveryHistory b) := by
  obtain ⟨hbefore, hafter, hr, hhist, latest, hlatest, -, hrecovering⟩ := recordRecoveryPhase_finish hdb hphase h
  refine ⟨_, _, hbefore, hafter, ?_⟩
  rw [hhist]
  exact RecoveryMove.finish hlatest hrecovering hphase hr

/-- Requesting a recovery, after a handoff if need be. -/
theorem recordRecoveryDesired_move {note : RecoveryNote π} {r : RecoveryRow π}
    (h : recordRecoveryDesired db b note ctx = .ok (r, db')) :
    ∃ p, db.phaseOf b = some p ∧ db'.phaseOf b = some .recoveryDesired ∧
      RecoveryMove p (db.recoveryHistory b) .recoveryDesired (db'.recoveryHistory b) := by
  simp only [recordRecoveryDesired, recordRecoveryPhase, bind_eq_ok] at h
  obtain ⟨_, -, ⟨row, taken, d⟩, hguard, _, htransition, _, -, hwrite⟩ := h
  obtain ⟨hbefore, handed, hhist, hhanded, -⟩ := requireBatchForRecoveryWrite_history hguard
  obtain ⟨-, -, hrow, -⟩ := requireBatchForRecoveryWrite_ok hguard
  have hnot : row.phase ≠ .recoverySucceeded := by
    intro hp
    simp [requireRecoveryTransition, recoveryPhaseExcepted, requireValidTransition, hp, validTransitions, require]
      at htransition
  obtain ⟨hr, hafter⟩ := writeRecovery_history hwrite
  refine ⟨row.phase, hbefore, writeRecovery_phaseOf hwrite KeepsBatch.id hrow, ?_⟩
  rw [hafter, hhist]
  exact RecoveryMove.request _ hnot hhanded hr

/-- Starting a recovery, after a handoff if need be. -/
theorem startRecovery_move {note : RecoveryNote π} {row : BatchRow π} {r : RecoveryRow π}
    (h : startRecovery db b note ctx = .ok (row, r, db')) :
    db.phaseOf b = some .recoveryDesired ∧ db'.phaseOf b = some .recovering ∧
      RecoveryMove .recoveryDesired (db.recoveryHistory b) .recovering (db'.recoveryHistory b) := by
  simp only [startRecovery, bind_eq_ok, pure_eq_ok, Prod.mk.injEq] at h
  obtain ⟨_, -, ⟨row, taken, d⟩, hguard, _, htransition, ⟨_, _⟩, hwrite, _, -, -, -, rfl⟩ := h
  obtain ⟨hbefore, handed, hhist, hhanded, -⟩ := requireBatchForRecoveryWrite_history hguard
  obtain ⟨-, -, hrow, -⟩ := requireBatchForRecoveryWrite_ok hguard
  have hdesired : row.phase = .recoveryDesired := by
    cases hp : row.phase <;> simp [requireValidTransition, hp, validTransitions, require] at htransition
    rfl
  obtain ⟨hr, hafter⟩ := writeRecovery_history hwrite
  refine ⟨hbefore.trans (congrArg some hdesired), writeRecovery_phaseOf hwrite KeepsBatch.id hrow, ?_⟩
  rw [hafter, hhist]
  exact RecoveryMove.start _ hhanded hr

omit [JournalPayload π] in
/-- No transition leads out of a recovery. -/
theorem unrecorded_of_valid {p p' : BatchPhase} (h : p' ∈ validTransitions p) (hp' : p'.recorded = false) :
    p.recorded = false := by
  cases p <;> cases p' <;> simp [validTransitions, BatchPhase.recorded] at h hp' ⊢

/-- A transition that is no recovery: the phase before and the phase after know none. -/
theorem transitionBatch_move {phase : BatchPhase} {message : Option String} {status : Option π} {r : BatchRow π}
    (hphase : phase.recorded = false)
    (h : transitionBatch db b phase message status ctx = .ok (r, db')) :
    ∃ p, db.phaseOf b = some p ∧ db'.phaseOf b = some phase ∧
      RecoveryMove p (db.recoveryHistory b) phase (db'.recoveryHistory b) := by
  simp only [transitionBatch, bind_eq_ok, pure_eq_ok, Prod.mk.injEq] at h
  obtain ⟨_, -, row, hguard, _, htransition, _, -, -, rfl⟩ := h
  obtain ⟨-, hrow, -⟩ := requireBatchForWrite_ok hguard
  refine ⟨row.phase, phaseOf_of_batchRow hrow, phaseOf_updateBatch (KeepsBatch.setPhase _ _ _ _) hrow, ?_⟩
  exact RecoveryMove.forward _ (unrecorded_of_valid (require_eq_ok.1 htransition) hphase) hphase

/-- A write of one recovery record by itself requests the recovery of an unfinished or a
succeeded batch. -/
theorem writeRecovery_request {note : RecoveryNote π} {bind : BatchRow π → BatchRow π} {row : BatchRow π}
    {r : RecoveryRow π} (hbind : KeepsBatch bind) (hrow : db.batchRow b = some row)
    (hnot : row.phase ≠ .recoverySucceeded)
    (h : writeRecovery db b .recoveryDesired note bind ctx = .ok (r, db')) :
    ∃ p p', db.phaseOf b = some p ∧ db'.phaseOf b = some p' ∧
      RecoveryMove p (db.recoveryHistory b) p' (db'.recoveryHistory b) := by
  obtain ⟨hr, hafter⟩ := writeRecovery_history h
  refine ⟨row.phase, _, phaseOf_of_batchRow hrow, writeRecovery_phaseOf h hbind hrow, ?_⟩
  rw [hafter]
  have hmove : RecoveryMove row.phase (db.recoveryHistory b) .recoveryDesired (db.recoveryHistory b ++ [] ++ [r]) :=
    RecoveryMove.request _ hnot (fun x hx => by cases hx) hr
  rwa [List.append_nil] at hmove

omit [JournalPayload π] in
/-- A write to a table other than the recovery records, phases left alone. -/
theorem still_move {p : BatchPhase} (hp : db.phaseOf b = some p) (hb : db'.batches = db.batches)
    (hr : db'.recoveries = db.recoveries) :
    ∃ p p', db.phaseOf b = some p ∧ db'.phaseOf b = some p' ∧
      RecoveryMove p (db.recoveryHistory b) p' (db'.recoveryHistory b) := by
  refine ⟨p, p, hp, ?_, ?_⟩
  · simpa only [JournalDb.phaseOf, JournalDb.batchRow, hb] using hp
  · simp only [JournalDb.recoveryHistory, hr]
    exact RecoveryMove.still _ _

/-- A record of an active attempt: had the guard handed the batch over, the attempt would not be
active any more. -/
theorem recoveryAction_still {d : JournalDb π} {row : BatchRow π} {attempt : Option String} {r : RecoveryRow π}
    (hdb : Numbered db) (hguard : requireBatchForRecoveryActionWrite db b ctx = .ok (row, d))
    (hactive : requireActiveRecoveryAttempt d b attempt = .ok r) (hb : db'.batches = d.batches)
    (hr : db'.recoveries = d.recoveries) :
    ∃ p p', db.phaseOf b = some p ∧ db'.phaseOf b = some p' ∧
      RecoveryMove p (db.recoveryHistory b) p' (db'.recoveryHistory b) := by
  obtain ⟨hbefore, hafter, handed, hhist, hhanded⟩ := requireBatchForRecoveryActionWrite_history hguard
  have hnumbered : Numbered d := by
    obtain ⟨_, hwrites⟩ := requireBatchForRecoveryActionWrite_writes (W := true) (K := [.recoveries]) List.mem_cons_self hguard
    exact hwrites.numbered hdb
  rw [handed_not_active hnumbered hhist hhanded hactive, List.append_nil] at hhist
  refine ⟨.recovering, .recovering, hbefore, ?_, ?_⟩
  · simpa only [JournalDb.phaseOf, JournalDb.batchRow, hb] using hafter
  · have hsame : db'.recoveryHistory b = db.recoveryHistory b := by
      rw [← hhist]
      simp only [JournalDb.recoveryHistory, hr]
    rw [hsame]
    exact RecoveryMove.still _ _

theorem recordRecoveryAction_move {attempt : String} {status : RecoveryActionStatus}
    {type key reason action record : Option String} {payload : Option π} {r : RecoveryActionRow π}
    (hdb : Numbered db)
    (h : recordRecoveryAction db b attempt status type key reason payload action record ctx = .ok (r, db')) :
    ∃ p p', db.phaseOf b = some p ∧ db'.phaseOf b = some p' ∧
      RecoveryMove p (db.recoveryHistory b) p' (db'.recoveryHistory b) := by
  simp only [recordRecoveryAction, bind_eq_ok, pure_eq_ok, Prod.mk.injEq] at h
  obtain ⟨_, -, _, -, ⟨row, d⟩, hguard, x, hactive, _, -, _, -, actions, -, -, rfl⟩ := h
  exact recoveryAction_still hdb hguard hactive rfl rfl

theorem recordArtifactCleanup_move {artifact : String} {status : ArtifactCleanupStatus}
    {trigger : Option ArtifactCleanupTrigger} {key reason record : Option String} {payload : Option π}
    {r : ArtifactCleanupRow π}
    (h : recordArtifactCleanup db b artifact status trigger key reason payload record ctx = .ok (r, db')) :
    ∃ p p', db.phaseOf b = some p ∧ db'.phaseOf b = some p' ∧
      RecoveryMove p (db.recoveryHistory b) p' (db'.recoveryHistory b) := by
  simp only [recordArtifactCleanup, bind_eq_ok, pure_eq_ok, Prod.mk.injEq] at h
  obtain ⟨_, -, _, -, row, hguard, _, -, _, -, _, -, cleanups, -, -, rfl⟩ := h
  obtain ⟨-, hrow⟩ := requireBatchForArtifactCleanupWrite_ok hguard
  exact still_move (phaseOf_of_batchRow hrow) rfl rfl

/-- Starting a batch. -/
theorem startBatchOperation_move {op : String} {key id : Option String} {payload status : Option π}
    {started : BatchRow π} {r : OperationRow π}
    (h : startBatchOperation db b op key payload id status ctx = .ok (started, r, db')) :
    ∃ p p', db.phaseOf b = some p ∧ db'.phaseOf b = some p' ∧
      RecoveryMove p (db.recoveryHistory b) p' (db'.recoveryHistory b) := by
  obtain ⟨-, -, ⟨row, hrow, hplanned⟩, hstarted, hattempting⟩ := startBatchOperation_advances h
  refine ⟨row.phase, started.phase, phaseOf_of_batchRow hrow, phaseOf_of_batchRow hstarted, ?_⟩
  have hhist : db'.recoveryHistory b = db.recoveryHistory b := by
    simp only [startBatchOperation, insertOperation, bind_eq_ok, pure_eq_ok, Prod.mk.injEq] at h
    obtain ⟨_, -, _, -, _, -, row, -, _, -, db₁, ⟨_, -, rfl⟩, _, -, -, -, rfl⟩ := h
    -- the records of a batch do not depend on its binding
    by_cases hf : row.leaseFencingToken = ctx.lease.fencingToken
    · rw [if_pos hf]
      rfl
    · rw [if_neg hf]
      rfl
  rw [hhist, hplanned, hattempting]
  exact RecoveryMove.forward _ rfl rfl

variable [DecidableEq π] {w : JournalWrite π}

/-- Every write that succeeds makes one of the five moves. -/
theorem run_moves (hdb : Numbered db) (hb : w.batch = some b) (h : w.run db ctx = .ok db') :
    ∃ p p', db.phaseOf b = some p ∧ db'.phaseOf b = some p' ∧
      RecoveryMove p (db.recoveryHistory b) p' (db'.recoveryHistory b) := by
  cases w <;> simp only [JournalWrite.batch, Option.some.injEq, reduceCtorEq] at hb <;> subst hb <;>
    simp only [JournalWrite.run, map_eq_ok, Prod.exists, exists_eq_right] at h
  case appendOperation =>
    obtain ⟨_, h⟩ := h
    simp only [SafeFsOps.appendOperation, insertOperation, bind_eq_ok, pure_eq_ok, Prod.mk.injEq] at h
    obtain ⟨_, -, _, -, row, hguard, _, -, _, -, _, ⟨_, -, rfl⟩, -, rfl⟩ := h
    obtain ⟨-, hrow, -⟩ := requireBatchForWrite_ok hguard
    exact still_move (phaseOf_of_batchRow hrow) rfl rfl
  case startBatchOperation =>
    obtain ⟨_, _, h⟩ := h
    exact startBatchOperation_move h
  case recordCheckpoint b key type payload op id attempt =>
    obtain ⟨_, h⟩ := h
    simp only [SafeFsOps.recordCheckpoint, bind_eq_ok, pure_eq_ok, Prod.mk.injEq] at h
    obtain ⟨_, -, _, -, _, -, ⟨row, d⟩, hguard, _, -, _, -, _, -, -, rfl⟩ := h
    -- outside a recovery the batch must be open; within one, the attempt named must be the active one
    cases attempt with
    | none =>
      simp only [requireBatchForCheckpoint, bind_eq_ok, pure_eq_ok, Prod.mk.injEq] at hguard
      obtain ⟨_, hguard, _, -, -, rfl⟩ := hguard
      obtain ⟨-, hrow, -⟩ := requireBatchForWrite_ok hguard
      exact still_move (phaseOf_of_batchRow hrow) rfl rfl
    | some attemptId =>
      simp only [requireBatchForCheckpoint, bind_eq_ok, pure_eq_ok, Prod.mk.injEq] at hguard
      obtain ⟨⟨_, _⟩, hguard, _, hactive, -, rfl⟩ := hguard
      exact recoveryAction_still hdb hguard hactive rfl rfl
  -- the calls that move the phase: the table of transitions says from where
  case markAttempting =>
    obtain ⟨_, h⟩ := h
    obtain ⟨p, hp, hp', hmove⟩ := transitionBatch_move rfl h
    exact ⟨p, _, hp, hp', hmove⟩
  case markSucceeded =>
    obtain ⟨_, h⟩ := h
    obtain ⟨p, hp, hp', hmove⟩ := transitionBatch_move rfl h
    exact ⟨p, _, hp, hp', hmove⟩
  case markFailed =>
    obtain ⟨_, h⟩ := h
    simp only [SafeFsOps.markFailed, bind_eq_ok] at h
    obtain ⟨_, -, h⟩ := h
    obtain ⟨p, hp, hp', hmove⟩ := transitionBatch_move rfl h
    exact ⟨p, _, hp, hp', hmove⟩
  case recordRecoveryDesired =>
    obtain ⟨_, h⟩ := h
    obtain ⟨p, hp, hp', hmove⟩ := recordRecoveryDesired_move h
    exact ⟨p, _, hp, hp', hmove⟩
  case startRecovery =>
    obtain ⟨_, _, h⟩ := h
    obtain ⟨hp, hp', hmove⟩ := startRecovery_move h
    exact ⟨_, _, hp, hp', hmove⟩
  case recordRecoverySucceeded =>
    obtain ⟨_, h⟩ := h
    exact finish_move hdb (Or.inl rfl) h
  case recordRecoveryFailed =>
    obtain ⟨_, h⟩ := h
    exact finish_move hdb (Or.inr rfl) h
  -- the requests of a recovery: none of them is made of a batch that was recovered
  case recordInterruptedRecoveryDesired =>
    obtain ⟨_, h⟩ := h
    simp only [SafeFsOps.recordInterruptedRecoveryDesired, requireRecoveryTakeover, bind_eq_ok, require_eq_ok] at h
    obtain ⟨_, -, _, -, row, hrow, _, ⟨_, hphase, -⟩, hwrite⟩ := h
    refine writeRecovery_request (KeepsBatch.bindLease ctx) (requireBatchRow_ok hrow) ?_ hwrite
    intro hp
    rw [hp] at hphase
    exact absurd hphase (by decide)
  case recordLeaseLostRecoveryDesired =>
    obtain ⟨_, h⟩ := h
    simp only [SafeFsOps.recordLeaseLostRecoveryDesired, requireLeaseLostRecoveryMarker, bind_eq_ok, require_eq_ok] at h
    obtain ⟨_, -, _, -, row, hrow, _, ⟨_, -, _, -, _, -, _, -, hphase⟩, hwrite⟩ := h
    refine writeRecovery_request KeepsBatch.id (requireBatchRow_ok hrow) ?_ hwrite
    intro hp
    rw [hp] at hphase
    exact absurd hphase (by decide)
  case recordAbandonedSucceededBatchRecoveryDesired batch =>
    simp only [SafeFsOps.recordAbandonedSucceededBatchRecoveryDesired, bind_eq_ok] at h
    obtain ⟨_, -, h⟩ := h
    split at h
    · cases h
    · next row hrow =>
      by_cases hp : row.phase = .succeeded
      · rw [if_neg (not_not.2 hp)] at h
        simp only [bind_eq_ok, pure_eq_ok] at h
        obtain ⟨_, -, _, -, ⟨_, _⟩, hwrite, rfl⟩ := h
        refine writeRecovery_request ?_ hrow ?_ hwrite
        · intro r
          rfl
        · rw [hp]
          decide
      -- the batch has left the phase in the meantime, and nothing is written
      · rw [if_pos hp] at h
        simp only [pure_eq_ok] at h
        subst h
        exact still_move (phaseOf_of_batchRow hrow) rfl rfl
  case recordRecoveryActionPlanned =>
    obtain ⟨_, h⟩ := h
    simp only [SafeFsOps.recordRecoveryActionPlanned, bind_eq_ok] at h
    obtain ⟨_, -, h⟩ := h
    exact recordRecoveryAction_move hdb h
  case transitionRecoveryAction =>
    obtain ⟨_, h⟩ := h
    exact recordRecoveryAction_move hdb h
  case recordArtifactCleanupPlanned =>
    obtain ⟨_, h⟩ := h
    exact recordArtifactCleanup_move h
  case transitionArtifactCleanup =>
    obtain ⟨_, h⟩ := h
    exact recordArtifactCleanup_move h

end Writes

/-! ## Runs -/

/-- Phase and records agree for every batch, and there are no records of anything else. -/
structure RecoveryAgrees (db : JournalDb π) : Prop where
  numbered : Numbered db
  history : ∀ b p, db.phaseOf b = some p → HistoryOf p (db.recoveryHistory b)
  absent : ∀ b, db.phaseOf b = none → db.recoveryHistory b = []

section Runs

variable [JournalPayload π] [DecidableEq π] {db db' : JournalDb π} {ctx : WriteContext} {w : JournalWrite π}

omit [JournalPayload π] [DecidableEq π] in
/-- A write to one batch leaves the recovery records of all others alone. -/
theorem Advances.recoveryHistory_other {L : LeaseRecord} {P : List BatchPhase} {b b' : String}
    (h : Advances L P b db db') (hb : b' ≠ b) : db'.recoveryHistory b' = db.recoveryHistory b' := by
  obtain ⟨new, hnew, hall⟩ := h.recoveries
  have hnone : new.filter (fun r => r.batchId = b') = [] := by
    rw [List.filter_eq_nil_iff]
    intro r hr heq
    have heq : r.batchId = b' := of_decide_eq_true heq
    exact hb (heq.symm.trans (hall r hr).1)
  rw [JournalDb.recoveryHistory, hnew, List.filter_append, hnone, List.append_nil]
  rfl

theorem RecoveryAgrees.run_batch (hdb : RecoveryAgrees db) {b : String} (hb : w.batch = some b)
    (h : w.run db ctx = .ok db') (hnumbered : Numbered db') : RecoveryAgrees db' := by
  have hadv := run_advances hb h
  obtain ⟨p, p', hp, hp', hmove⟩ := run_moves hdb.numbered hb h
  have hother : ∀ b', b' ≠ b → db'.phaseOf b' = db.phaseOf b' := by
    intro b' hb'
    rw [JournalDb.phaseOf, hadv.other b' hb']
    rfl
  refine ⟨hnumbered, ?_, ?_⟩
  · intro b' q hq
    by_cases hb' : b' = b
    · subst hb'
      rw [hp'] at hq
      cases hq
      exact hmove.historyOf (hdb.history b' p hp)
    · rw [hadv.recoveryHistory_other hb']
      exact hdb.history b' q ((hother b' hb').symm.trans hq)
  · intro b' hnone
    by_cases hb' : b' = b
    · subst hb'
      rw [hp'] at hnone
      cases hnone
    · rw [hadv.recoveryHistory_other hb']
      exact hdb.absent b' ((hother b' hb').symm.trans hnone)

omit [DecidableEq π] in
/-- A new batch is planned, and has no records because its id was free. -/
theorem RecoveryAgrees.create (hdb : RecoveryAgrees db) {req : BatchRequest π} {batchId : Option String}
    (hfree : db.batchRow (newBatchRow db req batchId ctx).batchId = none)
    (hnumbered : Numbered { db with batches := db.batches ++ [newBatchRow db req batchId ctx] }) :
    RecoveryAgrees { db with batches := db.batches ++ [newBatchRow db req batchId ctx] } := by
  have hlook : ∀ b, JournalDb.phaseOf { db with batches := db.batches ++ [newBatchRow db req batchId ctx] } b =
      if b = (newBatchRow db req batchId ctx).batchId then some .planned else db.phaseOf b := by
    intro b
    simp only [JournalDb.phaseOf, JournalDb.batchRow, findRow_append_one]
    by_cases hb : b = (newBatchRow db req batchId ctx).batchId
    · have hfree' : findRow BatchRow.batchId db.batches b = none := by
        rw [hb]
        exact hfree
      rw [if_pos hb, if_pos hb.symm, hfree']
      rfl
    · rw [if_neg hb, if_neg fun h => hb h.symm, Option.or_none]
  refine ⟨hnumbered, ?_, ?_⟩
  · intro b p hp
    rw [hlook] at hp
    show HistoryOf p (db.recoveryHistory b)
    by_cases hb : b = (newBatchRow db req batchId ctx).batchId
    · rw [if_pos hb] at hp
      cases hp
      rw [hdb.absent b (by rw [hb, JournalDb.phaseOf, hfree]; rfl)]
      exact HistoryOf.nil rfl
    · rw [if_neg hb] at hp
      exact hdb.history b p hp
  · intro b hnone
    rw [hlook] at hnone
    by_cases hb : b = (newBatchRow db req batchId ctx).batchId
    · rw [if_pos hb] at hnone
      cases hnone
    · rw [if_neg hb] at hnone
      exact hdb.absent b hnone

theorem recoveryAgrees_step (db : JournalDb π) (c : JournalCall π) (h : RecoveryAgrees db) :
    RecoveryAgrees (db.step c) := by
  have hnumbered := numbered_step db c h.numbered
  cases c with
  | lease c => exact ⟨hnumbered, h.history, h.absent⟩
  | operationRuns runs phases => exact ⟨hnumbered, h.history, h.absent⟩
  | write w ctx =>
    simp only [JournalDb.step] at hnumbered ⊢
    cases hrun : w.run db ctx with
    | error e => exact h
    | ok db' =>
      rw [hrun] at hnumbered
      cases hb : w.batch with
      | some b => exact h.run_batch hb hrun hnumbered
      | none =>
        obtain ⟨-, rfl | ⟨req, batchId, rfl, -, hfree⟩⟩ := run_create hb hrun
        · exact h
        · exact h.create hfree hnumbered

theorem recoveryAgrees_after (run : List (JournalCall π)) :
    RecoveryAgrees (after JournalDb.step (JournalDb.init π) run) := by
  refine after_invariant recoveryAgrees_step run _ ⟨numbered_init, ?_, fun b _ => rfl⟩
  intro b p hp
  cases hp

/-- The recovery records of a batch stay in place as others are added. -/
theorem recoveryHistory_more (db : JournalDb π) (more : List (JournalCall π)) (b : String) :
    ∃ rest, (after JournalDb.step db more).recoveryHistory b = db.recoveryHistory b ++ rest := by
  have hnew : ∃ new : List (RecoveryRow π), (after JournalDb.step db more).recoveries = db.recoveries ++ new := by
    obtain ⟨new, hnew, -⟩ := appends_after db more .recoveries
    exact ⟨new, hnew⟩
  obtain ⟨new, hnew⟩ := hnew
  refine ⟨new.filter fun r => r.batchId = b, ?_⟩
  rw [JournalDb.recoveryHistory, hnew, List.filter_append]
  rfl

/-- **Phase and recovery history agree.** After every run of the journal, for every batch id: there
is a recovery record exactly if there is a batch in one of the four phases of a recovery; the latest
record has the phase of the batch; the records are a walk that begins with a request, in which an
attempt directly follows a request and an end directly follows an attempt; at most one attempt is
active; and when a call completes a recovery, its record is put, and remains, directly behind the
recovering record that the call named. -/
theorem recovery_walk (run : List (JournalCall π)) (b : String) :
    let db := after JournalDb.step (JournalDb.init π) run
    ((∃ r ∈ db.recoveries, r.batchId = b) ↔ ∃ row, db.batchRow b = some row ∧
      row.phase ∈ [BatchPhase.recoveryDesired, .recovering, .recoverySucceeded, .recoveryFailed]) ∧
    (∀ r, db.latestRecoveryRow b = some r → ∃ row, db.batchRow b = some row ∧ r.phase = row.phase) ∧
    (db.listRecoveryRecords b).IsChain RecoveryFollows ∧
    (∀ r, (db.listRecoveryRecords b).head? = some r → r.phase = .recoveryDesired) ∧
    (∀ a a' r r', requireActiveRecoveryAttempt db b a = .ok r → requireActiveRecoveryAttempt db b a' = .ok r' →
      a = a') ∧
    ∀ phase ∈ [BatchPhase.recoverySucceeded, .recoveryFailed], ∀ attempt note ctx r db',
      recordRecoveryPhase db b phase attempt note ctx = .ok (r, db') → r.phase = phase ∧
        ∃ init latest, db.listRecoveryRecords b = init ++ [latest] ∧ latest.phase = .recovering ∧
          attempt = some latest.recoveryId ∧ ∀ more, ∃ rest,
            (after JournalDb.step db' more).listRecoveryRecords b = init ++ latest :: r :: rest := by
  intro db
  have hdb : RecoveryAgrees db := recoveryAgrees_after run
  have hhist : db.listRecoveryRecords b = db.recoveryHistory b := hdb.numbered.listRecoveryRecords b
  -- everything is read off the batch's history, which goes with its phase
  have hsome : (∃ r ∈ db.recoveries, r.batchId = b) ↔ db.recoveryHistory b ≠ [] := by
    rw [JournalDb.recoveryHistory, Ne, List.filter_eq_nil_iff]
    simp
  have hrow : ∀ p, db.phaseOf b = some p ↔ ∃ row, db.batchRow b = some row ∧ row.phase = p := fun p =>
    Option.map_eq_some_iff
  refine ⟨?_, ?_, ?_, ?_, ?_, ?_⟩
  · rw [hsome]
    constructor
    · intro hne
      cases hp : db.phaseOf b with
      | none => exact absurd (hdb.absent b hp) hne
      | some p =>
        obtain ⟨row, hfound, rfl⟩ := (hrow p).1 hp
        refine ⟨row, hfound, ?_⟩
        by_contra hnot
        refine hne ((hdb.history b _ hp).eq_nil ?_)
        cases hphase : row.phase <;> simp [hphase, BatchPhase.recorded] at hnot ⊢
    · intro ⟨row, hfound, hmem⟩ hnil
      have hlast := (hdb.history b _ (phaseOf_of_batchRow hfound)).last
      have hrec : row.phase.recorded = true := by
        simp only [List.mem_cons, List.not_mem_nil, or_false] at hmem
        rcases hmem with h | h | h | h <;> rw [h] <;> rfl
      rw [hnil, if_pos hrec] at hlast
      cases hlast
  · intro r hr
    rw [hdb.numbered.latestRecoveryRow] at hr
    have hr : (db.recoveryHistory b).getLast? = some r := hr
    cases hp : db.phaseOf b with
    | none =>
      rw [hdb.absent b hp] at hr
      cases hr
    | some p =>
      obtain ⟨row, hfound, rfl⟩ := (hrow p).1 hp
      have hlast := (hdb.history b _ hp).last
      rw [hr] at hlast
      refine ⟨row, hfound, ?_⟩
      split at hlast
      · exact Option.some.inj hlast
      · cases hlast
  · rw [hhist]
    cases hp : db.phaseOf b with
    | none =>
      rw [hdb.absent b hp]
      exact List.isChain_nil
    | some p => exact (hdb.history b p hp).walk.chain
  · rw [hhist]
    cases hp : db.phaseOf b with
    | none =>
      rw [hdb.absent b hp]
      intro r hr
      cases hr
    | some p => exact (hdb.history b p hp).walk.head
  -- an active attempt is the last record's
  · intro a a' r r' ha ha'
    obtain ⟨latest, hlatest, hid, -⟩ := active_getLast? hdb.numbered ha
    obtain ⟨latest', hlatest', hid', -⟩ := active_getLast? hdb.numbered ha'
    rw [hlatest] at hlatest'
    cases hlatest'
    exact hid.trans hid'.symm
  -- the record goes behind the one it finishes, and later calls append
  · intro phase hphase attempt note ctx r db' hrun
    simp only [List.mem_cons, List.not_mem_nil, or_false] at hphase
    obtain ⟨-, -, hr, hafter, latest, hlatest, hid, hrecovering⟩ := recordRecoveryPhase_finish hdb.numbered hphase hrun
    obtain ⟨init, hinit⟩ := List.getLast?_eq_some_iff.1 hlatest
    refine ⟨hr, init, latest, hhist.trans hinit, hrecovering, hid, ?_⟩
    intro more
    obtain ⟨rest, hrest⟩ := recoveryHistory_more db' more b
    have hnumbered : Numbered (after JournalDb.step db' more) :=
      after_invariant numbered_step more db' ((recordRecoveryPhase_writes (W := true) (K := [.recoveries]) List.mem_cons_self
        hrun).numbered hdb.numbered)
    refine ⟨rest, (hnumbered.listRecoveryRecords b).trans (hrest.trans ?_)⟩
    rw [hafter, hinit]
    simp only [List.append_assoc, List.cons_append, List.nil_append]

end Runs

end SafeFsOps
