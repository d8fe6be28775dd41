import Mathlib.Data.List.Dedup
import SafeFsOps.OperationJournal.ActionHistory
import SafeFsOps.OperationJournal.RecoveryRunner
import SafeFsOps.OperationJournal.StepRules

/-!
# The records of an attempt

A recovery runner knows its actions by the records of its attempt: it goes through
them in the order of their first records, and each counts as what its last record
says (`_latest_current_attempt_recovery_actions`). Here are order and last record
as functions of the table, and what one more record does to them.

> `lastRecord_concat`, `actionOrder_concat`: a record moves its own action only,
> and a new action goes to the end of the order.
> `Recorded`: what a step of the runner does that writes a record.

An action that has ended stays as it is: a later record of it would have to follow
a record that nothing follows (`ActionsKept.ended_after`).
-/

namespace SafeFsOps

open Program

variable {π : Type}

/-! ## Order and last record -/

/-- The ids of the actions, in the order of their first records. -/
def actionOrder (rows : List (RecoveryActionRow π)) : List String :=
  (rows.map RecoveryActionRow.actionId).reverse.dedup.reverse

/-- The last record of an action. -/
def lastRecord (rows : List (RecoveryActionRow π)) (actionId : String) : Option (RecoveryActionRow π) :=
  rows.reverse.find? fun r => r.actionId = actionId

section Rows

variable {rows : List (RecoveryActionRow π)} {r : RecoveryActionRow π} {id : String}

theorem mem_actionOrder : id ∈ actionOrder rows ↔ ∃ r ∈ rows, r.actionId = id := by
  rw [actionOrder, List.mem_reverse, List.mem_dedup, List.mem_reverse, List.mem_map]

theorem nodup_actionOrder : (actionOrder rows).Nodup := by
  rw [actionOrder, List.nodup_reverse]
  exact List.nodup_dedup _

theorem actionOrder_concat : actionOrder (rows ++ [r]) =
    if r.actionId ∈ actionOrder rows then actionOrder rows else actionOrder rows ++ [r.actionId] := by
  have hmem : r.actionId ∈ actionOrder rows ↔ r.actionId ∈ (rows.map RecoveryActionRow.actionId).reverse := by
    rw [actionOrder, List.mem_reverse, List.mem_dedup]
  have hrev : actionOrder (rows ++ [r]) =
      (r.actionId :: (rows.map RecoveryActionRow.actionId).reverse).dedup.reverse := by
    rw [actionOrder, List.map_append, List.reverse_append]
    rfl
  rw [hrev]
  split
  · next h =>
    rw [List.dedup_cons_of_mem (hmem.1 h)]
    rfl
  · next h =>
    rw [List.dedup_cons_of_notMem fun hin => h (hmem.2 hin), List.reverse_cons]
    rfl

theorem lastRecord_concat : lastRecord (rows ++ [r]) id = if r.actionId = id then some r else lastRecord rows id := by
  rw [lastRecord, List.reverse_append, List.reverse_singleton, List.singleton_append, List.find?_cons]
  by_cases h : r.actionId = id
  · rw [if_pos h, decide_eq_true h]
  · rw [if_neg h, decide_eq_false h]
    rfl

theorem lastRecord_mem (h : lastRecord rows id = some r) : r ∈ rows ∧ r.actionId = id := by
  refine ⟨List.mem_reverse.1 (List.mem_of_find?_eq_some h), ?_⟩
  have hkey := List.find?_some h
  exact of_decide_eq_true hkey

theorem lastRecord_eq_none : lastRecord rows id = none ↔ id ∉ actionOrder rows := by
  rw [lastRecord, List.find?_eq_none, mem_actionOrder]
  simp only [List.mem_reverse, decide_eq_true_eq, not_exists, not_and]

/-- The ordered actions all have a last record. -/
theorem lastRecord_of_mem (h : id ∈ actionOrder rows) : ∃ r, lastRecord rows id = some r := by
  cases hlast : lastRecord rows id with
  | none => exact absurd h (lastRecord_eq_none.1 hlast)
  | some r => exact ⟨r, rfl⟩

/-- The last record of an action is the end of its records. -/
theorem lastRecord_eq_getLast? : lastRecord rows id = (rows.filter fun r => r.actionId = id).getLast? := by
  induction rows using List.reverseRecOn with
  | nil => rfl
  | append_singleton rows r ih =>
    rw [lastRecord_concat, List.filter_append, List.filter_singleton, ih]
    by_cases h : r.actionId = id
    · rw [if_pos h, decide_eq_true h]
      exact List.getLast?_concat.symm
    · rw [if_neg h, decide_eq_false h]
      exact (congrArg List.getLast? (List.append_nil _)).symm

end Rows

/-- The actions a runner goes through: each by its last record. -/
theorem latestActions_spec {rows : List (RecoveryActionRow Payload)} {attempt : String}
    (hrows : ∀ r ∈ rows, r.recoveryAttemptId = attempt) :
    (latestActions rows attempt).map RecoveryActionRow.actionId = actionOrder rows ∧
      ∀ a ∈ latestActions rows attempt, lastRecord rows a.actionId = some a := by
  have hown : (rows.filter fun a => a.recoveryAttemptId = attempt) = rows :=
    List.filter_eq_self.2 fun r hr => decide_eq_true (hrows r hr)
  have hlatest : latestActions rows attempt = (actionOrder rows).filterMap (lastRecord rows) := by
    rw [latestActions, hown]
    rfl
  rw [hlatest]
  refine ⟨?_, ?_⟩
  · rw [List.map_filterMap]
    have hid : ∀ id ∈ actionOrder rows, (lastRecord rows id).map RecoveryActionRow.actionId = some id := by
      intro id hid
      obtain ⟨r, hr⟩ := lastRecord_of_mem hid
      rw [hr]
      exact congrArg some (lastRecord_mem hr).2
    rw [List.filterMap_congr hid]
    exact List.filterMap_some
  · intro a ha
    obtain ⟨id, -, hr⟩ := List.mem_filterMap.1 ha
    rw [(lastRecord_mem hr).2]
    exact hr

/-! ## In the database -/

namespace JournalDb

variable (db : JournalDb π) (batchId recoveryAttemptId : String)

/-- The records of an attempt of a batch, as they were written. -/
def attemptActions : List (RecoveryActionRow π) :=
  db.recoveryActions.filter fun r => r.batchId = batchId ∧ recoveryAttemptId = r.recoveryAttemptId

/-- The actions planned in an attempt, in that order. -/
def plannedActions : List String := actionOrder (db.attemptActions batchId recoveryAttemptId)

/-- What an action has come to. -/
def lastAction (actionId : String) : Option (RecoveryActionRow π) :=
  lastRecord (db.attemptActions batchId recoveryAttemptId) actionId

/-- Whether an action has ended. -/
def actionEnded (actionId : String) : Bool :=
  (db.lastAction batchId recoveryAttemptId actionId).any fun r => r.status.terminal

/-- An action that ended well: carried out, or skipped. -/
def ActionSettled (actionId : String) : Prop :=
  ∃ r, db.lastAction batchId recoveryAttemptId actionId = some r ∧ (r.status = .succeeded ∨ r.status = .skipped)

end JournalDb

section Database

variable {db db' : JournalDb π} {b a id : String}

/-- The list that a runner reads. -/
theorem Numbered.listRecoveryActions (h : Numbered db) : db.listRecoveryActions b (some a) = db.attemptActions b a := by
  have hlist : db.listRecoveryActions b (some a) =
      listRows db.recoveryActions fun r => r.batchId = b ∧ a = r.recoveryAttemptId := by
    simp only [JournalDb.listRecoveryActions, Option.all_some, decide_eq_true_eq]
  rw [hlist]
  exact listRows_eq_filter (h.filter_rising (T := .recoveryActions) fun _ _ hr => (of_decide_eq_true hr).1)

theorem JournalDb.ActionSettled.ended (h : db.ActionSettled b a id) : db.actionEnded b a id = true := by
  obtain ⟨r, hr, hstatus⟩ := h
  rw [JournalDb.actionEnded, hr]
  rcases hstatus with hstatus | hstatus <;> simp [hstatus, RecoveryActionStatus.terminal]

/-- The records of an action are those of its history that are of the batch. -/
theorem lastAction_eq : db.lastAction b a id =
    ((db.recoveryActionHistory a id).filter fun r => r.batchId = b).getLast? := by
  rw [JournalDb.lastAction, lastRecord_eq_getLast?, JournalDb.attemptActions, JournalDb.recoveryActionHistory,
    List.filter_filter, List.filter_filter]
  refine congrArg List.getLast? (List.filter_congr fun r _ => ?_)
  rw [← Bool.decide_and, ← Bool.decide_and, decide_eq_decide]
  constructor
  · intro h
    exact ⟨h.2.1, h.2.2.symm, h.1⟩
  · intro h
    exact ⟨h.2.2, h.1, h.2.1.symm⟩

/-- The last record of an action in its batch is the last of its history. -/
theorem ActionsKept.lastAction (h : ActionsKept db) {r : RecoveryActionRow π} (hr : db.lastAction b a id = some r) :
    (db.recoveryActionHistory a id).getLast? = some r := by
  have hmem : ∀ y ∈ db.recoveryActionHistory a id, y ∈ db.recoveryActions ∧ y.recoveryAttemptId = a := by
    intro y hy
    obtain ⟨hmem, hkey⟩ := List.mem_filter.1 hy
    exact ⟨hmem, (of_decide_eq_true hkey).1⟩
  rw [lastAction_eq] at hr
  obtain ⟨hrmem, hrb⟩ := List.mem_filter.1 (List.mem_of_getLast? hr)
  obtain ⟨x, hx, hxa, hxb⟩ := h.attempt r (hmem r hrmem).1
  -- every record of the attempt is of the attempt's batch
  have hall : (db.recoveryActionHistory a id).filter (fun r => r.batchId = b) = db.recoveryActionHistory a id := by
    refine List.filter_eq_self.2 fun y hy => decide_eq_true ?_
    obtain ⟨z, hz, hza, hzb⟩ := h.attempt y (hmem y hy).1
    have hzx : z.recoveryId = x.recoveryId := by rw [hza, hxa, (hmem y hy).2, (hmem r hrmem).2]
    rw [← hzb, recovery_eq (h.numbered.keys .recoveries) hz hx hzx, hxb]
    exact of_decide_eq_true hrb
  rw [hall] at hr
  exact hr

variable [JournalPayload π]

/-- What a record of an action says, and the phase its batch is in. -/
theorem recordRecoveryAction_row {ctx : WriteContext} {status : RecoveryActionStatus}
    {type key reason action record : Option String} {payload : Option π} {r : RecoveryActionRow π}
    (h : recordRecoveryAction db b a status type key reason payload action record ctx = .ok (r, db')) :
    r.batchId = b ∧ r.recoveryAttemptId = a ∧ r.status = status ∧
      r.actionId = (if status = .planned then newId action ctx.handoffId else action.getD "") ∧
        db'.phaseOf b = some .recovering := by
  simp only [recordRecoveryAction, bind_eq_ok, pure_eq_ok, Prod.mk.injEq] at h
  obtain ⟨_, -, _, -, ⟨row, d⟩, hguard, x, hactive, existing, hprepare, _, -, actions, hins, rfl, rfl⟩ := h
  obtain ⟨-, hid, -, -⟩ := requireActiveRecoveryAttempt_ok hactive
  obtain ⟨-, hphase, -⟩ := requireBatchForRecoveryActionWrite_history hguard
  refine ⟨rfl, (Option.some.inj hid).symm, rfl, ?_, hphase⟩
  rw [prepareRecoveryActionWrite] at hprepare
  split at hprepare
  · next hplanned =>
    rw [if_pos hplanned]
    cases action with
    | none =>
      simp only [bind_eq_ok, pure_eq_ok] at hprepare
      obtain ⟨_, -, _, -, rfl⟩ := hprepare
      rfl
    | some id =>
      simp only [bind_eq_ok, pure_eq_ok] at hprepare
      obtain ⟨_, -, _, -, rfl⟩ := hprepare
      rfl
  · next hstatus =>
    rw [if_neg hstatus]
    simp only [bind_eq_ok] at hprepare
    obtain ⟨_, -, hprepare⟩ := hprepare
    split at hprepare
    · cases hprepare
    · next e he =>
      simp only [bind_eq_ok, pure_eq_ok] at hprepare
      obtain ⟨_, -, _, -, _, -, _, -, rfl⟩ := hprepare
      exact (of_decide_eq_true (latestRow_mem he).2).2

/-- An action that has ended stays as it is, whatever follows. -/
theorem ActionsKept.ended_after [DecidableEq π] (h : ActionsKept db) (hended : db.actionEnded b a id = true)
    {more : List (JournalCall π)} (hmore : AllSteps JournalDb.step (fun db c => c.DrawsNewActionId db) db more) :
    (after JournalDb.step db more).lastAction b a id = db.lastAction b a id := by
  obtain ⟨r, hr, hterminal⟩ := (Option.any_eq_true _ _).1 hended
  rw [lastAction_eq, lastAction_eq, h.history_ended (h.lastAction hr) hterminal hmore]

end Database

/-! ## Steps that record -/

section Steps

variable {φ ω : Type} {b a id : String} {status : RecoveryActionStatus} {w w' : World φ}

/-- The step appended a record of action `id` of the attempt, and nothing else of its actions. -/
structure Recorded (b a id : String) (status : RecoveryActionStatus) (w w' : World φ) : Prop where
  history : w'.history = w.history
  kept : ActionsKept w.journal → ActionsKept w'.journal
  phase : w'.journal.phaseOf b = some .recovering
  row : ∃ r : RecoveryActionRow Payload, r.actionId = id ∧ r.status = status ∧
    w'.journal.attemptActions b a = w.journal.attemptActions b a ++ [r]

theorem Recorded.lastAction_self (h : Recorded b a id status w w') :
    ∃ r, w'.journal.lastAction b a id = some r ∧ r.status = status := by
  obtain ⟨r, hid, hstatus, hrows⟩ := h.row
  exact ⟨r, by rw [JournalDb.lastAction, hrows, lastRecord_concat, if_pos hid], hstatus⟩

theorem Recorded.lastAction_ne (h : Recorded b a id status w w') {id' : String} (hne : id' ≠ id) :
    w'.journal.lastAction b a id' = w.journal.lastAction b a id' := by
  obtain ⟨r, hid, -, hrows⟩ := h.row
  rw [JournalDb.lastAction, hrows, lastRecord_concat, if_neg fun h => hne (h.symm.trans hid)]
  rfl

theorem Recorded.plannedActions (h : Recorded b a id status w w') : w'.journal.plannedActions b a =
    if id ∈ w.journal.plannedActions b a then w.journal.plannedActions b a
    else w.journal.plannedActions b a ++ [id] := by
  obtain ⟨r, rfl, -, hrows⟩ := h.row
  rw [JournalDb.plannedActions, hrows, actionOrder_concat]
  rfl

/-- The ids drawn for actions are new, as those of `uuid.uuid4()` are. -/
def DrawsNewActionIds (i : Sample ω) (w : World φ) : Prop := ∀ r ∈ w.journal.recoveryActions, r.actionId ≠ i.handoffId

variable {C : Sample ω → World φ → Prop} {R : World φ → World φ → Prop} {h : LeaseHolder}
  {Q : Except OperationError (RecoveryActionRow Payload) → World φ → Prop}

/-- A transition is recorded, or nothing happens. -/
theorem along_transitionActionStep (hstatus : status ≠ .planned) {reason : Option String} {payload : Payload}
    (hR : R w w) (herror : ∀ e, Q (.error e) w)
    (hrecorded : ∀ (r : RecoveryActionRow Payload) w', r.actionId = id → Recorded b a id status w w' →
      R w w' ∧ Q (.ok r) w') :
    Along C R Q (transitionActionStep h b a id status reason payload) w := by
  refine along_journalWrite hR (fun _ e _ _ => herror e) (fun _ _ _ _ _ => herror _) fun i r db _ _ hrun => ?_
  obtain ⟨happend, -, -⟩ := recordRecoveryAction_next (fun hplanned => absurd hplanned hstatus) hrun
  obtain ⟨hrb, hra, hrs, hrid, hphase⟩ := recordRecoveryAction_row hrun
  rw [if_neg hstatus] at hrid
  refine hrecorded r _ hrid ⟨rfl, fun hkept => ?_, hphase, r, hrid, hrs, ?_⟩
  · have hstep := actionsKept_step w.journal (.write (.transitionRecoveryAction b a id status reason (some payload)
      none) (h.context i)) trivial hkept
    simpa only [JournalDb.step, JournalWrite.run, hrun, Except.map] using hstep
  · rw [JournalDb.attemptActions, happend, List.filter_append, List.filter_singleton, hrb, hra]
    simp only [and_self, decide_true, cond_true]
    rfl

/-- A plan is recorded as a new action, or nothing happens. -/
theorem along_planActionStep (hC : ∀ i w, C i w → DrawsNewActionIds i w) {plan : ActionPlan} (hR : R w w)
    (herror : ∀ e, Q (.error e) w)
    (hrecorded : ∀ id r w', Recorded b a id .planned w w' → id ∉ w.journal.plannedActions b a →
      (plan.actionId ≠ "" → id = plan.actionId) → R w w' ∧ Q (.ok r) w') : Along C R Q (planActionStep h b a plan) w := by
  refine along_journalWrite hR (fun _ e _ _ => herror e) (fun _ _ _ _ _ => herror _) fun i r db hi _ hrun => ?_
  have hrecord := hrun
  simp only [recordRecoveryActionPlanned, bind_eq_ok] at hrecord
  obtain ⟨_, -, hrecord⟩ := hrecord
  have hnew : ∀ r ∈ w.journal.recoveryActions, r.actionId ≠ (h.context i).handoffId := hC i w hi
  obtain ⟨happend, hnext, -⟩ := recordRecoveryAction_next (fun _ _ => hnew) hrecord
  obtain ⟨hrb, hra, hrs, hrid, hphase⟩ := recordRecoveryAction_row hrecord
  refine hrecorded r.actionId r _ ⟨rfl, fun hkept => ?_, hphase, r, rfl, hrs, ?_⟩ ?_ fun hgiven => ?_
  · have hstep := actionsKept_step w.journal (.write (.recordRecoveryActionPlanned b a plan.actionType plan.resourceKey
      (some plan.payload) (some plan.actionId) none) (h.context i)) (fun _ => hnew) hkept
    simpa only [JournalDb.step, JournalWrite.run, hrun, Except.map] using hstep
  · rw [JournalDb.attemptActions, happend, List.filter_append, List.filter_singleton, hrb, hra]
    simp only [and_self, decide_true, cond_true]
    rfl
  · rcases hnext with ⟨-, hnil⟩ | ⟨e, -, hfollows⟩
    · rw [hra] at hnil
      refine lastRecord_eq_none.1 ?_
      show w.journal.lastAction b a r.actionId = none
      rw [lastAction_eq, hnil]
      rfl
    · have hallowed := hfollows.1
      rw [hrs] at hallowed
      cases hs : e.status <;> simp [hs, recoveryActionTransitions] at hallowed
  · rw [hrid, if_pos rfl]
    exact if_neg hgiven

end Steps

end SafeFsOps
