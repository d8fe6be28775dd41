import SafeFsOps.OperationJournal.AttemptFencing
import SafeFsOps.OperationJournal.RecoveryWalk

/-!
# The history of a recovery action

An action of a recovery attempt is a row planned under an action id and then
further rows of the same attempt and id, one for each transition; the guard of a
write reads the latest of them and nothing else. Rows of all attempts and batches
stand in one table in the order they were written, and an attempt never has rows
in two batches, so the latest row is the last of the action's history
(`ActionsKept.latest`), and the guard's step is the history's step:

> `ActionFollows`: a transition of `_RECOVERY_ACTION_TRANSITIONS`, with the type
> and the resource of the action.

`_prepare_recovery_action_write` keeps a caller from planning an id twice in an
attempt. An id it draws itself, with `uuid.uuid4()`, it does not look up: that it
is new is what a run has to bring along (`JournalCall.DrawsNewActionId`).

> `recovery_action_history`: every action's history is a prefix of the paths its
> transitions allow, never moves on from an end, and keeps its type and resource.
-/

namespace SafeFsOps

open SequencedRow

variable {π : Type}

/-- The rows of an action in an attempt, in the order they were written. -/
def JournalDb.recoveryActionHistory (db : JournalDb π) (recoveryAttemptId actionId : String) :
    List (RecoveryActionRow π) :=
  db.recoveryActions.filter fun r => r.recoveryAttemptId = recoveryAttemptId ∧ r.actionId = actionId

/-- Which row of an action may directly follow which. -/
def ActionFollows (r r' : RecoveryActionRow π) : Prop :=
  r'.status ∈ recoveryActionTransitions r.status ∧ r'.actionType = r.actionType ∧ r'.resourceKey = r.resourceKey

/-! ## The paths -/

/-- What an action goes through when it is carried to its end. -/
def recoveryActionPaths : List (List RecoveryActionStatus) :=
  [[.planned, .attempting, .succeeded], [.planned, .attempting, .failed], [.planned, .attempting, .skipped],
    [.planned, .attempting, .manualInterventionRequired], [.planned, .skipped],
    [.planned, .manualInterventionRequired]]

/-- The statuses no transition leads out of. -/
def RecoveryActionStatus.terminal : RecoveryActionStatus → Bool
  | succeeded | failed | skipped | manualInterventionRequired => true
  | _ => false

theorem recoveryActionTransitions_terminal {s s' : RecoveryActionStatus} (h : s' ∈ recoveryActionTransitions s) :
    s.terminal = false := by
  cases s <;> first | rfl | cases h

/-- A chain of transitions from `planned` is the beginning of a path. -/
theorem prefix_of_chain {h : List RecoveryActionStatus}
    (hchain : h.IsChain fun s s' => s' ∈ recoveryActionTransitions s) (hhead : ∀ s, h.head? = some s → s = .planned) :
    ∃ path ∈ recoveryActionPaths, h <+: path := by
  match h with
  | [] => exact ⟨_, List.mem_cons_self, List.nil_prefix⟩
  | [s] =>
    obtain rfl := hhead s rfl
    exact ⟨_, List.mem_cons_self, by decide⟩
  | [s, s'] =>
    obtain rfl := hhead s rfl
    have hs' := (List.isChain_cons_cons.1 hchain).1
    cases s' <;> simp [recoveryActionTransitions] at hs' <;> decide
  | s :: s' :: s'' :: rest =>
    obtain rfl := hhead s rfl
    obtain ⟨hs', hrest⟩ := List.isChain_cons_cons.1 hchain
    obtain ⟨hs'', hends⟩ := List.isChain_cons_cons.1 hrest
    -- the second status is left again, so it is `attempting`, and the third is an end
    have hattempting : s' = .attempting := by
      cases s' <;> simp [recoveryActionTransitions] at hs' hs'' ⊢
    subst hattempting
    cases rest with
    | nil => cases s'' <;> simp [recoveryActionTransitions] at hs'' <;> decide
    | cons t rest =>
      have ht := recoveryActionTransitions_terminal (List.isChain_cons_cons.1 hends).1
      cases s'' <;> simp [recoveryActionTransitions, RecoveryActionStatus.terminal] at hs'' ht

/-! ## What a write adds -/

/-- An action id the call draws with `uuid.uuid4()` is none that the table has. -/
def JournalCall.DrawsNewActionId (db : JournalDb π) : JournalCall π → Prop
  | .write (.recordRecoveryActionPlanned _ _ _ _ _ actionId _) ctx =>
    actionId.getD "" = "" → ∀ r ∈ db.recoveryActions, r.actionId ≠ ctx.handoffId
  | _ => True

/-- The row of an action that may be added: planned and new, or following the latest one. -/
def NextAction (db : JournalDb π) (r : RecoveryActionRow π) : Prop :=
  r.status = .planned ∧ db.recoveryActionHistory r.recoveryAttemptId r.actionId = [] ∨
    ∃ e, db.latestRecoveryActionForAttempt r.recoveryAttemptId r.actionId = some e ∧ ActionFollows e r

section Writes

variable {db d db' : JournalDb π} {b : String} {ctx : WriteContext}

variable [JournalPayload π]

/-- A guard that hands over leaves the actions alone. -/
theorem requireBatchForRecoveryActionWrite_actions {row : BatchRow π}
    (h : requireBatchForRecoveryActionWrite db b ctx = .ok (row, d)) : d.recoveryActions = db.recoveryActions := by
  obtain ⟨_, hwrites⟩ := requireBatchForRecoveryActionWrite_writes (W := true) (K := [.recoveries]) List.mem_cons_self h
  exact hwrites.rows_eq (T := .recoveryActions) (by decide)

/-- What a recorded action follows, and the attempt it belongs to. -/
theorem recordRecoveryAction_next {attempt : String} {status : RecoveryActionStatus}
    {type key reason action record : Option String} {payload : Option π} {r : RecoveryActionRow π}
    (hnew : status = .planned → action.getD "" = "" → ∀ x ∈ db.recoveryActions, x.actionId ≠ ctx.handoffId)
    (h : recordRecoveryAction db b attempt status type key reason payload action record ctx = .ok (r, db')) :
    db'.recoveryActions = db.recoveryActions ++ [r] ∧ NextAction db r ∧
      ∃ x ∈ db'.recoveries, x.recoveryId = r.recoveryAttemptId ∧ x.batchId = r.batchId := by
  simp only [recordRecoveryAction, bind_eq_ok, pure_eq_ok, Prod.mk.injEq] at h
  obtain ⟨_, -, _, -, ⟨row, d⟩, hguard, x, hactive, existing, hprepare, _, -, actions, hins, rfl, rfl⟩ := h
  have hsame := requireBatchForRecoveryActionWrite_actions hguard
  obtain ⟨hbatch, hid, hmem, -⟩ := requireActiveRecoveryAttempt_ok hactive
  obtain rfl : attempt = x.recoveryId := Option.some.inj hid
  obtain ⟨rfl, -⟩ := insertRow_eq_ok hins
  refine ⟨by rw [hsame], ?_, x, hmem, rfl, hbatch⟩
  -- the guard may hand the attempt over, and touches no action
  have hlatest : ∀ id, d.latestRecoveryActionForAttempt x.recoveryId id =
      db.latestRecoveryActionForAttempt x.recoveryId id := by
    intro id
    rw [JournalDb.latestRecoveryActionForAttempt, hsame]
    rfl
  simp only [prepareRecoveryActionWrite] at hprepare
  split at hprepare
  · next hplanned =>
    left
    refine ⟨hplanned, ?_⟩
    -- planned: a drawn id is new by assumption, a given one because the guard looks
    have hdrawn : action.getD "" = "" → db.recoveryActionHistory x.recoveryId ctx.handoffId = [] := by
      intro hdrawn
      rw [JournalDb.recoveryActionHistory, List.filter_eq_nil_iff]
      intro y hy heq
      exact hnew hplanned hdrawn y hy (of_decide_eq_true heq).2
    cases action with
    | none =>
      simp only [bind_eq_ok, pure_eq_ok] at hprepare
      obtain ⟨_, -, _, -, rfl⟩ := hprepare
      exact hdrawn rfl
    | some id =>
      simp only [bind_eq_ok, pure_eq_ok] at hprepare
      obtain ⟨_, hfree, _, -, rfl⟩ := hprepare
      have hnone := require_eq_ok.1 hfree
      rw [hlatest, Option.isNone_iff_eq_none] at hnone
      show db.recoveryActionHistory x.recoveryId (newId (some id) ctx.handoffId) = []
      by_cases hid : id = ""
      · have hdraw : newId (some id) ctx.handoffId = ctx.handoffId := if_pos hid
        rw [hdraw]
        exact hdrawn hid
      · have hgiven : newId (some id) ctx.handoffId = id := if_neg hid
        rw [hgiven]
        exact latestRow_eq_none.1 hnone
  · right
    -- a transition: of the action's latest record
    simp only [bind_eq_ok, require_eq_ok] at hprepare
    obtain ⟨_, -, hprepare⟩ := hprepare
    split at hprepare
    · cases hprepare
    · next e he =>
      simp only [bind_eq_ok, require_eq_ok, pure_eq_ok] at hprepare
      obtain ⟨_, -, _, -, _, -, _, hvalid, rfl⟩ := hprepare
      rw [hlatest] at he
      have hkey : e.actionId = action.getD "" := (of_decide_eq_true (latestRow_mem he).2).2
      refine ⟨e, ?_, hvalid, rfl, rfl⟩
      show db.latestRecoveryActionForAttempt x.recoveryId e.actionId = some e
      rw [hkey]
      exact he

variable [DecidableEq π] {w : JournalWrite π}

/-- A write leaves the actions alone or adds one. -/
theorem run_actions (hb : w.batch = some b) (h : w.run db ctx = .ok db')
    (hnew : (JournalCall.write w ctx).DrawsNewActionId db) :
    db'.recoveryActions = db.recoveryActions ∨ ∃ r, db'.recoveryActions = db.recoveryActions ++ [r] ∧
      NextAction db r ∧ ∃ x ∈ db'.recoveries, x.recoveryId = r.recoveryAttemptId ∧ x.batchId = r.batchId := by
  by_cases htable : RecordTable.recoveryActions ∈ w.tables
  · right
    cases w <;> simp only [JournalWrite.batch, Option.some.injEq, reduceCtorEq] at hb <;> subst hb <;>
      simp [JournalWrite.tables, JournalWrite.table] at htable <;>
      simp only [JournalWrite.run, map_eq_ok, Prod.exists, exists_eq_right] at h
    case recordRecoveryActionPlanned =>
      obtain ⟨r, h⟩ := h
      simp only [SafeFsOps.recordRecoveryActionPlanned, bind_eq_ok] at h
      obtain ⟨_, -, h⟩ := h
      exact ⟨r, recordRecoveryAction_next (fun _ => hnew) h⟩
    case transitionRecoveryAction b attempt action status reason payload record =>
      obtain ⟨r, h⟩ := h
      refine ⟨r, recordRecoveryAction_next ?_ h⟩
      -- planning is refused to a call without an action type
      intro hplanned
      subst hplanned
      exfalso
      simp [SafeFsOps.transitionRecoveryAction, recordRecoveryAction, prepareRecoveryActionWrite] at h
  · left
    rcases run_writes hb h with hwrites | rfl
    · exact hwrites.rows_eq htable
    · rfl

end Writes

/-! ## Runs -/

/-- The rows of an attempt are of its batch, and each action's rows are a chain from `planned`. -/
structure ActionsKept (db : JournalDb π) : Prop where
  numbered : Numbered db
  attempt : ∀ r ∈ db.recoveryActions, ∃ x ∈ db.recoveries, x.recoveryId = r.recoveryAttemptId ∧ x.batchId = r.batchId
  history : ∀ a id, IsHistory (fun r => r.status = .planned) ActionFollows (db.recoveryActionHistory a id)

section Runs

variable {db db' : JournalDb π}

/-- An action's rows are numbered in the order they were written. -/
theorem ActionsKept.rising (h : ActionsKept db) (a id : String) :
    (db.recoveryActionHistory a id).Pairwise fun r r' => r.sequence < r'.sequence := by
  cases hhist : db.recoveryActionHistory a id with
  | nil => exact List.Pairwise.nil
  | cons r rest =>
    rw [← hhist]
    -- every row of the attempt is of the batch of the first one
    have hr : r ∈ db.recoveryActionHistory a id := by
      rw [hhist]
      exact List.mem_cons_self
    obtain ⟨hr, hkey⟩ := List.mem_filter.1 hr
    obtain ⟨x, hx, hxa, hxb⟩ := h.attempt r hr
    refine h.numbered.filter_rising (T := .recoveryActions) (b := r.batchId) ?_
    intro y hy hykey
    obtain ⟨z, hz, hza, hzb⟩ := h.attempt y hy
    have hzx : z.recoveryId = x.recoveryId := by
      rw [hza, hxa, (of_decide_eq_true hkey).1, (of_decide_eq_true hykey).1]
    show y.batchId = r.batchId
    rw [← hzb, ← hxb, recovery_eq (h.numbered.keys .recoveries) hz hx hzx]

/-- What the guard reads is the end of the history. -/
theorem ActionsKept.latest (h : ActionsKept db) (a id : String) :
    db.latestRecoveryActionForAttempt a id = (db.recoveryActionHistory a id).getLast? :=
  latestRow_eq_getLast? (h.rising a id)

/-- One more row. -/
theorem ActionsKept.append (h : ActionsKept db) {r : RecoveryActionRow π} (hnext : NextAction db r)
    (hactions : db'.recoveryActions = db.recoveryActions ++ [r]) (a id : String) :
    IsHistory (fun r => r.status = .planned) ActionFollows (db'.recoveryActionHistory a id) := by
  rw [JournalDb.recoveryActionHistory, hactions, filter_append_one]
  by_cases hkey : r.recoveryAttemptId = a ∧ r.actionId = id
  · obtain ⟨rfl, rfl⟩ := hkey
    rw [if_pos (by simp)]
    refine (h.history _ _).concat ?_ ?_
    · intro hnil
      rcases hnext with ⟨hplanned, -⟩ | ⟨e, he, -⟩
      · exact hplanned
      · rw [h.latest, hnil] at he
        cases he
    · intro x hx
      rcases hnext with ⟨-, hnil⟩ | ⟨e, he, hfollows⟩
      · rw [hnil] at hx
        cases hx
      · rw [h.latest, hx] at he
        cases he
        exact hfollows
  · rw [if_neg (by simpa using hkey), List.append_nil]
    exact h.history a id

variable [JournalPayload π] [DecidableEq π]

theorem actionsKept_step (db : JournalDb π) (c : JournalCall π) (hnew : c.DrawsNewActionId db) (h : ActionsKept db) :
    ActionsKept (db.step c) := by
  have hnumbered := numbered_step db c h.numbered
  -- attempts stay on record
  have hgrown : ∀ x ∈ db.recoveries, x ∈ (db.step c).recoveries := by
    intro x hx
    obtain ⟨new, hrows, -⟩ := appends_step db c .recoveries
    show x ∈ (db.step c).rows .recoveries
    rw [hrows]
    exact List.mem_append_left _ hx
  -- so where no action is added, nothing is to be shown
  have hkept : (db.step c).recoveryActions = db.recoveryActions → ActionsKept (db.step c) := by
    intro hsame
    have hhist : ∀ a id, (db.step c).recoveryActionHistory a id = db.recoveryActionHistory a id := fun a id => by
      rw [JournalDb.recoveryActionHistory, hsame]
      rfl
    refine ⟨hnumbered, ?_, ?_⟩
    · rw [hsame]
      intro r hr
      obtain ⟨x, hx, hkeys⟩ := h.attempt r hr
      exact ⟨x, hgrown x hx, hkeys⟩
    · intro a id
      rw [hhist]
      exact h.history a id
  cases c with
  | lease c => exact hkept rfl
  | operationRuns runs phases => exact hkept rfl
  | write w ctx =>
    cases hrun : w.run db ctx with
    | error e => exact hkept (by simp only [JournalDb.step, hrun])
    | ok db' =>
      have hstep : db.step (.write w ctx) = db' := by simp only [JournalDb.step, hrun]
      cases hb : w.batch with
      | none =>
        refine hkept ?_
        rw [hstep]
        obtain ⟨-, rfl | ⟨req, batchId, rfl, -⟩⟩ := run_create hb hrun
        · rfl
        · rfl
      | some b =>
        rcases run_actions hb hrun hnew with hsame | ⟨r, hactions, hnext, x, hx, hkeys⟩
        · exact hkept (by rw [hstep, hsame])
        · rw [hstep] at hnumbered hgrown ⊢
          refine ⟨hnumbered, ?_, h.append hnext hactions⟩
          rw [hactions]
          intro y hy
          rcases List.mem_append.1 hy with hy | hy
          · obtain ⟨z, hz, hzkeys⟩ := h.attempt y hy
            exact ⟨z, hgrown z hz, hzkeys⟩
          · rw [List.mem_singleton.1 hy]
            exact ⟨x, hx, hkeys⟩

/-- An action that has ended has no further records. -/
theorem ActionsKept.history_ended (h : ActionsKept db) {a id : String} {r : RecoveryActionRow π}
    (hr : (db.recoveryActionHistory a id).getLast? = some r) (hterminal : r.status.terminal = true)
    {more : List (JournalCall π)} (hmore : AllSteps JournalDb.step (fun db c => c.DrawsNewActionId db) db more) :
    (after JournalDb.step db more).recoveryActionHistory a id = db.recoveryActionHistory a id := by
  have hlater : ActionsKept (after JournalDb.step db more) := after_invariant_of actionsKept_step more db hmore h
  have hrows : ∃ new : List (RecoveryActionRow π),
      (after JournalDb.step db more).recoveryActions = db.recoveryActions ++ new := by
    obtain ⟨new, hnew, -⟩ := appends_after db more .recoveryActions
    exact ⟨new, hnew⟩
  obtain ⟨new, hrows⟩ := hrows
  have hall := hlater.history a id
  rw [JournalDb.recoveryActionHistory, hrows, List.filter_append] at hall ⊢
  -- a row after the last one would have to follow it
  have hnil : new.filter (fun r => decide (r.recoveryAttemptId = a ∧ r.actionId = id)) = [] := by
    refine hall.eq_nil_of_last hr ?_
    intro x hfollows
    rw [recoveryActionTransitions_terminal hfollows.1] at hterminal
    cases hterminal
  rw [hnil, List.append_nil]
  rfl

omit [JournalPayload π] [DecidableEq π] in
theorem actionsKept_init : ActionsKept (JournalDb.init π) where
  numbered := numbered_init
  attempt r hr := by cases hr
  history _ _ := IsHistory.nil

/-- **The state machine of recovery actions.** After every run of the journal in which no drawn
action id was one already in use, for every attempt and action id: the statuses recorded for it, in
the order of their numbers, begin one of the paths of `recoveryActionPaths`; its rows agree in type
and resource; and once its latest row has a terminal status, no further run adds a row to it. -/
theorem recovery_action_history (run : List (JournalCall π))
    (hnew : AllSteps JournalDb.step (fun db c => c.DrawsNewActionId db) (JournalDb.init π) run) (a id : String) :
    let db := after JournalDb.step (JournalDb.init π) run
    let history := db.recoveryActionHistory a id
    (∃ path ∈ recoveryActionPaths, history.map RecoveryActionRow.status <+: path) ∧
    (history.Pairwise fun r r' => r.sequence < r'.sequence) ∧
    (∀ r ∈ history, ∀ r' ∈ history, r.actionType = r'.actionType ∧ r.resourceKey = r'.resourceKey) ∧
    ∀ r, history.getLast? = some r → r.status.terminal = true →
      ∀ more, AllSteps JournalDb.step (fun db c => c.DrawsNewActionId db) db more →
        (after JournalDb.step db more).recoveryActionHistory a id = history := by
  intro db history
  have hdb : ActionsKept db := after_invariant_of actionsKept_step run _ hnew actionsKept_init
  have hhist := hdb.history a id
  refine ⟨?_, hdb.rising a id, ?_, ?_⟩
  · refine prefix_of_chain ?_ ?_
    · rw [List.isChain_map]
      exact hhist.chain.imp fun r r' h => h.1
    · intro s hs
      rw [List.head?_map] at hs
      obtain ⟨r, hr, rfl⟩ := Option.map_eq_some_iff.1 hs
      exact hhist.head r hr
  · intro r hr r' hr'
    exact ⟨hhist.const (fun _ _ h => h.2.1) r hr r' hr', hhist.const (fun _ _ h => h.2.2) r hr r' hr'⟩
  · intro r hr hterminal more hmore
    exact hdb.history_ended hr hterminal hmore

end Runs

/-! ## An action, run -/

private def morningShift : DateTime := .soon 5
private def shiftEnd : DateTime := .soon 100

/-- A worker's calls, numbered by the ids they draw. -/
private def onShift (w : JournalWrite String) (n : String) : JournalCall String :=
  .write w ⟨leaseFromRow "lease" ⟨"a", "t1", 1, morningShift, morningShift, shiftEnd⟩ true true, morningShift,
    "drawn" ++ n, "id" ++ n⟩

/-- A batch fails and its recovery attempt plans two actions, of which it tries one. -/
private def recoveryUnderway : List (JournalCall String) :=
  let file := some "file:/x"
  [.lease (.acquire "lease" "a" 95 none "t1" morningShift),
    onShift (.createBatch ⟨"key", "a", "run", none, none, file, none, none, none⟩ (some "batch")) "1",
    onShift (.startBatchOperation "batch" "write_bytes" file none none none) "2",
    onShift (.markFailed "batch" "error" none) "3",
    onShift (.recordRecoveryDesired "batch" ⟨none, none, none⟩) "4",
    onShift (.startRecovery "batch" ⟨none, none, some "attempt"⟩) "5",
    onShift (.recordRecoveryActionPlanned "batch" "attempt" "restore_backup" file none none none) "6",
    onShift (.recordRecoveryActionPlanned "batch" "attempt" "delete_file" file none (some "given") none) "7",
    onShift (.transitionRecoveryAction "batch" "attempt" "drawn6" .attempting none none none) "8",
    onShift (.transitionRecoveryAction "batch" "attempt" "drawn6" .succeeded none none none) "9"]

/-- The action with the drawn id ran through; its rows begin one of the paths. -/
theorem recovery_action_history_drawn :
    ((after JournalDb.step (JournalDb.init String) recoveryUnderway).recoveryActionHistory "attempt" "drawn6").map
      RecoveryActionRow.status = [.planned, .attempting, .succeeded] ∧
    ∃ path ∈ recoveryActionPaths, ((after JournalDb.step (JournalDb.init String)
      recoveryUnderway).recoveryActionHistory "attempt" "drawn6").map RecoveryActionRow.status <+: path := by
  refine ⟨by decide +kernel, (recovery_action_history recoveryUnderway ?_ "attempt" "drawn6").1⟩
  refine ⟨trivial, trivial, trivial, trivial, trivial, trivial, ?_, ?_, trivial, trivial, trivial⟩
  · intro _ r hr
    cases hr
  · intro hempty
    exact absurd hempty (by decide)

end SafeFsOps
