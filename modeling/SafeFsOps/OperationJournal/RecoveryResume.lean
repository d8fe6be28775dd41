import SafeFsOps.OperationJournal.ActionRecords
import SafeFsOps.OperationJournal.RecoverySteps

/-!
# Resuming a recovery

`run_recovery_actions` can be killed anywhere and called again, under the attempt
it was killed in or under a new one. What it has done is on record, one action at
a time: `attempting` before the handler, an end after it. A call goes through the
actions of its attempt in the order they were planned, passes over those that have
ended, and gives the handler of each other one turn.

> `Resumed`: what a call has done so far, wherever it is stopped: it has run the
> handlers of the first of the actions that were left, in that order, and all of
> them but the last one have ended well.

An action that was left `attempting` is taken up again, its handler run a second
time (`handler_runs_again`). That is meant: handlers look first at what is there
already. It is also the only way to a second turn.

The handlers are the coordinator's own parameter, as in the source. To see their
turns, each of them first leaves a note (`RecoveryHandlers.noted`).
-/

namespace SafeFsOps

open Program

variable {φ ω : Type}

/-! ## The handlers of a coordinator -/

/-- `_recovery_action_handlers`, by action type. A handler is given the context, whose
authority it can check, and the record that planned its action. -/
abbrev RecoveryHandlers (φ ω : Type) :=
  RecoveryContext → Op φ ω Unit → String → Option (RecoveryActionRow Payload → Op φ ω Unit)

namespace RecoveryHandlers

/-- The handlers a coordinator has by default. -/
def builtin (C : Coordinator φ ω) : RecoveryHandlers φ ω := fun ctx authority actionType =>
  (recoveryActionHandler C ctx authority actionType).map fun handler row => handler row.payload

/-- A handler has its turn. -/
def noteTurn (actionId : String) : Op φ ω Unit :=
  .call fun _ w => (.ok (), { w with history := w.history ++ [.invoked actionId] })

/-- The same handlers, with a note of every turn. -/
def noted (H : RecoveryHandlers φ ω) : RecoveryHandlers φ ω := fun ctx authority actionType =>
  (H ctx authority actionType).map fun handler row => noteTurn row.actionId >>= fun _ => handler row

/-- Handlers that work on the disk, and leave the journal to the runner. -/
def LeaveJournal (H : RecoveryHandlers φ ω) (L : LeaseRecord) : Prop :=
  ∀ ctx authority actionType handler row, AllQuiet (fun _ => False) L authority →
    H ctx authority actionType = some handler → AllQuiet (fun _ => False) L (handler row)

theorem builtin_leaveJournal (C : Coordinator φ ω) (L : LeaseRecord) : (builtin C).LeaveJournal L := by
  intro ctx authority actionType handler row ha hh
  obtain ⟨f, hf, rfl⟩ := Option.map_eq_some_iff.1 hh
  exact quiet_recoveryActionHandler ctx ha hf row.payload

end RecoveryHandlers

section Runner

variable (H : RecoveryHandlers φ ω) (C : Coordinator φ ω) (h : LeaseHolder) (ctx : RecoveryContext)

/-- `performAction`, with the handlers of the coordinator. -/
def performActionWith (attempt : RecoveryRow Payload) (action source : RecoveryActionRow Payload) :
    Op φ ω (RecoveryActionRow Payload) :=
  let batchId := ctx.batch.batchId
  let unhandled := "no built-in recovery handler for " ++ pyRepr action.actionType
  if action.actionType = manualInterventionRequired then
    leaveToIntervention h batchId attempt.recoveryId source (manualInterventionReason source.payload) none
  else
    match H ctx (requireRecoveryActionAuthority h ctx attempt source) action.actionType with
    | none => leaveToIntervention h batchId attempt.recoveryId source unhandled none
    | some handler => do
      let result ← (runHandler C h ctx attempt action (handler source)).outcome
      finishAction h batchId attempt.recoveryId source result

/-- `_run_recovery_action` -/
def runRecoveryActionWith (attempt : RecoveryRow Payload) (action : RecoveryActionRow Payload) :
    Op φ ω (RecoveryActionRow Payload) :=
  if action.status ≠ .planned ∧ action.status ≠ .attempting then return action
  else do
    let entry ← atOperationTime h
    requireCurrent entry
    let current ←
      if action.status = .planned then
        transitionActionStep entry ctx.batch.batchId attempt.recoveryId action.actionId .attempting none
          (actionStatusPayload action "attempting" none none)
      else .ret action
    performActionWith H C h ctx attempt current (actionPayloadSource ctx current)

/-- `run_recovery_actions` -/
def runRecoveryActionsWith : Op φ ω Unit :=
  match ctx.recoveryAttempt with
  | none => .raise (.recovery ("batch " ++ pyRepr ctx.batch.batchId ++ " has no active recovery attempt")
      ctx.batch.batchId)
  | some attempt => do
    requireCurrent h
    let actions ← listActions ctx.batch.batchId attempt.recoveryId
    let ctx ← planRecoveryActions C h { ctx with recoveryActions := actions } attempt.recoveryId
    .forEach (latestActions ctx.recoveryActions attempt.recoveryId) fun action => do
      requireRecoveryAuthority h ctx.batch.batchId attempt.recoveryId
      let _ ← runRecoveryActionWith H C h ctx attempt action
      return ()

/-- With the default handlers it is the runner of the default coordinator. -/
theorem runRecoveryActionsWith_builtin :
    runRecoveryActionsWith (.builtin C) C h ctx = runRecoveryActions C h ctx := by
  have hperform : ∀ ctx attempt action source, performActionWith (.builtin C) C h ctx attempt action source =
      performAction C h ctx attempt action source := by
    intro ctx attempt action source
    unfold performActionWith performAction
    split
    · rfl
    · cases hh : recoveryActionHandler C ctx (requireRecoveryActionAuthority h ctx attempt source) action.actionType <;>
        simp only [RecoveryHandlers.builtin, hh, Option.map]
  have hrun : ∀ ctx attempt action, runRecoveryActionWith (.builtin C) C h ctx attempt action =
      runRecoveryAction C h ctx attempt action := by
    intro ctx attempt action
    simp only [runRecoveryActionWith, runRecoveryAction, hperform]
  unfold runRecoveryActionsWith runRecoveryActions
  cases ctx.recoveryAttempt with
  | none => rfl
  | some attempt => simp only [hrun]

end Runner

/-! ## Still worlds -/

/-- Nothing but the disk, the leases and the notes on operation runs changed. -/
structure Still (w w' : World φ) : Prop where
  history : w'.history = w.history
  rows : ∀ T, w'.journal.rows T = w.journal.rows T
  batches : w'.journal.batches = w.journal.batches

theorem Still.refl (w : World φ) : Still w w := ⟨rfl, fun _ => rfl, rfl⟩

/-- Without writes the journal's records stay. -/
theorem Quiet.still {L : LeaseRecord} {w w' : World φ} (hq : Quiet (fun _ => False) L w w') : Still w w' := by
  obtain ⟨calls, hcalls, hjournal⟩ := hq.journal
  have hsame : ∀ (calls : List (JournalCall Payload)) (db : JournalDb Payload),
      (∀ c ∈ calls, c.Under (fun _ => False) L) →
        (∀ T, (after JournalDb.step db calls).rows T = db.rows T) ∧
          (after JournalDb.step db calls).batches = db.batches := by
    intro calls
    induction calls with
    | nil => exact fun db _ => ⟨fun _ => rfl, rfl⟩
    | cons c calls ih =>
      intro db hcalls
      obtain ⟨hrows, hbatches⟩ := ih (db.step c) fun c' hc' => hcalls c' (List.mem_cons_of_mem _ hc')
      have hc := hcalls c List.mem_cons_self
      have hstep : (∀ T, (db.step c).rows T = db.rows T) ∧ (db.step c).batches = db.batches := by
        cases c with
        | lease c => exact ⟨fun T => by cases T <;> rfl, rfl⟩
        | operationRuns runs phases => exact ⟨fun T => by cases T <;> rfl, rfl⟩
        | write x ctx => exact hc.2.elim
      exact ⟨fun T => (hrows T).trans (hstep.1 T), hbatches.trans hstep.2⟩
  obtain ⟨hrows, hbatches⟩ := hsame calls w.journal hcalls
  rw [← hjournal] at hrows hbatches
  exact ⟨hq.history, hrows, hbatches⟩

section Still

variable {w w' : World φ} {b a id : String}

theorem Still.attemptActions (hs : Still w w') : w'.journal.attemptActions b a = w.journal.attemptActions b a := by
  have hactions : w'.journal.recoveryActions = w.journal.recoveryActions := hs.rows .recoveryActions
  rw [JournalDb.attemptActions, hactions]
  rfl

theorem Still.plannedActions (hs : Still w w') : w'.journal.plannedActions b a = w.journal.plannedActions b a := by
  rw [JournalDb.plannedActions, hs.attemptActions]
  rfl

theorem Still.lastAction (hs : Still w w') : w'.journal.lastAction b a id = w.journal.lastAction b a id := by
  rw [JournalDb.lastAction, hs.attemptActions]
  rfl

theorem Still.phaseOf (hs : Still w w') : w'.journal.phaseOf b = w.journal.phaseOf b := by
  rw [JournalDb.phaseOf, JournalDb.batchRow, hs.batches]
  rfl

theorem Still.kept (hs : Still w w') (hk : ActionsKept w.journal) : ActionsKept w'.journal := by
  have hactions : w'.journal.recoveryActions = w.journal.recoveryActions := hs.rows .recoveryActions
  have hrecoveries : w'.journal.recoveries = w.journal.recoveries := hs.rows .recoveries
  refine ⟨hk.numbered.congr hs.rows, ?_, fun a id => ?_⟩
  · rw [hactions, hrecoveries]
    exact hk.attempt
  · rw [JournalDb.recoveryActionHistory, hactions]
    exact hk.history a id

end Still

/-! ## What a call has done so far -/

/-- The actions that had not ended in `w`, in the order in which they are planned by now. -/
def remainingActions (b a : String) (w w' : World φ) : List String :=
  (w'.journal.plannedActions b a).filter fun id => w.journal.actionEnded b a id = false

/-- From `w` on, the handlers of the actions `turns` had their turn: the first of the
remaining ones, in their order; all but the last have ended well, and the last has at
least been marked. What had ended before is as it was. -/
structure Resumed (b a : String) (w w' : World φ) (turns : List String) : Prop where
  kept : ActionsKept w'.journal
  history : w'.history = w.history ++ turns.map .invoked
  planned : w.journal.plannedActions b a <+: w'.journal.plannedActions b a
  order : turns <+: remainingActions b a w w'
  settled : ∀ id ∈ turns.dropLast, w'.journal.ActionSettled b a id
  marked : ∀ id ∈ turns, ∃ r, w'.journal.lastAction b a id = some r ∧
    (r.status = .attempting ∨ r.status.terminal = true)
  ended : ∀ id, w.journal.actionEnded b a id = true → w'.journal.lastAction b a id = w.journal.lastAction b a id

section Resumed

variable {b a id : String} {w w₁ w₂ : World φ} {turns : List String} {status : RecoveryActionStatus}

theorem Resumed.refl (hw : ActionsKept w.journal) : Resumed b a w w [] where
  kept := hw
  history := (List.append_nil _).symm
  planned := List.prefix_rfl
  order := List.nil_prefix
  settled _ h := by cases h
  marked _ h := by cases h
  ended _ _ := rfl

theorem Still.remainingActions (hs : Still w₁ w₂) : remainingActions b a w w₂ = remainingActions b a w w₁ := by
  rw [SafeFsOps.remainingActions, hs.plannedActions]
  rfl

theorem Still.settled (hs : Still w₁ w₂) (hid : w₁.journal.ActionSettled b a id) : w₂.journal.ActionSettled b a id := by
  obtain ⟨r, hr, hstatus⟩ := hid
  exact ⟨r, by rw [hs.lastAction, hr], hstatus⟩

theorem Resumed.still (h : Resumed b a w w₁ turns) (hs : Still w₁ w₂) : Resumed b a w w₂ turns where
  kept := hs.kept h.kept
  history := hs.history.trans h.history
  planned := by
    rw [hs.plannedActions]
    exact h.planned
  order := by
    rw [hs.remainingActions]
    exact h.order
  settled id hid := hs.settled (h.settled id hid)
  marked id hid := by
    rw [hs.lastAction]
    exact h.marked id hid
  ended id hid := hs.lastAction.trans (h.ended id hid)

/-- An action is remaining if it is planned by now and had not ended. -/
theorem mem_remainingActions : id ∈ remainingActions b a w w₁ ↔
    id ∈ w₁.journal.plannedActions b a ∧ w.journal.actionEnded b a id = false := by
  rw [remainingActions, List.mem_filter, decide_eq_true_eq]

theorem nodup_remainingActions : (remainingActions b a w w₁).Nodup := nodup_actionOrder.filter _

/-- A record of a planned action changes no order. -/
theorem Recorded.remainingActions (hrec : Recorded b a id status w₁ w₂)
    (hid : id ∈ w₁.journal.plannedActions b a) : remainingActions b a w w₂ = remainingActions b a w w₁ := by
  rw [SafeFsOps.remainingActions, hrec.plannedActions, if_pos hid]
  rfl

theorem Recorded.settled_ne (hrec : Recorded b a id status w₁ w₂) {id' : String} (hne : id' ≠ id)
    (hs : w₁.journal.ActionSettled b a id') : w₂.journal.ActionSettled b a id' := by
  obtain ⟨r, hr, hstatus⟩ := hs
  exact ⟨r, by rw [hrec.lastAction_ne hne, hr], hstatus⟩

/-- A record of an action that is remaining, and has not been left behind. -/
theorem Resumed.recorded (h : Resumed b a w w₁ turns) (hrec : Recorded b a id status w₁ w₂)
    (hid : id ∈ remainingActions b a w w₁) (hlast : id ∉ turns.dropLast)
    (hstatus : status = .attempting ∨ status.terminal = true) : Resumed b a w w₂ turns := by
  obtain ⟨hplanned, hopen⟩ := mem_remainingActions.1 hid
  refine ⟨hrec.kept h.kept, hrec.history.trans h.history, ?_, ?_, ?_, ?_, ?_⟩
  · rw [hrec.plannedActions, if_pos hplanned]
    exact h.planned
  · rw [hrec.remainingActions hplanned]
    exact h.order
  · intro id' hid'
    exact hrec.settled_ne (fun heq => hlast (heq ▸ hid')) (h.settled id' hid')
  · intro id' hid'
    by_cases heq : id' = id
    · obtain ⟨r, hr, rfl⟩ := hrec.lastAction_self
      subst heq
      exact ⟨r, hr, hstatus⟩
    · rw [hrec.lastAction_ne heq]
      exact h.marked id' hid'
  · intro id' hended
    have hne : id' ≠ id := by
      rintro rfl
      rw [hopen] at hended
      cases hended
    rw [hrec.lastAction_ne hne]
    exact h.ended id' hended

/-- A new action, before any turn. -/
theorem Resumed.planned_new (h : Resumed b a w w₁ []) (hrec : Recorded b a id .planned w₁ w₂)
    (hnew : id ∉ w₁.journal.plannedActions b a) : Resumed b a w w₂ [] where
  kept := hrec.kept h.kept
  history := hrec.history.trans h.history
  planned := by
    rw [hrec.plannedActions, if_neg hnew]
    exact h.planned.trans (List.prefix_append _ _)
  order := List.nil_prefix
  settled _ hid := by cases hid
  marked _ hid := by cases hid
  ended id' hended := by
    have hne : id' ≠ id := by
      rintro rfl
      refine hnew (h.planned.subset ?_)
      by_contra hmem
      rw [JournalDb.actionEnded, JournalDb.lastAction, lastRecord_eq_none.2 hmem] at hended
      cases hended
    rw [hrec.lastAction_ne hne]
    exact h.ended id' hended

end Resumed

/-- A handler has its turn only where the last record of its action is `attempting`. -/
def TakesTurn (b a : String) (w w' : World φ) : Prop :=
  w'.history = w.history ∨ ∃ id r, w'.history = w.history ++ [.invoked id] ∧
    w.journal.lastAction b a id = some r ∧ r.status = .attempting

/-- A step of a runner: turns come to actions that are `attempting`, what was done is
still in order, and the recovery of the batch is not completed. -/
structure RunnerStep (b a : String) (w₀ w w' : World φ) : Prop where
  turn : TakesTurn b a w w'
  resumed : ∃ turns, Resumed b a w₀ w' turns
  phase : w'.journal.phaseOf b = some .recoverySucceeded → w.journal.phaseOf b = some .recoverySucceeded

section Steps

variable {b a id : String} {w₀ w w' : World φ} {turns : List String} {status : RecoveryActionStatus}

theorem RunnerStep.still (hs : Still w w') (h : Resumed b a w₀ w turns) : RunnerStep b a w₀ w w' :=
  ⟨.inl hs.history, ⟨turns, h.still hs⟩, fun hphase => hs.phaseOf.symm.trans hphase⟩

theorem RunnerStep.recorded (hrec : Recorded b a id status w w') (h : Resumed b a w₀ w' turns) :
    RunnerStep b a w₀ w w' := by
  refine ⟨.inl hrec.history, ⟨turns, h⟩, fun hphase => ?_⟩
  rw [hrec.phase] at hphase
  cases hphase

variable {α : Type} {A : Sample ω → World φ → Prop} {L : LeaseRecord}

/-- Steps that write no record, in worlds in which the call can be resumed. -/
theorem along_still {P : World φ → Prop} (hP : ∀ w w', Still w w' → P w → P w')
    (hresumed : ∀ w, P w → ∃ turns, Resumed b a w₀ w turns) {p : Op φ ω α}
    (hp : AllQuiet (fun _ => False) L p) (hw : P w) :
    Along A (RunnerStep b a w₀) (fun _ w => P w) p w := by
  refine along_eachStep (fun w w' hq h => ?_) hp hw
  obtain ⟨turns, hr⟩ := hresumed w h
  exact ⟨.still hq.still hr, hP w w' hq.still h⟩

end Steps

/-! ## Rounds -/

/-- The actions of a list that have not ended. -/
def openActions (rows : List (RecoveryActionRow Payload)) : List String :=
  (rows.filter fun r => r.status.terminal = false).map RecoveryActionRow.actionId

/-- What is to come in the rounds of the actions `rest` is as it was when they were listed. -/
structure Ahead (b a : String) (w₀ : World φ) (rest : List (RecoveryActionRow Payload)) (w : World φ) : Prop where
  current : ∀ x ∈ rest, w.journal.lastAction b a x.actionId = some x
  ended : ∀ x ∈ rest, w₀.journal.actionEnded b a x.actionId = x.status.terminal

/-- Between two rounds: every turn so far ended well, and the open ones of `rest` remain. -/
def Round (b a : String) (w₀ : World φ) (rest : List (RecoveryActionRow Payload)) (w : World φ) : Prop :=
  Ahead b a w₀ rest w ∧ ∃ turns, Resumed b a w₀ w turns ∧ (∀ id ∈ turns, w.journal.ActionSettled b a id) ∧
    remainingActions b a w₀ w = turns ++ openActions rest

/-- In the round of `id`, which is `attempting`; `turn` is `[id]` once its handler had its turn. -/
structure InRound (b a : String) (w₀ : World φ) (id : String) (turn : List String)
    (rest : List (RecoveryActionRow Payload)) (w : World φ) : Prop where
  ahead : Ahead b a w₀ rest w
  attempting : ∃ r, w.journal.lastAction b a id = some r ∧ r.status = .attempting
  once : turn = [] ∨ turn = [id]
  progress : ∃ turns, Resumed b a w₀ w (turns ++ turn) ∧ (∀ id ∈ turns, w.journal.ActionSettled b a id) ∧
    remainingActions b a w₀ w = turns ++ id :: openActions rest

section Rounds

variable {b a id : String} {w₀ w w' : World φ} {turn turns : List String} {status : RecoveryActionStatus}
  {x : RecoveryActionRow Payload} {rest : List (RecoveryActionRow Payload)}

theorem Ahead.still (h : Ahead b a w₀ rest w) (hs : Still w w') : Ahead b a w₀ rest w' :=
  ⟨fun x hx => hs.lastAction.trans (h.current x hx), h.ended⟩

theorem Ahead.tail (h : Ahead b a w₀ (x :: rest) w) : Ahead b a w₀ rest w :=
  ⟨fun y hy => h.current y (List.mem_cons_of_mem _ hy), fun y hy => h.ended y (List.mem_cons_of_mem _ hy)⟩

/-- A record of an action that is not to come again. -/
theorem Ahead.recorded (h : Ahead b a w₀ rest w) (hrec : Recorded b a id status w w')
    (hremaining : remainingActions b a w₀ w = turns ++ id :: openActions rest) : Ahead b a w₀ rest w' := by
  have hnodup : (turns ++ id :: openActions rest).Nodup := hremaining ▸ nodup_remainingActions
  have hid : id ∈ remainingActions b a w₀ w := by
    rw [hremaining]
    exact List.mem_append_right _ List.mem_cons_self
  refine ⟨fun y hy => ?_, h.ended⟩
  rw [hrec.lastAction_ne, h.current y hy]
  intro heq
  have hended := h.ended y hy
  rw [heq, (mem_remainingActions.1 hid).2] at hended
  have hin : y.actionId ∈ openActions rest :=
    List.mem_map_of_mem (List.mem_filter.2 ⟨hy, decide_eq_true hended.symm⟩)
  exact (List.nodup_cons.1 (List.nodup_append.1 hnodup).2.1).1 (heq ▸ hin)

theorem Round.still (h : Round b a w₀ rest w) (hs : Still w w') : Round b a w₀ rest w' := by
  obtain ⟨hahead, turns, hr, hsettled, hremaining⟩ := h
  exact ⟨hahead.still hs, turns, hr.still hs, fun id hid => hs.settled (hsettled id hid),
    hs.remainingActions.trans hremaining⟩

theorem InRound.still (h : InRound b a w₀ id turn rest w) (hs : Still w w') : InRound b a w₀ id turn rest w' := by
  obtain ⟨hahead, ⟨r, hlast, hstatus⟩, hturn, turns, hr, hsettled, hremaining⟩ := h
  exact ⟨hahead.still hs, ⟨r, hs.lastAction.trans hlast, hstatus⟩, hturn, turns, hr.still hs,
    fun id hid => hs.settled (hsettled id hid), hs.remainingActions.trans hremaining⟩

theorem Round.resumed (h : Round b a w₀ rest w) : ∃ turns, Resumed b a w₀ w turns := by
  obtain ⟨-, turns, hr, -⟩ := h
  exact ⟨turns, hr⟩

theorem InRound.resumed (h : InRound b a w₀ id turn rest w) : ∃ turns, Resumed b a w₀ w turns := by
  obtain ⟨turns, hr, -⟩ := h.progress
  exact ⟨_, hr⟩

/-- An action that has ended is passed over. -/
theorem Round.pass (h : Round b a w₀ (x :: rest) w) (hx : x.status.terminal = true) : Round b a w₀ rest w := by
  obtain ⟨hahead, turns, hr, hsettled, hremaining⟩ := h
  refine ⟨hahead.tail, turns, hr, hsettled, ?_⟩
  rw [hremaining, openActions, List.filter_cons_of_neg (by simp [hx])]
  rfl

/-- An action that has not is the first that remains. -/
theorem Round.first (h : Round b a w₀ (x :: rest) w) (hx : x.status.terminal = false) :
    ∃ turns, Resumed b a w₀ w turns ∧ (∀ id ∈ turns, w.journal.ActionSettled b a id) ∧
      remainingActions b a w₀ w = turns ++ x.actionId :: openActions rest := by
  obtain ⟨-, turns, hr, hsettled, hremaining⟩ := h
  refine ⟨turns, hr, hsettled, ?_⟩
  rw [hremaining, openActions, List.filter_cons_of_pos (by simp [hx])]
  rfl

/-- An action that was left `attempting` is taken up. -/
theorem Round.takeUp (h : Round b a w₀ (x :: rest) w) (hx : x.status = .attempting) :
    InRound b a w₀ x.actionId [] rest w := by
  obtain ⟨turns, hr, hsettled, hremaining⟩ := h.first (by rw [hx]; rfl)
  refine ⟨h.1.tail, ⟨x, h.1.current x List.mem_cons_self, hx⟩, .inl rfl, turns, ?_, hsettled, hremaining⟩
  rw [List.append_nil]
  exact hr

/-- What a record of the action that is first does. -/
theorem first_recorded (hr : Resumed b a w₀ w (turns ++ turn)) (hturn : turn = [] ∨ turn = [id])
    (hremaining : remainingActions b a w₀ w = turns ++ id :: openActions rest)
    (hrec : Recorded b a id status w w') (hstatus : status = .attempting ∨ status.terminal = true) :
    Resumed b a w₀ w' (turns ++ turn) ∧ remainingActions b a w₀ w' = turns ++ id :: openActions rest ∧ id ∉ turns := by
  have hid : id ∈ remainingActions b a w₀ w := by
    rw [hremaining]
    exact List.mem_append_right _ List.mem_cons_self
  have hnodup : (turns ++ id :: openActions rest).Nodup := hremaining ▸ nodup_remainingActions
  have hfresh : id ∉ turns := fun hin =>
    (List.nodup_append.1 hnodup).2.2 id hin id List.mem_cons_self rfl
  have hlast : id ∉ (turns ++ turn).dropLast := by
    rcases hturn with rfl | rfl
    · rw [List.append_nil]
      exact fun hin => hfresh (List.dropLast_subset _ hin)
    · rw [List.dropLast_concat]
      exact hfresh
  refine ⟨hr.recorded hrec hid hlast hstatus, ?_, hfresh⟩
  rw [hrec.remainingActions (mem_remainingActions.1 hid).1, hremaining]

/-- An action is marked before its handler's turn. -/
theorem Round.mark (h : Round b a w₀ (x :: rest) w) (hx : x.status.terminal = false)
    (hrec : Recorded b a x.actionId .attempting w w') :
    RunnerStep b a w₀ w w' ∧ InRound b a w₀ x.actionId [] rest w' := by
  obtain ⟨turns, hr, hsettled, hremaining⟩ := h.first hx
  have hr₀ : Resumed b a w₀ w (turns ++ []) := by
    rw [List.append_nil]
    exact hr
  obtain ⟨hr', hremaining', hfresh⟩ := first_recorded hr₀ (.inl rfl) hremaining hrec (.inl rfl)
  refine ⟨.recorded hrec hr', h.1.tail.recorded hrec hremaining, hrec.lastAction_self, .inl rfl, turns, hr', ?_,
    hremaining'⟩
  exact fun id hid => hrec.settled_ne (fun heq => hfresh (heq ▸ hid)) (hsettled id hid)

/-- Any end of the action at work. -/
theorem InRound.step (h : InRound b a w₀ id turn rest w) (hrec : Recorded b a id status w w')
    (hstatus : status.terminal = true) : RunnerStep b a w₀ w w' := by
  obtain ⟨turns, hr, -, hremaining⟩ := h.progress
  exact .recorded hrec (first_recorded hr h.once hremaining hrec (.inr hstatus)).1

/-- A good end, after the handler's turn. -/
theorem InRound.settle (h : InRound b a w₀ id [id] rest w) (hrec : Recorded b a id status w w')
    (hstatus : status = .succeeded ∨ status = .skipped) : Round b a w₀ rest w' := by
  obtain ⟨turns, hr, hsettled, hremaining⟩ := h.progress
  have hterminal : status.terminal = true := by rcases hstatus with rfl | rfl <;> rfl
  obtain ⟨hr', hremaining', hfresh⟩ := first_recorded hr h.once hremaining hrec (.inr hterminal)
  refine ⟨h.ahead.recorded hrec hremaining, turns ++ [id], hr', ?_, by rw [hremaining', List.append_cons]⟩
  intro id' hid'
  rcases List.mem_append.1 hid' with hin | hin
  · exact hrec.settled_ne (fun heq => hfresh (heq ▸ hin)) (hsettled id' hin)
  · rw [List.mem_singleton.1 hin]
    obtain ⟨r, hr, rfl⟩ := hrec.lastAction_self
    exact ⟨r, hr, hstatus⟩

/-- The turn itself. -/
theorem InRound.turnTaken (h : InRound b a w₀ id [] rest w)
    (hw' : w' = { w with history := w.history ++ [.invoked id] }) :
    RunnerStep b a w₀ w w' ∧ InRound b a w₀ id [id] rest w' := by
  obtain ⟨hahead, ⟨r, hlast, hstatus⟩, -, turns, hr, hsettled, hremaining⟩ := h
  rw [List.append_nil] at hr
  subst hw'
  have hr' : Resumed b a w₀ { w with history := w.history ++ [.invoked id] } (turns ++ [id]) := by
    refine ⟨hr.kept, ?_, hr.planned, ?_, ?_, ?_, hr.ended⟩
    · rw [hr.history, List.map_append, List.append_assoc]
      rfl
    · show turns ++ [id] <+: remainingActions b a w₀ w
      rw [hremaining]
      exact ⟨openActions rest, (List.append_cons turns id _).symm⟩
    · rw [List.dropLast_concat]
      exact hsettled
    · intro id' hid'
      rcases List.mem_append.1 hid' with hin | hin
      · exact hr.marked id' hin
      · rw [List.mem_singleton.1 hin]
        exact ⟨r, hlast, .inl hstatus⟩
  exact ⟨⟨.inr ⟨id, r, rfl, hlast, hstatus⟩, ⟨_, hr'⟩, fun hphase => hphase⟩,
    ⟨hahead.current, hahead.ended⟩, ⟨r, hlast, hstatus⟩, .inr rfl, turns, hr', hsettled, hremaining⟩

end Rounds

/-! ## One action -/

/-- What the steps of a runner read: an id drawn for an action is new, and a step that
fails on its own account does not fail as a handler does that skips its action. -/
structure RunnerInput (i : Sample ω) (w : World φ) : Prop where
  new : DrawsNewActionIds i w
  fault : ∀ reason code, i.fault ≠ some (.actionSkipped reason code)

/-- Not the error that skips an action. -/
def NotSkipped (e : OperationError) : Prop := ∀ reason code, e ≠ .actionSkipped reason code

section Authority

variable {C : Coordinator φ ω} {h : LeaseHolder}

theorem notSkipped_journal {α : Type} {x : Except JournalError α} {e : OperationError}
    (he : x.mapError .journal = .error e) : NotSkipped e := by
  cases x with
  | error e' =>
    cases he
    exact fun _ _ => OperationError.noConfusion
  | ok a => cases he

theorem raises_notSkipped_read {α : Type} {read : Sample ω → World φ → Except OperationError α}
    (hread : ∀ i w e, read i w = .error e → NotSkipped e) : RaisesOnly RunnerInput NotSkipped (databaseRead read) :=
  raises_read (fun _ _ _ hi hf reason code he => hi.fault reason code (he ▸ hf)) hread

theorem raises_attemptActive (batchId recoveryAttemptId : String) :
    RaisesOnly RunnerInput NotSkipped (requireActiveAttempt h batchId recoveryAttemptId : Op φ ω Unit) :=
  raises_notSkipped_read fun _ _ _ he => notSkipped_journal he

theorem raises_recoveryAuthority (batchId recoveryAttemptId : String) :
    RaisesOnly RunnerInput NotSkipped (requireRecoveryAuthority h batchId recoveryAttemptId : Op φ ω Unit) :=
  raises_bind (fun _ => raises_attemptActive batchId recoveryAttemptId) <|
    raises_notSkipped_read fun _ _ _ he => notSkipped_journal he

theorem raises_actionAuthority (ctx : RecoveryContext) (attempt : RecoveryRow Payload)
    (action : RecoveryActionRow Payload) :
    RaisesOnly RunnerInput NotSkipped (requireRecoveryActionAuthority h ctx attempt action : Op φ ω Unit) := by
  refine raises_bind (fun _ => ?_) (raises_recoveryAuthority _ _)
  split
  · exact fun _ _ => OperationError.noConfusion
  · refine raises_bind (fun _ => ?_) (raises_recoveryAuthority _ _)
    refine raises_bind (fun _ => ?_) (raises_recoveryAuthority _ _)
    refine raises_notSkipped_read fun i w e he => ?_
    obtain ⟨rfl, -⟩ := require_error he
    exact fun _ _ => OperationError.noConfusion

theorem raises_heartbeatOnce : RaisesOnly RunnerInput NotSkipped (heartbeatOnce h : Op φ ω Unit) := by
  refine raises_transaction (fun _ _ _ hi hf reason code he => hi.fault reason code (he ▸ hf)) fun i w e _ he => ?_
  split at he
  · next failure _ =>
    cases he
    cases failure <;> exact fun _ _ => OperationError.noConfusion
  · cases he
    exact fun _ _ => OperationError.noConfusion
  · cases he

end Authority

section Action

variable {C : Coordinator φ ω} {h : LeaseHolder} {b a id : String} {w₀ w : World φ} {turn : List String}
  {rest : List (RecoveryActionRow Payload)} {α : Type}

/-- Steps of a round that write no record. -/
theorem along_inRound {A : Sample ω → World φ → Prop} {p : Op φ ω α} (hp : AllQuiet (fun _ => False) h.lease p)
    (hw : InRound b a w₀ id turn rest w) :
    Along A (RunnerStep b a w₀) (fun _ w => InRound b a w₀ id turn rest w) p w :=
  along_still (fun _ _ hs h => h.still hs) (fun _ h => h.resumed) hp hw

/-- What the handler's turn comes to: it was had, or an error came first that skips nothing. -/
def TurnOutcome (b a : String) (w₀ : World φ) (id : String) (rest : List (RecoveryActionRow Payload))
    (r : Except OperationError Unit) (w : World φ) : Prop :=
  InRound b a w₀ id [id] rest w ∨ InRound b a w₀ id [] rest w ∧ ∃ e, r = .error e ∧ NotSkipped e

/-- A check before the handler's turn. -/
theorem along_check {p : Op φ ω Unit} {q : Op φ ω Unit} (hp : AllQuiet (fun _ => False) h.lease p)
    (hraises : RaisesOnly RunnerInput NotSkipped p) (hw : InRound b a w₀ id [] rest w)
    (hq : ∀ w, InRound b a w₀ id [] rest w →
      Along RunnerInput (RunnerStep b a w₀) (TurnOutcome b a w₀ id rest) q w) :
    Along RunnerInput (RunnerStep b a w₀) (TurnOutcome b a w₀ id rest) (p.bind fun _ => q) w := by
  refine along_seq (along_raises hraises (along_inRound hp hw)) ?_ ?_
  · intro _ w' hw'
    exact hq w' hw'.1
  · intro e w' hw'
    exact .inr ⟨hw'.1, e, rfl, hw'.2 e rfl⟩

/-- After the handler's turn, whatever follows. -/
theorem along_afterTurn {A : Sample ω → World φ → Prop} {p : Op φ ω Unit}
    (hp : AllQuiet (fun _ => False) h.lease p) (hw : InRound b a w₀ id [id] rest w) :
    Along A (RunnerStep b a w₀) (TurnOutcome b a w₀ id rest) p w :=
  along_mono (fun _ _ h => h) (fun _ _ h => .inl h) (along_inRound hp hw)

/-- The handler's turn, between two checks of its authority. -/
theorem along_turn {ctx : RecoveryContext} {attempt : RecoveryRow Payload} {action : RecoveryActionRow Payload}
    {handler : Op φ ω Unit} (hhandler : AllQuiet (fun _ => False) h.lease handler)
    (hw : InRound b a w₀ id [] rest w) :
    Along RunnerInput (RunnerStep b a w₀) (TurnOutcome b a w₀ id rest)
      (runHandler C h ctx attempt action (RecoveryHandlers.noteTurn id >>= fun _ => handler)) w := by
  have hauthority : AllQuiet (fun _ => False) h.lease (requireRecoveryActionAuthority h ctx attempt action : Op φ ω Unit) :=
    quiet_requireRecoveryActionAuthority _ _ _
  have hturn : ∀ w, InRound b a w₀ id [] rest w → Along RunnerInput (RunnerStep b a w₀) (TurnOutcome b a w₀ id rest)
      (requireRecoveryActionAuthority h ctx attempt action >>= fun _ =>
        (RecoveryHandlers.noteTurn id >>= fun _ => handler) >>= fun _ =>
          requireRecoveryActionAuthority h ctx attempt action) w := by
    intro w hw
    refine along_check hauthority (raises_actionAuthority _ _ _) hw fun w hw => ?_
    refine along_bind (along_bind (along_call fun i _ => ?_))
    obtain ⟨hstep, hw'⟩ := hw.turnTaken rfl
    refine ⟨hstep, along_mono (fun _ _ h => h) ?_ (along_inRound hhandler hw')⟩
    rintro (e | u) w'' hw''
    · exact .inl hw''
    · exact along_afterTurn hauthority hw''
  have hactive : AllQuiet (fun _ => False) h.lease
      (requireActiveAttempt h ctx.batch.batchId attempt.recoveryId : Op φ ω Unit) := quiet_requireActiveAttempt _ _
  refine along_check hactive (raises_attemptActive _ _) hw fun w hw => ?_
  show Along _ _ _ (maintainOperationLease C h _) w
  unfold maintainOperationLease maintainLease
  split
  · exact hturn w hw
  · split
    · exact hturn w hw
    · refine along_check (quiet_heartbeatOnce h) raises_heartbeatOnce hw fun w hw => ?_
      refine along_seq (hturn w hw) ?_ fun e w' hw' => hw'
      intro u w' hw'
      -- the turn was had, and what the heartbeat thread failed with comes after it
      rcases hw' with hw' | ⟨-, e, he, -⟩
      · have hlast : AllQuiet (fun _ => False) h.lease (raiseIfFailed >>= fun _ => .ret u : Op φ ω Unit) :=
          quiet_bind (quiet_databaseRead _) fun _ => quiet_ret _
        exact along_afterTurn hlast hw'
      · cases he

/-- An action that is left to intervention ends the call. -/
theorem along_leaveToIntervention {action : RecoveryActionRow Payload} (haction : action.actionId = id)
    {reason : String} {error : Option OperationError} (hw : InRound b a w₀ id turn rest w)
    {Q : Except OperationError (RecoveryActionRow Payload) → World φ → Prop} (hQ : ∀ e w, Q (.error e) w) :
    Along RunnerInput (RunnerStep b a w₀) Q (leaveToIntervention h b a action reason error : Op φ ω _) w := by
  obtain ⟨turns, hr⟩ := hw.resumed
  subst haction
  refine along_bind (along_transitionActionStep (by decide) (.still (.refl w) hr) (fun e => hQ e w) ?_)
  exact fun r w' _ hrec => ⟨hw.step hrec rfl, hQ _ _⟩

/-- What becomes of an action whose handler raised: the call goes on only past one that was skipped. -/
theorem along_actionRaised {action : RecoveryActionRow Payload} (haction : action.actionId = id) {e : OperationError}
    (hw : TurnOutcome b a w₀ id rest (.error e) w) :
    Along RunnerInput (RunnerStep b a w₀)
      (fun r w => match r with | .ok _ => Round b a w₀ rest w | .error _ => True)
      (actionRaised h b a action e : Op φ ω _) w := by
  have hin : ∃ turn, InRound b a w₀ id turn rest w := by
    rcases hw with hw | ⟨hw, -⟩
    · exact ⟨_, hw⟩
    · exact ⟨_, hw⟩
  obtain ⟨turn, hin⟩ := hin
  obtain ⟨turns, hr⟩ := hin.resumed
  subst haction
  have hstill := RunnerStep.still (.refl w) hr
  unfold actionRaised
  split
  · -- only a handler skips
    have hturn : InRound b a w₀ action.actionId [action.actionId] rest w := by
      rcases hw with hw | ⟨-, e, he, hskip⟩
      · exact hw
      · cases he
        exact absurd rfl (hskip _ _)
    refine along_transitionActionStep (by decide) hstill (fun _ => trivial) fun r w' _ hrec => ?_
    exact ⟨hturn.step hrec rfl, hturn.settle hrec (.inr rfl)⟩
  · exact along_leaveToIntervention rfl hin fun _ _ => trivial
  all_goals first
    | exact trivial
    | refine along_bind (along_transitionActionStep (by decide) hstill (fun _ => trivial) fun r w' _ hrec => ?_)
      exact ⟨hin.step hrec rfl, trivial⟩

/-- What follows the handler's turn. -/
theorem along_finishAction {action : RecoveryActionRow Payload} (haction : action.actionId = id)
    {result : Except OperationError Unit} (hw : TurnOutcome b a w₀ id rest result w) :
    Along RunnerInput (RunnerStep b a w₀)
      (fun r w => match r with | .ok _ => Round b a w₀ rest w | .error _ => True)
      (finishAction h b a action result : Op φ ω _) w := by
  cases result with
  | error e => exact along_actionRaised haction hw
  | ok u =>
    have hturn : InRound b a w₀ id [id] rest w := by
      rcases hw with hw | ⟨-, e, he, -⟩
      · exact hw
      · cases he
    have hchecks : AllQuiet (fun _ => False) h.lease (atOperationTime h : Op φ ω LeaseHolder) :=
      quiet_call fun _ w => Quiet.refl w
    refine along_seq (along_inRound hchecks hturn) ?_ fun _ _ _ => trivial
    intro h' w₁ hw₁
    refine along_seq (along_inRound (quiet_requireCurrent (L := h'.lease) h') hw₁) ?_ fun _ _ _ => trivial
    intro _ w₂ hw₂
    obtain ⟨turns, hr⟩ := hw₂.resumed
    subst haction
    refine along_transitionActionStep (by decide) (.still (.refl w₂) hr) (fun _ => trivial) fun r w' _ hrec => ?_
    exact ⟨hw₂.step hrec rfl, hw₂.settle hrec (.inl rfl)⟩

/-- The record that planned an action is a record of it. -/
theorem actionPayloadSource_actionId (ctx : RecoveryContext) (action : RecoveryActionRow Payload) :
    (actionPayloadSource ctx action).actionId = action.actionId := by
  have hmem : ∀ r ∈ ctx.recoveryActions.filter (fun r => r.recoveryAttemptId = action.recoveryAttemptId ∧
      r.actionId = action.actionId), r.actionId = action.actionId :=
    fun r hr => (of_decide_eq_true (List.mem_filter.1 hr).2).2
  simp only [actionPayloadSource]
  generalize ctx.recoveryActions.filter _ = records at hmem
  cases hfind : records.find? fun r => r.status = .planned with
  | some r => exact hmem r (List.mem_of_find?_eq_some hfind)
  | none =>
    cases hlast : records.getLast? with
    | some r => exact hmem r (List.mem_of_getLast? hlast)
    | none => rfl

variable {H : RecoveryHandlers φ ω} {ctx : RecoveryContext} {attempt : RecoveryRow Payload}
  {x : RecoveryActionRow Payload}

/-- The action itself. -/
theorem along_performActionWith (hH : H.LeaveJournal h.lease) (hb : ctx.batch.batchId = b)
    (ha : attempt.recoveryId = a) {action source : RecoveryActionRow Payload} (hsource : source.actionId = id)
    (hw : InRound b a w₀ id [] rest w) :
    Along RunnerInput (RunnerStep b a w₀)
      (fun r w => match r with | .ok _ => Round b a w₀ rest w | .error _ => True)
      (performActionWith H.noted C h ctx attempt action source) w := by
  subst hb ha hsource
  unfold performActionWith
  dsimp only
  split
  · exact along_leaveToIntervention rfl hw fun _ _ => trivial
  · cases hh : H ctx (requireRecoveryActionAuthority h ctx attempt source) action.actionType with
    | none =>
      simp only [RecoveryHandlers.noted, hh, Option.map]
      exact along_leaveToIntervention rfl hw fun _ _ => trivial
    | some handler =>
      simp only [RecoveryHandlers.noted, hh, Option.map]
      have hhandler := hH _ _ _ _ source (quiet_requireRecoveryActionAuthority _ _ _) hh
      exact along_outcome_seq (along_turn hhandler hw) fun result w' hw' => along_finishAction rfl hw'

/-- **One round.** The first of the actions to come is passed over, or it is marked, its
handler has its turn, and it ends; unless the call raises. -/
theorem along_runRecoveryActionWith (hH : H.LeaveJournal h.lease) (hb : ctx.batch.batchId = b)
    (ha : attempt.recoveryId = a) (hw : Round b a w₀ (x :: rest) w) :
    Along RunnerInput (RunnerStep b a w₀)
      (fun r w => match r with | .ok _ => Round b a w₀ rest w | .error _ => True)
      (runRecoveryActionWith H.noted C h ctx attempt x) w := by
  have hround : ∀ {β : Type} {p : Op φ ω β} {L : LeaseRecord} {w : World φ}, AllQuiet (fun _ => False) L p →
      Round b a w₀ (x :: rest) w →
        Along RunnerInput (RunnerStep b a w₀) (fun _ w => Round b a w₀ (x :: rest) w) p w :=
    fun hp hw => along_still (fun _ _ hs h => h.still hs) (fun _ h => h.resumed) hp hw
  unfold runRecoveryActionWith
  split
  · next hstatus =>
    refine hw.pass ?_
    cases hs : x.status <;> simp [hs, RecoveryActionStatus.terminal] at hstatus ⊢
  · next hstatus =>
    have hopen : x.status.terminal = false := by
      cases hs : x.status <;> simp [hs, RecoveryActionStatus.terminal] at hstatus ⊢
    have htime : AllQuiet (fun _ => False) h.lease (atOperationTime h : Op φ ω LeaseHolder) :=
      quiet_call fun _ w => Quiet.refl w
    refine along_seq (hround htime hw) ?_ fun _ _ _ => trivial
    intro entry w₁ hw₁
    refine along_seq (hround (quiet_requireCurrent (L := entry.lease) entry) hw₁) ?_ fun _ _ _ => trivial
    intro _ w₂ hw₂
    subst hb ha
    dsimp only
    split
    · obtain ⟨turns, hr⟩ := hw₂.resumed
      refine along_bind (along_transitionActionStep (by decide) (.still (.refl w₂) hr) (fun _ => trivial) ?_)
      intro r w₃ hid hrec
      obtain ⟨hstep, hw₃⟩ := hw₂.mark hopen hrec
      refine ⟨hstep, along_performActionWith hH rfl rfl ?_ hw₃⟩
      rw [actionPayloadSource_actionId, hid]
    · next hplanned =>
      have hattempting : x.status = .attempting := by
        by_contra hne
        exact hstatus ⟨hplanned, hne⟩
      exact along_performActionWith hH rfl rfl (actionPayloadSource_actionId ctx x) (hw₂.takeUp hattempting)

end Action

/-! ## The plan -/

/-- While actions are planned, nothing has had a turn, and what is new has not ended. -/
structure Planning (b a : String) (w₀ w : World φ) : Prop where
  resumed : Resumed b a w₀ w []
  ended : ∀ id, w.journal.actionEnded b a id = w₀.journal.actionEnded b a id

section Plan

variable {C : Coordinator φ ω} {h : LeaseHolder} {b a id : String} {w₀ w w' : World φ} {ctx : RecoveryContext}

theorem Planning.still (h : Planning b a w₀ w) (hs : Still w w') : Planning b a w₀ w' := by
  refine ⟨h.resumed.still hs, fun id => ?_⟩
  rw [← h.ended id, JournalDb.actionEnded, hs.lastAction]
  rfl

theorem Planning.planned (h : Planning b a w₀ w) (hrec : Recorded b a id .planned w w')
    (hnew : id ∉ w.journal.plannedActions b a) : Planning b a w₀ w' := by
  refine ⟨h.resumed.planned_new hrec hnew, fun id' => ?_⟩
  rw [← h.ended id', JournalDb.actionEnded, JournalDb.actionEnded]
  by_cases heq : id' = id
  · obtain ⟨r, hr, hstatus⟩ := hrec.lastAction_self
    have hnone : w.journal.lastAction b a id = none := lastRecord_eq_none.2 hnew
    rw [heq, hr, hnone, Option.any_some, hstatus]
    rfl
  · rw [hrec.lastAction_ne heq]

/-- What is planned by now is in the rounds to come. -/
theorem Planning.round (h : Planning b a w₀ w) : Round b a w₀ (latestActions (w.journal.attemptActions b a) a) w := by
  have hrows : ∀ r ∈ w.journal.attemptActions b a, r.recoveryAttemptId = a :=
    fun r hr => (of_decide_eq_true (List.mem_filter.1 hr).2).2.symm
  obtain ⟨hids, hlast⟩ := latestActions_spec hrows
  have hended : ∀ x ∈ latestActions (w.journal.attemptActions b a) a,
      w₀.journal.actionEnded b a x.actionId = x.status.terminal := by
    intro x hx
    have hx : w.journal.lastAction b a x.actionId = some x := hlast x hx
    rw [← h.ended, JournalDb.actionEnded, hx]
    rfl
  refine ⟨⟨hlast, hended⟩, [], h.resumed, (fun id hid => by cases hid), ?_⟩
  rw [remainingActions, JournalDb.plannedActions, ← hids, List.filter_map, List.nil_append, openActions]
  refine congrArg _ (List.filter_congr fun x hx => ?_)
  simp only [Function.comp_apply, hended x hx]

/-- A file that cannot be rolled back is left to intervention under an id of its own. -/
theorem fileRollbackManualIntervention_id {key : String} {payload : ManualPayload}
    (hmanual : fileRollbackManualIntervention ctx = some (id, key, payload)) : id ≠ "" := by
  have hproof : fileRecoveryProof ctx = some (.manual id key payload) := by
    unfold fileRollbackManualIntervention at hmanual
    split at hmanual
    · next hproof =>
      cases hmanual
      exact hproof
    · cases hmanual
  simp only [fileRecoveryProof, fileRecoveryProofFromRecords, Bind.bind, Option.bind_eq_some_iff] at hproof
  obtain ⟨intent, -, -, -, path, -, key', -, hproof⟩ := hproof
  have hid : ∃ rest, id = "manual:" ++ rest := by
    split at hproof
    · split at hproof
      · cases hproof
      · cases hproof
        exact ⟨_, rfl⟩
    · split at hproof
      · cases hproof
      · split at hproof
        · cases hproof
        · cases hproof
          exact ⟨_, rfl⟩
  obtain ⟨rest, rfl⟩ := hid
  intro hempty
  have hlist := congrArg String.toList hempty
  rw [String.toList_append] at hlist
  cases hlist

/-- Steps of the planner that write no record. -/
theorem along_planning {α : Type} {p : Op φ ω α} {L : LeaseRecord} (hp : AllQuiet (fun _ => False) L p)
    {rows : List (RecoveryActionRow Payload)} (hw : Planning b a w₀ w ∧ rows = w.journal.attemptActions b a) :
    Along RunnerInput (RunnerStep b a w₀)
      (fun _ w => Planning b a w₀ w ∧ rows = w.journal.attemptActions b a) p w := by
  refine along_still ?_ (fun _ h => ⟨[], h.1.resumed⟩) hp hw
  intro w w' hs h
  exact ⟨h.1.still hs, h.2.trans hs.attemptActions.symm⟩

/-- The planner's own reading of the attempt. -/
theorem along_listActions (hw : Planning b a w₀ w) :
    Along RunnerInput (RunnerStep b a w₀)
      (fun r w => Planning b a w₀ w ∧ ∀ rows, r = .ok rows → rows = w.journal.attemptActions b a)
      (listActions b a : Op φ ω _) w := by
  refine along_databaseRead (.still (.refl w) hw.resumed) (fun _ _ _ _ => ⟨hw, fun _ hrows => by cases hrows⟩) ?_
  intro i _ _
  refine ⟨hw, fun rows hrows => ?_⟩
  cases hrows
  exact hw.resumed.kept.numbered.listRecoveryActions

/-- A new plan is recorded. -/
theorem along_plan (plan : ActionPlan) (hw : Planning b a w₀ w) :
    Along RunnerInput (RunnerStep b a w₀)
      (fun r w => Planning b a w₀ w ∧ ∀ row, r = .ok row → plan.actionId ≠ "" →
        plan.actionId ∈ w.journal.plannedActions b a ∧ w₀.journal.actionEnded b a plan.actionId = false)
      (planActionStep h b a plan : Op φ ω _) w := by
  refine along_planActionStep (fun _ _ hi => hi.new) (.still (.refl w) hw.resumed)
    (fun _ => ⟨hw, fun _ hrow => by cases hrow⟩) ?_
  intro id r w' hrec hnew hid
  have hw' := hw.planned hrec hnew
  refine ⟨.recorded hrec hw'.resumed, hw', fun _ _ hgiven => ?_⟩
  rw [← hid hgiven]
  refine ⟨?_, ?_⟩
  · rw [hrec.plannedActions, if_neg hnew]
    exact List.mem_append_right _ List.mem_cons_self
  · obtain ⟨r, hr, hstatus⟩ := hrec.lastAction_self
    rw [← hw'.ended, JournalDb.actionEnded, hr, Option.any_some, hstatus]
    rfl

/-- **The plan.** Where it does not raise, every action of the attempt is on the list. -/
theorem along_planRecoveryActions (hb : ctx.batch.batchId = b)
    (hw : Planning b a w₀ w ∧ ctx.recoveryActions = w.journal.attemptActions b a) :
    Along RunnerInput (RunnerStep b a w₀)
      (fun r w => match r with
        | .ok ctx' => ctx'.batch = ctx.batch ∧ Planning b a w₀ w ∧
            ctx'.recoveryActions = w.journal.attemptActions b a
        | .error _ => True)
      (planRecoveryActions C h ctx a) w := by
  subst hb
  unfold planRecoveryActions
  dsimp only
  split
  · next actionId key payload hmanual =>
    split
    · exact trivial
    · refine along_bind (along_bind (along_mono (fun _ _ h => h) ?_ (along_plan _ hw.1)))
      rintro (e | row) w₁ ⟨hw₁, hplanned⟩
      · exact trivial
      obtain ⟨hin, hopen⟩ := hplanned row rfl (fileRollbackManualIntervention_id hmanual)
      refine along_bind (along_transitionActionStep (by decide) (.still (.refl w₁) hw₁.resumed) (fun _ => trivial) ?_)
      intro r w₂ _ hrec
      have hr := hw₁.resumed.recorded hrec (mem_remainingActions.2 ⟨hin, hopen⟩) (by simp) (.inr rfl)
      exact ⟨.recorded hrec hr, trivial⟩
  · have hplans : AllQuiet (fun _ => False) h.lease (recoveryActionPlans C ctx) :=
      quiet_bind (quiet_capturedDirectoryPlans _) fun _ => quiet_pure _
    refine along_seq (along_planning hplans hw) ?_ fun _ _ _ => trivial
    intro plans w₁ hw₁
    -- without new plans the world stays as it was when the actions were listed
    by_cases hnew : (plans.filter fun p => p.actionId ∉ (ctx.recoveryActions.filter fun r =>
        r.recoveryAttemptId = a).map RecoveryActionRow.actionId) = []
    · rw [hnew]
      exact ⟨rfl, hw₁⟩
    · refine along_bind ?_
      refine along_forEach (I := fun _ w => Planning ctx.batch.batchId a w₀ w) ?_ ?_ hw₁.1
      · intro plan _ w₂ hw₂
        refine along_bind (along_mono (fun _ _ h => h) ?_ (along_plan plan hw₂))
        rintro (e | row) w₃ ⟨hw₃, -⟩
        · exact trivial
        · exact hw₃
      · intro w₂ hw₂
        show Along _ _ _ (if _ then _ else _) _
        rw [if_neg hnew]
        refine along_seq (along_listActions hw₂) ?_ fun _ _ _ => trivial
        intro actions w₃ hw₃
        exact ⟨rfl, hw₃.1, hw₃.2 actions rfl⟩

end Plan

/-! ## A call -/

/-- **A call of the runner**, from any world in which the records of actions are in order. -/
theorem along_runRecoveryActionsWith {H : RecoveryHandlers φ ω} {C : Coordinator φ ω} {h : LeaseHolder}
    (hH : H.LeaveJournal h.lease) {ctx : RecoveryContext} {attempt : RecoveryRow Payload}
    (hattempt : ctx.recoveryAttempt = some attempt) {w₀ w : World φ}
    (hw : Planning ctx.batch.batchId attempt.recoveryId w₀ w) :
    Along RunnerInput (RunnerStep ctx.batch.batchId attempt.recoveryId w₀)
      (fun r w => match r with
        | .ok _ => Round ctx.batch.batchId attempt.recoveryId w₀ [] w
        | .error _ => True)
      (runRecoveryActionsWith H.noted C h ctx) w := by
  unfold runRecoveryActionsWith
  rw [hattempt]
  dsimp only
  have hplanning : ∀ {p : Op φ ω Unit}, AllQuiet (fun _ => False) h.lease p →
      Along RunnerInput (RunnerStep ctx.batch.batchId attempt.recoveryId w₀)
        (fun _ w => Planning ctx.batch.batchId attempt.recoveryId w₀ w) p w :=
    fun hp => along_still (fun _ _ hs h => h.still hs) (fun _ h => ⟨[], h.resumed⟩) hp hw
  refine along_seq (hplanning (quiet_requireCurrent h)) ?_ fun _ _ _ => trivial
  intro _ w₁ hw₁
  refine along_seq (along_listActions hw₁) ?_ fun _ _ _ => trivial
  intro actions w₂ hw₂
  refine along_bind (along_mono (fun _ _ h => h) ?_ (along_planRecoveryActions rfl ⟨hw₂.1, hw₂.2 actions rfl⟩))
  rintro (e | ctx') w₃ hw₃
  · exact trivial
  obtain ⟨hbatch, hplanned, hrows⟩ := hw₃
  refine along_forEach (I := fun rest w => Round ctx.batch.batchId attempt.recoveryId w₀ rest w) ?_ (fun _ h => h) ?_
  · intro x rest w₄ hw₄
    have hauthority : AllQuiet (fun _ => False) h.lease
        (requireRecoveryAuthority h ctx'.batch.batchId attempt.recoveryId : Op φ ω Unit) :=
      quiet_requireRecoveryAuthority _ _
    refine along_seq (along_still (fun _ _ hs h => h.still hs) (fun _ h => h.resumed) hauthority hw₄) ?_ fun _ _ _ => trivial
    intro _ w₅ hw₅
    refine along_bind (along_mono (fun _ _ h => h) ?_
      (along_runRecoveryActionWith hH (congrArg BatchRow.batchId hbatch) rfl hw₅))
    rintro (e | r) w₆ hw₆
    · exact trivial
    · exact hw₆
  · rw [hrows]
    exact hplanned.round

end SafeFsOps
