import SafeFsOps.OperationJournal.FailureRecords
import SafeFsOps.OperationJournal.RecoveryHandlers

/-!
# Running a recovery

`operation_journal/filesystem_recovery.py`: `recoverBatch` starts an attempt on a
batch that was put up for recovery, runs a callback under it, and closes the
attempt with what came of it; `runRecoveryActions` is the callback, which plans
the actions of the attempt, records each of them, and runs them in that order.

An action is over once its record is `succeeded`, `skipped`, `failed` or
`manual_intervention_required`; the last two end the whole callback with an error,
and with it the attempt.
-/

namespace SafeFsOps

variable {φ ω : Type}

/-! ## Journal writes of a recovery -/

/-- `now=self._operation_time(now)`, kept for several calls. -/
def atOperationTime (h : LeaseHolder) : Op φ ω LeaseHolder :=
  .call fun i w => (.ok { h with now := some (h.operationTime i) }, w)

/-- `start_recovery` -/
def startRecoveryStep (h : LeaseHolder) (batchId : String) : Op φ ω (RecoveryRow Payload) :=
  journalWrite h fun db ctx =>
    (startRecovery db batchId ⟨some "recovery callback started", some (.recoveryStarted batchId), none⟩ ctx).map
      fun (_, record, db) => (record, db)

/-- `record_recovery_succeeded` -/
def recordRecoverySucceededStep (h : LeaseHolder) (batchId recoveryAttemptId : String) (payload : Payload) :
    Op φ ω (RecoveryRow Payload) :=
  journalWrite h fun db ctx => recordRecoverySucceeded db batchId (some recoveryAttemptId)
    ⟨some "recovery callback succeeded", some payload, none⟩ ctx

/-- `record_recovery_failed` -/
def recordRecoveryFailedStep (h : LeaseHolder) (batchId recoveryAttemptId : String) (payload : Payload) :
    Op φ ω (RecoveryRow Payload) :=
  journalWrite h fun db ctx => recordRecoveryFailed db batchId (some recoveryAttemptId)
    ⟨some "recovery callback failed", some payload, none⟩ ctx

/-- `record_recovery_action_planned` -/
def planActionStep (h : LeaseHolder) (batchId recoveryAttemptId : String) (plan : ActionPlan) :
    Op φ ω (RecoveryActionRow Payload) :=
  journalWrite h fun db ctx => recordRecoveryActionPlanned db batchId recoveryAttemptId plan.actionType
    plan.resourceKey (some plan.payload) (some plan.actionId) none ctx

/-- The transitions of a recovery action. -/
def transitionActionStep (h : LeaseHolder) (batchId recoveryAttemptId actionId : String)
    (status : RecoveryActionStatus) (reason : Option String) (payload : Payload) :
    Op φ ω (RecoveryActionRow Payload) :=
  journalWrite h fun db ctx =>
    transitionRecoveryAction db batchId recoveryAttemptId actionId status reason (some payload) none ctx

/-- `list_recovery_actions` of an attempt. -/
def listActions (batchId recoveryAttemptId : String) : Op φ ω (List (RecoveryActionRow Payload)) :=
  databaseRead fun _ w => .ok (w.journal.listRecoveryActions batchId (some recoveryAttemptId))

/-- `read_recovery_context` -/
def readContext (batchId : String) : Op φ ω RecoveryContext :=
  databaseRead fun _ w => (readRecoveryContext w.journal batchId).mapError .journal

/-! ## Planning -/

/-- The errors of a recovery, by what became of an action. -/
def actionError (batchId actionId what : String) : OperationError :=
  .recovery ("batch " ++ pyRepr batchId ++ " recovery action " ++ pyRepr actionId ++ " " ++ what) batchId

/-- The action of a file that cannot be rolled back: planned and left to
intervention at once. -/
def recordFileManual (h : LeaseHolder) (batchId recoveryAttemptId : String) (actionId key : String)
    (payload : ManualPayload) : Op φ ω Unit := do
  let _ ← planActionStep h batchId recoveryAttemptId
    ⟨actionId, manualInterventionRequired, some key, .manual payload⟩
  let _ ← transitionActionStep h batchId recoveryAttemptId actionId .manualInterventionRequired
    (some "file rollback requires manual intervention") (.manual payload)
  return ()

/-- The plans of all kinds of mutation; all but one are empty. -/
def recoveryActionPlans (C : Coordinator φ ω) (ctx : RecoveryContext) : Op φ ω (List ActionPlan) := do
  let captured ← capturedDirectoryRecoveryActionPlans C ctx
  return fileRecoveryActionPlans ctx ++ treeBackupRecoveryActionPlans ctx ++ captured ++
    renameRecoveryActionPlans ctx ++ recursiveMkdirRecoveryActionPlans ctx

/-- `_plan_recovery_actions`: the actions of the attempt, with the new ones recorded. -/
def planRecoveryActions (C : Coordinator φ ω) (h : LeaseHolder) (ctx : RecoveryContext)
    (recoveryAttemptId : String) : Op φ ω RecoveryContext :=
  let batchId := ctx.batch.batchId
  let existing := (ctx.recoveryActions.filter fun a => a.recoveryAttemptId = recoveryAttemptId).map
    RecoveryActionRow.actionId
  match fileRollbackManualIntervention ctx with
  | some (actionId, key, payload) => do
    if actionId ∈ existing then .ret () else recordFileManual h batchId recoveryAttemptId actionId key payload
    .raise (actionError batchId actionId "requires manual intervention")
  | none => do
    let plans ← recoveryActionPlans C ctx
    let new := plans.filter fun p => p.actionId ∉ existing
    .forEach new fun p => planActionStep h batchId recoveryAttemptId p >>= fun _ => .ret ()
    if new = [] then return ctx
    else do
      let actions ← listActions batchId recoveryAttemptId
      return { ctx with recoveryActions := actions }

/-! ## Actions -/

/-- `_latest_current_attempt_recovery_actions`: each action by its last record, in
the order of their first records. -/
def latestActions (actions : List (RecoveryActionRow Payload)) (recoveryAttemptId : String) :
    List (RecoveryActionRow Payload) :=
  let own := actions.filter fun a => a.recoveryAttemptId = recoveryAttemptId
  let order := (own.map RecoveryActionRow.actionId).reverse.dedup.reverse
  order.filterMap fun id => own.reverse.find? fun a => a.actionId = id

/-- `_recovery_action_payload_source`: the record that planned the action. -/
def actionPayloadSource (ctx : RecoveryContext) (action : RecoveryActionRow Payload) : RecoveryActionRow Payload :=
  let records := ctx.recoveryActions.filter fun a =>
    a.recoveryAttemptId = action.recoveryAttemptId ∧ a.actionId = action.actionId
  ((records.find? fun a => a.status = .planned).or records.getLast?).getD action

/-- `_recovery_action_status_payload` -/
def actionStatusPayload (action : RecoveryActionRow Payload) (eventType : String) (reason : Option String)
    (error : Option OperationError) : Payload :=
  .actionStatus
    { eventType := eventType
      actionId := action.actionId
      actionType := action.actionType
      resourceKey := action.resourceKey
      recoveryAttemptId := action.recoveryAttemptId
      reason := reason
      errorType := error.map OperationError.className
      error := error.map OperationError.text }

/-- `_manual_intervention_action_reason` -/
def manualInterventionReason : Payload → String
  | .manual (.ambiguousMove a) => a.reason
  | .manual (.missingRenameProof ..) => "rename_no_replace has no durable inverse rename proof"
  | .manual (.missingCaptureProof ..) => "capture_directory has no durable captured-directory restore proof"
  | .manual (.incompleteMkdirCleanup ..) =>
    "recursive mkdir cleanup proof is incomplete; automatic rollback refused"
  | .manual (.missingTreeRestoreProof ..) => "restore_tree_backup has no durable per-entry rollback proof"
  | .manual (.treeBackupMismatch _ _ _ detail _) => detail
  | _ => "recovery action requires manual intervention"

/-- An action that is left to intervention ends the recovery. -/
def leaveToIntervention (h : LeaseHolder) (batchId recoveryAttemptId : String)
    (action : RecoveryActionRow Payload) (reason : String) (error : Option OperationError) :
    Op φ ω (RecoveryActionRow Payload) := do
  let _ ← transitionActionStep h batchId recoveryAttemptId action.actionId .manualInterventionRequired
    (some reason) (actionStatusPayload action "manual_intervention_required" (some reason) error)
  .raise (actionError batchId action.actionId "requires manual intervention")

/-- What becomes of an action whose handler raised. -/
def actionRaised (h : LeaseHolder) (batchId recoveryAttemptId : String) (action : RecoveryActionRow Payload)
    (e : OperationError) : Op φ ω (RecoveryActionRow Payload) :=
  match e with
  | .actionSkipped reason _ => transitionActionStep h batchId recoveryAttemptId action.actionId .skipped
      (some reason) (actionStatusPayload action "skipped" (some reason) (some e))
  | .actionManual reason _ => leaveToIntervention h batchId recoveryAttemptId action reason (some e)
  | .journal (.invalidBatchPhaseTransition _) | .journal (.journalLeaseMismatch _) | .journal (.leaseLost _)
  | .claim (.leaseLost _) | .journal (.recoveryAttemptMismatch _) =>
    .raise (actionError batchId action.actionId "is no longer active")
  | e => do
    let _ ← transitionActionStep h batchId recoveryAttemptId action.actionId .failed (some e.text)
      (actionStatusPayload action "failed" (some e.text) (some e))
    .raise (actionError batchId action.actionId "failed")

/-- `_run_authorized_recovery_handler` under `run_with_active_recovery_attempt` and
`_run_recovery_handler_with_lease_heartbeat`. -/
def runHandler (C : Coordinator φ ω) (h : LeaseHolder) (ctx : RecoveryContext) (attempt : RecoveryRow Payload)
    (action : RecoveryActionRow Payload) (handler : Op φ ω Unit) : Op φ ω Unit := do
  requireActiveAttempt h ctx.batch.batchId attempt.recoveryId
  maintainOperationLease C h do
    requireRecoveryActionAuthority h ctx attempt action
    handler
    requireRecoveryActionAuthority h ctx attempt action

/-- What follows a handler. -/
def finishAction (h : LeaseHolder) (batchId recoveryAttemptId : String) (action : RecoveryActionRow Payload)
    (result : Except OperationError Unit) : Op φ ω (RecoveryActionRow Payload) :=
  match result with
  | .error e => actionRaised h batchId recoveryAttemptId action e
  | .ok _ => do
    let h ← atOperationTime h
    requireCurrent h
    transitionActionStep h batchId recoveryAttemptId action.actionId .succeeded none
      (actionStatusPayload action "succeeded" none none)

/-- The action itself: `action` is its latest record, `source` the one that planned it. -/
def performAction (C : Coordinator φ ω) (h : LeaseHolder) (ctx : RecoveryContext) (attempt : RecoveryRow Payload)
    (action source : RecoveryActionRow Payload) : Op φ ω (RecoveryActionRow Payload) :=
  let batchId := ctx.batch.batchId
  let unhandled := "no built-in recovery handler for " ++ pyRepr action.actionType
  if action.actionType = manualInterventionRequired then
    leaveToIntervention h batchId attempt.recoveryId source (manualInterventionReason source.payload) none
  else
    match recoveryActionHandler C ctx (requireRecoveryActionAuthority h ctx attempt source) action.actionType with
    | none => leaveToIntervention h batchId attempt.recoveryId source unhandled none
    | some handler => do
      let result ← (runHandler C h ctx attempt action (handler source.payload)).outcome
      finishAction h batchId attempt.recoveryId source result

/-- `_run_recovery_action` -/
def runRecoveryAction (C : Coordinator φ ω) (h : LeaseHolder) (ctx : RecoveryContext)
    (attempt : RecoveryRow Payload) (action : RecoveryActionRow Payload) : Op φ ω (RecoveryActionRow Payload) :=
  if action.status ≠ .planned ∧ action.status ≠ .attempting then return action
  else do
    let entry ← atOperationTime h
    requireCurrent entry
    let current ←
      if action.status = .planned then
        transitionActionStep entry ctx.batch.batchId attempt.recoveryId action.actionId .attempting none
          (actionStatusPayload action "attempting" none none)
      else .ret action
    performAction C h ctx attempt current (actionPayloadSource ctx current)

/-- `run_recovery_actions` -/
def runRecoveryActions (C : Coordinator φ ω) (h : LeaseHolder) (ctx : RecoveryContext) : Op φ ω Unit :=
  match ctx.recoveryAttempt with
  | none => .raise (.recovery ("batch " ++ pyRepr ctx.batch.batchId ++ " has no active recovery attempt")
      ctx.batch.batchId)
  | some attempt => do
    requireCurrent h
    let actions ← listActions ctx.batch.batchId attempt.recoveryId
    let ctx ← planRecoveryActions C h { ctx with recoveryActions := actions } attempt.recoveryId
    .forEach (latestActions ctx.recoveryActions attempt.recoveryId) fun action => do
      requireRecoveryAuthority h ctx.batch.batchId attempt.recoveryId
      let _ ← runRecoveryAction C h ctx attempt action
      return ()

/-! ## Batches -/

/-- A batch in a phase in which it cannot be recovered. -/
def cannotBeRecovered (batchId : String) (phase : BatchPhase) : OperationError :=
  .batchState ("batch " ++ pyRepr batchId ++ " is in phase " ++ pyRepr phase.text ++ " and cannot be recovered")

/-- A batch that is not there. -/
def batchDoesNotExist (batchId : String) : OperationError :=
  .batchState ("batch " ++ pyRepr batchId ++ " does not exist")

/-- What `recover_batch` makes of an error of `start_recovery`. -/
def startRecoveryRaised {α : Type} (batch : BatchRow Payload) (e : OperationError) : Op φ ω α :=
  match e with
  | .journal (.batchNotFound _) => .raise (batchDoesNotExist batch.batchId)
  | .journal (.invalidBatchPhaseTransition _) => do
    let current ← getBatch batch.batchId
    .raise (cannotBeRecovered batch.batchId ((current.map BatchRow.phase).getD batch.phase))
  | e => .raise e

/-- The payload `record_recovery_failed` is given. -/
def recoveryFailedPayload (ctx : RecoveryContext) (e : OperationError) : Payload :=
  .recoveryFailed
    { batchId := ctx.batch.batchId
      batchPhase := ctx.batch.phase
      errorType := e.className
      error := e.text
      operationIds := ctx.operations.map OperationRow.operationId
      checkpointIds := ctx.checkpoints.map CheckpointRow.checkpointId
      recoveryIds := ctx.recoveryRecords.map RecoveryRow.recoveryId }

/-- The end of an attempt, with what its callback came to. -/
def finishRecovery (h : LeaseHolder) (ctx : RecoveryContext) (batchId recoveryAttemptId : String)
    (result : Except OperationError Unit) : Op φ ω (BatchRow Payload) :=
  match result with
  | .error e => do
    let _ ← (recordRecoveryFailedStep h batchId recoveryAttemptId (recoveryFailedPayload ctx e)).outcome
    .raise (.recovery ("batch " ++ pyRepr batchId ++ " recovery callback failed") batchId)
  | .ok _ => do
    let _ ← recordRecoverySucceededStep h batchId recoveryAttemptId
      (.recoverySucceeded ctx.batch.batchId ctx.batch.phase)
    let updated ← getBatch batchId
    match updated with
    | some batch => return batch
    | none => .raise (.safeWorkspace "batch disappeared during recovery completion")

/-- `recover_batch` once the attempt is started. -/
def runAttempt (h : LeaseHolder) (batchId recoveryAttemptId : String) (recover : RecoveryContext → Op φ ω Unit) :
    Op φ ω (BatchRow Payload) := do
  let ctx ← readContext batchId
  requireActiveAttempt h batchId recoveryAttemptId
  let callback : Op φ ω Unit := requireRecoveryAuthority h batchId recoveryAttemptId >>= fun _ => recover ctx
  let result ← callback.outcome
  finishRecovery h ctx batchId recoveryAttemptId result

/-- `recover_batch` -/
def recoverBatch (h : LeaseHolder) (batchId : String) (recover : RecoveryContext → Op φ ω Unit) :
    Op φ ω (BatchRow Payload) := do
  let entry ← atOperationTime h
  requireCurrent entry
  let found ← getBatch batchId
  match found with
  | none => .raise (batchDoesNotExist batchId)
  | some batch =>
    if batch.phase ≠ .recoveryDesired then .raise (cannotBeRecovered batchId batch.phase)
    else do
      let started ← (startRecoveryStep entry batchId).onRaise (startRecoveryRaised batch)
      runAttempt h batchId started.recoveryId recover

end SafeFsOps
