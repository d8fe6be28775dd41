import SafeFsOps.OperationJournal.Recovery

/-!
# Recovery actions and artifact cleanup

`operation_journal/journal_recovery_actions.py` and `journal_artifact_cleanup.py`:
two append-only logs of the steps of a recovery attempt and of the disposal of
backup files. A step is planned once and then moves by further records of the
same action or artifact; a failed or manual cleanup may be planned anew, under
another trigger.
-/

namespace SafeFsOps

variable {π : Type}

/-- `_record_recovery_action`. -/
def recordRecoveryAction [JournalPayload π] (db : JournalDb π) (batchId recoveryAttemptId : String)
    (status : RecoveryActionStatus) (actionType resourceKey reason : Option String) (payload : Option π)
    (actionId actionRecordId : Option String) (ctx : WriteContext) :
    Except JournalError (RecoveryActionRow π × JournalDb π) := do
  validateRequired "batch_id" batchId
  require (recoveryAttemptId ≠ "") (.recoveryAttemptMismatch ("batch " ++ pyRepr batchId ++
    " recovery action writes require the active recovery_attempt_id"))
  let (row, db) ← requireBatchForRecoveryActionWrite db batchId ctx
  let attempt ← requireActiveRecoveryAttempt db batchId (some recoveryAttemptId)
  let existing ← prepareRecoveryActionWrite db batchId recoveryAttemptId status actionId actionType resourceKey
  let newResourceKey := match existing with | some e => e.resourceKey | none => resourceKey
  requireBatchResourceKey row newResourceKey "recovery action append"
  let action : RecoveryActionRow π :=
    { actionRecordId := newId actionRecordId ctx.generated
      actionId := match existing with | some e => e.actionId | none => newId actionId ctx.handoffId
      recoveryAttemptId := attempt.recoveryId
      batchId := batchId
      sequence := db.nextSequence batchId
      actionType := match existing with | some e => e.actionType | none => actionType.getD ""
      status := status
      resourceKey := newResourceKey
      reason := reason
      payload := payloadToJson payload
      createdAt := ctx.now }
  let recoveryActions ← insertRow db.recoveryActions action JournalError.integrity
  return (action, { db with recoveryActions := recoveryActions })

/-- `record_recovery_action_planned`. -/
def recordRecoveryActionPlanned [JournalPayload π] (db : JournalDb π) (batchId recoveryAttemptId actionType : String)
    (resourceKey : Option String) (payload : Option π) (actionId actionRecordId : Option String)
    (ctx : WriteContext) : Except JournalError (RecoveryActionRow π × JournalDb π) := do
  validateRequired "action_type" actionType
  recordRecoveryAction db batchId recoveryAttemptId .planned (some actionType) resourceKey none payload
    actionId actionRecordId ctx

/-- `mark_recovery_action_attempting`, `record_recovery_action_failed`,
`record_recovery_action_skipped` and
`record_recovery_action_manual_intervention_required` at their status, and
`record_recovery_action_succeeded`, which gives no reason. -/
def transitionRecoveryAction [JournalPayload π] (db : JournalDb π) (batchId recoveryAttemptId actionId : String)
    (status : RecoveryActionStatus) (reason : Option String) (payload : Option π)
    (actionRecordId : Option String) (ctx : WriteContext) :
    Except JournalError (RecoveryActionRow π × JournalDb π) :=
  recordRecoveryAction db batchId recoveryAttemptId status none none reason payload (some actionId)
    actionRecordId ctx

/-- `_require_batch_for_artifact_cleanup_write`: a finished batch may be cleaned
up under a newer lease without being bound to it. -/
def requireBatchForArtifactCleanupWrite (db : JournalDb π) (batchId : String) (ctx : WriteContext) :
    Except JournalError (BatchRow π) := do
  requireCurrentLease db ctx
  let row ← requireBatchRow db batchId
  require (row.leaseName = ctx.lease.name)
    (.journalLeaseMismatch ("batch " ++ pyRepr batchId ++ " is bound to a different lease"))
  if row.leaseFencingToken = ctx.lease.fencingToken then return row
  else if row.leaseFencingToken < ctx.lease.fencingToken ∧
      row.phase ∈ [BatchPhase.succeeded, .recoverySucceeded] then return row
  else if row.leaseFencingToken > ctx.lease.fencingToken then
    .error (.journalLeaseMismatch ("batch " ++ pyRepr batchId ++ " is bound to a newer lease"))
  else .error (.journalLeaseMismatch ("batch " ++ pyRepr batchId ++ " is bound to a different lease"))

/-- `_prepare_artifact_cleanup_write`. A trigger is missing only from transitions
of a planned cleanup. -/
def prepareArtifactCleanupWrite (db : JournalDb π) (batchId artifactId : String)
    (status : ArtifactCleanupStatus) (trigger : Option ArtifactCleanupTrigger) (resourceKey : Option String) :
    Except JournalError (Option (ArtifactCleanupRow π)) :=
  let differentResource : JournalError := .batchIdempotencyMismatch
    "artifact cleanup transition requested for a different resource"
  let cannotTransition (existing : ArtifactCleanupRow π) : JournalError := .invalidBatchPhaseTransition
    ("cannot transition artifact cleanup " ++ pyRepr artifactId ++ " from " ++
      pyRepr existing.status.text ++ " to " ++ pyRepr status.text)
  match db.latestArtifactCleanupRow batchId artifactId with
  | none =>
    if status = .planned then .ok none
    else .error (.invalidBatchPhaseTransition
      ("artifact cleanup " ++ pyRepr artifactId ++ " does not exist for batch " ++ pyRepr batchId))
  | some existing =>
    if status = .planned then do
      require (resourceKey = none ∨ resourceKey = existing.resourceKey) differentResource
      require (existing.status ∉ [ArtifactCleanupStatus.planned, .attempting]) (.invalidBatchPhaseTransition
        ("artifact cleanup " ++ pyRepr artifactId ++ " already has active work for batch " ++
          pyRepr batchId))
      require (existing.status ∉ [ArtifactCleanupStatus.succeeded, .skipped]) (cannotTransition existing)
      return some existing
    else do
      require (trigger = none ∨ trigger = some existing.trigger) (.batchIdempotencyMismatch
        "artifact cleanup transition requested for a different trigger")
      require (resourceKey = none ∨ resourceKey = existing.resourceKey) differentResource
      require (status ∈ artifactCleanupTransitions existing.status) (cannotTransition existing)
      return some existing

/-- `_require_batch_phase_for_trigger`. -/
def requireBatchPhaseForTrigger (row : BatchRow π) (batchId : String) (trigger : ArtifactCleanupTrigger)
    (status : ArtifactCleanupStatus) : Except JournalError Unit :=
  require (status = .planned → row.phase = batchPhaseByTrigger trigger) (.invalidBatchPhaseTransition
    ("cannot append artifact cleanup records for trigger " ++ pyRepr trigger.text ++ " while batch " ++
      pyRepr batchId ++ " is in phase " ++ pyRepr row.phase.text))

/-- The trigger a cleanup record carries: that of the existing cleanup, unless a
failed or manual one is planned anew. -/
def cleanupTrigger (existing : Option (ArtifactCleanupRow π)) (status : ArtifactCleanupStatus)
    (trigger : Option ArtifactCleanupTrigger) : ArtifactCleanupTrigger :=
  let requested := trigger.getD .deferredCleanup
  match existing with
  | none => requested
  | some e =>
    if status = .planned ∧ e.status ∈ [ArtifactCleanupStatus.failed, .manualInterventionRequired]
    then requested else e.trigger

/-- `_record_artifact_cleanup`. -/
def recordArtifactCleanup [JournalPayload π] (db : JournalDb π) (batchId artifactId : String)
    (status : ArtifactCleanupStatus) (trigger : Option ArtifactCleanupTrigger)
    (resourceKey reason : Option String) (payload : Option π) (cleanupRecordId : Option String)
    (ctx : WriteContext) : Except JournalError (ArtifactCleanupRow π × JournalDb π) := do
  validateRequired "batch_id" batchId
  validateRequired "artifact_id" artifactId
  let row ← requireBatchForArtifactCleanupWrite db batchId ctx
  let existing ← prepareArtifactCleanupWrite db batchId artifactId status trigger resourceKey
  let newTrigger := cleanupTrigger existing status trigger
  let newResourceKey := match existing with | some e => e.resourceKey | none => resourceKey
  requireBatchPhaseForTrigger row batchId newTrigger status
  requireBatchResourceKey row newResourceKey "artifact cleanup append"
  let cleanup : ArtifactCleanupRow π :=
    { cleanupRecordId := newId cleanupRecordId ctx.generated
      artifactId := artifactId
      batchId := batchId
      sequence := db.nextSequence batchId
      trigger := newTrigger
      status := status
      resourceKey := newResourceKey
      reason := reason
      payload := payloadToJson payload
      createdAt := ctx.now }
  let artifactCleanups ← insertRow db.artifactCleanups cleanup JournalError.integrity
  return (cleanup, { db with artifactCleanups := artifactCleanups })

/-- `record_artifact_cleanup_planned`. -/
def recordArtifactCleanupPlanned [JournalPayload π] (db : JournalDb π) (batchId artifactId : String)
    (trigger : ArtifactCleanupTrigger) (resourceKey : Option String) (payload : Option π)
    (cleanupRecordId : Option String) (ctx : WriteContext) :
    Except JournalError (ArtifactCleanupRow π × JournalDb π) :=
  recordArtifactCleanup db batchId artifactId .planned (some trigger) resourceKey none payload
    cleanupRecordId ctx

/-- The transitions of a planned cleanup, one method for each status. -/
def transitionArtifactCleanup [JournalPayload π] (db : JournalDb π) (batchId artifactId : String)
    (status : ArtifactCleanupStatus) (reason : Option String) (payload : Option π)
    (cleanupRecordId : Option String) (ctx : WriteContext) :
    Except JournalError (ArtifactCleanupRow π × JournalDb π) :=
  recordArtifactCleanup db batchId artifactId status none none reason payload cleanupRecordId ctx

end SafeFsOps
