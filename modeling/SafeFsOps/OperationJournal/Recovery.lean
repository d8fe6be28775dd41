import SafeFsOps.OperationJournal.Batch

/-!
# Recovery records

`operation_journal/journal_recovery.py`, and the one recovery record that
`workspace_rollback.py` writes by itself: every phase of a recovery appends a
record and sets the batch's phase and status to it.

- `record_recovery_desired`, `start_recovery`, `record_recovery_succeeded` and
  `record_recovery_failed` go through the recovery guard, which hands a batch
  over to a newer lease. The last two also want the active attempt.
- `record_interrupted_recovery_desired` binds an unfinished batch to a strictly
  newer lease.
- `record_lease_lost_recovery_desired` is the only write of a holder whose lease
  is *not* current: it marks its own batch and binds nothing.
-/

namespace SafeFsOps

variable {π : Type}

/-- The arguments all recovery records have in common. -/
structure RecoveryNote (π : Type) where
  reason : Option String
  payload : Option π
  recoveryId : Option String

/-- Set the batch's phase and status and append the recovery record of it. -/
def writeRecovery [JournalPayload π] (db : JournalDb π) (batchId : String) (phase : BatchPhase)
    (note : RecoveryNote π) (bind : BatchRow π → BatchRow π) (ctx : WriteContext) :
    Except JournalError (RecoveryRow π × JournalDb π) := do
  let record : RecoveryRow π :=
    { recoveryId := newId note.recoveryId ctx.generated
      batchId := batchId
      sequence := db.nextSequence batchId
      phase := phase
      reason := note.reason
      payload := payloadToJson note.payload
      createdAt := ctx.now }
  let db := db.updateBatch batchId fun r =>
    (bind r).setPhase phase note.reason (payloadToJson note.payload) ctx.now
  let db ← insertRecovery db record
  return (record, db)

/-- `OperationJournalStore.start_recovery`. -/
def startRecovery [JournalPayload π] (db : JournalDb π) (batchId : String) (note : RecoveryNote π)
    (ctx : WriteContext) : Except JournalError (BatchRow π × RecoveryRow π × JournalDb π) := do
  validateRequired "batch_id" batchId
  let (row, _, db) ← requireBatchForRecoveryWrite db batchId .recovering ctx
  requireValidTransition row.phase .recovering
  let (record, db) ← writeRecovery db batchId .recovering note id ctx
  let updated ← requireBatchRow db batchId
  return (updated, record, db)

/-- `require_active_recovery_attempt` and the check of
`run_with_active_recovery_attempt`: they read, and change nothing. -/
def checkActiveRecoveryAttempt (db : JournalDb π) (batchId recoveryAttemptId : String) (ctx : WriteContext) :
    Except JournalError (RecoveryRow π) := do
  validateRequired "batch_id" batchId
  let _ ← requireBatchForRecoveryAttemptCheck db batchId ctx
  requireActiveRecoveryAttempt db batchId (some recoveryAttemptId)

/-- The transitions `_record_recovery_phase` lets through besides the valid ones:
a taken over attempt is put up again, and so is a succeeded batch. -/
def recoveryPhaseExcepted (takeoverRecorded : Bool) (current next : BatchPhase) : Bool :=
  (takeoverRecorded ∧ current = .recovering ∧ next = .recoveryDesired) ∨
    (current = .succeeded ∧ next = .recoveryDesired)

/-- The transition check of `_record_recovery_phase`. -/
def requireRecoveryTransition (takeoverRecorded : Bool) (current next : BatchPhase) :
    Except JournalError Unit :=
  if recoveryPhaseExcepted takeoverRecorded current next then .ok ()
  else requireValidTransition current next

/-- Finishing a recovery wants the active attempt; asking for one does not. -/
def requireAttemptToFinish (db : JournalDb π) (batchId : String) (phase : BatchPhase)
    (recoveryAttemptId : Option String) : Except JournalError Unit :=
  if phase ∈ [BatchPhase.recoverySucceeded, .recoveryFailed] then
    (requireActiveRecoveryAttempt db batchId recoveryAttemptId).map fun _ => ()
  else .ok ()

/-- `_record_recovery_phase`. -/
def recordRecoveryPhase [JournalPayload π] (db : JournalDb π) (batchId : String) (phase : BatchPhase)
    (recoveryAttemptId : Option String) (note : RecoveryNote π) (ctx : WriteContext) :
    Except JournalError (RecoveryRow π × JournalDb π) := do
  validateRequired "batch_id" batchId
  let (row, takeoverRecorded, db) ← requireBatchForRecoveryWrite db batchId phase ctx
  requireRecoveryTransition takeoverRecorded row.phase phase
  requireAttemptToFinish db batchId phase recoveryAttemptId
  writeRecovery db batchId phase note id ctx

/-- `OperationJournalStore.record_recovery_desired`. -/
def recordRecoveryDesired [JournalPayload π] (db : JournalDb π) (batchId : String) (note : RecoveryNote π)
    (ctx : WriteContext) : Except JournalError (RecoveryRow π × JournalDb π) :=
  recordRecoveryPhase db batchId .recoveryDesired none note ctx

/-- `OperationJournalStore.record_recovery_succeeded`. -/
def recordRecoverySucceeded [JournalPayload π] (db : JournalDb π) (batchId : String)
    (recoveryAttemptId : Option String) (note : RecoveryNote π) (ctx : WriteContext) :
    Except JournalError (RecoveryRow π × JournalDb π) :=
  recordRecoveryPhase db batchId .recoverySucceeded recoveryAttemptId note ctx

/-- `OperationJournalStore.record_recovery_failed`. -/
def recordRecoveryFailed [JournalPayload π] (db : JournalDb π) (batchId : String)
    (recoveryAttemptId : Option String) (note : RecoveryNote π) (ctx : WriteContext) :
    Except JournalError (RecoveryRow π × JournalDb π) :=
  recordRecoveryPhase db batchId .recoveryFailed recoveryAttemptId note ctx

/-- `OperationJournalStore.record_interrupted_recovery_desired`. -/
def recordInterruptedRecoveryDesired [JournalPayload π] (db : JournalDb π) (batchId : String)
    (resourceKey : Option String) (note : RecoveryNote π) (ctx : WriteContext) :
    Except JournalError (RecoveryRow π × JournalDb π) := do
  validateRequired "batch_id" batchId
  requireCurrentLease db ctx
  let row ← requireBatchRow db batchId
  requireRecoveryTakeover db row resourceKey ctx
  writeRecovery db batchId .recoveryDesired note (fun r => r.bindLease ctx) ctx

/-- `OperationJournalStore.record_lease_lost_recovery_desired`. -/
def recordLeaseLostRecoveryDesired [JournalPayload π] (db : JournalDb π) (batchId : String)
    (resourceKey : Option String) (note : RecoveryNote π) (ctx : WriteContext) :
    Except JournalError (RecoveryRow π × JournalDb π) := do
  validateRequired "batch_id" batchId
  require (leaseIsCurrent db.leases ctx.lease ctx.now = false) (.journalLeaseMismatch
    "lease-lost recovery marker requires an expired or superseded lease")
  let row ← requireBatchRow db batchId
  requireLeaseLostRecoveryMarker row resourceKey ctx
  writeRecovery db batchId .recoveryDesired note id ctx

/-- `_record_abandoned_succeeded_batch_recovery_desired` of the workspace replay.
Of the lease it stores only the fencing token. -/
def recordAbandonedSucceededBatchRecoveryDesired [JournalPayload π] (db : JournalDb π)
    (batch : BatchRow π) (ctx : WriteContext) : Except JournalError (JournalDb π) := do
  requireCurrentLease db ctx
  match db.batchRow batch.batchId with
  | none => .error (.safeWorkspace ("recovery batch " ++ pyRepr batch.batchId ++ " disappeared"))
  | some row =>
    if row.phase ≠ .succeeded then return db
    else
      require (row.leaseName = ctx.lease.name)
        (.safeWorkspace ("batch " ++ pyRepr batch.batchId ++ " is bound to a different lease"))
      require (row.leaseFencingToken ≤ ctx.lease.fencingToken)
        (.safeWorkspace ("batch " ++ pyRepr batch.batchId ++ " is bound to a newer lease"))
      let (_, db) ← writeRecovery db batch.batchId .recoveryDesired
        { reason := some "workspace recovery replay found abandoned succeeded batch"
          payload := some (JournalPayload.abandonedBatch batch.batchId batch.runId batch.phase)
          recoveryId := none }
        (fun r => { r with leaseFencingToken := ctx.lease.fencingToken }) ctx
      return db

end SafeFsOps
