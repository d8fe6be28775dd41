import SafeFsOps.OperationJournal.Schema

/-!
# The guards of the journal

`operation_journal/journal_guards.py`: what a write checks, and in the case of a
recovery takeover changes, before it appends its own record. A guard runs inside
the transaction of its write, so it hands the database it leaves on to the write;
when anything later in the transaction raises, that database is dropped and with
it a handoff the guard has already recorded.

All guards but one begin with `require_current_lease`. The exception is
`_require_lease_lost_recovery_marker`, whose caller insists on the contrary: it
recognises the holder a batch was bound to by owner and token digest.
-/

namespace SafeFsOps

variable {π : Type}

/-- What every write brings along: its lease, its clock sample, and the two ids
`uuid.uuid4()` returns in it, the first for a handoff record or a new action, the
second for the write's own record. -/
structure WriteContext where
  lease : LeaseRecord
  now : DateTime
  handoffId : String
  generated : String

/-- `given or uuid.uuid4().hex`. -/
def newId (given : Option String) (generated : String) : String := tokenOr given generated

/-- `_validate_required`. -/
def validateRequired (name value : String) : Except JournalError Unit :=
  require (value ≠ "") (.valueError (name ++ " must be non-empty"))

/-- `require_current_lease`. -/
def requireCurrentLease (db : JournalDb π) (ctx : WriteContext) : Except JournalError Unit :=
  require (leaseIsCurrent db.leases ctx.lease ctx.now = true)
    (.leaseLost ("lease " ++ pyRepr ctx.lease.name ++ " is no longer current"))

/-- The row of a batch, or `BatchNotFoundError`. -/
def requireBatchRow (db : JournalDb π) (batchId : String) : Except JournalError (BatchRow π) :=
  match db.batchRow batchId with
  | some row => .ok row
  | none => .error (.batchNotFound ("batch " ++ pyRepr batchId ++ " does not exist"))

/-- Bind a batch to a lease: its fencing token, owner and token digest. -/
def BatchRow.bindLease (row : BatchRow π) (ctx : WriteContext) : BatchRow π :=
  { row with
    leaseFencingToken := ctx.lease.fencingToken
    leaseOwner := some ctx.lease.owner
    leaseTokenDigest := some (SafeFsOps.leaseTokenDigest ctx.lease)
    updatedAt := ctx.now }

/-- Move a batch to a phase with its status columns. -/
def BatchRow.setPhase (row : BatchRow π) (phase : BatchPhase) (statusMessage : Option String)
    (statusPayload : π) (now : DateTime) : BatchRow π :=
  { row with
    phase := phase
    statusMessage := statusMessage
    statusPayload := statusPayload
    updatedAt := now }

private def boundToDifferentLease (batchId : String) : JournalError :=
  .journalLeaseMismatch ("batch " ++ pyRepr batchId ++ " is bound to a different lease")

private def boundToNewerLease (batchId : String) : JournalError :=
  .journalLeaseMismatch ("batch " ++ pyRepr batchId ++ " is bound to a newer lease")

/-- `_require_batch_for_write`. -/
def requireBatchForWrite (db : JournalDb π) (batchId : String) (ctx : WriteContext) :
    Except JournalError (BatchRow π) := do
  requireCurrentLease db ctx
  let row ← requireBatchRow db batchId
  require (row.leaseName = ctx.lease.name ∧ row.leaseFencingToken = ctx.lease.fencingToken)
    (boundToDifferentLease batchId)
  return row

/-- Insert a recovery record. -/
def insertRecovery (db : JournalDb π) (r : RecoveryRow π) : Except JournalError (JournalDb π) := do
  let recoveries ← insertRow db.recoveries r JournalError.integrity
  return { db with recoveries := recoveries }

/-- `_record_recovery_takeover_handoff`: bind the batch to the new lease and
append a `recovery_desired` record that outdates every earlier attempt. -/
def recordRecoveryTakeoverHandoff [JournalPayload π] (db : JournalDb π) (row : BatchRow π)
    (ctx : WriteContext) : Except JournalError (JournalDb π) :=
  insertRecovery (db.updateBatch row.batchId fun r => r.bindLease ctx)
    { recoveryId := ctx.handoffId
      batchId := row.batchId
      sequence := db.nextSequence row.batchId
      phase := .recoveryDesired
      reason := some "recovery takeover"
      payload := JournalPayload.recoveryTakeover row.leaseName row.leaseFencingToken ctx.lease.name
        ctx.lease.fencingToken row.phase
      createdAt := ctx.now }

/-- The phases in which a newer lease may take a recovery write over. -/
def takeoverAllowed (recoveryPhase phase : BatchPhase) : Bool :=
  (recoveryPhase ∈ [BatchPhase.recovering, .recoverySucceeded, .recoveryFailed] ∧
    phase = .recoveryDesired) ∨
  (recoveryPhase = .recoveryDesired ∧ phase ∈ [BatchPhase.failed, .recovering, .recoveryFailed])

/-- `_require_batch_for_recovery_write`: the row as the guard leaves it, and
whether it recorded a takeover. -/
def requireBatchForRecoveryWrite [JournalPayload π] (db : JournalDb π) (batchId : String)
    (recoveryPhase : BatchPhase) (ctx : WriteContext) :
    Except JournalError (BatchRow π × Bool × JournalDb π) := do
  requireCurrentLease db ctx
  let row ← requireBatchRow db batchId
  require (row.leaseName = ctx.lease.name) (boundToDifferentLease batchId)
  if row.leaseFencingToken = ctx.lease.fencingToken then return (row, false, db)
  else if row.leaseFencingToken < ctx.lease.fencingToken ∧ takeoverAllowed recoveryPhase row.phase then
    let db ← recordRecoveryTakeoverHandoff db row ctx
    let updated ← requireBatchRow db batchId
    return (updated, true, db)
  else if row.leaseFencingToken > ctx.lease.fencingToken then .error (boundToNewerLease batchId)
  else .error (boundToDifferentLease batchId)

/-- `_require_recovering_batch`. -/
def requireRecoveringBatch (row : BatchRow π) (batchId : String) : Except JournalError Unit :=
  require (row.phase = .recovering) (.invalidBatchPhaseTransition
    ("cannot append recovery actions while batch " ++ pyRepr batchId ++ " is in phase " ++
      pyRepr row.phase.text))

/-- `_require_batch_for_recovery_action_write`. -/
def requireBatchForRecoveryActionWrite [JournalPayload π] (db : JournalDb π) (batchId : String)
    (ctx : WriteContext) : Except JournalError (BatchRow π × JournalDb π) := do
  requireCurrentLease db ctx
  let row ← requireBatchRow db batchId
  require (row.leaseName = ctx.lease.name) (boundToDifferentLease batchId)
  requireRecoveringBatch row batchId
  if row.leaseFencingToken = ctx.lease.fencingToken then return (row, db)
  else if row.leaseFencingToken < ctx.lease.fencingToken then
    let db ← recordRecoveryTakeoverHandoff db row ctx
    let updated ← requireBatchRow db batchId
    return (updated, db)
  else .error (boundToNewerLease batchId)

/-- `_require_batch_for_recovery_attempt_check`. -/
def requireBatchForRecoveryAttemptCheck (db : JournalDb π) (batchId : String) (ctx : WriteContext) :
    Except JournalError (BatchRow π) := do
  let row ← requireBatchForWrite db batchId ctx
  require (row.phase = .recovering) (.recoveryAttemptMismatch
    ("batch " ++ pyRepr batchId ++ " has no active recovery attempt; current phase is " ++
      pyRepr row.phase.text))
  return row

/-- `_require_active_recovery_attempt`: the attempt is a `recovering` record of
the batch and still its latest recovery record. -/
def requireActiveRecoveryAttempt (db : JournalDb π) (batchId : String) (recoveryAttemptId : Option String) :
    Except JournalError (RecoveryRow π) :=
  let attemptId := recoveryAttemptId.getD ""
  let mismatch (what : String) : JournalError := .recoveryAttemptMismatch
    ("batch " ++ pyRepr batchId ++ " recovery attempt " ++ pyRepr attemptId ++ what)
  if attemptId = "" then .error (.recoveryAttemptMismatch
    ("batch " ++ pyRepr batchId ++ " recovery completion requires the active recovery_attempt_id"))
  else match db.recoveryRow attemptId with
    | none => .error (mismatch " does not belong to the batch")
    | some attempt =>
      if attempt.batchId ≠ batchId then .error (mismatch " does not belong to the batch")
      else if attempt.phase ≠ .recovering then .error (mismatch " is not recoverable")
      else match db.latestRecoveryRow batchId with
        | some latest =>
          if latest.recoveryId = attemptId ∧ latest.phase = .recovering then .ok attempt
          else .error (mismatch " is not the active recovery attempt")
        | none => .error (mismatch " is not the active recovery attempt")

/-- `_prepare_recovery_action_write`: `none` for a new action, the latest record
of the action for a transition of it. -/
def prepareRecoveryActionWrite (db : JournalDb π) (batchId recoveryAttemptId : String)
    (status : RecoveryActionStatus) (actionId actionType resourceKey : Option String) :
    Except JournalError (Option (RecoveryActionRow π)) :=
  if status = .planned then do
    match actionId with
    | none => pure ()
    | some id =>
      require ((db.latestRecoveryActionForAttempt recoveryAttemptId id).isNone = true)
        (.invalidBatchPhaseTransition ("recovery action " ++ pyRepr id ++ " already exists for batch " ++
          pyRepr batchId ++ " attempt " ++ pyRepr recoveryAttemptId))
    require (actionType ≠ none)
      (.valueError "action_type must be provided for planned recovery actions")
    return none
  else do
    let id := actionId.getD ""
    require (id ≠ "") (.recoveryAttemptMismatch ("batch " ++ pyRepr batchId ++
      " recovery action transition to " ++ pyRepr status.text ++ " requires a planned action_id"))
    let foreign : JournalError := .recoveryAttemptMismatch ("batch " ++ pyRepr batchId ++
      " recovery action " ++ pyRepr id ++ " does not belong to the active recovery attempt")
    match db.latestRecoveryActionForAttempt recoveryAttemptId id with
    | none => .error foreign
    | some existing =>
      require (existing.batchId = batchId) foreign
      require (actionType = none ∨ actionType = some existing.actionType) (.batchIdempotencyMismatch
        "recovery action transition requested for a different action type")
      require (resourceKey = none ∨ resourceKey = existing.resourceKey) (.batchIdempotencyMismatch
        "recovery action transition requested for a different resource")
      require (status ∈ recoveryActionTransitions existing.status) (.invalidBatchPhaseTransition
        ("cannot transition recovery action " ++ pyRepr id ++ " from " ++ pyRepr existing.status.text ++
          " to " ++ pyRepr status.text))
      return some existing

/-- `_require_batch_resource_key`. -/
def requireBatchResourceKey (row : BatchRow π) (resourceKey : Option String) (action : String) :
    Except JournalError Unit :=
  require (row.resourceKey = none ∨ resourceKey = row.resourceKey)
    (.batchIdempotencyMismatch (action ++ " requested for a different resource"))

/-- `_require_appendable_phase`. -/
def requireAppendablePhase (phase : BatchPhase) : Except JournalError Unit :=
  require (phase = .planned ∨ phase = .attempting) (.invalidBatchPhaseTransition
    ("cannot append journal records while batch is in phase " ++ pyRepr phase.text))

/-- `_require_valid_transition`. -/
def requireValidTransition (current next : BatchPhase) : Except JournalError Unit :=
  require (next ∈ validTransitions current) (.invalidBatchPhaseTransition
    ("cannot transition batch from " ++ pyRepr current.text ++ " to " ++ pyRepr next.text))

/-- `_require_startable_batch`: planned, of this lease or an older one, and
without any journal record. -/
def requireStartableBatch (db : JournalDb π) (row : BatchRow π) (resourceKey : Option String)
    (ctx : WriteContext) : Except JournalError Unit := do
  require (row.phase = .planned) (.batchStartConflict
    ("batch " ++ pyRepr row.batchId ++ " is already in phase " ++ pyRepr row.phase.text))
  require (row.leaseName = ctx.lease.name) (boundToDifferentLease row.batchId)
  require (row.leaseFencingToken ≤ ctx.lease.fencingToken) (boundToNewerLease row.batchId)
  requireBatchResourceKey row resourceKey "batch start"
  require (db.batchHasJournalRecords row.batchId = false) (.batchStartConflict
    ("batch " ++ pyRepr row.batchId ++ " already has journal records"))

/-- `_require_recovery_takeover`: only a strictly newer lease may interrupt. -/
def requireRecoveryTakeover (db : JournalDb π) (row : BatchRow π) (resourceKey : Option String)
    (ctx : WriteContext) : Except JournalError Unit := do
  require (row.phase ∈ [BatchPhase.planned, .attempting, .failed, .recoveryFailed])
    (.invalidBatchPhaseTransition ("cannot interrupt batch from phase " ++ pyRepr row.phase.text))
  require (row.leaseName = ctx.lease.name) (boundToDifferentLease row.batchId)
  require (row.leaseFencingToken < ctx.lease.fencingToken) (.journalLeaseMismatch
    ("batch " ++ pyRepr row.batchId ++ " requires a newer lease to interrupt"))
  requireBatchResourceKey row resourceKey "interrupted recovery"
  require (row.phase = .planned → db.batchHasJournalRecords row.batchId = true)
    (.invalidBatchPhaseTransition "empty planned batch can be restarted without recovery")

/-- `_require_lease_lost_recovery_marker`: the holder the batch is still bound to,
known by owner and token digest, though its lease is gone. -/
def requireLeaseLostRecoveryMarker (row : BatchRow π) (resourceKey : Option String) (ctx : WriteContext) :
    Except JournalError Unit := do
  require (row.leaseName = ctx.lease.name ∧ row.leaseFencingToken = ctx.lease.fencingToken)
    (boundToDifferentLease row.batchId)
  require (ctx.lease.token ≠ "" ∧ row.leaseOwner ≠ none ∧ row.leaseTokenDigest ≠ none)
    (.journalLeaseMismatch ("batch " ++ pyRepr row.batchId ++ " has no lease-lost marker authority"))
  require (row.leaseOwner = some ctx.lease.owner ∧
      row.leaseTokenDigest = some (leaseTokenDigest ctx.lease))
    (.journalLeaseMismatch
      ("batch " ++ pyRepr row.batchId ++ " lease-lost marker authority does not match"))
  requireBatchResourceKey row resourceKey "lease-lost recovery marker"
  require (row.phase ∈ [BatchPhase.attempting, .failed, .recoveryFailed]) (.invalidBatchPhaseTransition
    ("cannot record lease-lost recovery marker from phase " ++ pyRepr row.phase.text))

end SafeFsOps
