import SafeFsOps.FilesystemOps.TreeBackups
import SafeFsOps.OperationJournal.Actions
import SafeFsOps.OperationJournal.Coordinator

/-!
# Recovery actions on stored payloads

A recovery action is planned in one process and run in another, so its handler is given
what the journal holds: the members of a JSON object, with any key missing and any value
of any kind. Here the journal has such payloads, and `_run_recovery_action` of
`filesystem_recovery.py` runs a handler on them.

- `StoredContext`: `JournaledFilesystemRecoveryContext`, as `read_recovery_context` reads it.
- `requireRecoveryActionAuthority`: `require_recovery_action_authority`.
- `runRecoveryAction`: one action, from its authority to the record of its end.
-/

namespace SafeFsOps.StoredRecovery

open TreeBackups (Mapping PythonValues)

/-! ## Values -/

/-- The payloads of the journal itself, their members sorted as they are stored. -/
instance : JournalPayload Mapping where
  empty := []
  startedOperation operationId := [("operation_id", .str operationId)]
  recoveryTakeover previousName previousFencingToken currentName currentFencingToken previousPhase :=
    let lease (name : String) (fencingToken : Nat) : Json :=
      .obj [("fencing_token", .int fencingToken), ("name", .str name)]
    [("current_lease", lease currentName currentFencingToken), ("event_type", .str "recovery_takeover"),
      ("previous_lease", lease previousName previousFencingToken), ("previous_phase", .str previousPhase.text)]
  abandonedBatch batchId runId previousPhase :=
    [("batch_id", .str batchId), ("previous_phase", .str previousPhase.text), ("run_id", .str runId)]

/-- What Python makes of stored values: their texts, and which of them are one. -/
structure StoredValues extends PythonValues where
  /-- `left is right` of two values read one after the other; `None`, `True` and `False` are one each -/
  identical : Json → Json → Bool
  /-- `n == x` of an integer and a float -/
  equalsFloat : Int → FloatText → Bool

/-- The integer of a value for which `isinstance(value, int)`, as it is for a `bool`. -/
def asInt : Json → Option Int
  | .int n => some n
  | .bool true => some 1
  | .bool false => some 0
  | _ => none

namespace StoredValues

variable (V : StoredValues)

/-- `n == value`, of an integer. -/
def equalsInt (n : Int) : Json → Bool
  | .float x => V.equalsFloat n x
  | v => asInt v = some n

/-- `left is right`, of values of two payloads. -/
def isSame : Json → Json → Bool
  | .null, .null => true
  | .bool a, .bool b => a = b
  | .null, _ | _, .null | .bool _, _ | _, .bool _ => false
  | v, w => V.identical v w

/-- `Path(str(value))`. -/
def pathOf (v : Json) : PosixPath := .ofText (V.textOf v)

/-- `optional_str`. -/
def optionalStr (v : Json) : Option String := TreeBackups.optionalStr V.toPythonValues v

end StoredValues

/-- A text or `None`. -/
def textOrNull : Option String → Json
  | none => .null
  | some s => .str s

/-! ## The context of a recovery -/

/-- A batch with its operations and checkpoints. -/
structure StoredBatch where
  batch : BatchRow Mapping
  operations : List (OperationRow Mapping)
  checkpoints : List (CheckpointRow Mapping)

/-- `RecoveryAuthority`, as `_recovery_authority` makes it. -/
structure RecoveryAuthority where
  holder : LeaseHolder
  batchId : String
  recoveryAttemptId : String

/-- `JournaledFilesystemRecoveryContext`. -/
structure StoredContext extends StoredBatch where
  recoveryRecords : List (RecoveryRow Mapping)
  recoveryAttempt : Option (RecoveryRow Mapping)
  recoveryActions : List (RecoveryActionRow Mapping)
  proofContexts : List StoredBatch
  recoveryAuthority : Option RecoveryAuthority

/-- `recovery_attempt_id`. -/
def StoredContext.recoveryAttemptId (ctx : StoredContext) : Option String :=
  ctx.recoveryAttempt.map RecoveryRow.recoveryId

/-- The items of a sequence that are mappings. -/
def mappings : List Json → List Mapping
  | [] => []
  | .obj ms :: vs => ms :: mappings vs
  | _ :: vs => mappings vs

/-- `recursive_group.prior_created_steps` of a payload, where it is a sequence. -/
def priorCreatedSteps (payload : Mapping) : Option (List Json) :=
  match Json.get payload "recursive_group" with
  | .obj group =>
    match Json.get group "prior_created_steps" with
    | .arr steps => some steps
    | _ => none
  | _ => none

/-- The batch a step of a recursive group has its proof in. -/
def proofBatchId (V : StoredValues) (step : Mapping) : Option String :=
  match Json.get step "journaled_creation_proof" with
  | .obj proof => V.optionalStr (Json.get proof "batch_id")
  | _ => none

/-- `_proof_batch_ids_from_recovery_records`. -/
def proofBatchIds (V : StoredValues) (records : List (RecoveryRow Mapping)) (batchId : String) : List String :=
  let named := records.flatMap fun r => (mappings ((priorCreatedSteps r.payload).getD [])).filterMap (proofBatchId V)
  (named.filter (· ≠ batchId)).reverse.dedup.reverse

/-- A batch with its operations and checkpoints, if it is there. -/
def readStoredBatch (db : JournalDb Mapping) (batchId : String) : Option StoredBatch :=
  (db.batchRow batchId).map fun row => ⟨row, db.listOperations batchId, db.listCheckpoints batchId⟩

/-- `read_recovery_context`: one transaction. -/
def readRecoveryContext (V : StoredValues) (db : JournalDb Mapping) (batchId : String) :
    Except JournalError StoredContext := do
  validateRequired "batch_id" batchId
  match readStoredBatch db batchId with
  | none => .error (.batchNotFound ("batch " ++ pyRepr batchId ++ " does not exist"))
  | some records =>
    let attempt := if records.batch.phase = .recovering then db.latestRecoveringRecoveryRow batchId else none
    require (records.batch.phase = .recovering → attempt.isSome = true) (.recoveryContext
      ("batch " ++ pyRepr batchId ++ " is recovering but has no active recovery attempt record"))
    return { records with
      recoveryRecords := db.listRecoveryRecords batchId
      recoveryAttempt := attempt
      recoveryActions := db.listRecoveryActions batchId none
      proofContexts := (proofBatchIds V (db.listRecoveryRecords batchId) batchId).filterMap (readStoredBatch db)
      recoveryAuthority := none }

/-! ## Steps -/

/-- What a handler raises, with the class and the text of the exception. -/
inductive RecoveryError where
  /-- `RecoveryActionSkipped` -/
  | skipped (message : String) (payload : Mapping)
  /-- `RecoveryActionManualInterventionRequired` -/
  | manual (message : String) (payload : Mapping)
  | journal (e : JournalError)
  | fileNotFound (path : PosixPath)
  | fileExists (path : PosixPath)
  /-- `UnsafePathError` -/
  | unsafePath (message : String)
  /-- `UnsupportedFilesystemMutationError`, which is an `UnsafePathError` -/
  | unsupportedMutation (message : String)
  /-- `JournaledFilesystemRecoveryError` -/
  | recovery (message batchId : String)
  /-- any other class -/
  | other (className message : String)

namespace RecoveryError

/-- `type(exc).__name__`. -/
def className : RecoveryError → String
  | skipped .. => "RecoveryActionSkipped"
  | manual .. => "RecoveryActionManualInterventionRequired"
  | journal e => (OperationError.journal e).className
  | fileNotFound _ => "FileNotFoundError"
  | fileExists _ => "FileExistsError"
  | unsafePath _ => "UnsafePathError"
  | unsupportedMutation _ => "UnsupportedFilesystemMutationError"
  | recovery .. => "JournaledFilesystemRecoveryError"
  | other name _ => name

/-- `str(exc)`. -/
def text : RecoveryError → String
  | skipped m _ | manual m _ | unsafePath m | unsupportedMutation m | recovery m _ | other _ m => m
  | journal e => (OperationError.journal e).text
  | fileNotFound p | fileExists p => p.text

/-- `getattr(exc, "payload", None)`. -/
def payload? : RecoveryError → Option Mapping
  | skipped _ p | manual _ p => some p
  | _ => none

/-- What a step on the journal fails with: the journal's own error, or one of the database. -/
def isAccess : RecoveryError → Bool
  | journal _ | other .. => true
  | _ => false

/-- What a check of the authority fails with. -/
def isRefused : RecoveryError → Bool
  | manual .. => true
  | e => e.isAccess

/-- The errors by which the journal says that a lease, a batch or an attempt is not the caller's to work on. -/
def losesAuthority : RecoveryError → Bool
  | journal (.invalidBatchPhaseTransition _) | journal (.journalLeaseMismatch _) | journal (.leaseLost _) => true
  | journal (.recoveryAttemptMismatch _) => true
  | _ => false

end RecoveryError

/-- A call of a filesystem operation that changes the disk. -/
inductive DiskCall where
  | removeDirectory (path : PosixPath)
  | rename (source destination : PosixPath)
deriving DecidableEq

/-- A journal and a disk, and beside them, for the record only, the calls that change the disk. -/
structure StoredWorld (φ : Type) where
  journal : JournalDb Mapping
  fs : φ
  calls : List DiskCall

/-- The input of one step: its clock sample, the two ids it may draw, the class and text of an
exception it fails with on its own account, whether the heartbeat thread has beaten once more,
and what the operating system contributes. -/
structure StoredInput (ω : Type) where
  now : DateTime
  handoffId : String
  generated : String
  fault : Option (String × String)
  hasBeaten : Bool
  os : ω

/-- A program on a journal and a disk. -/
abbrev StoredOp (φ ω α : Type) := Program (StoredWorld φ) (StoredInput ω) RecoveryError α

section Steps

variable {φ ω α : Type}

/-- `_operation_time`. -/
def operationTime (h : LeaseHolder) (i : StoredInput ω) : DateTime := h.now.getD i.now

/-- What a write of the holder brings along. -/
def writeContext (h : LeaseHolder) (i : StoredInput ω) : WriteContext :=
  ⟨h.lease, operationTime h i, i.handoffId, i.generated⟩

/-- A transaction on the journal. -/
def transaction (act : StoredInput ω → JournalDb Mapping → Except JournalError (α × JournalDb Mapping)) : StoredOp φ ω α :=
  .call fun i w =>
    match i.fault with
    | some (name, message) => (.error (.other name message), w)
    | none =>
      match act i w.journal with
      | .ok (a, db) => (.ok a, { w with journal := db })
      | .error e => (.error (.journal e), w)

/-- A read of the journal. -/
def journalRead (read : StoredInput ω → JournalDb Mapping → Except JournalError α) : StoredOp φ ω α :=
  transaction fun i db => (read i db).map fun a => (a, db)

/-- A call that looks at the disk. -/
def diskRead (read : φ → Except RecoveryError α) : StoredOp φ ω α :=
  .call fun i w =>
    match i.fault with
    | some (name, message) => (.error (.other name message), w)
    | none => (read w.fs, w)

/-- A call that changes the disk, or may have changed it where it fails. -/
def diskCall (call : DiskCall) (act : ω → φ → Except RecoveryError α × φ) : StoredOp φ ω α :=
  .call fun i w => ((act i.os w.fs).1, { w with fs := (act i.os w.fs).2, calls := w.calls ++ [call] })

/-- The time of a check or a write, for several calls. -/
def atOperationTime (h : LeaseHolder) : StoredOp φ ω LeaseHolder :=
  .call fun i w => (.ok { h with now := some (operationTime h i) }, w)

/-- `LeaseStore.require_current`. -/
def requireCurrent (h : LeaseHolder) : StoredOp φ ω Unit :=
  journalRead fun i db => requireCurrentLease db (writeContext h i)

/-- `require_active_recovery_attempt`. -/
def requireActiveAttempt (h : LeaseHolder) (batchId recoveryAttemptId : String) : StoredOp φ ω Unit :=
  journalRead fun i db =>
    (checkActiveRecoveryAttempt db batchId recoveryAttemptId (writeContext h i)).map fun _ => ()

/-- `RecoveryAuthority.require_current`. -/
def RecoveryAuthority.requireCurrent (authority : RecoveryAuthority) : StoredOp φ ω Unit := do
  let h ← atOperationTime authority.holder
  StoredRecovery.requireCurrent h
  requireActiveAttempt h authority.batchId authority.recoveryAttemptId

/-- The latest record of an action, if that record is `attempting`. -/
def checkAttempting (db : JournalDb Mapping) (batchId recoveryAttemptId actionId : String) : Except JournalError Unit :=
  let latest := (db.listRecoveryActions batchId (some recoveryAttemptId)).reverse.find? fun a => a.actionId = actionId
  require (latest.any (fun a => a.status = .attempting) = true) (.recoveryAttemptMismatch
    ("batch " ++ pyRepr batchId ++ " recovery action " ++ pyRepr actionId ++ " is not actively attempting"))

/-- `RecoveryAuthority.require_action_current`. -/
def RecoveryAuthority.requireActionCurrent (authority : RecoveryAuthority) (action : RecoveryActionRow Mapping) :
    StoredOp φ ω Unit := do
  authority.requireCurrent
  authority.requireCurrent
  journalRead fun _ db => checkAttempting db authority.batchId authority.recoveryAttemptId action.actionId

/-- `require_recovery_action_authority`. -/
def requireRecoveryActionAuthority (ctx : StoredContext) (action : RecoveryActionRow Mapping) : StoredOp φ ω Unit :=
  let refused (message code : String) : RecoveryError := .manual message [("reason_code", .str code)]
  let inactive := "recovery mutation requires an active recovery action"
  match ctx.recoveryAuthority with
  | none => .raise (refused "recovery mutation requires an active recovery authority" "missing_recovery_authority")
  | some authority => do
    authority.requireCurrent
    match ctx.recoveryAttemptId with
    | none => .raise (refused inactive "missing_recovery_action_authority")
    | some attemptId =>
      if authority.recoveryAttemptId ≠ attemptId then .raise (refused inactive "recovery_authority_attempt_mismatch")
      else if action.batchId ≠ ctx.batch.batchId ∨ action.recoveryAttemptId ≠ attemptId then
        .raise (refused inactive "recovery_action_attempt_mismatch")
      else authority.requireActionCurrent action

/-- What `heartbeat` of the lease store raises. -/
def heartbeatRaised : LeaseError → RecoveryError
  | .nonPositiveTtl => .journal (.valueError "lease ttl must be positive")
  | .overflow => .other "OverflowError" "date value out of range"

/-- `_heartbeat_once`. -/
def heartbeatOnce (h : LeaseHolder) : StoredOp φ ω Unit :=
  .call fun i w =>
    match i.fault with
    | some (name, message) => (.error (.other name message), w)
    | none =>
      match heartbeat w.journal.leases h.lease h.lease.ttl (operationTime h i) with
      | .error e => (.error (heartbeatRaised e), w)
      | .ok (none, _) => (.error (.journal (.leaseLost ("lease " ++ pyRepr h.lease.name ++ " is no longer current"))), w)
      | .ok (some _, leases) => (.ok (), { w with journal := { w.journal with leases := leases } })

/-- `raise_if_failed`: the thread, where it has beaten, may have found the lease gone. -/
def raiseIfFailed (h : LeaseHolder) : StoredOp φ ω Unit :=
  journalRead fun i db => if i.hasBeaten then requireCurrentLease db (writeContext h i) else .ok ()

/-- `_run_recovery_handler_with_lease_heartbeat`. -/
def withLeaseHeartbeat (enabled : Bool) (h : LeaseHolder) (handler : StoredOp φ ω α) : StoredOp φ ω α :=
  if enabled = false ∨ h.lease.ttl ≤ 0 then handler
  else do
    heartbeatOnce h
    let a ← handler
    raiseIfFailed h
    return a

end Steps

/-! ## One action -/

section Runner

variable {φ ω : Type}

/-- A handler: given the context and the record that planned the action, it returns a `dict`. -/
abbrev Handler (φ ω : Type) := StoredContext → RecoveryActionRow Mapping → StoredOp φ ω Mapping

/-- What a coordinator runs actions with. -/
structure ActionRunner (φ ω : Type) where
  handlers : String → Option (Handler φ ω)
  heartbeatLeases : Bool

/-- The keys of an action's payload that its status repeats. -/
def repeatedKeys : List String := ["path", "step_resource_key", "recursive_mkdir_cleanup", "store_path"]

/-- The class and the text of an exception, and its payload if it has one. -/
def exceptionPayload (e : RecoveryError) : Mapping :=
  [("error_type", .str e.className), ("error", .str e.text)] ++
    (e.payload?.map fun p => ("exception_payload", Json.obj p)).toList

/-- `_recovery_action_status_payload`. -/
def actionStatusPayload (action : RecoveryActionRow Mapping) (eventType : String) (reason resultType : Option String)
    (exception : Option RecoveryError) : Mapping :=
  [("event_type", .str eventType), ("action_id", .str action.actionId), ("action_type", .str action.actionType),
    ("resource_key", textOrNull action.resourceKey), ("recovery_attempt_id", .str action.recoveryAttemptId)] ++
    (reason.map fun r => ("reason", Json.str r)).toList ++
    (resultType.map fun t => ("result_type", Json.str t)).toList ++
    (repeatedKeys.filterMap fun key =>
      match Json.get action.payload key with
      | .null => none
      | v => some (key, v)) ++
    ((exception.map exceptionPayload).getD [])

/-- The transitions of an action: `mark_recovery_action_attempting` and its siblings. -/
def transitionAction (h : LeaseHolder) (batchId recoveryAttemptId actionId : String) (status : RecoveryActionStatus)
    (reason : Option String) (payload : Mapping) : StoredOp φ ω (RecoveryActionRow Mapping) :=
  transaction fun i db => transitionRecoveryAction db batchId recoveryAttemptId actionId status reason
    (some (Json.stored payload)) none (writeContext h i)

/-- `_recovery_action_payload_source`: the record that planned the action, or the last one there is. -/
def actionPayloadSource (ctx : StoredContext) (action : RecoveryActionRow Mapping) : RecoveryActionRow Mapping :=
  let records := ctx.recoveryActions.filter fun a =>
    a.recoveryAttemptId = action.recoveryAttemptId ∧ a.actionId = action.actionId
  ((records.find? fun a => a.status = .planned).or records.getLast?).getD action

/-- `_manual_intervention_action_reason`. -/
def manualInterventionReason (payload : Mapping) : String :=
  match Json.get payload "reason", Json.get payload "detail" with
  | .str reason, detail =>
    if reason ≠ "" then reason
    else match detail with
      | .str d => if d ≠ "" then d else "recovery action requires manual intervention"
      | _ => "recovery action requires manual intervention"
  | _, .str d => if d ≠ "" then d else "recovery action requires manual intervention"
  | _, _ => "recovery action requires manual intervention"

/-- The error of an action: what became of it. -/
def actionError (batchId actionId what : String) : RecoveryError :=
  .recovery ("batch " ++ pyRepr batchId ++ " recovery action " ++ pyRepr actionId ++ " " ++ what) batchId

/-- Record that an action is left to intervention, and raise. -/
def leaveToIntervention (h : LeaseHolder) (batchId recoveryAttemptId actionId reason : String) (payload : Mapping) :
    StoredOp φ ω (RecoveryActionRow Mapping) := do
  let _ ← transitionAction h batchId recoveryAttemptId actionId .manualInterventionRequired (some reason) payload
  .raise (actionError batchId actionId "requires manual intervention")

/-- What becomes of an action whose handler raised. -/
def actionRaised (h : LeaseHolder) (batchId recoveryAttemptId actionId : String) (source : RecoveryActionRow Mapping)
    (e : RecoveryError) : StoredOp φ ω (RecoveryActionRow Mapping) :=
  match e with
  | .skipped reason _ => transitionAction h batchId recoveryAttemptId actionId .skipped (some reason)
      (actionStatusPayload source "skipped" (some reason) none (some e))
  | .manual reason _ => leaveToIntervention h batchId recoveryAttemptId actionId reason
      (actionStatusPayload source "manual_intervention_required" (some reason) none (some e))
  | e =>
    if e.losesAuthority then .raise (actionError batchId actionId "is no longer active")
    else do
      let _ ← transitionAction h batchId recoveryAttemptId actionId .failed (some e.text)
        (actionStatusPayload source "failed" (some e.text) none (some e))
      .raise (actionError batchId actionId "failed")

/-- `_run_authorized_recovery_handler` under `run_with_active_recovery_attempt`. -/
def runHandler (A : ActionRunner φ ω) (h : LeaseHolder) (ctx : StoredContext) (recoveryAttemptId : String)
    (action : RecoveryActionRow Mapping) (handler : StoredOp φ ω Mapping) : StoredOp φ ω Mapping := do
  requireActiveAttempt h ctx.batch.batchId recoveryAttemptId
  withLeaseHeartbeat (h.now.isNone && A.heartbeatLeases) h do
    requireRecoveryActionAuthority ctx action
    let result ← handler
    requireRecoveryActionAuthority ctx action
    return result

/-- What follows a handler. -/
def finishAction (h : LeaseHolder) (batchId recoveryAttemptId actionId : String) (source : RecoveryActionRow Mapping)
    (result : Except RecoveryError Mapping) : StoredOp φ ω (RecoveryActionRow Mapping) :=
  match result with
  | .error e => actionRaised h batchId recoveryAttemptId actionId source e
  | .ok _ => do
    let h ← atOperationTime h
    requireCurrent h
    transitionAction h batchId recoveryAttemptId actionId .succeeded none
      (actionStatusPayload source "succeeded" none (some "dict") none)

/-- The action itself: `action` is its latest record, `source` the one that planned it. -/
def performAction (A : ActionRunner φ ω) (h : LeaseHolder) (ctx : StoredContext) (recoveryAttemptId : String)
    (action source : RecoveryActionRow Mapping) : StoredOp φ ω (RecoveryActionRow Mapping) :=
  let batchId := ctx.batch.batchId
  if action.actionType = "manual_intervention_required" then
    let reason := manualInterventionReason source.payload
    leaveToIntervention h batchId recoveryAttemptId action.actionId reason
      (actionStatusPayload source "manual_intervention_required" (some reason) none none ++
        [("manual_intervention", .obj source.payload)])
  else
    match A.handlers action.actionType with
    | none =>
      let reason := "no built-in recovery handler for " ++ pyRepr action.actionType
      leaveToIntervention h batchId recoveryAttemptId action.actionId reason
        (actionStatusPayload source "manual_intervention_required" (some reason) none none)
    | some handler => do
      let result ← (runHandler A h ctx recoveryAttemptId action (handler ctx source)).outcome
      finishAction h batchId recoveryAttemptId action.actionId source result

/-- The statuses of an action that is still to be run. -/
def isOpen (status : RecoveryActionStatus) : Bool := status = .planned ∨ status = .attempting

/-- `_run_recovery_action`. -/
def runRecoveryAction (A : ActionRunner φ ω) (h : LeaseHolder) (ctx : StoredContext)
    (action : RecoveryActionRow Mapping) : StoredOp φ ω (RecoveryActionRow Mapping) :=
  match ctx.recoveryAttemptId with
  | none => .raise (.recovery ("batch " ++ pyRepr ctx.batch.batchId ++ " has no active recovery attempt")
      ctx.batch.batchId)
  | some attemptId =>
    if isOpen action.status = false then return action
    else do
      let entry ← atOperationTime h
      requireCurrent entry
      let current ←
        if action.status = .planned then
          transitionAction entry ctx.batch.batchId attemptId action.actionId .attempting none
            (actionStatusPayload action "attempting" none none none)
        else .ret action
      performAction A h ctx attemptId current (actionPayloadSource ctx current)

end Runner

end SafeFsOps.StoredRecovery
