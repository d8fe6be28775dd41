import SafeFsOps.OperationJournal.OperationRuns
import SafeFsOps.OperationJournal.TreeMutations
import SafeFsOps.Workspace.TransactionRollback

/-!
# Transactions

`SafeTransaction` of `workspace_transaction.py`, with
`workspace_transaction_bookkeeping.py` and `workspace_transaction_operation.py`:
what `with workspace.transaction(…) as tx:` does around its body.

- `enterTransaction`: the lease, then the claims, in the order of their keys.
- `runBody`: the body is any program over the public methods of `tx`.
- `exitAfterError`: roll back, and give up the claims only if that succeeded.
- `exitAfterSuccess`: undo what was left failed, clean up, give up the claims and
  the lease: one by one (`cleanupTransaction`), or, where the transaction was
  linked to operation runs, in one database transaction (`finalizeTransaction`).

Notes added to an exception in flight are not modelled: they change no outcome.
-/

namespace SafeFsOps

variable {φ ω : Type}

/-! ## The lease and the claims -/

/-- `cleanup_now`. -/
def cleanupHolder (lease : LeaseRecord) : Op φ ω LeaseHolder := atOperationTime ⟨lease, none⟩

/-- `maintain_lease(…).__enter__()`: only a transaction without a fixed time keeps its lease alive. -/
def startLeaseHeartbeat (T : Transaction φ ω) (lease : LeaseRecord) : Op φ ω Unit :=
  if T.now ≠ none ∨ T.workspace.leaseTtl ≤ 0 then .ret ()
  else do
    let renewed ← heartbeatLease T.workspace ⟨lease, none⟩
    match renewed with
    | some _ => .ret ()
    | none => .raise (.journal (.leaseLost ("lease " ++ pyRepr lease.name ++ " is no longer current")))

/-- `_stop_lease_heartbeat`: what its thread has failed with. -/
def stopLeaseHeartbeat (T : Transaction φ ω) : Op φ ω Unit :=
  if T.now ≠ none then .ret () else raiseIfFailed

/-- The release of the lease that ends `cleanup_transaction`. -/
def releaseTransactionLease (h : LeaseHolder) : Op φ ω (Option OperationError) := do
  let released ← releaseHeldLease h
  return if released then none else some (.safeWorkspace "failed to release transaction lease")

/-- What `cleanup_transaction` does about claims that cannot be released. -/
def claimsNotReleased (h : LeaseHolder) (e : OperationError) : Op φ ω (Option OperationError) :=
  match e with
  | .claim (.claimConflict ..) | .claimRelease _ => do
    let _ ← releaseHeldLease h
    return some (.safeWorkspace "failed to release transaction claims")
  | e =>
    if e.isLeaseLost then return some (.safeWorkspace "failed to release transaction claims") else .raise e

/-- `cleanup_transaction`: the claims in reverse order, then the lease. -/
def cleanupTransaction (T : Transaction φ ω) (s : TransactionState) : Op φ ω (Option OperationError) := do
  let h ← cleanupHolder s.lease
  let stopped ← (stopLeaseHeartbeat T).outcome
  match stopped with
  | .error e =>
    if e.isLeaseLost then return some (.safeWorkspace "transaction lease heartbeat failed") else .raise e
  | .ok _ => do
    let released ← (Program.forEach s.claims.reverse (releaseTransactionClaim T h)).outcome
    match released with
    | .error e => claimsNotReleased h e
    | .ok _ => releaseTransactionLease h

/-- `abandon_transaction_for_recovery`: the claims stay where they are. -/
def abandonTransaction (T : Transaction φ ω) : Op φ ω Unit :=
  (stopLeaseHeartbeat T).onRaise fun e => if e.isLeaseLost then .ret () else .raise e

/-! ## Entering -/

/-- The claims on the resources, up to the first that is refused. -/
def claimResources (T : Transaction φ ω) (s : TransactionState) :
    List ResourceHandle → Op φ ω (TransactionState × Option OperationError)
  | [] => return (s, none)
  | r :: rest => do
    let claimed ← (upsertClaimStep T (T.holder s none) r.resourceKey r.kind).outcome
    match claimed with
    | .error e => return (s, some e)
    | .ok claim => claimResources T (s.remember claim) rest

/-- What `__enter__` raises for a claim that was refused. -/
def claimRefused : OperationError → OperationError
  | .claim (.claimConflict _ existing) => .workspaceBusy ("resource " ++ pyRepr existing.resourceKey ++
      " is already claimed by " ++ pyRepr existing.owner)
  | e => e

/-- `__enter__`. -/
def enterTransaction (T : Transaction φ ω) : Op φ ω TransactionState :=
  if T.name = "" then .raise (.valueError "transaction name must be non-empty")
  else do
    let lease ← acquireLease T.workspace T.now
    if lease.acquired = false then .raise (.workspaceBusy (leaseIsHeld T.workspace lease))
    else do
      startLeaseHeartbeat T lease
      let (s, refused) ← claimResources T (.start T.remembered lease) T.resources.sorted
      match refused with
      | some e => do
        let _ ← cleanupTransaction T s
        .raise (claimRefused e)
      | none => do
        markEntered T lease
        return s

/-! ## Operation runs -/

/-- `_require_active_operation_link_status`. -/
def requireActiveLink (kind id status : String) : Except OperationError Unit :=
  require (status = "active") (.valueError (kind ++ " " ++ pyRepr id ++ " status " ++ pyRepr status ++
    " is terminal"))

/-- The checks of `_validate_explicit_operation_links` on the run. -/
def requireLinkedRun (T : Transaction φ ω) (s : TransactionState) (id : String)
    (run : Option (OperationRunRow Payload)) : Except OperationError Unit :=
  let named (what : String) : OperationError := .valueError ("operation_run_id " ++ pyRepr id ++ what)
  match run with
  | none => .error (named " does not exist")
  | some run => do
    require (run.runId = T.runId) (named (" belongs to run_id " ++ pyRepr run.runId))
    require (run.owner = T.owner) (named (" belongs to owner " ++ pyRepr run.owner))
    requireActiveLink "operation_run_id" id run.status
    require (run.leaseName = s.lease.name) (named (" belongs to lease " ++ pyRepr run.leaseName))
    require (run.leaseFencingToken = s.lease.fencingToken)
      (named (" belongs to fencing token " ++ toString run.leaseFencingToken))

/-- The checks of `_validate_explicit_operation_links` on the phase. -/
def requireLinkedPhase (runId id : String) (phase : Option (OperationPhaseRow Payload)) :
    Except OperationError Unit :=
  let named (what : String) : OperationError := .valueError ("operation_phase_id " ++ pyRepr id ++ what)
  match phase with
  | none => .error (named " does not exist")
  | some phase => do
    require (phase.operationRunId = runId) (named (" belongs to operation_run_id " ++ pyRepr phase.operationRunId))
    requireActiveLink "operation_phase_id" id phase.status

/-- `_validate_explicit_operation_links`. -/
def validateExplicitLinks (T : Transaction φ ω) (s : TransactionState) (operationRunId operationPhaseId : Option String) :
    Op φ ω Unit :=
  match operationRunId, operationPhaseId with
  | none, none => .ret ()
  | none, some _ => .raise (.valueError "operation_phase_id requires operation_run_id")
  | some runId, none => do
    let run ← getOperationRun runId
    .ofExcept (requireLinkedRun T s runId run)
  | some runId, some phaseId => do
    let run ← getOperationRun runId
    .ofExcept (requireLinkedRun T s runId run)
    let phase ← getOperationPhase phaseId
    .ofExcept (requireLinkedPhase runId phaseId phase)

/-- The links of a call. -/
structure OperationLinks where
  operationRunId : Option String
  operationPhaseId : Option String

/-- The links of the implicit run, where there is one. -/
def implicitLinks (s : TransactionState) : OperationLinks :=
  match s.operationRun, s.operationPhase with
  | some run, some phase => ⟨some run.operationRunId, some phase.operationPhaseId⟩
  | _, _ => ⟨none, none⟩

/-- `resolve_operation_links`. -/
def resolveLinks (T : Transaction φ ω) (s : TransactionState) (given : OperationLinks) :
    Op φ ω (TransactionState × OperationLinks) :=
  if given.operationRunId ≠ none ∨ given.operationPhaseId ≠ none then do
    validateExplicitLinks T s given.operationRunId given.operationPhaseId
    return (s.touch given.operationRunId given.operationPhaseId, given)
  else
    let links := implicitLinks s
    return (s.touch links.operationRunId links.operationPhaseId, links)

/-- The run of `ensure_implicit_operation_phase`. -/
def ensureImplicitRun (T : Transaction φ ω) (s : TransactionState) (h : LeaseHolder) :
    Op φ ω (OperationRunRow Payload) :=
  match s.operationRun with
  | some run => return run
  | none => journalWrite h fun db ctx =>
    createOperationRun db T.runId T.owner "active" (.implicitRun T.name T.rollback.text) none ctx

/-- The phase of `ensure_implicit_operation_phase`. -/
def ensureImplicitPhase (T : Transaction φ ω) (s : TransactionState) (h : LeaseHolder) (operationRunId : String) :
    Op φ ω (OperationPhaseRow Payload) :=
  match s.operationPhase with
  | some phase => return phase
  | none => journalWrite h fun db ctx =>
    createOperationPhase db operationRunId "transaction" "active" 1 (.implicitPhase T.rollback.text) none ctx

/-- `ensure_implicit_operation_phase` and the links it is remembered under, as a recursive
mkdir begins with it. A run stays with the transaction also where its phase is refused. -/
def ensureImplicitOperation (T : Transaction φ ω) (s : TransactionState) (now : Option DateTime) :
    Op φ ω (TransactionState × Except OperationError OperationLinks) := do
  let h := T.holder s now
  let run ← (ensureImplicitRun T s h).outcome
  match run with
  | .error e => return (s, .error e)
  | .ok run => do
    let s : TransactionState := { s with operationRun := some run }
    let phase ← (ensureImplicitPhase T s h run.operationRunId).outcome
    match phase with
    | .error e => return (s, .error e)
    | .ok phase => do
      let s : TransactionState := { s with operationPhase := some phase }
      return (s.touch (some run.operationRunId) (some phase.operationPhaseId),
        .ok ⟨some run.operationRunId, some phase.operationPhaseId⟩)

/-! ## The body -/

/-- The keyword arguments all mutations of a transaction take. -/
structure CallOptions where
  idempotencyKey : Option String
  links : OperationLinks
  now : Option DateTime

/-- A call on a tree, or for snapshots: on a resource, which has a path unless it is a custom
one. The store is the one the call names, else that of the workspace. -/
inductive TreeRequest where
  | backupTree (path : Path) (relativePaths : List Path) (resourceKey : String) (storePath : Path)
  | restoreTreeBackup (path : Path) (backup : TreeBackup) (destinationRoot : Option Path) (resourceKey : String)
      (storePath : Path) (conflictPolicy : ConflictPolicy)
  | snapshotBundle (path : Option Path) (paths : Option (List Path)) (includeChildren : Bool) (hashPolicy : HashPolicy)
      (smallFileMaxBytes : Nat) (resourceKey : String)

/-- A call of a method of the transaction. A recursive mkdir is a sequence of the last three. -/
inductive TransactionRequest where
  | mutate (m : MutationRequest) (o : CallOptions)
  | tree (r : TreeRequest) (o : CallOptions)
  | ensureImplicitOperation (now : Option DateTime)
  | claimDirectory (resourceKey : String) (now : Option DateTime)
  | makeDirectoryPath (path : Path) (resourceKey idempotencyKey : String) (links : OperationLinks) (parents existOk : Bool)
      (recursive : Option RecursiveMkdirStepMetadata) (now : Option DateTime)

/-- The resource a method is called on. -/
def requestKey : MutationRequest → String
  | .writeTextFile _ _ key _ | .writeBytesFile _ _ key _ _ _ | .deleteFile _ key _ | .makeDirectory _ key _ _ _ => key
  | .recordDirectoryNoop _ key | .captureDirectory _ _ key _ | .renameNoReplace _ _ key _ => key

/-- The second resource a rename takes. -/
def requestDestination : MutationRequest → Option String
  | .renameNoReplace _ _ _ destinationKey => some destinationKey
  | _ => none

/-- The name of the method, as it stands in generated keys. -/
def requestName : MutationRequest → String
  | .writeTextFile .. => "write_text"
  | .writeBytesFile .. => "write_bytes"
  | .deleteFile .. => "delete_file"
  | .makeDirectory .. | .recordDirectoryNoop .. => "make_directory"
  | .renameNoReplace .. => "rename_no_replace"
  | .captureDirectory .. => "capture_directory"

/-- `require_claimed_resource`: the resource of a key. -/
def requireClaimedResource (T : Transaction φ ω) (resourceKey : String) : Except OperationError ResourceHandle :=
  match T.resources.members.find? fun r => r.resourceKey = resourceKey with
  | some r => .ok r
  | none => .error (.safeWorkspace ("resource " ++ pyRepr resourceKey ++ " was not claimed by this transaction"))

/-- The resources of a call are claimed; its own is the answer. -/
def requireRequestClaimed (T : Transaction φ ω) (m : MutationRequest) : Except OperationError ResourceHandle := do
  let r ← requireClaimedResource T (requestKey m)
  match requestDestination m with
  | none => return r
  | some key => do
    let _ ← requireClaimedResource T key
    return r

/-- `next_idempotency_key`, without counting up. -/
def nextIdempotencyKey (T : Transaction φ ω) (s : TransactionState) (operation : String) (r : ResourceHandle) :
    String :=
  T.name ++ ":" ++ T.runId ++ ":" ++ toString (s.operationIndex + 1) ++ ":" ++ operation ++ ":" ++
    (r.label.filter (· ≠ "")).getD r.resourceKey

/-- The key of a call; only a generated one counts. -/
def callKey (T : Transaction φ ω) (s : TransactionState) (operation : String) (given : Option String)
    (r : ResourceHandle) : TransactionState × String :=
  match given.filter (· ≠ "") with
  | some key => (s, key)
  | none => ({ s with operationIndex := s.operationIndex + 1 }, nextIdempotencyKey T s operation r)

/-- The arguments a mutation is called with. -/
def Transaction.caller (T : Transaction φ ω) (s : TransactionState) (key : String) (links : OperationLinks)
    (now : Option DateTime) : Caller where
  toLeaseHolder := T.holder s now
  owner := T.owner
  runId := T.runId
  idempotencyKey := key
  operationRunId := links.operationRunId
  operationPhaseId := links.operationPhaseId
  claimScope := some T.claimScope

/-- What a capture claims beside its resource. -/
def claimQuarantine (T : Transaction φ ω) (s : TransactionState) (m : MutationRequest) (now : Option DateTime) :
    Op φ ω TransactionState :=
  match m with
  | .captureDirectory _ quarantine _ _ => claimDirectoryResource T s (directoryResourceKey quarantine) now
  | _ => return s

/-- The state a call leaves, and what it answered. -/
abbrev CallResult := TransactionState × Except OperationError Unit

/-- A method of the coordinator, called for the transaction under the key of the call. -/
def runKeyed (T : Transaction φ ω) (s : TransactionState) (operation : String) (r : ResourceHandle)
    (links : OperationLinks) (o : CallOptions) (run : Caller → Op φ ω Unit) : Op φ ω CallResult := do
  let (s, key) := callKey T s operation o.idempotencyKey r
  let result ← (run (T.caller s key links o.now)).outcome
  return (s, result)

/-- A public method: what is checked and claimed, and the mutation. -/
def runMutate (T : Transaction φ ω) (s : TransactionState) (m : MutationRequest) (o : CallOptions) :
    Op φ ω CallResult := do
  match requireRequestClaimed T m with
  | .error e => return (s, .error e)
  | .ok r => do
    let resolved ← (resolveLinks T s o.links).outcome
    match resolved with
    | .error e => return (s, .error e)
    | .ok (s, links) => do
      let claimed ← (claimQuarantine T s m o.now).outcome
      match claimed with
      | .error e => return (s, .error e)
      | .ok s => runKeyed T s (requestName m) r links o fun c => runMutation T.workspace.coordinator c m

/-- What a call on a tree asks for before its links are resolved. -/
def requireTreeRequest (T : Transaction φ ω) : TreeRequest → Except OperationError ResourceHandle
  | .backupTree _ _ key _ => requireClaimedResource T key
  | .restoreTreeBackup path _ destinationRoot key _ _ => do
    let r ← requireClaimedResource T key
    require (T.rollback ≠ .automatic) (.safeWorkspace ("restore_tree_backup is not supported in automatic " ++
      "rollback transactions; use rollback='record-only' or restore outside the transaction"))
    require (destinationRoot.getD path = path)
      (.valueError "destination_root must match the claimed tree resource path")
    return r
  | .snapshotBundle path paths _ _ _ key => do
    let r ← requireClaimedResource T key
    require (paths.isSome ∨ path.isSome) (.valueError "paths are required when snapshotting a custom resource")
    return r

/-- A call on a tree once its links are resolved; a bundle is taken before its key is drawn. -/
def runResolvedTree (T : Transaction φ ω) (s : TransactionState) (r : ResourceHandle) (links : OperationLinks)
    (o : CallOptions) : TreeRequest → Op φ ω CallResult
  | .backupTree path relativePaths key storePath => runKeyed T s "backup_tree" r links o fun c =>
      backupTree T.workspace.coordinator c path relativePaths key (some storePath)
  | .restoreTreeBackup path backup _ key storePath policy => runKeyed T s "restore_tree_backup" r links o fun c =>
      restoreTreeBackup T.workspace.coordinator c backup path key (some storePath) policy
  | .snapshotBundle path paths includeChildren hashPolicy smallFileMaxBytes key => do
    let taken ← (fsRead fun os fs => T.workspace.coordinator.ops.snapshotBundle os fs (paths.getD path.toList)
      includeChildren hashPolicy smallFileMaxBytes).outcome
    match taken with
    | .error e => return (s, .error e)
    | .ok bundle => runKeyed T s "snapshot_bundle" r links o fun c => snapshotBundle c bundle key

/-- A public method for trees: `backup_tree`, `restore_tree_backup` and `snapshot_bundle`. -/
def runTree (T : Transaction φ ω) (s : TransactionState) (m : TreeRequest) (o : CallOptions) : Op φ ω CallResult := do
  match requireTreeRequest T m with
  | .error e => return (s, .error e)
  | .ok r => do
    let resolved ← (resolveLinks T s o.links).outcome
    match resolved with
    | .error e => return (s, .error e)
    | .ok (s, links) => runResolvedTree T s r links o m

/-- A step that answers with a new state. -/
def updating (s : TransactionState) (p : Op φ ω TransactionState) : Op φ ω CallResult := do
  let result ← p.outcome
  match result with
  | .error e => return (s, .error e)
  | .ok s => return (s, .ok ())

/-- A call of the body. -/
def runRequest (T : Transaction φ ω) (s : TransactionState) : TransactionRequest → Op φ ω CallResult
  | .mutate m o => runMutate T s m o
  | .tree m o => runTree T s m o
  | .ensureImplicitOperation now => do
    let (s, links) ← ensureImplicitOperation T s now
    return (s, links.map fun _ => ())
  | .claimDirectory key now => updating s (claimDirectoryResource T s key now)
  | .makeDirectoryPath path key idempotencyKey links parents existOk recursive now => do
    let result ← (makeDirectory T.workspace.coordinator (T.caller s idempotencyKey links now) path key parents
      existOk recursive).outcome
    return (s, result)

/-- The body of a `with` statement: it ends, raises, or calls and goes on with the answer. -/
inductive TransactionBody where
  | finish
  | fail (message : String)
  | call (request : TransactionRequest) (next : Except OperationError Unit → TransactionBody)

/-- The state the body leaves, and what it raised, if anything. -/
def runBody (T : Transaction φ ω) : TransactionBody → TransactionState →
    Op φ ω (TransactionState × Option OperationError)
  | .finish, s => return (s, none)
  | .fail message, s => return (s, some (.body message))
  | .call request next, s => do
    let (s, answer) ← runRequest T s request
    runBody T (next answer) s

/-! ## Statuses at the end -/

/-- `_touched_operation_phases`: the implicit one first, then those that still exist. -/
def touchedPhases (s : TransactionState) : Op φ ω (List (OperationPhaseRow Payload)) := do
  let implicit := s.operationPhase.toList
  let others := s.touchedPhases.filter fun id => id ∉ implicit.map OperationPhaseRow.operationPhaseId
  let rows ← .mapEach others getOperationPhase
  return implicit ++ rows.reduceOption

/-- `_touched_operation_runs`. -/
def touchedRuns (s : TransactionState) : Op φ ω (List (OperationRunRow Payload)) := do
  let implicit := s.operationRun.toList
  let others := s.touchedRuns.filter fun id => id ∉ implicit.map OperationRunRow.operationRunId
  let rows ← .mapEach others getOperationRun
  return implicit ++ rows.reduceOption

/-- What `update_operation_…_terminal_status` does when the update is refused: a
diagnostic, in whose place the error stays unless it was about the lease. -/
def orDiagnostic (update diagnostic : Op φ ω Unit) : Op φ ω Unit :=
  update.onRaise fun e =>
    match e with
    | .journal (.journalLeaseMismatch _) | .journal (.leaseLost _) => diagnostic
    | e => do
      let _ ← diagnostic.outcome
      .raise e

/-- The status a diagnostic says. -/
def diagnosticStatus (status : String) : String := if status = "failed" then "failed" else "finalization_failed"

/-- `update_operation_phase_terminal_status`. -/
def markPhase (h : LeaseHolder) (status : String) (phase : OperationPhaseRow Payload) : Op φ ω Unit :=
  let id := phase.operationPhaseId
  orDiagnostic
    (journalWrite h (fun db ctx => updateOperationPhaseStatus db id status ctx) >>= fun _ => .ret ())
    (journalWrite h (fun db ctx => recordOperationPhaseTerminalDiagnostic db id (diagnosticStatus status) ctx) >>=
      fun _ => .ret ())

/-- `update_operation_run_terminal_status`. -/
def markRun (h : LeaseHolder) (status : String) (run : OperationRunRow Payload) : Op φ ω Unit :=
  let id := run.operationRunId
  orDiagnostic
    (journalWrite h (fun db ctx => updateOperationRunStatus db id status ctx) >>= fun _ => .ret ())
    (journalWrite h (fun db ctx => recordOperationRunTerminalDiagnostic db id (diagnosticStatus status) ctx) >>=
      fun _ => .ret ())

/-- `mark_touched_operation_phases`. -/
def markTouchedPhases (h : LeaseHolder) (s : TransactionState) (status : String) : Op φ ω Unit := do
  let phases ← touchedPhases s
  .forEach phases (markPhase h status)

/-- `mark_touched_operation_runs`. -/
def markTouchedRuns (h : LeaseHolder) (s : TransactionState) (status : String) : Op φ ω Unit := do
  let runs ← touchedRuns s
  .forEach runs (markRun h status)

/-- `_mark_touched_finalization_failed`: never raises. -/
def markFinalizationFailed (s : TransactionState) : Op φ ω Unit := do
  let h ← cleanupHolder s.lease
  let _ ← (markTouchedPhases h s "finalization_failed").outcome
  let _ ← (markTouchedRuns h s "finalization_failed").outcome
  .ret ()

/-! ## Finalising in one transaction -/

/-- The phases marked succeeded. -/
def succeedPhases (ctx : WriteContext) (db : JournalDb Payload) :
    List (OperationPhaseRow Payload) → Except JournalError (JournalDb Payload)
  | [] => .ok db
  | phase :: rest => do
    let (_, db) ← updateOperationPhaseStatusInConnection db phase.operationPhaseId "succeeded" ctx
    succeedPhases ctx db rest

/-- The runs marked succeeded. -/
def succeedRuns (ctx : WriteContext) (db : JournalDb Payload) :
    List (OperationRunRow Payload) → Except JournalError (JournalDb Payload)
  | [] => .ok db
  | run :: rest => do
    let (_, db) ← updateOperationRunStatusInConnection db run.operationRunId "succeeded" ctx
    succeedRuns ctx db rest

/-- All claims released, or an error. -/
def releaseAllClaims (T : Transaction φ ω) (t : ClaimTable) : List ClaimRecord → Except OperationError ClaimTable
  | [] => .ok t
  | claim :: rest => do
    let (released, t') := releaseClaimInConnection t claim.resourceKey T.owner (some T.claimScope) (some claim)
    require (released = true) (.claimRelease ("claim " ++ pyRepr claim.resourceKey ++
      " could not be released for owner " ++ pyRepr T.owner))
    releaseAllClaims T t' rest

/-- What `finalize_operation_success` and `finalize_touched_operation_success` do to the database. -/
def finalizeInConnection (T : Transaction φ ω) (s : TransactionState) (phases : List (OperationPhaseRow Payload))
    (runs : List (OperationRunRow Payload)) (ctx : WriteContext) (w : World φ) :
    Except OperationError (World φ) := do
  (requireCurrentLease w.journal ctx).mapError .journal
  let db ← (succeedPhases ctx w.journal phases).mapError .journal
  let claims ← releaseAllClaims T w.claims s.claims.reverse
  let db ← (succeedRuns ctx db runs).mapError .journal
  let (released, leases) := releaseLease db.leases ctx.lease ctx.generated ctx.now
  require (released = true) (.safeWorkspace "failed to release transaction lease")
  return { w with journal := { db with leases := leases }, claims := claims }

/-- `finalize_touched_operation_success`; of an implicit run, `finalize_operation_success`. -/
def finalizeTransaction (T : Transaction φ ω) (s : TransactionState) : Op φ ω Unit := do
  stopLeaseHeartbeat T
  let h ← cleanupHolder s.lease
  let phases ← if s.operationRun.isSome then .ret s.operationPhase.toList else touchedPhases s
  let runs ← if s.operationRun.isSome then .ret s.operationRun.toList else touchedRuns s
  transaction fun i w => (finalizeInConnection T s phases runs (h.context i) w).map fun w' => ((), w')

/-! ## Leaving -/

/-- `mark_touched_operation_runs_failed`; a run that was never linked to is left alone. -/
def markRunsFailed (h : LeaseHolder) (s : TransactionState) : Op φ ω Unit :=
  if s.touchedRuns = [] then .ret () else markTouchedRuns h s "failed"

/-- The rollback of a body that raised, and the statuses around it: whether all was undone. -/
def rollbackAfterError (T : Transaction φ ω) (s : TransactionState) (h : LeaseHolder) : Op φ ω Bool := do
  let _ ← (markTouchedPhases h s "failed").outcome
  let resolved ← (runAutomaticRollback T h).outcome
  let _ ← (markRunsFailed h s).outcome
  return resolved.toOption.getD false

/-- `__exit__` after a body that raised. -/
def exitAfterError (T : Transaction φ ω) (s : TransactionState) (e : OperationError) : Op φ ω Unit := do
  let h ← cleanupHolder s.lease
  let resolved ← rollbackAfterError T s h
  if resolved = false then do
    abandonTransaction T
    .raise e
  else do
    let _ ← (cleanupTransaction T s).outcome
    .raise e

/-- A transaction whose pending rollback failed keeps its claims for recovery. -/
def abandonAndRaise (T : Transaction φ ω) (s : TransactionState) (e : OperationError) : Op φ ω Unit := do
  markFinalizationFailed s
  abandonTransaction T
  .raise e

/-- `__exit__` after success, where no operation run was touched. -/
def commitPlain (T : Transaction φ ω) (s : TransactionState) : Op φ ω Unit := do
  let artifacts ← cleanupCommittedArtifacts T s.lease
  let cleaned ← (cleanupTransaction T s).outcome
  match cleaned, artifacts with
  | .error e, _ | .ok (some e), _ | .ok none, some e => .raise e
  | .ok none, none => .ret ()

/-- The two stages of a linked transaction after its pending rollback. -/
def finalizeLinked (T : Transaction φ ω) (s : TransactionState) : Op φ ω Unit := do
  let artifacts ← cleanupCommittedArtifacts T s.lease
  match artifacts with
  | some e => .raise e
  | none => finalizeTransaction T s

/-- `__exit__` after success, where operation runs were touched. -/
def commitLinked (T : Transaction φ ω) (s : TransactionState) : Op φ ω Unit :=
  (finalizeLinked T s).onRaise fun e => do
    markFinalizationFailed s
    let cleaned ← cleanupTransaction T s
    .raise (cleaned.getD e)

/-- `__exit__` after a body that did not raise. -/
def exitAfterSuccess (T : Transaction φ ω) (s : TransactionState) : Op φ ω Unit := do
  let h ← cleanupHolder s.lease
  let pending ← (runPendingRollback T h).outcome
  match pending with
  | .error e => abandonAndRaise T s e
  | .ok _ =>
    if s.touchedRuns = [] ∧ s.touchedPhases = [] ∧ s.operationRun.isNone then commitPlain T s else commitLinked T s

/-- `with workspace.transaction(…) as tx: body`. -/
def runTransaction (T : Transaction φ ω) (body : TransactionBody) : Op φ ω Unit := do
  let s ← enterTransaction T
  let (s, raised) ← runBody T body s
  markLeft T s.lease
  match raised with
  | some e => exitAfterError T s e
  | none => exitAfterSuccess T s

end SafeFsOps
