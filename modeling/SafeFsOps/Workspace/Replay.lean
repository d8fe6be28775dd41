import SafeFsOps.Workspace.TransactionRollback

/-!
# Replaying what was left behind

`recover_pending_workspace_batches` of `workspace_rollback.py`: under a lease of
its own the workspace looks through all batches of the database, newest first, and
undoes those that are *pending*: left unfinished, or finished by a transaction
that still holds the claim. Each batch it recovers, it releases the claims of; at
the end it releases the claims of transactions that never got as far as a batch.

Which claims go is decided by owner and scope, and for the last kind by the
fencing token in the claim's details.
-/

namespace SafeFsOps

variable {φ ω : Type}

/-! ## What is pending -/

/-- Whether the claim is the batch's own, by owner and scope. -/
def claimOfBatch (batch : BatchRow Payload) (claim : ClaimRecord) : Bool :=
  some claim.owner = batch.claimOwner ∧ claim.scope = batch.claimScope

/-- The claim on the batch's resource, where it is the batch's own. -/
def readBatchClaim (batch : BatchRow Payload) : Op φ ω (Option ClaimRecord) :=
  match batch.resourceKey with
  | none => return none
  | some key => do
    let claim ← readClaim key
    return claim.filter (claimOfBatch batch)

/-- `_is_abandoned_succeeded_workspace_recovery_batch`. -/
def isAbandonedSucceeded (batch : BatchRow Payload) : Op φ ω Bool :=
  if batch.phase ≠ .succeeded ∨ batch.claimOwner = none then return false
  else do
    let claim ← readBatchClaim batch
    return claim.isSome

/-- `_is_recovered_workspace_batch_with_unreleased_claim`. -/
def isRecoveredWithUnreleasedClaim (batch : BatchRow Payload) : Op φ ω Bool :=
  match batch.claimOwner with
  | none => return false
  | some owner =>
    if batch.phase ≠ .recoverySucceeded then return false
    else do
      let claim ← readBatchClaim batch
      if claim.isSome then return true
      else if batch.claimScope = none then return false
      else do
        let claims ← listOwnedClaims owner
        return claims.any fun c => c.scope = batch.claimScope

/-- The phases in which a batch is pending whatever its claims. -/
def unfinishedPhases : List BatchPhase :=
  [.attempting, .failed, .recovering, .recoveryDesired, .recoveryFailed]

/-- `_is_pending_workspace_recovery_batch`. -/
def isPending (batch : BatchRow Payload) : Op φ ω Bool :=
  if batch.phase ∈ unfinishedPhases then return true
  else do
    let recovered ← isRecoveredWithUnreleasedClaim batch
    if recovered then return true else isAbandonedSucceeded batch

/-- `[batch for batch in all_batches if …]`. -/
def filterPending (batches : List (BatchRow Payload)) : Op φ ω (List (BatchRow Payload)) := do
  let pending ← .mapEach batches fun b => do
    let pending ← isPending b
    return if pending then some b else none
  return pending.reduceOption

/-- `_batch_owner_scopes`. -/
def batchOwnerScopes (batches : List (BatchRow Payload)) : List (String × String) :=
  batches.filterMap fun b =>
    match b.claimOwner, b.claimScope with
    | some owner, some scope => some (owner, scope)
    | _, _ => none

/-! ## Putting a batch up for recovery -/

/-- What is seen at the path of an abandoned batch. -/
def replayFailure (C : Coordinator φ ω) (batch : BatchRow Payload) : Op φ ω (Option FailurePayload) :=
  match batch.payload.intent?.bind Intent.path? with
  | none => return none
  | some path => do
    let seen ← snapshotOutcome C path
    let base : FailurePayload :=
      { path := path
        resourceKey := batch.resourceKey
        stage := some "workspace_recovery_replay"
        errorType := none
        error := none
        snapshot := none
        snapshotError := none
        after := none }
    match seen with
    | .ok snapshot => return some { base with snapshot := some snapshot }
    | .error e => return some { base with snapshotError := some (e.className, e.text) }

/-- `_record_abandoned_succeeded_batch_recovery_desired`. -/
def recordAbandonedSucceededStep (h : LeaseHolder) (batch : BatchRow Payload) : Op φ ω Unit :=
  journalWrite h fun db ctx =>
    (recordAbandonedSucceededBatchRecoveryDesired db batch ctx).map fun db => ((), db)

/-- The mark `_prepare_workspace_recovery_batch` makes, by the phase it found. -/
def markForReplay (C : Coordinator φ ω) (h : LeaseHolder) (batch : BatchRow Payload) : Op φ ω Unit :=
  let replay := Payload.replay batch.batchId batch.runId batch.phase
  match batch.phase with
  | .attempting => do
    let failure ← replayFailure C batch
    let _ ← recordInterruptedRecoveryDesiredStep h batch.batchId batch.resourceKey
      "workspace recovery replay found abandoned batch" (replay failure)
    return ()
  | .recovering => do
    let failure ← replayFailure C batch
    let _ ← recordRecoveryDesiredStep h batch.batchId "workspace recovery replay" (replay failure)
    return ()
  | .failed | .recoveryFailed => do
    let _ ← recordRecoveryDesiredStep h batch.batchId "workspace recovery replay" (replay none)
    return ()
  | .succeeded => recordAbandonedSucceededStep h batch
  | _ => .ret ()

/-- `_prepare_workspace_recovery_batch`. -/
def prepareReplayBatch (C : Coordinator φ ω) (h : LeaseHolder) (batch : BatchRow Payload) :
    Op φ ω (BatchRow Payload) := do
  markForReplay C h batch
  let updated ← getBatch batch.batchId
  match updated with
  | some row => return row
  | none => .raise (.safeWorkspace ("recovery batch " ++ pyRepr batch.batchId ++ " disappeared"))

/-! ## Releasing claims -/

/-- The batches that wait for recovery beside this one, by claim and by scope:
`_pending_recovery_batch_ids_by_claim` and `_pending_recovery_batch_ids_by_owner_scope`. -/
def pendingByClaim (pending : List (BatchRow Payload)) (batch : BatchRow Payload) : List String :=
  (pending.filter fun b => b.claimOwner = batch.claimOwner ∧ b.claimScope = batch.claimScope ∧
    b.resourceKey = batch.resourceKey).map BatchRow.batchId

def pendingByScope (pending : List (BatchRow Payload)) (batch : BatchRow Payload) : List String :=
  (pending.filter fun b => b.claimOwner = batch.claimOwner ∧ b.claimScope = batch.claimScope).map
    BatchRow.batchId

/-- `release_if_owner_scope_matches` of a claim that is there. -/
def releaseFound (h : LeaseHolder) (owner : String) (scope : Option String) (claim : ClaimRecord) : Op φ ω Unit :=
  releaseIfOwnerScopeMatchesStep h owner scope claim >>= fun _ => .ret ()

/-- The batch's own claim, once all batches under it are recovered. -/
def releaseOwnClaim (h : LeaseHolder) (batch : BatchRow Payload) (owner : String)
    (pending : List (BatchRow Payload)) (recovered : List String) : Op φ ω Unit :=
  if (pendingByClaim pending batch).all (· ∈ recovered) = false then .ret ()
  else do
    let claim ← readBatchClaim batch
    match claim with
    | none => .ret ()
    | some claim => releaseFound h owner batch.claimScope claim

/-- All claims of the batch's scope, once all batches of the scope are recovered. -/
def releaseScopeClaims (h : LeaseHolder) (batch : BatchRow Payload) (owner : String)
    (pending : List (BatchRow Payload)) (recovered : List String) : Op φ ω Unit :=
  if batch.claimScope = none ∨ (pendingByScope pending batch).all (· ∈ recovered) = false then .ret ()
  else do
    let claims ← listOwnedClaims owner
    .forEach (claims.filter fun c => c.scope = batch.claimScope) (releaseFound h owner batch.claimScope)

/-- `_release_recovered_batch_claims`. -/
def releaseRecoveredBatchClaims (h : LeaseHolder) (batch : BatchRow Payload) (pending : List (BatchRow Payload))
    (recovered : List String) : Op φ ω Unit :=
  match batch.claimOwner with
  | none => .ret ()
  | some owner => do
    releaseOwnClaim h batch owner pending recovered
    releaseScopeClaims h batch owner pending recovered

/-- `claim.scope.startswith("transaction-instance:")`. -/
def isTransactionScope (scope : String) : Bool := "transaction-instance:".toList.isPrefixOf scope.toList

/-- The claims `_release_orphaned_transaction_claims_without_batches` takes: of this
owner, of a transaction without batches, made under a smaller fencing token. -/
def isOrphanedClaim (lease : LeaseRecord) (runId : Option String) (ownerScopes : List (String × String))
    (claim : ClaimRecord) : Bool :=
  claim.scope.any (fun s => isTransactionScope s && (claim.owner, s) ∉ ownerScopes) &&
    claim.details.any fun d => runId.all (fun r => d.runId = some r) &&
      d.leaseFencingToken.any (· < lease.fencingToken)

/-- `_release_orphaned_transaction_claims_without_batches`. -/
def releaseOrphanedClaims (W : Workspace φ ω) (lease : LeaseRecord) (runId : Option String)
    (ownerScopes : List (String × String)) : Op φ ω Unit := do
  let claims ← listOwnedClaims W.owner
  .forEach (claims.filter (isOrphanedClaim lease runId ownerScopes)) fun claim =>
    releaseFound ⟨lease, none⟩ claim.owner claim.scope claim

/-! ## The replay -/

/-- A debt left by the cleanup is a failure of its batch. -/
def raiseCleanupDebt (debts : List CleanupDebt) : Op φ ω Unit :=
  if debts = [] then .ret () else .raise (.safeWorkspace (cleanupError debts))

/-- What follows the recovery of a batch and its diagnostics. -/
def settleRecoveredBatch (W : Workspace φ ω) (h : LeaseHolder) (batch : BatchRow Payload)
    (pending : List (BatchRow Payload)) (recovered : List String) : Op φ ω Unit := do
  releaseRecoveredBatchClaims ⟨h.lease, none⟩ batch pending recovered
  let debts ← cleanupArtifactsForBatches W (some h.lease) .recoveryCleanup [batch]
  raiseCleanupDebt debts

/-- What the replay carries from batch to batch. -/
structure ReplayState where
  lease : LeaseRecord
  recovered : List String
  failures : List (String × OperationError)

/-- `workspace.lease_store.heartbeat(lease, …)` at the start of a batch. -/
def refreshReplayLease (W : Workspace φ ω) (h : LeaseHolder) : Op φ ω LeaseRecord := do
  let renewed ← heartbeatLease W h
  match renewed with
  | some lease => return lease
  | none => .raise (.safeWorkspace ("workspace lease " ++ pyRepr W.leaseName ++ " expired during recovery replay"))

/-- `_workspace_batch_recovery_runner`: the actions run at one time, sampled when they start. -/
def replayRunner (W : Workspace φ ω) (lease : LeaseRecord) (ctx : RecoveryContext) : Op φ ω Unit := do
  let h ← atOperationTime ⟨lease, none⟩
  runRecoveryActions W.coordinator h ctx

/-- A batch that is not recovered yet: the row its recovery ends with. -/
def recoverReplayBatch (W : Workspace φ ω) (h : LeaseHolder) (batch : BatchRow Payload) :
    Op φ ω (BatchRow Payload) := do
  let prepared ← prepareReplayBatch W.coordinator h batch
  recoverBatch h prepared.batchId (replayRunner W h.lease)

/-- Up to where the batch counts as recovered: one that was before has its diagnostics first. -/
def recoveredReplayBatch (W : Workspace φ ω) (h : LeaseHolder) (batch : BatchRow Payload) :
    Op φ ω (BatchRow Payload) :=
  if batch.phase = .recoverySucceeded then do
    recordTerminalDiagnostics h batch
    return batch
  else recoverReplayBatch W h batch

/-- From there on. -/
def concludeReplayBatch (W : Workspace φ ω) (h : LeaseHolder) (batch row : BatchRow Payload)
    (pending : List (BatchRow Payload)) (recovered : List String) : Op φ ω Unit :=
  if batch.phase = .recoverySucceeded then settleRecoveredBatch W h row pending recovered
  else do
    recordTerminalDiagnostics h row
    settleRecoveredBatch W h row pending recovered

/-- The body of the loop once the lease is renewed: the recovered ids, and what was raised if anything was. -/
def replayRenewedBatch (W : Workspace φ ω) (h : LeaseHolder) (batch : BatchRow Payload)
    (pending : List (BatchRow Payload)) (recovered : List String) :
    Op φ ω (List String × Option OperationError) := do
  let row ← (recoveredReplayBatch W h batch).outcome
  match row with
  | .error e => return (recovered, some e)
  | .ok row => do
    let recovered := row.batchId :: recovered
    let settled ← (concludeReplayBatch W h batch row pending recovered).outcome
    match settled with
    | .ok _ => return (recovered, none)
    | .error e => return (recovered, some e)

/-- One batch of the loop. -/
def replayBatch (W : Workspace φ ω) (pending : List (BatchRow Payload)) (s : ReplayState)
    (batch : BatchRow Payload) : Op φ ω ReplayState := do
  let h ← atOperationTime ⟨s.lease, none⟩
  let renewed ← (refreshReplayLease W h).outcome
  match renewed with
  | .error e => return { s with failures := s.failures ++ [(batch.batchId, e)] }
  | .ok lease => do
    let (recovered, error) ← replayRenewedBatch W { h with lease := lease } batch pending s.recovered
    return ⟨lease, recovered, s.failures ++ (error.map fun e => (batch.batchId, e)).toList⟩

/-- `for batch in batches`. -/
def replayBatches (W : Workspace φ ω) (pending : List (BatchRow Payload)) :
    ReplayState → List (BatchRow Payload) → Op φ ω ReplayState
  | s, [] => return s
  | s, batch :: rest => do
    let s ← replayBatch W pending s batch
    replayBatches W pending s rest

/-- The list of all batches, whose owners and scopes decide about claims without
batches; it is entered into the record of scans. -/
def scanBatches (lease : LeaseRecord) (runId : Option String) : Op φ ω (List (String × String)) :=
  transaction fun _ w =>
    let ownerScopes := batchOwnerScopes (listBatchRows w.journal none)
    .ok (ownerScopes, { w with scans := ⟨lease, runId, ownerScopes⟩ :: w.scans })

/-- `recover_pending_workspace_batches` under its lease. -/
def replayUnderLease (W : Workspace φ ω) (runId : Option String) (lease : LeaseRecord) :
    Op φ ω (List (String × OperationError)) := do
  let all ← listBatches runId
  let ownerScopes ← scanBatches lease runId
  let found ← filterPending all
  let pending := newestFirst found
  let s ← replayBatches W pending ⟨lease, [], []⟩ pending
  releaseOrphanedClaims W s.lease runId ownerScopes
  return s.failures

/-- `recover_pending_workspace_batches`: `none` where everything was recovered. -/
def recoverPendingWorkspaceBatches (W : Workspace φ ω) (runId : Option String) :
    Op φ ω (Option OperationError) := do
  let lease ← acquireLease W none
  if lease.acquired = false then return some (.safeWorkspace (leaseIsHeld W lease))
  else do
    let failures ← (replayUnderLease W runId lease).finallyDo
      (releaseHeldLease ⟨lease, none⟩ >>= fun _ => .ret ())
    if failures = [] then return none
    else return some (.safeWorkspace (rollbackFailureMessage failures))

end SafeFsOps
