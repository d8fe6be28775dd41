import SafeFsOps.Workspace.ArtifactCleanup

/-!
# Transactions: what they are, and what they carry along

`workspace_transaction.py`, `workspace_transaction_state.py` and `resources.py`: a
transaction holds a lease of its workspace and a claim on each of its resources,
in a scope of its own, named after a random instance id. While it runs it
remembers its claims in the order in which it made them, how many keys it has
generated, and which operation runs its calls were linked to.
-/

namespace SafeFsOps

variable {φ ω : Type}

/-- `ResourceHandle`. -/
structure ResourceHandle where
  resourceKey : String
  kind : String
  label : Option String
deriving DecidableEq

/-- `ResourceSet`: no two resources under one key. -/
structure ResourceSet where
  members : List ResourceHandle
  keysNodup : (members.map ResourceHandle.resourceKey).Nodup

/-- `resources.sorted`. -/
def ResourceSet.sorted (s : ResourceSet) : List ResourceHandle :=
  s.members.insertionSort fun a b => a.resourceKey ≤ b.resourceKey

/-- `rollback`. -/
inductive RollbackMode where
  | recordOnly | automatic
deriving DecidableEq

def RollbackMode.text : RollbackMode → String
  | recordOnly => "record-only"
  | automatic => "automatic"

/-- `SafeTransaction`, before it is entered. `remembered` is what its two tables of
claims hold then: nothing, unless an `__enter__` has failed before and could not give
up the claims it had taken. -/
structure Transaction (φ ω : Type) where
  workspace : Workspace φ ω
  name : String
  resources : ResourceSet
  runId : String
  rollback : RollbackMode
  now : Option DateTime
  instanceId : String
  remembered : List ClaimRecord := []

namespace Transaction

/-- `claim_scope`. -/
def claimScope (T : Transaction φ ω) : String := "transaction-instance:" ++ T.instanceId

/-- `self.workspace.owner`. -/
def owner (T : Transaction φ ω) : String := T.workspace.owner

end Transaction

/-- The fields of an entered transaction; the claims are in the order they were made. -/
structure TransactionState where
  lease : LeaseRecord
  claims : List ClaimRecord
  operationIndex : Nat
  operationRun : Option (OperationRunRow Payload)
  operationPhase : Option (OperationPhaseRow Payload)
  touchedRuns : List String
  touchedPhases : List String

namespace TransactionState

/-- A transaction that has its lease, and nothing else yet but the claims it remembers. -/
def start (remembered : List ClaimRecord) (lease : LeaseRecord) : TransactionState :=
  ⟨lease, remembered, 0, none, none, [], []⟩

/-- `remember_claim`: a claim under a known key replaces the old one in its place. -/
def remember (s : TransactionState) (claim : ClaimRecord) : TransactionState :=
  if s.claims.any fun c => c.resourceKey = claim.resourceKey then
    { s with claims := updateRow ClaimRecord.resourceKey s.claims claim.resourceKey fun _ => claim }
  else { s with claims := s.claims ++ [claim] }

/-- `remember_touched_operation_links`. -/
def touch (s : TransactionState) (operationRunId operationPhaseId : Option String) : TransactionState :=
  { s with
    touchedRuns := (s.touchedRuns ++ operationRunId.toList).dedup
    touchedPhases := (s.touchedPhases ++ operationPhaseId.toList).dedup }

end TransactionState

/-! ## Claims of a transaction -/

/-- What a transaction calls under: its lease, at the time given to the call or to
the transaction. -/
def Transaction.holder (T : Transaction φ ω) (s : TransactionState) (now : Option DateTime) : LeaseHolder :=
  ⟨s.lease, now.or T.now⟩

/-- `claim_store.upsert(…, details=claim_details(…))`. -/
def upsertClaimStep (T : Transaction φ ω) (h : LeaseHolder) (resourceKey kind : String) : Op φ ω ClaimRecord :=
  transaction fun i w =>
    let details := leaseClaimDetailsPayload h.lease i.generated (some T.runId) kind
    match upsertClaim w.journal.leases w.claims resourceKey h.lease T.owner (some T.claimScope) (some details)
        (h.operationTime i) with
    | .ok (claim, claims) => .ok (claim, { w with claims := claims })
    | .error e => .error (.claim e)

/-- `_claim_directory_resource`. -/
def claimDirectoryResource (T : Transaction φ ω) (s : TransactionState) (resourceKey : String)
    (now : Option DateTime) : Op φ ω TransactionState :=
  if s.claims.any fun c => c.resourceKey = resourceKey then return s
  else do
    let claim ← upsertClaimStep T (T.holder s now) resourceKey "directory"
    return s.remember claim

/-- One claim of `_release_claims_at`: under the lease, else by owner and scope; a
claim that is gone is none to release. -/
def releaseTransactionClaim (T : Transaction φ ω) (h : LeaseHolder) (claim : ClaimRecord) : Op φ ω Unit := do
  let released ← (releaseClaimStep h T.owner (some T.claimScope) claim).onRaise fun e =>
    if e.isLeaseLost then releaseIfOwnerScopeMatchesStep h T.owner (some T.claimScope) claim else .raise e
  if released then .ret ()
  else do
    let current ← readClaim claim.resourceKey
    if current.isNone then .ret () else .raise (.claimRelease ("claim " ++ pyRepr claim.resourceKey ++
      " could not be released for owner " ++ pyRepr T.owner))

/-! ## Entering and leaving, for the record -/

/-- The transaction as the record of entered transactions has it. -/
def Transaction.live (T : Transaction φ ω) (lease : LeaseRecord) : LiveTransaction :=
  ⟨T.owner, T.claimScope, T.runId, lease⟩

/-- `self._entered = True`. -/
def markEntered (T : Transaction φ ω) (lease : LeaseRecord) : Op φ ω Unit :=
  .call fun _ w => (.ok (), { w with live := T.live lease :: w.live })

/-- `self._entered = False`. -/
def markLeft (T : Transaction φ ω) (lease : LeaseRecord) : Op φ ω Unit :=
  .call fun _ w => (.ok (), { w with live := w.live.filter (· ≠ T.live lease) })

end SafeFsOps
