import SafeFsOps.PythonText
import SafeFsOps.Tables
import SafeFsOps.WorkspaceState.Leases

/-!
# Resource claims

`ClaimStore` of `workspace_state/claims.py`: one row for each claimed resource,
with its owner, an optional scope, and details that name the lease the claim was
made under. Claims say who owns a resource over time; they carry no authority of
their own, so every write wants a current lease, and a *release* wants either one
or the very lease record the claim is bound to (a holder may give up its claims
after its lease is gone).

Details are JSON text. The store compares them as a whole and reads six keys of
them; `ClaimDetails` has those keys and `rest` for all other text.
-/

namespace SafeFsOps

/-- The details of a claim: the keys the code reads, and the rest of the text. -/
structure ClaimDetails where
  claimId : Option String
  leaseName : Option String
  leaseOwner : Option String
  leaseTokenDigest : Option TokenDigest
  leaseFencingToken : Option Nat
  runId : Option String
  rest : String
deriving DecidableEq

/-- `ClaimRecord`, which is also a row of `workspace_resource_claims`. -/
structure ClaimRecord where
  resourceKey : String
  owner : String
  scope : Option String
  details : Option ClaimDetails
  createdAt : DateTime
  updatedAt : DateTime
deriving DecidableEq

/-- The table `workspace_resource_claims`. -/
abbrev ClaimTable := List ClaimRecord

/-- What a claim write raises. -/
inductive ClaimError where
  | leaseLost (message : String)
  | claimConflict (message : String) (existing : ClaimRecord)
  | valueError (message : String)
deriving DecidableEq

/-- `lease_claim_details_payload`. -/
def leaseClaimDetailsPayload (lease : LeaseRecord) (claimId : String) (runId : Option String) (rest : String) :
    ClaimDetails where
  claimId := some claimId
  leaseName := some lease.name
  leaseOwner := some lease.owner
  leaseTokenDigest := some (SafeFsOps.leaseTokenDigest lease)
  leaseFencingToken := some lease.fencingToken
  runId := runId
  rest := rest

/-- `_validate_required`. -/
def validateClaimText (name value : String) : Except ClaimError Unit :=
  require (value ≠ "") (.valueError (name ++ " must be non-empty"))

/-- `require_current_lease`, for a claim write. -/
def requireLeaseForClaim (leases : LeaseTable) (lease : LeaseRecord) (now : DateTime) :
    Except ClaimError Unit :=
  require (leaseIsCurrent leases lease now = true)
    (.leaseLost ("lease " ++ pyRepr lease.name ++ " is no longer current"))

/-- `ClaimStore.get`. -/
def getClaim (t : ClaimTable) (resourceKey : String) : Option ClaimRecord :=
  findRow ClaimRecord.resourceKey t resourceKey

/-- `ClaimStore.create`. -/
def createClaim (leases : LeaseTable) (t : ClaimTable) (resourceKey : String) (lease : LeaseRecord)
    (owner : String) (scope : Option String) (details : Option ClaimDetails) (now : DateTime) :
    Except ClaimError (ClaimRecord × ClaimTable) := do
  validateClaimText "resource_key" resourceKey
  validateClaimText "owner" owner
  requireLeaseForClaim leases lease now
  match getClaim t resourceKey with
  | some existing =>
    .error (.claimConflict ("resource " ++ pyRepr resourceKey ++ " is already claimed") existing)
  | none =>
    let row : ClaimRecord := ⟨resourceKey, owner, scope, details, now, now⟩
    return (row, t ++ [row])

/-- `ClaimStore.upsert`. -/
def upsertClaim (leases : LeaseTable) (t : ClaimTable) (resourceKey : String) (lease : LeaseRecord)
    (owner : String) (scope : Option String) (details : Option ClaimDetails) (now : DateTime) :
    Except ClaimError (ClaimRecord × ClaimTable) := do
  validateClaimText "resource_key" resourceKey
  validateClaimText "owner" owner
  requireLeaseForClaim leases lease now
  match getClaim t resourceKey with
  | some existing =>
    require (existing.owner = owner ∧ existing.scope = scope)
      (.claimConflict ("resource " ++ pyRepr resourceKey ++ " is claimed by " ++ pyRepr existing.owner) existing)
    let row := { existing with details := details, updatedAt := now }
    return (row, updateRow ClaimRecord.resourceKey t resourceKey fun _ => row)
  | none =>
    let row : ClaimRecord := ⟨resourceKey, owner, scope, details, now, now⟩
    return (row, t ++ [row])

/-- `ORDER BY resource_key`. -/
def insertClaimByKey (c : ClaimRecord) : List ClaimRecord → List ClaimRecord
  | [] => [c]
  | d :: t => if c.resourceKey < d.resourceKey then c :: d :: t else d :: insertClaimByKey c t

/-- `ClaimStore.list_claims`. -/
def listClaims (t : ClaimTable) (owner : Option String) : List ClaimRecord :=
  (t.filter fun c => owner.all (· = c.owner)).foldr insertClaimByKey []

/-- The rows `_release_claim_in_connection` deletes. -/
def releaseMatches (resourceKey owner : String) (scope : Option String) (expected : Option ClaimRecord)
    (row : ClaimRecord) : Bool :=
  row.resourceKey = resourceKey ∧ row.owner = owner ∧ row.scope = scope ∧
    expected.all fun e => row.details = e.details ∧ row.createdAt.isoformat = e.createdAt.isoformat ∧
      row.updatedAt.isoformat = e.updatedAt.isoformat

/-- `_release_claim_in_connection`: whether exactly one row went. -/
def releaseClaimInConnection (t : ClaimTable) (resourceKey owner : String) (scope : Option String)
    (expected : Option ClaimRecord) : Bool × ClaimTable :=
  ((t.filter (releaseMatches resourceKey owner scope expected)).length = 1,
    t.filter fun row => ¬ releaseMatches resourceKey owner scope expected row)

/-- `expected_claim.resource_key must match resource_key`. -/
def requireExpectedKey (expected : Option ClaimRecord) (resourceKey : String) : Except ClaimError Unit :=
  require (expected.all fun e => e.resourceKey = resourceKey)
    (.valueError "expected_claim.resource_key must match resource_key")

/-- `ClaimStore.release`. -/
def releaseClaim (leases : LeaseTable) (t : ClaimTable) (resourceKey : String) (lease : LeaseRecord)
    (owner : String) (scope : Option String) (expected : Option ClaimRecord) (now : DateTime) :
    Except ClaimError (Bool × ClaimTable) := do
  validateClaimText "resource_key" resourceKey
  validateClaimText "owner" owner
  requireExpectedKey expected resourceKey
  requireLeaseForClaim leases lease now
  return releaseClaimInConnection t resourceKey owner scope expected

/-- `_claim_matches_lease_authority`: the claim was made under this lease record. -/
def claimMatchesLeaseAuthority (claim : ClaimRecord) (lease : LeaseRecord) : Bool :=
  match claim.details with
  | none => false
  | some d =>
    d.claimId.any (· ≠ "") ∧ d.leaseName = some lease.name ∧ d.leaseOwner = some lease.owner ∧
      d.leaseTokenDigest = some (leaseTokenDigest lease) ∧ d.leaseFencingToken = some lease.fencingToken

/-- `ClaimStore.release_if_owner_scope_matches`. -/
def releaseIfOwnerScopeMatches (leases : LeaseTable) (t : ClaimTable) (resourceKey : String)
    (lease : LeaseRecord) (owner : String) (scope : Option String) (expected : Option ClaimRecord)
    (now : DateTime) : Except ClaimError (Bool × ClaimTable) := do
  validateClaimText "resource_key" resourceKey
  validateClaimText "owner" owner
  match expected with
  | none => .error (.valueError "expected_claim is required for claim release")
  | some e =>
    requireExpectedKey (some e) resourceKey
    require (leaseIsCurrent leases lease now = true ∨ claimMatchesLeaseAuthority e lease = true)
      (.valueError "claim release requires current lease or lease-bound expected_claim")
    return releaseClaimInConnection t resourceKey owner scope (some e)

/-! ## What the writes do -/

section Writes

variable {leases : LeaseTable} {t t' : ClaimTable} {key owner : String} {scope : Option String}
  {details : Option ClaimDetails} {lease : LeaseRecord} {now : DateTime}

/-- A claim is created by appending one row under a new key. -/
theorem createClaim_ok {row : ClaimRecord}
    (h : createClaim leases t key lease owner scope details now = .ok (row, t')) :
    leaseIsCurrent leases lease now = true ∧ getClaim t key = none ∧
      row = ⟨key, owner, scope, details, now, now⟩ ∧ t' = t ++ [row] := by
  simp only [createClaim, bind_eq_ok] at h
  obtain ⟨_, -, _, -, _, hcur, h⟩ := h
  cases hk : getClaim t key with
  | some existing => simp [hk] at h
  | none =>
    simp only [hk, pure_eq_ok, Prod.mk.injEq] at h
    obtain ⟨rfl, rfl⟩ := h
    exact ⟨require_eq_ok.1 hcur, rfl, rfl, rfl⟩

/-- Releasing keeps every row that does not match and drops every row that does. -/
theorem mem_releaseClaimInConnection {expected : Option ClaimRecord} {c : ClaimRecord} :
    c ∈ (releaseClaimInConnection t key owner scope expected).2 ↔
      c ∈ t ∧ releaseMatches key owner scope expected c = false := by
  simp [releaseClaimInConnection]

theorem releaseClaim_ok {expected : Option ClaimRecord} {released : Bool}
    (h : releaseClaim leases t key lease owner scope expected now = .ok (released, t')) :
    leaseIsCurrent leases lease now = true ∧
      (released, t') = releaseClaimInConnection t key owner scope expected := by
  simp only [releaseClaim, bind_eq_ok, pure_eq_ok] at h
  obtain ⟨_, -, _, -, _, -, _, hcur, h⟩ := h
  exact ⟨require_eq_ok.1 hcur, h.symm⟩

theorem releaseIfOwnerScopeMatches_ok {expected : Option ClaimRecord} {released : Bool}
    (h : releaseIfOwnerScopeMatches leases t key lease owner scope expected now = .ok (released, t')) :
    ∃ e, expected = some e ∧ e.resourceKey = key ∧
      (leaseIsCurrent leases lease now = true ∨ claimMatchesLeaseAuthority e lease = true) ∧
      (released, t') = releaseClaimInConnection t key owner scope (some e) := by
  simp only [releaseIfOwnerScopeMatches, bind_eq_ok] at h
  obtain ⟨_, -, _, -, h⟩ := h
  cases expected with
  | none => cases h
  | some e =>
    simp only [bind_eq_ok, pure_eq_ok] at h
    obtain ⟨_, hkey, _, hauth, h⟩ := h
    exact ⟨e, rfl, by simpa [requireExpectedKey] using hkey, require_eq_ok.1 hauth, h.symm⟩

end Writes

end SafeFsOps
