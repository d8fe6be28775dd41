import SafeFsOps.WorkspaceState.Sessions

/-!
# Two storage back ends

Every method of `LeaseStore` and `ClaimStore` is written twice: as statements on a
connection of `sqlite3`, which `Leases.lean` and `Claims.lean` have, and through a
session of SQLAlchemy, with other row counts and other read-backs. Here are the
second ones, and both as one machine over the calls.

> `orm_call`: a call answers and leaves the same through either.
> `backends_agree`: so does every sequence of calls, at each of its steps.
-/

namespace SafeFsOps

/-- What a method of a store raises, by its class. -/
inductive StoreError where
  | valueError (message : String)
  | overflowError
  | leaseLost (message : String)
  | claimConflict (message : String) (existing : ClaimRecord)
  | runtimeError (message : String)
  | integrityError
deriving DecidableEq

def LeaseError.toStoreError : LeaseError → StoreError
  | nonPositiveTtl => .valueError "lease ttl must be positive"
  | overflow => .overflowError

def ClaimError.toStoreError : ClaimError → StoreError
  | leaseLost message => .leaseLost message
  | claimConflict message existing => .claimConflict message existing
  | valueError message => .valueError message

def FlushError.toStoreError : FlushError → StoreError
  | integrity => .integrityError

/-- A transaction: what it answers, and the rows it commits, if it does not raise. -/
def StateTables.commit {α : Type} (t : StateTables) (y : Except StoreError (α × StateTables)) :
    Except StoreError α × StateTables :=
  match y with
  | .ok (a, t') => (.ok a, t')
  | .error e => (.error e, t)

/-- What `create`, `upsert` and `conflict_for` check of their arguments. -/
def claimChecks (resourceKey owner : String) : Except ClaimError Unit := do
  validateClaimText "resource_key" resourceKey
  validateClaimText "owner" owner

/-- What `release` checks. -/
def releaseChecks (resourceKey owner : String) (expected : Option ClaimRecord) : Except ClaimError Unit := do
  validateClaimText "resource_key" resourceKey
  validateClaimText "owner" owner
  requireExpectedKey expected resourceKey

/-- What `release_if_owner_scope_matches` checks. -/
def releaseIfChecks (resourceKey owner : String) (expected : Option ClaimRecord) : Except ClaimError Unit := do
  validateClaimText "resource_key" resourceKey
  validateClaimText "owner" owner
  require (expected.isSome = true) (.valueError "expected_claim is required for claim release")
  requireExpectedKey expected resourceKey

/-! ## Through a session -/

namespace OrmSession

variable {S α : Type} (O : OrmSession S)

/-- `immediate_session_scope`, and `session_scope`: a flush and a commit, or a rollback. -/
def sessionScope (t : StateTables) (body : S → Except StoreError (α × S)) : Except StoreError α × StateTables :=
  match body (O.start t) with
  | .error e => (.error e, t)
  | .ok (a, s) =>
    match O.flush s with
    | .error e => (.error e.toStoreError, t)
    | .ok s => (.ok a, O.rows s)

/-- The condition on a lease row that all but `acquire` share. -/
def leaseCondition (lease : LeaseRecord) (now : DateTime) (row : LeaseRow) : Bool :=
  row.owner = lease.owner ∧ row.token = lease.token ∧ row.fencingToken = lease.fencingToken ∧
    now.isoformat < row.expiresAt.isoformat

/-- What `LeaseStore.acquire` does where the lease has no row. -/
def acquireNew (t : StateTables) (s : S) (name : String) (first : LeaseRow) : Except StoreError (LeaseRecord × S) :=
  match O.flush (O.addLease s name first) with
  | .ok s => .ok (leaseFromRow name first true true, s)
  | .error e =>
    -- somebody else was first: what is committed is read in a session of its own
    match O.getLease (O.start t) name with
    | (none, _) => .error e.toStoreError
    | (some current, _) => .ok (leaseFromRow name current false false, O.rollback (O.addLease s name first))

/-- The values under which an expired lease is taken over. -/
def takeOver (owner token : String) (now expiresAt : DateTime) (row : LeaseRow) : LeaseRow where
  owner := owner
  token := token
  fencingToken := row.fencingToken + 1
  acquiredAt := now
  heartbeatAt := now
  expiresAt := expiresAt

/-- What it does where the row has expired. -/
def acquireExpired (s : S) (name owner token : String) (now expiresAt : DateTime) :
    Except StoreError (LeaseRecord × S) :=
  let (count, s) := O.updateLease s name (fun row => row.expiresAt.isoformat ≤ now.isoformat)
    (takeOver owner token now expiresAt)
  if count ≠ 1 then
    match O.getLease s name with
    | (none, _) => .error (.runtimeError "lease disappeared during acquisition")
    | (some current, s) => .ok (leaseFromRow name current false false, s)
  else
    match O.flush s with
    | .error e => .error e.toStoreError
    | .ok s =>
      match O.getLease s name with
      | (none, _) => .error (.runtimeError "lease acquisition did not produce a row")
      | (some row, s) => .ok (leaseFromRow name row true true, s)

/-- `LeaseStore.acquire`. -/
def acquire (t : StateTables) (name owner : String) (ttl : Int) (token : Option String) (generated : String)
    (now : DateTime) : Except StoreError LeaseRecord × StateTables :=
  if ttl ≤ 0 then (.error (.valueError "lease ttl must be positive"), t)
  else match now.add ttl with
    | none => (.error .overflowError, t)
    | some expiresAt =>
      O.sessionScope t fun s =>
        match O.getLease s name with
        | (some row, s) =>
          if now < row.expiresAt then .ok (leaseFromRow name row false false, s)
          else O.acquireExpired s name owner (tokenOr token generated) now expiresAt
        | (none, s) =>
          O.acquireNew t s name
            { owner := owner, token := tokenOr token generated, fencingToken := 1
              acquiredAt := now, heartbeatAt := now, expiresAt := expiresAt }

/-- `LeaseStore.active`. -/
def active (t : StateTables) (name : String) (now : DateTime) : Except StoreError (Option LeaseRecord) × StateTables :=
  O.sessionScope t fun s =>
    match O.getLease s name with
    | (none, s) => .ok (none, s)
    | (some row, s) =>
      let record := leaseFromRow name row false false
      .ok (if now < record.expiresAt then some record else none, s)

/-- `LeaseStore.heartbeat`. -/
def heartbeat (t : StateTables) (lease : LeaseRecord) (ttl : Int) (now : DateTime) :
    Except StoreError (Option LeaseRecord) × StateTables :=
  if ttl ≤ 0 then (.error (.valueError "lease ttl must be positive"), t)
  else match now.add ttl with
    | none => (.error .overflowError, t)
    | some expiresAt =>
      O.sessionScope t fun s =>
        let (count, s) := O.updateLease s lease.name (leaseCondition lease now) fun row =>
          { row with heartbeatAt := now, expiresAt := expiresAt }
        if count ≠ 1 then .ok (none, s)
        else
          match O.getLease s lease.name with
          | (none, _) => .error (.runtimeError "lease disappeared during heartbeat")
          | (some row, s) => .ok (some (leaseFromRow lease.name row false true), s)

/-- `LeaseStore.is_current`; in a claim write, `_lease_is_current_orm`. -/
def isCurrent (t : StateTables) (lease : LeaseRecord) (now : DateTime) : Except StoreError Bool × StateTables :=
  O.sessionScope t fun s => .ok (O.selectLease s lease.name (leaseCondition lease now))

/-- `LeaseStore.require_current`. -/
def requireCurrent (t : StateTables) (lease : LeaseRecord) (now : DateTime) : Except StoreError Unit × StateTables :=
  match O.isCurrent t lease now with
  | (.error e, t) => (.error e, t)
  | (.ok current, t) =>
    (require (current = true) (.leaseLost ("lease " ++ pyRepr lease.name ++ " is no longer current")), t)

/-- `LeaseStore.release`. -/
def releaseLease (t : StateTables) (lease : LeaseRecord) (generated : String) (now : DateTime) :
    Except StoreError Bool × StateTables :=
  O.sessionScope t fun s =>
    let (count, s) := O.updateLease s lease.name (leaseCondition lease now) fun row =>
      { row with heartbeatAt := now, expiresAt := now, token := generated }
    .ok (decide (count = 1), s)

/-- `_require_current_lease_orm`. -/
def requireCurrentLease (s : S) (lease : LeaseRecord) (now : DateTime) : Except StoreError S :=
  let (current, s) := O.selectLease s lease.name (leaseCondition lease now)
  if current then .ok s else .error (.leaseLost ("lease " ++ pyRepr lease.name ++ " is no longer current"))

/-- The object of a key, read again after a flush. -/
def readBack (s : S) (key what : String) : Except StoreError (ClaimRecord × S) :=
  match O.getClaim s key with
  | (none, _) => .error (.runtimeError (what ++ " did not produce a row"))
  | (some row, s) => .ok (row, s)

/-- `ClaimStore.create`. -/
def createClaim (t : StateTables) (resourceKey : String) (lease : LeaseRecord) (owner : String)
    (scope : Option String) (details : Option ClaimDetails) (now : DateTime) :
    Except StoreError ClaimRecord × StateTables :=
  match claimChecks resourceKey owner with
  | .error e => (.error e.toStoreError, t)
  | .ok () =>
    O.sessionScope t fun s => do
      let conflict (existing : ClaimRecord) : StoreError :=
        .claimConflict ("resource " ++ pyRepr resourceKey ++ " is already claimed") existing
      let s ← O.requireCurrentLease s lease now
      match O.getClaim s resourceKey with
      | (some existing, _) => .error (conflict existing)
      | (none, s) =>
        let added := O.addClaim s ⟨resourceKey, owner, scope, details, now, now⟩
        match O.flush added with
        | .ok s => O.readBack s resourceKey "claim creation"
        | .error e =>
          match O.getClaim (O.rollback added) resourceKey with
          | (none, _) => .error e.toStoreError
          | (some existing, _) => .error (conflict existing)

/-- `_conflicts`. -/
def conflicts (existing : ClaimRecord) (owner : String) (scope : Option String) : Bool :=
  existing.owner ≠ owner ∨ existing.scope ≠ scope

/-- `ClaimStore.upsert`. -/
def upsertClaim (t : StateTables) (resourceKey : String) (lease : LeaseRecord) (owner : String)
    (scope : Option String) (details : Option ClaimDetails) (now : DateTime) :
    Except StoreError ClaimRecord × StateTables :=
  match claimChecks resourceKey owner with
  | .error e => (.error e.toStoreError, t)
  | .ok () =>
    O.sessionScope t fun s => do
      let s ← O.requireCurrentLease s lease now
      match O.getClaim s resourceKey with
      | (none, s) =>
        let s ← (O.flush (O.addClaim s ⟨resourceKey, owner, scope, details, now, now⟩)).mapError FlushError.toStoreError
        O.readBack s resourceKey "claim upsert"
      | (some existing, s) =>
        if conflicts existing owner scope then
          .error (.claimConflict ("resource " ++ pyRepr resourceKey ++ " is claimed by " ++ pyRepr existing.owner)
            existing)
        else
          let assigned := O.assignClaim s resourceKey fun row => { row with details := details, updatedAt := now }
          let s ← (O.flush assigned).mapError FlushError.toStoreError
          O.readBack s resourceKey "claim upsert"

/-- `ClaimStore.get`. -/
def claim (t : StateTables) (resourceKey : String) : Except StoreError (Option ClaimRecord) × StateTables :=
  O.sessionScope t fun s => .ok (O.getClaim s resourceKey)

/-- `ClaimStore.list_claims`. -/
def listClaims (t : StateTables) (owner : Option String) : Except StoreError (List ClaimRecord) × StateTables :=
  O.sessionScope t fun s => .ok (O.selectClaims s fun c => owner.all (· = c.owner))

/-- `_release_claim_orm`. -/
def releaseClaimIn (s : S) (resourceKey owner : String) (scope : Option String) (expected : Option ClaimRecord) :
    Except StoreError (Bool × S) :=
  let (count, s) := O.deleteClaims s (releaseMatchesOrm resourceKey owner scope expected)
  .ok (decide (count = 1), s)

/-- `ClaimStore.release`. -/
def releaseClaim (t : StateTables) (resourceKey : String) (lease : LeaseRecord) (owner : String)
    (scope : Option String) (expected : Option ClaimRecord) (now : DateTime) : Except StoreError Bool × StateTables :=
  match releaseChecks resourceKey owner expected with
  | .error e => (.error e.toStoreError, t)
  | .ok () =>
    O.sessionScope t fun s => do
      let s ← O.requireCurrentLease s lease now
      O.releaseClaimIn s resourceKey owner scope expected

/-- `ClaimStore.release_if_owner_scope_matches`. -/
def releaseIfOwnerScopeMatches (t : StateTables) (resourceKey : String) (lease : LeaseRecord) (owner : String)
    (scope : Option String) (expected : Option ClaimRecord) (now : DateTime) : Except StoreError Bool × StateTables :=
  match releaseIfChecks resourceKey owner expected with
  | .error e => (.error e.toStoreError, t)
  | .ok () =>
    O.sessionScope t fun s =>
      let (current, s) := O.selectLease s lease.name (leaseCondition lease now)
      if current ∨ expected.any (claimMatchesLeaseAuthority · lease) then
        O.releaseClaimIn s resourceKey owner scope expected
      else .error (.valueError "claim release requires current lease or lease-bound expected_claim")

end OrmSession

/-! ## The two machines -/

/-- A call of a method of either store, with its clock sample and what it may draw. -/
inductive StoreCall where
  | acquire (name owner : String) (ttl : Int) (token : Option String) (generated : String) (now : DateTime)
  | active (name : String) (now : DateTime)
  | heartbeat (lease : LeaseRecord) (ttl : Int) (now : DateTime)
  | isCurrent (lease : LeaseRecord) (now : DateTime)
  | requireCurrent (lease : LeaseRecord) (now : DateTime)
  | releaseLease (lease : LeaseRecord) (generated : String) (now : DateTime)
  | createClaim (resourceKey : String) (lease : LeaseRecord) (owner : String) (scope : Option String)
      (details : Option ClaimDetails) (now : DateTime)
  | upsertClaim (resourceKey : String) (lease : LeaseRecord) (owner : String) (scope : Option String)
      (details : Option ClaimDetails) (now : DateTime)
  | getClaim (resourceKey : String)
  | conflictFor (resourceKey owner : String) (scope : Option String)
  | listClaims (owner : Option String)
  | releaseClaim (resourceKey : String) (lease : LeaseRecord) (owner : String) (scope : Option String)
      (expected : Option ClaimRecord) (now : DateTime)
  | releaseIfOwnerScopeMatches (resourceKey : String) (lease : LeaseRecord) (owner : String) (scope : Option String)
      (expected : Option ClaimRecord) (now : DateTime)

/-- What a method answers with. -/
inductive StoreAnswer where
  | nothing
  | lease (record : Option LeaseRecord)
  | claim (record : Option ClaimRecord)
  | claims (records : List ClaimRecord)
  | truth (b : Bool)
deriving DecidableEq

/-- An answer, and the rows left. -/
def answering {α : Type} (f : α → StoreAnswer) (r : Except StoreError α × StateTables) :
    Except StoreError StoreAnswer × StateTables :=
  (r.1.map f, r.2)

/-- `ClaimStore.conflict_for`, around `get`. -/
def conflictFor (get : Except StoreError (Option ClaimRecord) × StateTables) (t : StateTables)
    (resourceKey owner : String) (scope : Option String) : Except StoreError (Option ClaimRecord) × StateTables :=
  match claimChecks resourceKey owner with
  | .error e => (.error e.toStoreError, t)
  | .ok () => (get.1.map fun existing => existing.filter (OrmSession.conflicts · owner scope), get.2)

/-- Through sessions. -/
def OrmSession.call {S : Type} (O : OrmSession S) (t : StateTables) :
    StoreCall → Except StoreError StoreAnswer × StateTables
  | .acquire name owner ttl token generated now =>
    answering (fun l => .lease (some l)) (O.acquire t name owner ttl token generated now)
  | .active name now => answering .lease (O.active t name now)
  | .heartbeat lease ttl now => answering .lease (O.heartbeat t lease ttl now)
  | .isCurrent lease now => answering .truth (O.isCurrent t lease now)
  | .requireCurrent lease now => answering (fun _ => .nothing) (O.requireCurrent t lease now)
  | .releaseLease lease generated now => answering .truth (O.releaseLease t lease generated now)
  | .createClaim key lease owner scope details now =>
    answering (fun c => .claim (some c)) (O.createClaim t key lease owner scope details now)
  | .upsertClaim key lease owner scope details now =>
    answering (fun c => .claim (some c)) (O.upsertClaim t key lease owner scope details now)
  | .getClaim key => answering .claim (O.claim t key)
  | .conflictFor key owner scope => answering .claim (conflictFor (O.claim t key) t key owner scope)
  | .listClaims owner => answering .claims (O.listClaims t owner)
  | .releaseClaim key lease owner scope expected now =>
    answering .truth (O.releaseClaim t key lease owner scope expected now)
  | .releaseIfOwnerScopeMatches key lease owner scope expected now =>
    answering .truth (O.releaseIfOwnerScopeMatches t key lease owner scope expected now)

namespace StateTables

variable {α : Type} (t : StateTables)

/-- A method of `LeaseStore` on a connection. -/
def leaseWrite (r : Except LeaseError (α × LeaseTable)) : Except StoreError α × StateTables :=
  t.commit ((r.mapError LeaseError.toStoreError).map fun (a, leases) => (a, { t with leases := leases }))

/-- A method of `ClaimStore` on a connection. -/
def claimWrite (r : Except ClaimError (α × ClaimTable)) : Except StoreError α × StateTables :=
  t.commit ((r.mapError ClaimError.toStoreError).map fun (a, claims) => (a, { t with claims := claims }))

/-- `LeaseStore.active`, on a connection. -/
def active (name : String) (now : DateTime) : Option LeaseRecord :=
  match t.leases name with
  | none => none
  | some row =>
    let record := leaseFromRow name row false false
    if now < record.expiresAt then some record else none

/-- On a connection of `sqlite3`. -/
def call : StoreCall → Except StoreError StoreAnswer × StateTables
  | .acquire name owner ttl token generated now =>
    answering (fun l => .lease (some l)) (t.leaseWrite (acquire t.leases name owner ttl token generated now))
  | .active name now => (.ok (.lease (t.active name now)), t)
  | .heartbeat lease ttl now => answering .lease (t.leaseWrite (heartbeat t.leases lease ttl now))
  | .isCurrent lease now => (.ok (.truth (leaseIsCurrent t.leases lease now)), t)
  | .requireCurrent lease now =>
    ((require (leaseIsCurrent t.leases lease now = true)
      (.leaseLost ("lease " ++ pyRepr lease.name ++ " is no longer current"))).map fun _ => .nothing, t)
  | .releaseLease lease generated now =>
    answering .truth (t.leaseWrite (.ok (releaseLease t.leases lease generated now)))
  | .createClaim key lease owner scope details now =>
    answering (fun c => .claim (some c))
      (t.claimWrite (createClaim t.leases t.claims key lease owner scope details now))
  | .upsertClaim key lease owner scope details now =>
    answering (fun c => .claim (some c))
      (t.claimWrite (upsertClaim t.leases t.claims key lease owner scope details now))
  | .getClaim key => (.ok (.claim (getClaim t.claims key)), t)
  | .conflictFor key owner scope =>
    answering .claim (conflictFor (.ok (getClaim t.claims key), t) t key owner scope)
  | .listClaims owner => (.ok (.claims (listClaims t.claims owner)), t)
  | .releaseClaim key lease owner scope expected now =>
    answering .truth (t.claimWrite (releaseClaim t.leases t.claims key lease owner scope expected now))
  | .releaseIfOwnerScopeMatches key lease owner scope expected now =>
    answering .truth (t.claimWrite (releaseIfOwnerScopeMatches t.leases t.claims key lease owner scope expected now))

end StateTables

/-- The answers of a sequence of calls, each with the rows it leaves. -/
def answersOf (call : StateTables → StoreCall → Except StoreError StoreAnswer × StateTables) :
    StateTables → List StoreCall → List (Except StoreError StoreAnswer × StateTables)
  | _, [] => []
  | t, c :: calls => call t c :: answersOf call (call t c).2 calls

/-! ## Method by method -/

namespace OrmSession

variable {S α : Type} {O : OrmSession S} {t : StateTables} {s : S}

/-- The body of a session and that of a transaction answer alike, and leave the same rows. -/
def Agrees (O : OrmSession S) (x : Except StoreError (α × S)) (y : Except StoreError (α × StateTables)) : Prop :=
  match x, y with
  | .ok (a, s), .ok (b, t) => a = b ∧ O.Sees s t
  | .error e, .error e' => e = e'
  | _, _ => False

theorem sessionScope_eq (hO : O.Lawful) {body : S → Except StoreError (α × S)} {y : Except StoreError (α × StateTables)}
    (h : ∀ s, O.Sees s t → O.Agrees (body s) y) : O.sessionScope t body = t.commit y := by
  have hbody := h _ (hO.start t)
  unfold sessionScope StateTables.commit
  cases hx : body (O.start t) with
  | error e =>
    rw [hx] at hbody
    cases y with
    | error e' =>
      obtain rfl : e = e' := hbody
      rfl
    | ok r => exact hbody.elim
  | ok r =>
    rw [hx] at hbody
    cases y with
    | error e => exact hbody.elim
    | ok r' =>
      obtain ⟨ha, hs⟩ := hbody
      obtain ⟨s', hflush, hs'⟩ := hO.flush hs
      simp only [hflush]
      rw [ha, hs'.1]

theorem leaseCondition_iff {lease : LeaseRecord} {now : DateTime} {row : LeaseRow}
    (hrow : t.leases lease.name = some row) :
    rowMatches t.leases lease now = if leaseCondition lease now row then some row else none := by
  unfold rowMatches leaseCondition
  simp only [hrow, decide_eq_true_eq]

theorem leaseCondition_some {lease : LeaseRecord} {now : DateTime} {row : LeaseRow}
    (h : rowMatches t.leases lease now = some row) :
    t.leases lease.name = some row ∧ leaseCondition lease now row = true := by
  obtain ⟨hrow, -⟩ := rowMatches_eq_some.1 h
  refine ⟨hrow, ?_⟩
  rw [leaseCondition_iff hrow] at h
  by_contra hcond
  rw [if_neg hcond] at h
  cases h

theorem leaseCondition_none {lease : LeaseRecord} {now : DateTime} (h : rowMatches t.leases lease now = none) :
    ∀ row, t.leases lease.name = some row → leaseCondition lease now row = false := by
  intro row hrow
  rw [leaseCondition_iff hrow] at h
  by_contra hcond
  rw [if_pos (Bool.not_eq_false _ ▸ hcond)] at h
  cases h

theorem acquireExpired_agrees (hO : O.Lawful) {name : String} {row : LeaseRow} (owner token : String)
    (now expiresAt : DateTime) (hs : O.Sees s t) (hrow : t.leases name = some row) :
    O.Agrees (O.acquireExpired s name owner token now expiresAt)
      (if row.expiresAt.isoformat ≤ now.isoformat then
        .ok (leaseFromRow name (takeOver owner token now expiresAt row) true true,
          { t with leases := t.leases.set name (takeOver owner token now expiresAt row) })
      else .ok (leaseFromRow name row false false, t)) := by
  unfold acquireExpired
  by_cases hexp : row.expiresAt.isoformat ≤ now.isoformat
  · rw [if_pos hexp]
    obtain ⟨s₁, hupdate, hs₁⟩ := hO.updateLease (fun row => row.expiresAt.isoformat ≤ now.isoformat)
      (takeOver owner token now expiresAt) hs hrow (decide_eq_true hexp)
    obtain ⟨s₂, hflush, hs₂⟩ := hO.flush hs₁
    obtain ⟨s₃, hget, hs₃⟩ := hO.getLease name hs₂
    simp only [LeaseTable.set_self] at hget
    simp only [hupdate, ne_eq, not_true_eq_false, if_false, hflush, hget]
    exact ⟨rfl, hs₃⟩
  · rw [if_neg hexp]
    have hnone : ∀ row', t.leases name = some row' → decide (row'.expiresAt.isoformat ≤ now.isoformat) = false := by
      intro row' hrow'
      obtain rfl : row = row' := Option.some.inj (hrow.symm.trans hrow')
      exact decide_eq_false hexp
    obtain ⟨s₁, hupdate, hs₁⟩ := hO.updateNoLease (fun row => row.expiresAt.isoformat ≤ now.isoformat)
      (takeOver owner token now expiresAt) hs hnone
    obtain ⟨s₂, hget, hs₂⟩ := hO.getLease name hs₁
    rw [hrow] at hget
    simp only [hupdate, ne_eq, Nat.zero_ne_one, not_false_eq_true, if_true, hget]
    exact ⟨rfl, hs₂⟩

theorem acquire_eq (hO : O.Lawful) (name owner : String) (ttl : Int) (token : Option String) (generated : String)
    (now : DateTime) : O.acquire t name owner ttl token generated now =
      t.leaseWrite (SafeFsOps.acquire t.leases name owner ttl token generated now) := by
  unfold acquire SafeFsOps.acquire
  split
  · rfl
  · cases hadd : now.add ttl with
    | none => rfl
    | some expiresAt =>
      refine sessionScope_eq hO fun s hs => ?_
      obtain ⟨s₁, hget, hs₁⟩ := hO.getLease name hs
      simp only [hget]
      cases hrow : t.leases name with
      | none =>
        obtain ⟨s₂, hflush, hs₂⟩ := hO.addLease ⟨owner, tokenOr token generated, 1, now, now, expiresAt⟩ hs₁ hrow
        simp only [acquireNew, hflush]
        exact ⟨rfl, hs₂⟩
      | some row =>
        by_cases hlt : now < row.expiresAt
        · simp only [hlt, if_true]
          exact ⟨rfl, hs₁⟩
        · simp only [hlt, if_false]
          have hexpired := acquireExpired_agrees hO owner (tokenOr token generated) now expiresAt hs₁ hrow
          by_cases hexp : row.expiresAt.isoformat ≤ now.isoformat
          · rw [if_pos hexp] at hexpired ⊢
            exact hexpired
          · rw [if_neg hexp] at hexpired ⊢
            exact hexpired

theorem heartbeat_eq (hO : O.Lawful) (lease : LeaseRecord) (ttl : Int) (now : DateTime) :
    O.heartbeat t lease ttl now = t.leaseWrite (SafeFsOps.heartbeat t.leases lease ttl now) := by
  unfold heartbeat SafeFsOps.heartbeat
  split
  · rfl
  · cases hadd : now.add ttl with
    | none => rfl
    | some expiresAt =>
      refine sessionScope_eq hO fun s hs => ?_
      cases hmatch : rowMatches t.leases lease now with
      | none =>
        obtain ⟨s₁, hupdate, hs₁⟩ := hO.updateNoLease (leaseCondition lease now)
          (fun row => { row with heartbeatAt := now, expiresAt := expiresAt }) hs (leaseCondition_none hmatch)
        simp only [hupdate, ne_eq, Nat.zero_ne_one, not_false_eq_true, if_true]
        exact ⟨rfl, hs₁⟩
      | some row =>
        obtain ⟨hrow, hcond⟩ := leaseCondition_some hmatch
        obtain ⟨s₁, hupdate, hs₁⟩ := hO.updateLease (leaseCondition lease now)
          (fun row => { row with heartbeatAt := now, expiresAt := expiresAt }) hs hrow hcond
        obtain ⟨s₂, hget, hs₂⟩ := hO.getLease lease.name hs₁
        simp only [LeaseTable.set_self] at hget
        simp only [hupdate, ne_eq, not_true_eq_false, if_false, hget]
        exact ⟨rfl, hs₂⟩

theorem releaseLease_eq (hO : O.Lawful) (lease : LeaseRecord) (generated : String) (now : DateTime) :
    O.releaseLease t lease generated now =
      t.leaseWrite (.ok (SafeFsOps.releaseLease t.leases lease generated now)) := by
  unfold releaseLease SafeFsOps.releaseLease
  refine sessionScope_eq hO fun s hs => ?_
  cases hmatch : rowMatches t.leases lease now with
  | none =>
    obtain ⟨s₁, hupdate, hs₁⟩ := hO.updateNoLease (leaseCondition lease now)
      (fun row => { row with heartbeatAt := now, expiresAt := now, token := generated }) hs (leaseCondition_none hmatch)
    simp only [hupdate]
    exact ⟨rfl, hs₁⟩
  | some row =>
    obtain ⟨hrow, hcond⟩ := leaseCondition_some hmatch
    obtain ⟨s₁, hupdate, hs₁⟩ := hO.updateLease (leaseCondition lease now)
      (fun row => { row with heartbeatAt := now, expiresAt := now, token := generated }) hs hrow hcond
    simp only [hupdate]
    exact ⟨rfl, hs₁⟩

/-- `select(LeaseRow.name)` under the condition finds a row exactly where the lease is current. -/
theorem selectLease_current (hO : O.Lawful) (lease : LeaseRecord) (now : DateTime) (hs : O.Sees s t) :
    ∃ s', O.selectLease s lease.name (leaseCondition lease now) = (leaseIsCurrent t.leases lease now, s') ∧
      O.Sees s' t := by
  obtain ⟨s', hselect, hs'⟩ := hO.selectLease lease.name (leaseCondition lease now) hs
  refine ⟨s', ?_, hs'⟩
  rw [hselect, leaseIsCurrent]
  cases hrow : t.leases lease.name with
  | none => simp [rowMatches, hrow]
  | some row =>
    rw [leaseCondition_iff hrow, Option.any_some]
    cases leaseCondition lease now row <;> rfl

theorem isCurrent_eq (hO : O.Lawful) (lease : LeaseRecord) (now : DateTime) :
    O.isCurrent t lease now = (.ok (leaseIsCurrent t.leases lease now), t) := by
  unfold isCurrent
  refine sessionScope_eq hO (y := .ok (leaseIsCurrent t.leases lease now, t)) fun s hs => ?_
  obtain ⟨s', hselect, hs'⟩ := selectLease_current hO lease now hs
  rw [hselect]
  exact ⟨rfl, hs'⟩

theorem requireCurrent_eq (hO : O.Lawful) (lease : LeaseRecord) (now : DateTime) :
    O.requireCurrent t lease now = (require (leaseIsCurrent t.leases lease now = true)
      (.leaseLost ("lease " ++ pyRepr lease.name ++ " is no longer current")), t) := by
  rw [requireCurrent, isCurrent_eq hO]

theorem active_eq (hO : O.Lawful) (name : String) (now : DateTime) :
    O.active t name now = (.ok (t.active name now), t) := by
  unfold active StateTables.active
  refine sessionScope_eq hO (y := .ok (_, t)) fun s hs => ?_
  obtain ⟨s', hget, hs'⟩ := hO.getLease name hs
  rw [hget]
  cases t.leases name with
  | none => exact ⟨rfl, hs'⟩
  | some row => exact ⟨rfl, hs'⟩

/-! ### Claims -/

/-- Checks of the arguments come first through either back end. -/
theorem checked_eq {checks : Except ClaimError Unit} {rest : Except ClaimError (α × ClaimTable)}
    {x : Except StoreError α × StateTables} (h : x = t.claimWrite rest) :
    (match checks with | .error e => (.error e.toStoreError, t) | .ok () => x) =
      t.claimWrite (checks >>= fun _ => rest) := by
  cases checks with
  | error e => rfl
  | ok u => exact h

theorem requireCurrentLease_eq (hO : O.Lawful) (lease : LeaseRecord) (now : DateTime) (hs : O.Sees s t) :
    ∃ s', O.Sees s' t ∧ O.requireCurrentLease s lease now =
      ((requireLeaseForClaim t.leases lease now).mapError ClaimError.toStoreError).map fun _ => s' := by
  obtain ⟨s', hselect, hs'⟩ := selectLease_current hO lease now hs
  refine ⟨s', hs', ?_⟩
  unfold requireCurrentLease requireLeaseForClaim require
  rw [hselect]
  cases leaseIsCurrent t.leases lease now <;> rfl

/-- After the check of the lease the two go on from the same rows. -/
theorem agrees_afterLease (hO : O.Lawful) {lease : LeaseRecord} {now : DateTime} {f : S → Except StoreError (α × S)}
    {rest : Except ClaimError (α × ClaimTable)} (hs : O.Sees s t)
    (h : ∀ s, O.Sees s t → O.Agrees (f s) ((rest.mapError ClaimError.toStoreError).map fun (a, claims) =>
      (a, { t with claims := claims }))) :
    O.Agrees (O.requireCurrentLease s lease now >>= f)
      (((requireLeaseForClaim t.leases lease now >>= fun _ => rest).mapError ClaimError.toStoreError).map
        fun (a, claims) => (a, { t with claims := claims })) := by
  obtain ⟨s', hs', hlease⟩ := requireCurrentLease_eq hO lease now hs
  rw [hlease]
  cases requireLeaseForClaim t.leases lease now with
  | error e => exact rfl
  | ok u => exact h s' hs'

theorem readBack_eq (hO : O.Lawful) {key : String} {row : ClaimRecord} (what : String) (hs : O.Sees s t)
    (hrow : SafeFsOps.getClaim t.claims key = some row) :
    ∃ s', O.readBack s key what = .ok (row, s') ∧ O.Sees s' t := by
  obtain ⟨s', hget, hs'⟩ := hO.getClaim key hs
  refine ⟨s', ?_, hs'⟩
  rw [readBack, hget, hrow]

theorem getClaim_append {claims : ClaimTable} {row : ClaimRecord}
    (hnone : SafeFsOps.getClaim claims row.resourceKey = none) :
    SafeFsOps.getClaim (claims ++ [row]) row.resourceKey = some row := by
  unfold SafeFsOps.getClaim at hnone ⊢
  rw [findRow_append_one, hnone, if_pos rfl]
  rfl

theorem getClaim_update {claims : ClaimTable} {key : String} {existing row : ClaimRecord}
    (hrow : SafeFsOps.getClaim claims key = some existing) (hkey : row.resourceKey = key) :
    SafeFsOps.getClaim (updateRow ClaimRecord.resourceKey claims key fun _ => row) key = some row := by
  unfold SafeFsOps.getClaim findRow updateRow at *
  induction claims with
  | nil => cases hrow
  | cons c claims ih =>
    rw [List.map_cons, List.find?_cons]
    by_cases hc : c.resourceKey = key
    · simp [hc, hkey]
    · rw [List.find?_cons_of_neg (by simpa using hc)] at hrow
      simp only [hc, if_false, decide_false]
      exact ih hrow

theorem createClaim_eq (hO : O.Lawful) (key : String) (lease : LeaseRecord) (owner : String) (scope : Option String)
    (details : Option ClaimDetails) (now : DateTime) : O.createClaim t key lease owner scope details now =
      t.claimWrite (SafeFsOps.createClaim t.leases t.claims key lease owner scope details now) := by
  unfold createClaim SafeFsOps.createClaim
  rw [← bind_assoc]
  refine checked_eq (sessionScope_eq hO fun s hs => agrees_afterLease hO hs fun s hs => ?_)
  obtain ⟨s₁, hget, hs₁⟩ := hO.getClaim key hs
  rw [hget]
  cases hrow : SafeFsOps.getClaim t.claims key with
  | some existing => exact rfl
  | none =>
    obtain ⟨s₂, hflush, hs₂⟩ := hO.addClaim ⟨key, owner, scope, details, now, now⟩ hs₁ hrow
    obtain ⟨s₃, hback, hs₃⟩ := readBack_eq hO "claim creation" hs₂ (getClaim_append hrow)
    simp only [hflush]
    rw [hback]
    exact ⟨rfl, hs₃⟩

theorem upsertClaim_eq (hO : O.Lawful) (key : String) (lease : LeaseRecord) (owner : String) (scope : Option String)
    (details : Option ClaimDetails) (now : DateTime) : O.upsertClaim t key lease owner scope details now =
      t.claimWrite (SafeFsOps.upsertClaim t.leases t.claims key lease owner scope details now) := by
  unfold upsertClaim SafeFsOps.upsertClaim
  rw [← bind_assoc]
  refine checked_eq (sessionScope_eq hO fun s hs => agrees_afterLease hO hs fun s hs => ?_)
  obtain ⟨s₁, hget, hs₁⟩ := hO.getClaim key hs
  rw [hget]
  cases hrow : SafeFsOps.getClaim t.claims key with
  | none =>
    obtain ⟨s₂, hflush, hs₂⟩ := hO.addClaim ⟨key, owner, scope, details, now, now⟩ hs₁ hrow
    obtain ⟨s₃, hback, hs₃⟩ := readBack_eq hO "claim upsert" hs₂ (getClaim_append hrow)
    dsimp only
    rw [hflush]
    show O.Agrees (O.readBack s₂ key "claim upsert") _
    rw [hback]
    exact ⟨rfl, hs₃⟩
  | some existing =>
    by_cases hsame : existing.owner = owner ∧ existing.scope = scope
    · have hconflict : conflicts existing owner scope = false := by simp [conflicts, hsame]
      obtain ⟨s₂, hflush, hs₂⟩ := hO.assignClaim
        (fun row => { row with details := details, updatedAt := now }) hs₁ hrow
      have hkey : existing.resourceKey = key := findRow_key hrow
      have hread := getClaim_update hrow (show ({ existing with details := details, updatedAt := now } :
        ClaimRecord).resourceKey = key from hkey)
      obtain ⟨s₃, hback, hs₃⟩ := readBack_eq hO "claim upsert" hs₂ hread
      dsimp only
      rw [hconflict, if_neg Bool.false_ne_true, hflush, require, if_pos hsame]
      show O.Agrees (O.readBack s₂ key "claim upsert") _
      rw [hback]
      exact ⟨rfl, hs₃⟩
    · have hconflict : conflicts existing owner scope = true := by
        simp only [conflicts, decide_eq_true_eq]
        exact not_and_or.1 hsame
      dsimp only
      rw [hconflict, if_pos rfl, require, if_neg hsame]
      exact rfl

theorem claim_eq (hO : O.Lawful) (key : String) : O.claim t key = (.ok (SafeFsOps.getClaim t.claims key), t) := by
  unfold claim
  refine sessionScope_eq hO (y := .ok (_, t)) fun s hs => ?_
  obtain ⟨s', hget, hs'⟩ := hO.getClaim key hs
  rw [hget]
  exact ⟨rfl, hs'⟩

theorem listClaims_eq (hO : O.Lawful) (owner : Option String) :
    O.listClaims t owner = (.ok (SafeFsOps.listClaims t.claims owner), t) := by
  unfold listClaims
  refine sessionScope_eq hO (y := .ok (_, t)) fun s hs => ?_
  obtain ⟨s', hselect, hs'⟩ := hO.selectClaims (fun c => owner.all (· = c.owner)) hs
  rw [hselect]
  exact ⟨rfl, hs'⟩

theorem releaseClaimIn_agrees (hO : O.Lawful) (key owner : String) (scope : Option String)
    (expected : Option ClaimRecord) (hs : O.Sees s t) :
    O.Agrees (O.releaseClaimIn s key owner scope expected)
      (.ok ((releaseClaimInConnection t.claims key owner scope expected).1,
        { t with claims := (releaseClaimInConnection t.claims key owner scope expected).2 })) := by
  rw [← releaseClaimOrm_eq]
  obtain ⟨s', hdelete, hs'⟩ := hO.deleteClaims (releaseMatchesOrm key owner scope expected) hs
  rw [releaseClaimIn, hdelete]
  exact ⟨rfl, hs'⟩

theorem releaseClaim_eq (hO : O.Lawful) (key : String) (lease : LeaseRecord) (owner : String) (scope : Option String)
    (expected : Option ClaimRecord) (now : DateTime) : O.releaseClaim t key lease owner scope expected now =
      t.claimWrite (SafeFsOps.releaseClaim t.leases t.claims key lease owner scope expected now) := by
  have hraw : SafeFsOps.releaseClaim t.leases t.claims key lease owner scope expected now =
      (releaseChecks key owner expected >>= fun _ => requireLeaseForClaim t.leases lease now >>= fun _ =>
        pure (releaseClaimInConnection t.claims key owner scope expected)) := by
    simp only [SafeFsOps.releaseClaim, releaseChecks, bind_assoc]
  rw [hraw]
  refine checked_eq (sessionScope_eq hO fun s hs => agrees_afterLease hO hs fun s hs => ?_)
  exact releaseClaimIn_agrees hO key owner scope expected hs

theorem releaseIfOwnerScopeMatches_eq (hO : O.Lawful) (key : String) (lease : LeaseRecord) (owner : String)
    (scope : Option String) (expected : Option ClaimRecord) (now : DateTime) :
    O.releaseIfOwnerScopeMatches t key lease owner scope expected now = t.claimWrite
      (SafeFsOps.releaseIfOwnerScopeMatches t.leases t.claims key lease owner scope expected now) := by
  have hraw : SafeFsOps.releaseIfOwnerScopeMatches t.leases t.claims key lease owner scope expected now =
      (releaseIfChecks key owner expected >>= fun _ =>
        require (leaseIsCurrent t.leases lease now = true ∨ expected.any (claimMatchesLeaseAuthority · lease) = true)
          (.valueError "claim release requires current lease or lease-bound expected_claim") >>= fun _ =>
        pure (releaseClaimInConnection t.claims key owner scope expected)) := by
    cases expected with
    | none =>
      simp only [SafeFsOps.releaseIfOwnerScopeMatches, releaseIfChecks, bind_assoc]
      rfl
    | some e =>
      simp only [SafeFsOps.releaseIfOwnerScopeMatches, releaseIfChecks, bind_assoc]
      rfl
  rw [hraw]
  refine checked_eq (sessionScope_eq hO fun s hs => ?_)
  obtain ⟨s', hselect, hs'⟩ := selectLease_current hO lease now hs
  simp only [hselect]
  by_cases hauthority : leaseIsCurrent t.leases lease now = true ∨
      expected.any (claimMatchesLeaseAuthority · lease) = true
  · rw [if_pos hauthority, require, if_pos hauthority]
    exact releaseClaimIn_agrees hO key owner scope expected hs'
  · rw [if_neg hauthority, require, if_neg hauthority]
    exact rfl

/-- A call answers and leaves the same through either back end. -/
theorem orm_call (hO : O.Lawful) (t : StateTables) (c : StoreCall) : O.call t c = t.call c := by
  cases c with
  | acquire => simp only [call, StateTables.call, acquire_eq hO]
  | active => simp only [call, active_eq hO]; rfl
  | heartbeat => simp only [call, StateTables.call, heartbeat_eq hO]
  | isCurrent => simp only [call, isCurrent_eq hO]; rfl
  | requireCurrent => simp only [call, requireCurrent_eq hO]; rfl
  | releaseLease => simp only [call, StateTables.call, releaseLease_eq hO]
  | createClaim => simp only [call, StateTables.call, createClaim_eq hO]
  | upsertClaim => simp only [call, StateTables.call, upsertClaim_eq hO]
  | getClaim => simp only [call, claim_eq hO]; rfl
  | conflictFor => simp only [call, StateTables.call, claim_eq hO]
  | listClaims => simp only [call, listClaims_eq hO]; rfl
  | releaseClaim => simp only [call, StateTables.call, releaseClaim_eq hO]
  | releaseIfOwnerScopeMatches => simp only [call, StateTables.call, releaseIfOwnerScopeMatches_eq hO]

end OrmSession

/-- The two back ends agree: every sequence of calls of both stores, with the same
arguments, clock samples and tokens and from the same rows, gives the same result or
error at each step and leaves the same lease and claim rows after it. -/
theorem backends_agree {S : Type} {O : OrmSession S} (hO : O.Lawful) (calls : List StoreCall) (t : StateTables) :
    answersOf O.call t calls = answersOf StateTables.call t calls := by
  induction calls generalizing t with
  | nil => rfl
  | cons c calls ih => rw [answersOf, answersOf, OrmSession.orm_call hO, ih]

/-- The first lease of a working day. -/
private def firstLease : LeaseRecord :=
  leaseFromRow "w" ⟨"a", "t1", 1, .soon 100, .soon 100, .soon 110⟩ true true

/-- Two owners, one claim, and a lease that expires at the very instant of a heartbeat. -/
private def workday : List StoreCall :=
  [.acquire "w" "a" 10 none "t1" (.soon 100), .acquire "w" "b" 10 none "t2" (.soon 105),
    .createClaim "file" firstLease "a" none none (.soon 105),
    .createClaim "file" firstLease "b" none none (.soon 106), .heartbeat firstLease 10 (.soon 110),
    .acquire "w" "b" 10 none "t3" (.soon 110),
    .releaseClaim "file" firstLease "a" none none (.soon 111), .releaseLease firstLease "t4" (.soon 111)]

/-- The law on that day: the second claim is a conflict, and nothing is done under the lease once it is lost. -/
theorem backends_agree_workday :
    answersOf plainSession.call ⟨.empty, []⟩ workday = answersOf StateTables.call ⟨.empty, []⟩ workday ∧
      (answersOf StateTables.call ⟨.empty, []⟩ workday).map (fun r => r.1.toBool) =
        [true, true, true, false, true, true, false, true] :=
  ⟨backends_agree plainSession_lawful workday ⟨.empty, []⟩, by decide +kernel⟩

end SafeFsOps
