import SafeFsOps.Calendar

/-!
# Workspace leases

`LeaseStore` of `workspace_state/leases.py`: cross-process leases with a secret
token and a fencing counter, one row per lease name. Each method is one
`BEGIN IMMEDIATE` transaction over the table, so it is a function from the table
to its answer and the table it leaves behind.

- `acquire` inserts the first row of a name, takes an expired row over under the
  next fencing token, and otherwise answers with a record that carries no
  authority (empty token, fencing token `0`).
- `heartbeat` and `release` act only on the row the record still matches;
  `release` keeps the row but *rotates* its token, which is what revokes a
  heartbeat that sampled its clock earlier and arrives late.

The primary key is the lease name, so the table is a partial function of it.
Timestamps are stored as their ISO text; a row keeps the instant the text was
made of, and every comparison that SQL makes on the text goes through
`isoformat`. Tokens from `secrets.token_hex` are an argument (`generated`): the
model never assumes where they come from.
-/

namespace SafeFsOps

/-- `LeaseRecord`: what a caller holds of a lease. -/
structure LeaseRecord where
  name : String
  owner : String
  token : String
  fencingToken : Nat
  acquiredAt : DateTime
  heartbeatAt : DateTime
  expiresAt : DateTime
  acquired : Bool
deriving DecidableEq

/-- The SHA-256 digest of a lease token. Digests are compared with each other and
with nothing else, so a digest stands for the text it was taken of. -/
structure TokenDigest where
  digestOf : String
deriving DecidableEq

/-- `_lease_token_digest`. -/
def leaseTokenDigest (lease : LeaseRecord) : TokenDigest := ⟨lease.token⟩

/-- A row of `workspace_leases`, under its primary key. -/
structure LeaseRow where
  owner : String
  token : String
  fencingToken : Nat
  acquiredAt : DateTime
  heartbeatAt : DateTime
  expiresAt : DateTime
deriving DecidableEq

/-- The table `workspace_leases`, by its primary key `name`. -/
abbrev LeaseTable := String → Option LeaseRow

namespace LeaseTable

def empty : LeaseTable := fun _ => none

/-- Write the row of one name. -/
def set (t : LeaseTable) (name : String) (row : LeaseRow) : LeaseTable :=
  fun n => if n = name then some row else t n

@[simp] theorem set_self (t : LeaseTable) (name : String) (row : LeaseRow) :
    t.set name row name = some row := by simp [set]

theorem set_ne (t : LeaseTable) {name n : String} (row : LeaseRow) (h : n ≠ name) :
    t.set name row n = t n := by simp [set, h]

/-- Reading a table after a write: the written row, or another name's old one. -/
theorem set_eq_some {t : LeaseTable} {name n : String} {row r : LeaseRow}
    (h : t.set name row n = some r) : n = name ∧ r = row ∨ n ≠ name ∧ t n = some r := by
  by_cases hn : n = name
  · rw [hn, set_self] at h
    exact Or.inl ⟨hn, (Option.some.inj h).symm⟩
  · rw [set_ne _ _ hn] at h
    exact Or.inr ⟨hn, h⟩

end LeaseTable

/-- What `acquire` and `heartbeat` raise before they reach the table. -/
inductive LeaseError where
  | nonPositiveTtl
  | overflow
deriving DecidableEq

/-- `_lease_from_row`: without `expose_authority` the record names the holder
but can prove nothing. -/
def leaseFromRow (name : String) (row : LeaseRow) (acquired exposeAuthority : Bool) : LeaseRecord where
  name := name
  owner := row.owner
  token := if exposeAuthority then row.token else ""
  fencingToken := if exposeAuthority then row.fencingToken else 0
  acquiredAt := row.acquiredAt
  heartbeatAt := row.heartbeatAt
  expiresAt := row.expiresAt
  acquired := acquired

/-- `token or secrets.token_hex(16)`: an empty token counts as none. -/
def tokenOr (token : Option String) (generated : String) : String :=
  match token with
  | some t => if t = "" then generated else t
  | none => generated

/-- The condition shared by every conditional statement on leases: name, owner,
token and fencing token as in the record, and not yet expired (compared as text). -/
def rowMatches (t : LeaseTable) (lease : LeaseRecord) (now : DateTime) : Option LeaseRow :=
  match t lease.name with
  | some row =>
    if row.owner = lease.owner ∧ row.token = lease.token ∧ row.fencingToken = lease.fencingToken ∧
        now.isoformat < row.expiresAt.isoformat then some row else none
  | none => none

/-- `_lease_is_current`. -/
def leaseIsCurrent (t : LeaseTable) (lease : LeaseRecord) (now : DateTime) : Bool :=
  (rowMatches t lease now).isSome

/-- `LeaseStore.acquire`. -/
def acquire (t : LeaseTable) (name owner : String) (ttl : Int) (token : Option String)
    (generated : String) (now : DateTime) : Except LeaseError (LeaseRecord × LeaseTable) :=
  if ttl ≤ 0 then .error .nonPositiveTtl
  else match now.add ttl with
    | none => .error .overflow
    | some expiresAt =>
      let leaseToken := tokenOr token generated
      match t name with
      | some row =>
        if now < row.expiresAt then .ok (leaseFromRow name row false false, t)
        else if row.expiresAt.isoformat ≤ now.isoformat then
          let taken : LeaseRow :=
            { owner := owner, token := leaseToken, fencingToken := row.fencingToken + 1
              acquiredAt := now, heartbeatAt := now, expiresAt := expiresAt }
          .ok (leaseFromRow name taken true true, t.set name taken)
        -- the UPDATE matched no row although the SELECT above found it expired
        else .ok (leaseFromRow name row false false, t)
      | none =>
        let first : LeaseRow :=
          { owner := owner, token := leaseToken, fencingToken := 1
            acquiredAt := now, heartbeatAt := now, expiresAt := expiresAt }
        .ok (leaseFromRow name first true true, t.set name first)

/-- `LeaseStore.heartbeat`; `none` when the record no longer holds the lease. -/
def heartbeat (t : LeaseTable) (lease : LeaseRecord) (ttl : Int) (now : DateTime) :
    Except LeaseError (Option LeaseRecord × LeaseTable) :=
  if ttl ≤ 0 then .error .nonPositiveTtl
  else match now.add ttl with
    | none => .error .overflow
    | some expiresAt =>
      match rowMatches t lease now with
      | none => .ok (none, t)
      | some row =>
        let renewed := { row with heartbeatAt := now, expiresAt := expiresAt }
        .ok (some (leaseFromRow lease.name renewed false true), t.set lease.name renewed)

/-- `_release_lease_in_connection`: expire the row and rotate its token. -/
def releaseLease (t : LeaseTable) (lease : LeaseRecord) (generated : String) (now : DateTime) :
    Bool × LeaseTable :=
  match rowMatches t lease now with
  | none => (false, t)
  | some row =>
    (true, t.set lease.name { row with heartbeatAt := now, expiresAt := now, token := generated })

/-! ## What each operation can do -/

theorem rowMatches_eq_some {t : LeaseTable} {lease : LeaseRecord} {now : DateTime} {row : LeaseRow} :
    rowMatches t lease now = some row ↔ t lease.name = some row ∧ row.owner = lease.owner ∧
      row.token = lease.token ∧ row.fencingToken = lease.fencingToken ∧ now < row.expiresAt := by
  unfold rowMatches
  cases h : t lease.name with
  | none => simp
  | some r =>
    simp only [DateTime.isoformat_lt_iff, Option.some.injEq]
    constructor
    · intro hr
      split at hr
      · next hc => obtain rfl := Option.some.inj hr; exact ⟨rfl, hc⟩
      · cases hr
    · rintro ⟨rfl, hc⟩
      rw [if_pos hc]

theorem leaseIsCurrent_iff {t : LeaseTable} {lease : LeaseRecord} {now : DateTime} :
    leaseIsCurrent t lease now = true ↔ ∃ row, t lease.name = some row ∧ row.owner = lease.owner ∧
      row.token = lease.token ∧ row.fencingToken = lease.fencingToken ∧ now < row.expiresAt := by
  unfold leaseIsCurrent
  rw [Option.isSome_iff_exists]
  simp only [rowMatches_eq_some]

/-- A successful acquisition: the row is new, or was expired and is taken over
under the next fencing token; the record states exactly what was written. -/
theorem acquire_acquired {t t' : LeaseTable} {name owner generated : String} {ttl : Int}
    {token : Option String} {now : DateTime} {lease : LeaseRecord}
    (h : acquire t name owner ttl token generated now = .ok (lease, t')) (ha : lease.acquired = true) :
    ∃ row, lease = leaseFromRow name row true true ∧ t' = t.set name row ∧ now < row.expiresAt ∧
      row.owner = owner ∧ row.token = tokenOr token generated ∧
      (t name = none ∧ row.fencingToken = 1 ∨
        ∃ old, t name = some old ∧ old.expiresAt ≤ now ∧ row.fencingToken = old.fencingToken + 1) := by
  unfold acquire at h
  split at h
  · cases h
  · next hpos =>
    split at h
    · cases h
    · next expiresAt hadd =>
      have hlt := DateTime.lt_of_add (by omega) hadd
      cases hrow : t name with
      | none =>
        simp only [hrow, Except.ok.injEq, Prod.mk.injEq] at h
        obtain ⟨rfl, rfl⟩ := h
        exact ⟨_, rfl, rfl, hlt, rfl, rfl, Or.inl ⟨rfl, rfl⟩⟩
      | some old =>
        simp only [hrow] at h
        split at h
        · simp only [Except.ok.injEq, Prod.mk.injEq] at h
          obtain ⟨rfl, -⟩ := h
          cases ha
        · next hexp =>
          split at h
          · simp only [Except.ok.injEq, Prod.mk.injEq] at h
            obtain ⟨rfl, rfl⟩ := h
            exact ⟨_, rfl, rfl, hlt, rfl, rfl, Or.inr ⟨old, rfl, Nat.le_of_not_lt hexp, rfl⟩⟩
          · simp only [Except.ok.injEq, Prod.mk.injEq] at h
            obtain ⟨rfl, -⟩ := h
            cases ha

/-- A refused acquisition changes nothing and hands out no authority. -/
theorem acquire_refused {t t' : LeaseTable} {name owner generated : String} {ttl : Int}
    {token : Option String} {now : DateTime} {lease : LeaseRecord}
    (h : acquire t name owner ttl token generated now = .ok (lease, t')) (ha : lease.acquired = false) :
    t' = t ∧ lease.name = name ∧ lease.token = "" ∧ lease.fencingToken = 0 := by
  unfold acquire at h
  split at h
  · cases h
  · split at h
    · cases h
    · cases hrow : t name with
      | none =>
        simp only [hrow, Except.ok.injEq, Prod.mk.injEq] at h
        obtain ⟨rfl, -⟩ := h
        cases ha
      | some old =>
        simp only [hrow] at h
        split at h
        · simp only [Except.ok.injEq, Prod.mk.injEq] at h
          obtain ⟨rfl, rfl⟩ := h
          exact ⟨rfl, rfl, rfl, rfl⟩
        · split at h
          · simp only [Except.ok.injEq, Prod.mk.injEq] at h
            obtain ⟨rfl, -⟩ := h
            cases ha
          · simp only [Except.ok.injEq, Prod.mk.injEq] at h
            obtain ⟨rfl, rfl⟩ := h
            exact ⟨rfl, rfl, rfl, rfl⟩

/-- An answered heartbeat found its row and moved only its expiry. -/
theorem heartbeat_some {t t' : LeaseTable} {lease lease' : LeaseRecord} {ttl : Int} {now : DateTime}
    (h : heartbeat t lease ttl now = .ok (some lease', t')) :
    ∃ row renewed, rowMatches t lease now = some row ∧ lease' = leaseFromRow lease.name renewed false true ∧
      t' = t.set lease.name renewed ∧ renewed.owner = row.owner ∧ renewed.token = row.token ∧
      renewed.fencingToken = row.fencingToken ∧ now < renewed.expiresAt := by
  unfold heartbeat at h
  split at h
  · cases h
  · next hpos =>
    split at h
    · cases h
    · next expiresAt hadd =>
      have hlt := DateTime.lt_of_add (by omega) hadd
      split at h
      · cases h
      · next row hrow =>
        simp only [Except.ok.injEq, Prod.mk.injEq, Option.some.injEq] at h
        obtain ⟨rfl, rfl⟩ := h
        exact ⟨row, _, hrow, rfl, rfl, rfl, rfl, rfl, hlt⟩

/-- A heartbeat that finds no row answers `none` and changes nothing. -/
theorem heartbeat_none {t t' : LeaseTable} {lease : LeaseRecord} {ttl : Int} {now : DateTime}
    (h : heartbeat t lease ttl now = .ok (none, t')) : rowMatches t lease now = none ∧ t' = t := by
  unfold heartbeat at h
  split at h
  · cases h
  · split at h
    · cases h
    · split at h
      · next hrow =>
        simp only [Except.ok.injEq, Prod.mk.injEq, true_and] at h
        exact ⟨hrow, h.symm⟩
      · cases h

theorem releaseLease_true {t t' : LeaseTable} {lease : LeaseRecord} {generated : String} {now : DateTime}
    (h : releaseLease t lease generated now = (true, t')) :
    ∃ row, rowMatches t lease now = some row ∧ t' = t.set lease.name
      { row with heartbeatAt := now, expiresAt := now, token := generated } := by
  unfold releaseLease at h
  split at h
  · cases h
  · next row hrow => exact ⟨row, hrow, (Prod.mk.inj h).2.symm⟩

theorem releaseLease_false {t t' : LeaseTable} {lease : LeaseRecord} {generated : String} {now : DateTime}
    (h : releaseLease t lease generated now = (false, t')) : rowMatches t lease now = none ∧ t' = t := by
  unfold releaseLease at h
  split at h
  · next hrow => exact ⟨hrow, (Prod.mk.inj h).2.symm⟩
  · cases h

end SafeFsOps
