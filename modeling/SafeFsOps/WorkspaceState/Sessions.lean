import SafeFsOps.WorkspaceState.ClaimOwnership

/-!
# SQLAlchemy sessions

Without a connection factory of the caller's, `LeaseStore` and `ClaimStore` go
through SQLAlchemy sessions and mapped objects instead of statements on a
connection. The package is not part of the sources, so a session is a parameter
here: `OrmSession S` has what the stores call, over states `S` of a session, and
`OrmSession.Lawful` what its documentation says of these calls. The unit of work is
part of that: what was added to a session or assigned to its objects is pending
until the next flush, and an object in the identity map is what a query returns,
which is why an `update` synchronises the session.

> `plainSession_lawful`: there are such sessions.
-/

namespace SafeFsOps

/-- The two tables of the workspace state. -/
structure StateTables where
  leases : LeaseTable
  claims : ClaimTable

/-- `IntegrityError`. -/
inductive FlushError where
  | integrity
deriving DecidableEq

/-- What the stores use of a session of SQLAlchemy, over the states of a session. -/
structure OrmSession (S : Type) where
  /-- A session on a connection that has begun a transaction. -/
  start : StateTables → S
  /-- The rows of its transaction, which `connection.commit()` makes durable. -/
  rows : S → StateTables
  /-- Whether `session.new` or `session.dirty` has an object. -/
  pending : S → Bool
  /-- `session.get(LeaseRow, name)` -/
  getLease : S → String → Option LeaseRow × S
  /-- `session.add(LeaseRow(name=…))` -/
  addLease : S → String → LeaseRow → S
  /-- `session.execute(update(LeaseRow).where(LeaseRow.name == name, …).values(…)).rowcount` -/
  updateLease : S → String → (LeaseRow → Bool) → (LeaseRow → LeaseRow) → Nat × S
  /-- `session.execute(select(LeaseRow.name).where(LeaseRow.name == name, …)).first() is not None` -/
  selectLease : S → String → (LeaseRow → Bool) → Bool × S
  /-- `session.get(ClaimRow, resource_key)` -/
  getClaim : S → String → Option ClaimRecord × S
  /-- `session.add(ClaimRow(…))` -/
  addClaim : S → ClaimRecord → S
  /-- Assignments to the attributes of the object of a key. -/
  assignClaim : S → String → (ClaimRecord → ClaimRecord) → S
  /-- `session.execute(delete(ClaimRow).where(…)).rowcount` -/
  deleteClaims : S → (ClaimRecord → Bool) → Nat × S
  /-- `session.scalars(select(ClaimRow).where(…).order_by(ClaimRow.resource_key)).all()` -/
  selectClaims : S → (ClaimRecord → Bool) → List ClaimRecord × S
  /-- `session.flush()` -/
  flush : S → Except FlushError S
  /-- `session.rollback()` -/
  rollback : S → S

namespace OrmSession

variable {S : Type}

/-- The session works on these rows and has nothing pending. -/
def Sees (O : OrmSession S) (s : S) (t : StateTables) : Prop := O.rows s = t ∧ O.pending s = false

/-- What the documentation says of a session that has nothing pending. -/
structure Lawful (O : OrmSession S) : Prop where
  start : ∀ t, O.Sees (O.start t) t
  flush : ∀ {s t}, O.Sees s t → ∃ s', O.flush s = .ok s' ∧ O.Sees s' t
  /-- An object of the identity map is up to date, and any other is read. -/
  getLease : ∀ {s t} (name : String), O.Sees s t → ∃ s', O.getLease s name = (t.leases name, s') ∧ O.Sees s' t
  /-- A flush inserts what was added, where its key is free. -/
  addLease : ∀ {s t name} (row : LeaseRow), O.Sees s t → t.leases name = none →
    ∃ s', O.flush (O.addLease s name row) = .ok s' ∧ O.Sees s' { t with leases := t.leases.set name row }
  /-- An update changes the rows of its condition, counts them, and synchronises the session. -/
  updateLease : ∀ {s t name row} (p : LeaseRow → Bool) (f : LeaseRow → LeaseRow), O.Sees s t →
    t.leases name = some row → p row = true →
    ∃ s', O.updateLease s name p f = (1, s') ∧ O.Sees s' { t with leases := t.leases.set name (f row) }
  updateNoLease : ∀ {s t name} (p : LeaseRow → Bool) (f : LeaseRow → LeaseRow), O.Sees s t →
    (∀ row, t.leases name = some row → p row = false) → ∃ s', O.updateLease s name p f = (0, s') ∧ O.Sees s' t
  selectLease : ∀ {s t} (name : String) (p : LeaseRow → Bool), O.Sees s t →
    ∃ s', O.selectLease s name p = ((t.leases name).any p, s') ∧ O.Sees s' t
  getClaim : ∀ {s t} (key : String), O.Sees s t →
    ∃ s', O.getClaim s key = (SafeFsOps.getClaim t.claims key, s') ∧ O.Sees s' t
  addClaim : ∀ {s t} (row : ClaimRecord), O.Sees s t → SafeFsOps.getClaim t.claims row.resourceKey = none →
    ∃ s', O.flush (O.addClaim s row) = .ok s' ∧ O.Sees s' { t with claims := t.claims ++ [row] }
  /-- A flush updates the row of an object that was assigned to. -/
  assignClaim : ∀ {s t key row} (f : ClaimRecord → ClaimRecord), O.Sees s t →
    SafeFsOps.getClaim t.claims key = some row →
    ∃ s', O.flush (O.assignClaim s key f) = .ok s' ∧
      O.Sees s' { t with claims := updateRow ClaimRecord.resourceKey t.claims key fun _ => f row }
  deleteClaims : ∀ {s t} (p : ClaimRecord → Bool), O.Sees s t →
    ∃ s', O.deleteClaims s p = ((t.claims.filter p).length, s') ∧
      O.Sees s' { t with claims := t.claims.filter fun row => ¬ p row }
  selectClaims : ∀ {s t} (p : ClaimRecord → Bool), O.Sees s t →
    ∃ s', O.selectClaims s p = ((t.claims.filter p).foldr insertClaimByKey [], s') ∧ O.Sees s' t

end OrmSession

/-! ## A session -/

/-- A session that keeps what is pending beside the rows of its transaction. -/
structure PlainSession where
  tables : StateTables
  newLeases : List (String × LeaseRow)
  newClaims : List ClaimRecord
  dirtyClaims : List (String × (ClaimRecord → ClaimRecord))

namespace PlainSession

/-- Nothing pending. -/
def clean (t : StateTables) : PlainSession := ⟨t, [], [], []⟩

/-- `INSERT INTO workspace_leases`. -/
def insertLease (t : StateTables) (r : String × LeaseRow) : Except FlushError StateTables :=
  match t.leases r.1 with
  | some _ => .error .integrity
  | none => .ok { t with leases := t.leases.set r.1 r.2 }

/-- `INSERT INTO workspace_resource_claims`. -/
def insertClaim (t : StateTables) (row : ClaimRecord) : Except FlushError StateTables :=
  match getClaim t.claims row.resourceKey with
  | some _ => .error .integrity
  | none => .ok { t with claims := t.claims ++ [row] }

/-- `UPDATE workspace_resource_claims` under the primary key. -/
def updateClaim (t : StateTables) (change : String × (ClaimRecord → ClaimRecord)) : StateTables :=
  match getClaim t.claims change.1 with
  | some row => { t with claims := updateRow ClaimRecord.resourceKey t.claims change.1 fun _ => change.2 row }
  | none => t

/-- Everything pending is written. -/
def flush (s : PlainSession) : Except FlushError PlainSession := do
  let t ← s.newLeases.foldlM insertLease s.tables
  let t ← s.newClaims.foldlM insertClaim t
  return clean (s.dirtyClaims.foldl updateClaim t)

theorem flush_newLease {t : StateTables} {name : String} (row : LeaseRow) (hfree : t.leases name = none) :
    flush ⟨t, [(name, row)], [], []⟩ = .ok (clean { t with leases := t.leases.set name row }) := by
  simp [flush, insertLease, hfree]

theorem flush_newClaim {t : StateTables} (row : ClaimRecord) (hfree : getClaim t.claims row.resourceKey = none) :
    flush ⟨t, [], [row], []⟩ = .ok (clean { t with claims := t.claims ++ [row] }) := by
  simp [flush, insertClaim, hfree]

theorem flush_dirtyClaim {t : StateTables} {key : String} {row : ClaimRecord} (f : ClaimRecord → ClaimRecord)
    (hrow : getClaim t.claims key = some row) : flush ⟨t, [], [], [(key, f)]⟩ =
      .ok (clean { t with claims := updateRow ClaimRecord.resourceKey t.claims key fun _ => f row }) := by
  simp [flush, updateClaim, hrow]

end PlainSession

/-- A session as the stores use one, over its own rows. -/
def plainSession : OrmSession PlainSession where
  start := PlainSession.clean
  rows s := s.tables
  pending s := !(s.newLeases.isEmpty && s.newClaims.isEmpty && s.dirtyClaims.isEmpty)
  getLease s name := (s.tables.leases name, s)
  addLease s name row := { s with newLeases := s.newLeases ++ [(name, row)] }
  updateLease s name p f :=
    match (s.tables.leases name).filter p with
    | some row => (1, { s with tables := { s.tables with leases := s.tables.leases.set name (f row) } })
    | none => (0, s)
  selectLease s name p := ((s.tables.leases name).any p, s)
  getClaim s key := (getClaim s.tables.claims key, s)
  addClaim s row := { s with newClaims := s.newClaims ++ [row] }
  assignClaim s key f := { s with dirtyClaims := s.dirtyClaims ++ [(key, f)] }
  deleteClaims s p := ((s.tables.claims.filter p).length,
    { s with tables := { s.tables with claims := s.tables.claims.filter fun row => ¬ p row } })
  selectClaims s p := ((s.tables.claims.filter p).foldr insertClaimByKey [], s)
  flush := PlainSession.flush
  rollback s := s

theorem plainSession_sees {s : PlainSession} {t : StateTables} : plainSession.Sees s t ↔ s = .clean t := by
  obtain ⟨tables, newLeases, newClaims, dirtyClaims⟩ := s
  simp [OrmSession.Sees, plainSession, PlainSession.clean, and_assoc]

theorem plainSession_lawful : plainSession.Lawful where
  start t := plainSession_sees.2 rfl
  flush h := by
    rw [plainSession_sees] at h
    rw [h]
    exact ⟨_, rfl, plainSession_sees.2 rfl⟩
  getLease name h := by
    rw [plainSession_sees] at h
    rw [h]
    exact ⟨_, rfl, plainSession_sees.2 rfl⟩
  addLease row h hfree := by
    rw [plainSession_sees] at h
    rw [h]
    exact ⟨_, PlainSession.flush_newLease row hfree, plainSession_sees.2 rfl⟩
  updateLease p f h hrow hp := by
    rw [plainSession_sees] at h
    rw [h]
    simp only [plainSession, PlainSession.clean, hrow, Option.filter_some_pos hp]
    exact ⟨_, rfl, plainSession_sees.2 rfl⟩
  updateNoLease p f h hnone := by
    rw [plainSession_sees] at h
    rw [h]
    have hfilter := Option.filter_eq_none_iff.2 fun row hrow => Bool.not_eq_true _ ▸ hnone row hrow
    simp only [plainSession, PlainSession.clean, hfilter]
    exact ⟨_, rfl, plainSession_sees.2 rfl⟩
  selectLease name p h := by
    rw [plainSession_sees] at h
    rw [h]
    exact ⟨_, rfl, plainSession_sees.2 rfl⟩
  getClaim key h := by
    rw [plainSession_sees] at h
    rw [h]
    exact ⟨_, rfl, plainSession_sees.2 rfl⟩
  addClaim row h hfree := by
    rw [plainSession_sees] at h
    rw [h]
    exact ⟨_, PlainSession.flush_newClaim row hfree, plainSession_sees.2 rfl⟩
  assignClaim f h hrow := by
    rw [plainSession_sees] at h
    rw [h]
    exact ⟨_, PlainSession.flush_dirtyClaim f hrow, plainSession_sees.2 rfl⟩
  deleteClaims p h := by
    rw [plainSession_sees] at h
    rw [h]
    exact ⟨_, rfl, plainSession_sees.2 rfl⟩
  selectClaims p h := by
    rw [plainSession_sees] at h
    rw [h]
    exact ⟨_, rfl, plainSession_sees.2 rfl⟩

end SafeFsOps
