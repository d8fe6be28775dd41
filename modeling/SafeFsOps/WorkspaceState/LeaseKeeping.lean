import SafeFsOps.WorkspaceState.LeaseFencing

/-!
# Keeping a lease

`LeaseFencing` is about holders that come too late. This file is about one that does not:
whoever else calls, and with whatever clock, a lease goes to somebody else only by an
acquisition whose own sample lies at or past the expiry of the row, or after a release
with the very record that holds it. A heartbeat that others make with that record moves
the expiry and nothing else.

> `lease_kept`: through any run without such a call the row keeps its holder, and before
> its expiry nobody else gets it, while the record of the grant renews it.
-/

namespace SafeFsOps

/-- A call that ends the lease of a name. -/
def LeaseCall.EndsLease (name : String) (t : LeaseTable) : LeaseCall → Prop
  | .acquire n _ _ _ _ now => n = name ∧ ∀ row, t name = some row → row.expiresAt ≤ now
  | .heartbeat .. => False
  | .release lease _ now => lease.name = name ∧ leaseIsCurrent t lease now = true

/-- Two rows of one grant. -/
structure LeaseRow.SameGrant (row row' : LeaseRow) : Prop where
  owner : row'.owner = row.owner
  token : row'.token = row.token
  fencingToken : row'.fencingToken = row.fencingToken
  acquiredAt : row'.acquiredAt = row.acquiredAt

protected theorem LeaseRow.SameGrant.refl {row : LeaseRow} : row.SameGrant row := ⟨rfl, rfl, rfl, rfl⟩

protected theorem LeaseRow.SameGrant.trans {row₁ row₂ row₃ : LeaseRow} (h₁ : row₁.SameGrant row₂)
    (h₂ : row₂.SameGrant row₃) : row₁.SameGrant row₃ :=
  ⟨h₂.owner.trans h₁.owner, h₂.token.trans h₁.token, h₂.fencingToken.trans h₁.fencingToken,
    h₂.acquiredAt.trans h₁.acquiredAt⟩

section Steps

variable {w : LeaseWorld} {t t' : LeaseTable} {name : String} {row : LeaseRow}

/-- The row of a renewal is the one there was, with later times. -/
theorem heartbeat_sameGrant {lease renewed : LeaseRecord} {ttl : Int} {now : DateTime}
    (h : heartbeat t lease ttl now = .ok (some renewed, t')) (hrow : t name = some row) :
    ∃ row', t' name = some row' ∧ row.SameGrant row' := by
  unfold heartbeat at h
  split at h
  · cases h
  split at h
  · cases h
  · next expiresAt hadd =>
    split at h
    · cases h
    · next found hfound =>
      simp only [Except.ok.injEq, Prod.mk.injEq] at h
      obtain ⟨-, rfl⟩ := h
      by_cases hname : name = lease.name
      · have hsame := (rowMatches_eq_some.1 hfound).1
        rw [← hname, hrow, Option.some.injEq] at hsame
        subst hsame
        refine ⟨{ row with heartbeatAt := now, expiresAt := expiresAt }, ?_, rfl, rfl, rfl, rfl⟩
        rw [hname, LeaseTable.set_self]
      · exact ⟨row, by rw [LeaseTable.set_ne _ _ hname, hrow], .refl⟩

/-- Writing the row of another name. -/
theorem set_other {n : String} {new : LeaseRow} (hrow : t name = some row) (hname : name ≠ n) :
    ∃ row', t.set n new name = some row' ∧ row.SameGrant row' :=
  ⟨row, by rw [LeaseTable.set_ne _ _ hname, hrow], .refl⟩

/-- A call that does not end the lease keeps its grant. -/
theorem sameGrant_step {c : LeaseCall} (hc : ¬ c.EndsLease name w.table) (hrow : w.table name = some row) :
    ∃ row', (w.step c).table name = some row' ∧ row.SameGrant row' := by
  cases c with
  | acquire n owner ttl token generated now =>
    simp only [LeaseWorld.step]
    split
    · next lease t' hacquire =>
      cases hacquired : lease.acquired with
      | false => exact ⟨row, by rw [(acquire_refused hacquire hacquired).1, hrow], .refl⟩
      | true =>
        obtain ⟨new, -, rfl, -, -, -, hfree⟩ := acquire_acquired hacquire hacquired
        refine set_other hrow fun hname => ?_
        -- under its own name, the row was there and had run out
        rcases hfree with ⟨hnone, -⟩ | ⟨old, hold, hexpired, -⟩
        · rw [← hname, hrow] at hnone
          cases hnone
        · refine hc ⟨hname.symm, fun r hr => ?_⟩
          rw [← hname] at hold
          rw [hold, Option.some.injEq] at hr
          exact hr ▸ hexpired
    · exact ⟨row, hrow, .refl⟩
  | heartbeat lease ttl now =>
    simp only [LeaseWorld.step]
    split
    · next renewed t' hbeat => exact heartbeat_sameGrant hbeat hrow
    · next t' hbeat => exact ⟨row, by rw [(heartbeat_none hbeat).2, hrow], .refl⟩
    · exact ⟨row, hrow, .refl⟩
  | release lease generated now =>
    simp only [LeaseWorld.step]
    cases hrelease : releaseLease w.table lease generated now with
    | mk released t' =>
    cases released with
    | false =>
      obtain ⟨-, rfl⟩ := releaseLease_false hrelease
      exact ⟨row, hrow, .refl⟩
    | true =>
      obtain ⟨found, hfound, rfl⟩ := releaseLease_true hrelease
      refine set_other hrow fun hname => hc ⟨hname.symm, ?_⟩
      rw [leaseIsCurrent, hfound]
      rfl

theorem sameGrant_after {run : List LeaseCall}
    (hrun : AllSteps LeaseWorld.step (fun w c => ¬ c.EndsLease name w.table) w run) (hrow : w.table name = some row) :
    ∃ row', (after LeaseWorld.step w run).table name = some row' ∧ row.SameGrant row' := by
  refine after_invariant_of (P := fun w' => ∃ row', w'.table name = some row' ∧ row.SameGrant row') ?_ run w hrun
    ⟨row, hrow, .refl⟩
  intro w' c hc hw'
  obtain ⟨row₁, hrow₁, hsame₁⟩ := hw'
  obtain ⟨row₂, hrow₂, hsame₂⟩ := sameGrant_step hc hrow₁
  exact ⟨row₂, hrow₂, hsame₁.trans hsame₂⟩

/-! ## Before the expiry -/

/-- Nobody acquires a lease that has not run out. -/
theorem acquire_unexpired {owner generated : String} {ttl : Int} {token : Option String} {now : DateTime}
    {lease : LeaseRecord} (hrow : t name = some row) (hnow : now < row.expiresAt)
    (h : acquire t name owner ttl token generated now = .ok (lease, t')) :
    lease.acquired = false ∧ lease.token = "" ∧ t' = t := by
  cases hacquired : lease.acquired with
  | false =>
    obtain ⟨rfl, -, htoken, -⟩ := acquire_refused h hacquired
    exact ⟨rfl, htoken, rfl⟩
  | true =>
    obtain ⟨-, -, -, -, -, -, ⟨hnone, -⟩ | ⟨old, hold, hexpired, -⟩⟩ := acquire_acquired h hacquired
    · rw [hrow] at hnone
      cases hnone
    · rw [hrow, Option.some.injEq] at hold
      subst hold
      exact absurd hnow (Nat.not_lt.2 hexpired)

/-- The record of the grant renews it, to the time it asks for. -/
theorem heartbeat_unexpired {granted : LeaseRow} {ttl : Int} {now expiresAt : DateTime} (hrow : t name = some row)
    (hsame : granted.SameGrant row) (hnow : now < row.expiresAt) (httl : 0 < ttl) (hadd : now.add ttl = some expiresAt) :
    ∃ renewed row', heartbeat t (leaseFromRow name granted true true) ttl now =
      .ok (some renewed, t.set name row') ∧ granted.SameGrant row' ∧ row'.expiresAt = expiresAt := by
  have hmatches : rowMatches t (leaseFromRow name granted true true) now = some row := by
    rw [rowMatches_eq_some]
    exact ⟨hrow, hsame.owner, hsame.token, hsame.fencingToken, hnow⟩
  have hgrant : granted.SameGrant { row with heartbeatAt := now, expiresAt := expiresAt } :=
    ⟨hsame.owner, hsame.token, hsame.fencingToken, hsame.acquiredAt⟩
  refine ⟨leaseFromRow name { row with heartbeatAt := now, expiresAt := expiresAt } false true, _, ?_, hgrant, rfl⟩
  unfold heartbeat
  rw [if_neg (by omega), hadd]
  simp only [hmatches]
  rfl

end Steps

/-- **A lease is kept.** Through any run of calls, by anyone and with any clock samples, in which none
acquires the name at or past the expiry of its row and none releases it with the record that holds
it, the row keeps its grant. At every sample before its expiry an acquisition is then refused and
changes nothing, and the record of the grant renews it. -/
theorem lease_kept (w : LeaseWorld) (run : List LeaseCall) (name : String) (row : LeaseRow)
    (hrow : w.table name = some row)
    (hrun : AllSteps LeaseWorld.step (fun w c => ¬ c.EndsLease name w.table) w run) :
    let t := (after LeaseWorld.step w run).table
    ∃ row', t name = some row' ∧ row.SameGrant row' ∧ ∀ now, now < row'.expiresAt →
      (∀ owner ttl token generated lease t', acquire t name owner ttl token generated now = .ok (lease, t') →
        lease.acquired = false ∧ lease.token = "" ∧ t' = t) ∧
      ∀ ttl expiresAt, 0 < ttl → now.add ttl = some expiresAt →
        ∃ renewed row'', heartbeat t (leaseFromRow name row true true) ttl now =
          .ok (some renewed, t.set name row'') ∧ row.SameGrant row'' ∧ row''.expiresAt = expiresAt := by
  obtain ⟨row', hrow', hsame⟩ := sameGrant_after hrun hrow
  refine ⟨row', hrow', hsame, fun now hnow => ⟨?_, ?_⟩⟩
  · intro owner ttl token generated lease t' hacquire
    exact acquire_unexpired hrow' hnow hacquire
  · intro ttl expiresAt httl hadd
    exact heartbeat_unexpired hrow' hsame hnow httl hadd

/-- A lease through somebody else's try, at a sample before its expiry, and a renewal. -/
theorem lease_kept_through_tries : ∃ row',
    (after LeaseWorld.step (LeaseWorld.init.step (.acquire "w" "a" 10 none "t1" ⟨100, by decide⟩))
      [.acquire "w" "b" 10 none "t2" ⟨109, by decide⟩,
       .heartbeat (leaseFromRow "w" ⟨"a", "t1", 1, ⟨100, by decide⟩, ⟨100, by decide⟩, ⟨110, by decide⟩⟩ true true) 50
         ⟨105, by decide⟩,
       .acquire "w" "b" 10 none "t3" ⟨120, by decide⟩]).table "w" = some row' ∧
      LeaseRow.SameGrant ⟨"a", "t1", 1, ⟨100, by decide⟩, ⟨100, by decide⟩, ⟨110, by decide⟩⟩ row' := by
  refine (lease_kept _ _ "w" _ rfl ?_).imp fun row' h => ⟨h.1, h.2.1⟩
  have hearly : ∀ {t : LeaseTable} {owner generated : String} {row : LeaseRow} {now : DateTime},
      t "w" = some row → now < row.expiresAt →
      ¬ (LeaseCall.acquire "w" owner 10 none generated now).EndsLease "w" t :=
    fun hrow hnow hends => absurd hnow (Nat.not_lt.2 (hends.2 _ hrow))
  exact ⟨hearly rfl (by decide), fun hno => hno, hearly rfl (by decide), trivial⟩

end SafeFsOps
