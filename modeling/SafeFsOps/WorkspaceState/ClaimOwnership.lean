import Mathlib.Data.List.Induction
import SafeFsOps.WorkspaceState.Claims
import SafeFsOps.WorkspaceState.LeaseFencing

/-!
# Who owns a claim, over any run

`Claims` is one call at a time; this file is about every interleaving of `create`,
`upsert`, `release` and `release_if_owner_scope_matches` by any number of owners,
with the lease calls that go on beside them. Nothing orders the clock samples, and
a caller may present any lease record and any text of details.

The whole argument is what one call does to one row (`ClaimCall.run_row`): it is
kept, it is refreshed by an `upsert` of its own owner and scope, or it is removed
by a release that names its owner and scope. The rest is that the resource key is
a key (`uniqueKeys_step`), and that every row there is was written by a call of
the run (`written_step`), so that a claim a stale holder can remove is found to be
its own:

> `claim_ownership`.

The SQLAlchemy back end issues the same statements as the plain one; where it
builds a condition of its own, it selects the same rows (`releaseClaimOrm_eq`).
-/

namespace SafeFsOps

/-! ## The other back end -/

/-- The conditions of `_release_claim_orm`, which asks for null and for a value in different ways. -/
def releaseMatchesOrm (resourceKey owner : String) (scope : Option String) (expected : Option ClaimRecord)
    (row : ClaimRecord) : Bool :=
  decide (row.resourceKey = resourceKey) && decide (row.owner = owner) &&
    (match scope with
    | none => row.scope.isNone
    | some s => decide (row.scope = some s)) &&
    (match expected with
    | none => true
    | some e =>
      (match e.details with
      | none => row.details.isNone
      | some d => decide (row.details = some d)) &&
      decide (row.createdAt.isoformat = e.createdAt.isoformat) &&
      decide (row.updatedAt.isoformat = e.updatedAt.isoformat))

/-- `_release_claim_orm`. -/
def releaseClaimOrm (t : ClaimTable) (resourceKey owner : String) (scope : Option String)
    (expected : Option ClaimRecord) : Bool × ClaimTable :=
  ((t.filter (releaseMatchesOrm resourceKey owner scope expected)).length = 1,
    t.filter fun row => ¬ releaseMatchesOrm resourceKey owner scope expected row)

theorem isNone_eq_decide {β : Type} [DecidableEq β] (a : Option β) : a.isNone = decide (a = none) := by
  cases a <;> rfl

theorem releaseMatchesOrm_eq (resourceKey owner : String) (scope : Option String) (expected : Option ClaimRecord) :
    releaseMatchesOrm resourceKey owner scope expected = releaseMatches resourceKey owner scope expected := by
  funext row
  have hscope : (match scope with | none => row.scope.isNone | some s => decide (row.scope = some s)) =
      decide (row.scope = scope) := by
    cases scope with
    | none => exact isNone_eq_decide row.scope
    | some s => rfl
  unfold releaseMatchesOrm releaseMatches
  rw [hscope]
  cases expected with
  | none => simp [Bool.and_assoc]
  | some e =>
    have hdetails : (match e.details with | none => row.details.isNone | some d => decide (row.details = some d)) =
        decide (row.details = e.details) := by
      cases e.details with
      | none => exact isNone_eq_decide row.details
      | some d => rfl
    simp [hdetails, Bool.and_assoc]

theorem releaseClaimOrm_eq (t : ClaimTable) (resourceKey owner : String) (scope : Option String)
    (expected : Option ClaimRecord) :
    releaseClaimOrm t resourceKey owner scope expected =
      releaseClaimInConnection t resourceKey owner scope expected := by
  unfold releaseClaimOrm releaseClaimInConnection
  rw [releaseMatchesOrm_eq]

/-! ## Calls -/

/-- A call on `ClaimStore`, with its clock sample. -/
inductive ClaimCall where
  | create (resourceKey : String) (lease : LeaseRecord) (owner : String) (scope : Option String)
      (details : Option ClaimDetails) (now : DateTime)
  | upsert (resourceKey : String) (lease : LeaseRecord) (owner : String) (scope : Option String)
      (details : Option ClaimDetails) (now : DateTime)
  | release (resourceKey : String) (lease : LeaseRecord) (owner : String) (scope : Option String)
      (expected : Option ClaimRecord) (now : DateTime)
  | releaseIfOwnerScopeMatches (resourceKey : String) (lease : LeaseRecord) (owner : String)
      (scope : Option String) (expected : Option ClaimRecord) (now : DateTime)

namespace ClaimCall

/-- The lease record the caller presents. -/
def lease : ClaimCall → LeaseRecord
  | create _ l .. | upsert _ l .. | release _ l .. | releaseIfOwnerScopeMatches _ l .. => l

/-- Its clock sample. -/
def now : ClaimCall → DateTime
  | create _ _ _ _ _ t | upsert _ _ _ _ _ t | release _ _ _ _ _ t | releaseIfOwnerScopeMatches _ _ _ _ _ t => t

/-- One call: the table it commits, or what it raises. -/
def run (leases : LeaseTable) (t : ClaimTable) : ClaimCall → Except ClaimError ClaimTable
  | create key lease owner scope details now => (createClaim leases t key lease owner scope details now).map (·.2)
  | upsert key lease owner scope details now => (upsertClaim leases t key lease owner scope details now).map (·.2)
  | release key lease owner scope expected now =>
    (releaseClaim leases t key lease owner scope expected now).map (·.2)
  | releaseIfOwnerScopeMatches key lease owner scope expected now =>
    (SafeFsOps.releaseIfOwnerScopeMatches leases t key lease owner scope expected now).map (·.2)

/-- The row as the call has written it. -/
def Wrote (c : ClaimRecord) : ClaimCall → Prop
  | create key _ owner scope details now => c = ⟨key, owner, scope, details, now, now⟩
  | upsert key _ owner scope details now =>
    c.resourceKey = key ∧ c.owner = owner ∧ c.scope = scope ∧ c.details = details ∧ c.updatedAt = now
  | release .. | releaseIfOwnerScopeMatches .. => False

/-- The details the call writes name its own lease, as `lease_claim_details_payload` builds them. -/
def BindsOwnLease : ClaimCall → Prop
  | create _ lease _ _ details _ | upsert _ lease _ _ details _ =>
    ∃ claimId runId rest, details = some (leaseClaimDetailsPayload lease claimId runId rest)
  | release .. | releaseIfOwnerScopeMatches .. => False

/-- The expected claim agrees with the row in what the store compares: key, details
and both times. Its owner and scope are not compared with anything. -/
def ExpectedIs (c : ClaimRecord) (expected : Option ClaimRecord) : Prop :=
  ∀ e, expected = some e → e.resourceKey = c.resourceKey ∧ e.details = c.details ∧ e.createdAt = c.createdAt ∧
    e.updatedAt = c.updatedAt

/-- The call is a release that names the row, by owner and scope, and by an expected claim where it gives one. -/
def Releases (c : ClaimRecord) : ClaimCall → Prop
  | release key _ owner scope expected _ | releaseIfOwnerScopeMatches key _ owner scope expected _ =>
    key = c.resourceKey ∧ owner = c.owner ∧ scope = c.scope ∧ ExpectedIs c expected
  | create .. | upsert .. => False

end ClaimCall

/-- The lease table with its history, and the claims. -/
structure ClaimWorld where
  leases : LeaseWorld
  claims : ClaimTable

/-- A call on either store. -/
inductive ClaimEvent where
  | lease (c : LeaseCall)
  | claim (c : ClaimCall)

namespace ClaimWorld

def init : ClaimWorld := ⟨.init, []⟩

/-- One call; one that raises changes nothing. -/
def step (w : ClaimWorld) : ClaimEvent → ClaimWorld
  | .lease c => { w with leases := w.leases.step c }
  | .claim c =>
    match c.run w.leases.table w.claims with
    | .ok claims => { w with claims := claims }
    | .error _ => w

end ClaimWorld

/-! ## One call, one row -/

section OneCall

variable {leases : LeaseTable} {t t' : ClaimTable} {c c' : ClaimRecord} {call : ClaimCall}

theorem upsertClaim_ok {key owner : String} {scope : Option String} {details : Option ClaimDetails}
    {lease : LeaseRecord} {now : DateTime} {row : ClaimRecord}
    (h : upsertClaim leases t key lease owner scope details now = .ok (row, t')) :
    leaseIsCurrent leases lease now = true ∧
      (getClaim t key = none ∧ row = ⟨key, owner, scope, details, now, now⟩ ∧ t' = t ++ [row] ∨
        ∃ existing, getClaim t key = some existing ∧ existing.owner = owner ∧ existing.scope = scope ∧
          row = { existing with details := details, updatedAt := now } ∧
          t' = updateRow ClaimRecord.resourceKey t key fun _ => row) := by
  simp only [upsertClaim, bind_eq_ok] at h
  obtain ⟨_, -, _, -, _, hcur, h⟩ := h
  refine ⟨require_eq_ok.1 hcur, ?_⟩
  cases hk : getClaim t key with
  | none =>
    simp only [hk, pure_eq_ok, Prod.mk.injEq] at h
    obtain ⟨rfl, rfl⟩ := h
    exact Or.inl ⟨rfl, rfl, rfl⟩
  | some existing =>
    simp only [hk, bind_eq_ok, require_eq_ok, pure_eq_ok, Prod.mk.injEq] at h
    obtain ⟨_, ⟨ho, hs⟩, rfl, rfl⟩ := h
    exact Or.inr ⟨existing, rfl, ho, hs, rfl, rfl⟩

theorem isoformat_eq_iff {a b : DateTime} : a.isoformat = b.isoformat ↔ a = b := by
  refine ⟨fun h => ?_, congrArg _⟩
  have hab : ¬ a < b := fun hlt => lt_irrefl _ (h ▸ (DateTime.isoformat_lt_iff a b).2 hlt)
  have hba : ¬ b < a := fun hlt => lt_irrefl _ (h ▸ (DateTime.isoformat_lt_iff b a).2 hlt)
  rw [DateTime.lt_def] at hab hba
  exact DateTime.ext (by omega)

/-- A row a release selects is the row it names. -/
theorem releaseMatches_true {key owner : String} {scope : Option String} {expected : Option ClaimRecord}
    (hkey : ∀ e, expected = some e → e.resourceKey = key)
    (h : releaseMatches key owner scope expected c = true) :
    key = c.resourceKey ∧ owner = c.owner ∧ scope = c.scope ∧ ClaimCall.ExpectedIs c expected := by
  simp only [releaseMatches, decide_eq_true_eq] at h
  obtain ⟨hk, ho, hs, hexp⟩ := h
  refine ⟨hk.symm, ho.symm, hs.symm, ?_⟩
  rintro e rfl
  simp only [Option.all_some, decide_eq_true_eq, isoformat_eq_iff] at hexp
  exact ⟨(hkey e rfl).trans hk.symm, hexp.1.symm, hexp.2.1.symm, hexp.2.2.symm⟩

/-- What a call that succeeds may do to a row there was: keep it, refresh it as
its own, or remove it by name. -/
theorem ClaimCall.run_row (h : call.run leases t = .ok t') (hc : c ∈ t) :
    c ∈ t' ∨ (∃ c' ∈ t', call.Wrote c' ∧ c'.resourceKey = c.resourceKey) ∨ call.Releases c := by
  cases call with
  -- a new row goes behind those that are there
  | create key lease owner scope details now =>
    simp only [run, map_eq_ok, Prod.exists, exists_eq_right] at h
    obtain ⟨row, h⟩ := h
    obtain ⟨-, -, -, rfl⟩ := createClaim_ok h
    exact Or.inl (List.mem_append_left _ hc)
  | upsert key lease owner scope details now =>
    simp only [run, map_eq_ok, Prod.exists, exists_eq_right] at h
    obtain ⟨row, h⟩ := h
    obtain ⟨-, ⟨-, -, rfl⟩ | ⟨existing, hexisting, ho, hs, hrow, rfl⟩⟩ := upsertClaim_ok h
    · exact Or.inl (List.mem_append_left _ hc)
    -- the row under the key is rewritten, the others stay
    · have hfound : existing.resourceKey = key := findRow_key hexisting
      by_cases hkey : c.resourceKey = key
      · refine Or.inr (Or.inl ⟨row, ?_, ?_, ?_⟩)
        · exact List.mem_map.2 ⟨c, hc, by rw [if_pos hkey]⟩
        · subst hrow
          exact ⟨hfound, ho, hs, rfl, rfl⟩
        · rw [hrow, hkey]
          exact hfound
      · exact Or.inl (List.mem_map.2 ⟨c, hc, by rw [if_neg hkey]⟩)
  -- a release takes the rows that match
  | release key lease owner scope expected now =>
    simp only [run, map_eq_ok, Prod.exists, exists_eq_right] at h
    obtain ⟨released, h⟩ := h
    have hkey : ∀ e, expected = some e → e.resourceKey = key := by
      simp only [releaseClaim, bind_eq_ok] at h
      obtain ⟨_, -, _, -, _, hkey, -⟩ := h
      rintro e rfl
      simpa [requireExpectedKey] using hkey
    obtain ⟨-, hrel⟩ := releaseClaim_ok h
    obtain rfl : t' = _ := congrArg Prod.snd hrel
    cases hm : releaseMatches key owner scope expected c with
    | false => exact Or.inl (mem_releaseClaimInConnection.2 ⟨hc, hm⟩)
    | true => exact Or.inr (Or.inr (releaseMatches_true hkey hm))
  | releaseIfOwnerScopeMatches key lease owner scope expected now =>
    simp only [run, map_eq_ok, Prod.exists, exists_eq_right] at h
    obtain ⟨released, h⟩ := h
    obtain ⟨e, rfl, hkey, -, hrel⟩ := releaseIfOwnerScopeMatches_ok h
    obtain rfl : t' = _ := congrArg Prod.snd hrel
    cases hm : releaseMatches key owner scope (some e) c with
    | false => exact Or.inl (mem_releaseClaimInConnection.2 ⟨hc, hm⟩)
    | true =>
      refine Or.inr (Or.inr (releaseMatches_true ?_ hm))
      rintro e' he'
      exact Option.some.inj he' ▸ hkey

/-- Where a row that is there after a call comes from: it was there before, or the
call has written it, under a current lease, keeping owner and scope of a row there was. -/
theorem ClaimCall.run_source (h : call.run leases t = .ok t') (hc : c' ∈ t') :
    c' ∈ t ∨ call.Wrote c' ∧ leaseIsCurrent leases call.lease call.now = true ∧
      (getClaim t c'.resourceKey = none ∨
        ∃ c, getClaim t c'.resourceKey = some c ∧ c.owner = c'.owner ∧ c.scope = c'.scope) := by
  cases call with
  | create key lease owner scope details now =>
    simp only [run, map_eq_ok, Prod.exists, exists_eq_right] at h
    obtain ⟨row, h⟩ := h
    obtain ⟨hcur, hnone, hrow, rfl⟩ := createClaim_ok h
    rcases List.mem_append.1 hc with hc | hc
    · exact Or.inl hc
    · rw [List.mem_singleton.1 hc]
      exact Or.inr ⟨hrow, hcur, Or.inl (hrow ▸ hnone)⟩
  | upsert key lease owner scope details now =>
    simp only [run, map_eq_ok, Prod.exists, exists_eq_right] at h
    obtain ⟨row, h⟩ := h
    obtain ⟨hcur, ⟨hnone, hrow, rfl⟩ | ⟨existing, hexisting, ho, hs, hrow, rfl⟩⟩ := upsertClaim_ok h
    · rcases List.mem_append.1 hc with hc | hc
      · exact Or.inl hc
      · rw [List.mem_singleton.1 hc]
        subst hrow
        exact Or.inr ⟨⟨rfl, rfl, rfl, rfl, rfl⟩, hcur, Or.inl hnone⟩
    · obtain ⟨c, hct, hc⟩ := List.mem_map.1 hc
      split at hc
      · subst hc hrow
        have hkey : existing.resourceKey = key := findRow_key hexisting
        refine Or.inr ⟨⟨hkey, ho, hs, rfl, rfl⟩, hcur, Or.inr ⟨existing, ?_, rfl, rfl⟩⟩
        exact hkey ▸ hexisting
      · exact Or.inl (hc ▸ hct)
  | release key lease owner scope expected now =>
    simp only [run, map_eq_ok, Prod.exists, exists_eq_right] at h
    obtain ⟨released, h⟩ := h
    obtain ⟨-, hrel⟩ := releaseClaim_ok h
    obtain rfl : t' = _ := congrArg Prod.snd hrel
    exact Or.inl (mem_releaseClaimInConnection.1 hc).1
  | releaseIfOwnerScopeMatches key lease owner scope expected now =>
    simp only [run, map_eq_ok, Prod.exists, exists_eq_right] at h
    obtain ⟨released, h⟩ := h
    obtain ⟨e, -, -, -, hrel⟩ := releaseIfOwnerScopeMatches_ok h
    obtain rfl : t' = _ := congrArg Prod.snd hrel
    exact Or.inl (mem_releaseClaimInConnection.1 hc).1

/-- A caller whose lease is not current removes a row only if the row names that lease. -/
theorem ClaimCall.stale_release (h : call.run leases t = .ok t') (hrel : call.Releases c)
    (hstale : leaseIsCurrent leases call.lease call.now = false) :
    claimMatchesLeaseAuthority c call.lease = true := by
  cases call with
  | create => exact hrel.elim
  | upsert => exact hrel.elim
  | release key lease owner scope expected now =>
    simp only [run, map_eq_ok, Prod.exists, exists_eq_right] at h
    obtain ⟨released, h⟩ := h
    have hcur : leaseIsCurrent leases lease now = true := (releaseClaim_ok h).1
    exact absurd (hcur.symm.trans hstale) (by decide)
  | releaseIfOwnerScopeMatches key lease owner scope expected now =>
    simp only [run, map_eq_ok, Prod.exists, exists_eq_right] at h
    obtain ⟨released, h⟩ := h
    obtain ⟨e, rfl, -, hcur | hauth, -⟩ := releaseIfOwnerScopeMatches_ok h
    · exact absurd (hcur.symm.trans hstale) (by decide)
    · have hdetails : e.details = c.details := (hrel.2.2.2 e rfl).2.1
      unfold claimMatchesLeaseAuthority at hauth ⊢
      rw [hdetails] at hauth
      exact hauth

end OneCall

/-! ## Runs -/

/-- The resource key is a key of the table. -/
def UniqueKeys (t : ClaimTable) : Prop := (t.map ClaimRecord.resourceKey).Nodup

theorem UniqueKeys.eq {t : ClaimTable} (h : UniqueKeys t) {c c' : ClaimRecord} (hc : c ∈ t) (hc' : c' ∈ t)
    (hkey : c'.resourceKey = c.resourceKey) : c' = c :=
  List.inj_on_of_nodup_map h hc' hc hkey

/-- Under unique keys, what is read under a row's key is the row. -/
theorem UniqueKeys.getClaim {t : ClaimTable} (h : UniqueKeys t) {c : ClaimRecord} (hc : c ∈ t) :
    getClaim t c.resourceKey = some c := by
  obtain ⟨c', hfound⟩ : ∃ c', findRow ClaimRecord.resourceKey t c.resourceKey = some c' :=
    findRow_isSome_of_mem hc
  have heq : c' = c := h.eq hc (findRow_mem hfound) (findRow_key hfound)
  exact heq ▸ hfound

theorem UniqueKeys.append {t : ClaimTable} (h : UniqueKeys t) {row : ClaimRecord}
    (hnone : SafeFsOps.getClaim t row.resourceKey = none) : UniqueKeys (t ++ [row]) := by
  unfold UniqueKeys
  rw [List.map_append, List.nodup_append]
  refine ⟨h, by simp, ?_⟩
  intro k hk k' hk' heq
  obtain ⟨c, hc, rfl⟩ := List.mem_map.1 hk
  rw [List.map_singleton, List.mem_singleton] at hk'
  obtain ⟨c', hfound⟩ : ∃ c', findRow ClaimRecord.resourceKey t c.resourceKey = some c' :=
    findRow_isSome_of_mem hc
  rw [heq, hk'] at hfound
  exact absurd (hnone.symm.trans hfound) (by simp)

theorem UniqueKeys.filter {t : ClaimTable} (h : UniqueKeys t) (p : ClaimRecord → Bool) : UniqueKeys (t.filter p) :=
  List.Nodup.sublist (List.Sublist.map _ List.filter_sublist) h

theorem UniqueKeys.update {t : ClaimTable} (h : UniqueKeys t) {key : String} {row : ClaimRecord}
    (hrow : row.resourceKey = key) : UniqueKeys (updateRow ClaimRecord.resourceKey t key fun _ => row) := by
  have hkeys : (updateRow ClaimRecord.resourceKey t key fun _ => row).map ClaimRecord.resourceKey =
      t.map ClaimRecord.resourceKey := by
    rw [updateRow, List.map_map]
    refine List.map_congr_left fun c _ => ?_
    show ClaimRecord.resourceKey (if c.resourceKey = key then row else c) = c.resourceKey
    split
    · next hc => rw [hrow, hc]
    · rfl
  unfold UniqueKeys
  rw [hkeys]
  exact h

theorem ClaimCall.run_unique {leases : LeaseTable} {t t' : ClaimTable} {call : ClaimCall}
    (h : call.run leases t = .ok t') (ht : UniqueKeys t) : UniqueKeys t' := by
  cases call with
  | create key lease owner scope details now =>
    simp only [run, map_eq_ok, Prod.exists, exists_eq_right] at h
    obtain ⟨row, h⟩ := h
    obtain ⟨-, hnone, hrow, rfl⟩ := createClaim_ok h
    exact ht.append (by rw [hrow]; exact hnone)
  | upsert key lease owner scope details now =>
    simp only [run, map_eq_ok, Prod.exists, exists_eq_right] at h
    obtain ⟨row, h⟩ := h
    obtain ⟨-, ⟨hnone, hrow, rfl⟩ | ⟨existing, hexisting, -, -, hrow, rfl⟩⟩ := upsertClaim_ok h
    · exact ht.append (by rw [hrow]; exact hnone)
    · have hfound : existing.resourceKey = key := findRow_key hexisting
      exact ht.update (by rw [hrow]; exact hfound)
  | release key lease owner scope expected now =>
    simp only [run, map_eq_ok, Prod.exists, exists_eq_right] at h
    obtain ⟨released, h⟩ := h
    obtain rfl : t' = _ := congrArg Prod.snd (releaseClaim_ok h).2
    exact ht.filter _
  | releaseIfOwnerScopeMatches key lease owner scope expected now =>
    simp only [run, map_eq_ok, Prod.exists, exists_eq_right] at h
    obtain ⟨released, h⟩ := h
    obtain ⟨e, -, -, -, hrel⟩ := releaseIfOwnerScopeMatches_ok h
    obtain rfl : t' = _ := congrArg Prod.snd hrel
    exact ht.filter _

theorem uniqueKeys_step (w : ClaimWorld) (e : ClaimEvent) (h : UniqueKeys w.claims) :
    UniqueKeys (w.step e).claims := by
  cases e with
  | lease c => exact h
  | claim c =>
    simp only [ClaimWorld.step]
    split
    · next t hrun => exact c.run_unique hrun h
    · exact h

/-- A call of the run wrote the row as it is, under a lease that was current then. -/
def Written (run : List ClaimEvent) (c : ClaimRecord) : Prop :=
  ∃ pre writer post, run = pre ++ .claim writer :: post ∧ writer.Wrote c ∧
    leaseIsCurrent (after ClaimWorld.step ClaimWorld.init pre).leases.table writer.lease writer.now = true

/-- Every row there is was written by a call of the run. -/
theorem written (run : List ClaimEvent) :
    ∀ c ∈ (after ClaimWorld.step ClaimWorld.init run).claims, Written run c := by
  induction run using List.reverseRecOn with
  | nil => intro c hc; cases hc
  | append_singleton run e ih =>
    intro c hc
    have earlier : c ∈ (after ClaimWorld.step ClaimWorld.init run).claims → Written (run ++ [e]) c := by
      intro hold
      obtain ⟨pre, writer, post, rfl, hwrote, hcur⟩ := ih c hold
      exact ⟨pre, writer, post ++ [e], by simp, hwrote, hcur⟩
    rw [after_append, after_cons, after_nil] at hc
    cases e with
    | lease l => exact earlier hc
    | claim call =>
      simp only [ClaimWorld.step] at hc
      split at hc
      · next t hrun =>
        rcases call.run_source hrun hc with hold | ⟨hwrote, hcur, -⟩
        · exact earlier hold
        · exact ⟨run, call, [], rfl, hwrote, hcur⟩
      · exact earlier hc

/-- What a claim written by its own lease names is that lease. -/
theorem sameLease_of_binds {writer : ClaimCall} {c : ClaimRecord} {lease : LeaseRecord} (hwrote : writer.Wrote c)
    (hbinds : writer.BindsOwnLease) (hnames : claimMatchesLeaseAuthority c lease = true) :
    writer.lease.SameLease lease := by
  have hdetails : ∃ claimId runId rest, c.details = some (leaseClaimDetailsPayload writer.lease claimId runId rest) := by
    cases writer with
    | create key l owner scope details now =>
      obtain ⟨claimId, runId, rest, h⟩ := hbinds
      have hc : c = ⟨key, owner, scope, details, now, now⟩ := hwrote
      exact ⟨claimId, runId, rest, by rw [hc]; exact h⟩
    | upsert key l owner scope details now =>
      obtain ⟨claimId, runId, rest, h⟩ := hbinds
      exact ⟨claimId, runId, rest, hwrote.2.2.2.1.trans h⟩
    | release => exact hwrote.elim
    | releaseIfOwnerScopeMatches => exact hwrote.elim
  obtain ⟨claimId, runId, rest, hc⟩ := hdetails
  unfold claimMatchesLeaseAuthority at hnames
  rw [hc] at hnames
  simp only [leaseClaimDetailsPayload, leaseTokenDigest, Option.some.injEq, TokenDigest.mk.injEq,
    decide_eq_true_eq] at hnames
  obtain ⟨-, hn, ho, ht, hf⟩ := hnames
  exact ⟨hn, ho, ht, hf⟩

/-- **Claim ownership.** At every call of every run: a resource has one claim at
most; a claim that is still there has the owner and the scope it had; a claim is
gone only through a release that names its owner and scope, and whose expected
claim, where one is given, has its key, details and times; and where the caller's
lease is not current, the claim names that very lease record, and was written by a
call of that lease if it was written as holders write it. -/
theorem claim_ownership (run : List ClaimEvent) (e : ClaimEvent) :
    let w := after ClaimWorld.step ClaimWorld.init run
    let gone (c : ClaimRecord) := ∀ c' ∈ (w.step e).claims, c'.resourceKey ≠ c.resourceKey
    (∀ c ∈ w.claims, ∀ c' ∈ w.claims, c'.resourceKey = c.resourceKey → c' = c) ∧
    (∀ c ∈ w.claims, ∀ c' ∈ (w.step e).claims, c'.resourceKey = c.resourceKey →
      c'.owner = c.owner ∧ c'.scope = c.scope) ∧
    (∀ c ∈ w.claims, gone c → ∃ call, e = .claim call ∧ call.Releases c) ∧
    (∀ c ∈ w.claims, gone c → ∀ call, e = .claim call →
      leaseIsCurrent w.leases.table call.lease call.now = false →
      claimMatchesLeaseAuthority c call.lease = true ∧
        ∃ pre writer post, run = pre ++ .claim writer :: post ∧ writer.Wrote c ∧
          (writer.BindsOwnLease → writer.lease.SameLease call.lease)) := by
  intro w gone
  have hunique : UniqueKeys w.claims := after_invariant uniqueKeys_step run _ List.nodup_nil
  -- a claim that is gone was released, by a call that succeeded
  have released : ∀ c ∈ w.claims, gone c → ∃ call t, e = .claim call ∧
      call.run w.leases.table w.claims = .ok t ∧ call.Releases c := by
    intro c hc hgone
    cases e with
    | lease l => exact absurd rfl (hgone c hc)
    | claim call =>
      cases hrun : call.run w.leases.table w.claims with
      | error err =>
        refine absurd rfl (hgone c ?_)
        simpa only [ClaimWorld.step, hrun] using hc
      | ok t =>
        have hafter : (w.step (.claim call)).claims = t := by simp only [ClaimWorld.step, hrun]
        rcases call.run_row hrun hc with hkept | ⟨c', hc', -, hkey⟩ | hrel
        · exact absurd rfl (hgone c (hafter ▸ hkept))
        · exact absurd hkey (hgone c' (hafter ▸ hc'))
        · exact ⟨call, t, rfl, hrun, hrel⟩
  refine ⟨fun c hc c' hc' hkey => hunique.eq hc hc' hkey, ?_, ?_, ?_⟩
  · intro c hc c' hc' hkey
    have kept : c' ∈ w.claims → c'.owner = c.owner ∧ c'.scope = c.scope := by
      intro hold
      rw [hunique.eq hc hold hkey]
      exact ⟨rfl, rfl⟩
    cases e with
    | lease l => exact kept hc'
    | claim call =>
      simp only [ClaimWorld.step] at hc'
      split at hc'
      · next t hrun =>
        rcases call.run_source hrun hc' with hold | ⟨-, -, hread⟩
        · exact kept hold
        · have hfound := hunique.getClaim hc
          rw [← hkey] at hfound
          rcases hread with hnone | ⟨c₀, hc₀, ho, hs⟩
          · exact absurd (hnone.symm.trans hfound) (by simp)
          · obtain rfl := Option.some.inj (hc₀.symm.trans hfound)
            exact ⟨ho.symm, hs.symm⟩
      · exact kept hc'
  · intro c hc hgone
    obtain ⟨call, t, he, -, hrel⟩ := released c hc hgone
    exact ⟨call, he, hrel⟩
  · intro c hc hgone call he hstale
    obtain ⟨call', t, he', hrun, hrel⟩ := released c hc hgone
    obtain rfl : call = call' := ClaimEvent.claim.inj (he.symm.trans he')
    have hnames := call.stale_release hrun hrel hstale
    obtain ⟨pre, writer, post, hsplit, hwrote, -⟩ := written run c hc
    exact ⟨hnames, pre, writer, post, hsplit, hwrote, fun hbinds => sameLease_of_binds hwrote hbinds hnames⟩

/-! ## What the store does not compare -/

/-- The lease of `a`, which expires, and the one `b` takes after it. -/
def expiredLease : LeaseRecord := leaseFromRow "w" ⟨"a", "t1", 1, .soon 100, .soon 100, .soon 110⟩ true true
def nextLease : LeaseRecord := leaseFromRow "w" ⟨"b", "t2", 2, .soon 200, .soon 200, .soon 210⟩ true true

/-- A claim of `b` whose details name the lease of `a`. -/
def misnamedClaim : ClaimRecord :=
  ⟨"r", "b", none, some (leaseClaimDetailsPayload expiredLease "c" none ""), .soon 201, .soon 201⟩

/-- `b` takes the lease over from `a` and makes that claim. -/
def misnaming : List ClaimEvent :=
  [.lease (.acquire "w" "a" 10 none "t1" (.soon 100)), .lease (.acquire "w" "b" 10 none "t2" (.soon 200)),
    .claim (.create "r" nextLease "b" none misnamedClaim.details (.soon 201))]

/-- An expected claim of another owner and scope removes the row all the same, and a
caller whose lease is gone removes a row that the next holder made. -/
theorem claim_ownership_misnamed :
    let w := after ClaimWorld.step ClaimWorld.init misnaming
    let other : ClaimRecord := { misnamedClaim with owner := "a", scope := some "s" }
    let stale : ClaimCall := .releaseIfOwnerScopeMatches "r" expiredLease "b" none (some misnamedClaim) (.soon 202)
    w.claims = [misnamedClaim] ∧
      (other ≠ misnamedClaim ∧
        (w.step (.claim (.release "r" nextLease "b" none (some other) (.soon 202)))).claims = []) ∧
      (leaseIsCurrent w.leases.table stale.lease stale.now = false ∧
        leaseIsCurrent w.leases.table nextLease (.soon 202) = true ∧
        ¬ nextLease.SameLease stale.lease ∧ (w.step (.claim stale)).claims = []) := by
  refine ⟨by decide, ⟨by decide, by decide⟩, by decide, by decide, ?_, by decide⟩
  rintro ⟨-, howner, -⟩
  exact absurd howner (by decide)

end SafeFsOps
