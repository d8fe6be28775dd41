import SafeFsOps.Workspace.StepRules
import SafeFsOps.Workspace.Transaction
import SafeFsOps.WorkspaceState.ClaimOwnership

/-!
# Entering a transaction

`__enter__` takes the lease, and then the claims one after the other, in the order
of their keys. When one is refused it gives up those it has, newest first, and the
lease with them.

The argument is about the rows under the keys reached so far. While claims are
taken, all other rows stay as they are, and the rows reached are the claims
remembered (`Holding`); while they are given up again, the rows reached are those
that are left (`along_releaseClaims`). So at the end no row under a key reached is
there, and every other row is as it was:

> `enter_all_or_nothing`.

A row this very instance had under one of these keys *before* was refreshed, and
so it is given up too; and so is what the instance still remembers of an earlier
`__enter__`, which had failed and could not give up its claims (`Remembers`). These
are the ways in which the claims may differ from what they were.
-/

namespace SafeFsOps

open Program

variable {φ ω : Type}

/-! ## Keys reached -/

/-- The rows under other keys. -/
def elsewhere (keys : List String) (t : ClaimTable) : ClaimTable := t.filter fun c => c.resourceKey ∉ keys

theorem elsewhere_append (keys : List String) (t t' : ClaimTable) :
    elsewhere keys (t ++ t') = elsewhere keys t ++ elsewhere keys t' := List.filter_append ..

/-- Leaving out more keys. -/
theorem elsewhere_keys (keys more : List String) (t : ClaimTable) :
    elsewhere (keys ++ more) t = elsewhere more (elsewhere keys t) := by
  simp only [elsewhere, List.filter_filter]
  refine List.filter_congr fun c _ => ?_
  simp only [List.mem_append, not_or, Bool.decide_and, Bool.and_comm]

/-- Leaving out one more key. -/
theorem elsewhere_snoc (keys : List String) (key : String) (t : ClaimTable) :
    elsewhere (keys ++ [key]) t = (elsewhere keys t).filter fun c => c.resourceKey ≠ key := by
  simp only [elsewhere, List.filter_filter]
  refine List.filter_congr fun c _ => ?_
  simp only [List.mem_append, List.mem_singleton, not_or, Bool.decide_and, Bool.and_comm]

/-- An update under a key reached is not seen elsewhere. -/
theorem elsewhere_update {keys : List String} {t : ClaimTable} {key : String} {row : ClaimRecord}
    (hkey : key ∈ keys) (hrow : row.resourceKey = key) :
    elsewhere keys (updateRow ClaimRecord.resourceKey t key fun _ => row) = elsewhere keys t := by
  induction t with
  | nil => rfl
  | cons c t ih =>
    simp only [elsewhere, updateRow, List.map_cons, List.filter_cons] at ih ⊢
    by_cases hc : c.resourceKey = key
    · simp only [hc, if_true, hrow, hkey, not_true_eq_false, decide_false, Bool.false_eq_true, if_false, ih]
    · simp only [hc, if_false, ih]

/-- The row of the transaction itself, by owner and scope. -/
def Transaction.owns (T : Transaction φ ω) (c : ClaimRecord) : Prop := c.owner = T.owner ∧ c.scope = some T.claimScope

instance (T : Transaction φ ω) (c : ClaimRecord) : Decidable (T.owns c) := inferInstanceAs (Decidable (_ ∧ _))

/-- The claim on a resource that a transaction takes under a lease. -/
def Transaction.Claimed (T : Transaction φ ω) (lease : LeaseRecord) (r : ResourceHandle) (c : ClaimRecord) : Prop :=
  c.resourceKey = r.resourceKey ∧ T.owns c ∧
    ∃ claimId, c.details = some (leaseClaimDetailsPayload lease claimId (some T.runId) r.kind)

/-- The keys of the claims an earlier `__enter__` has left. -/
def Transaction.rememberedKeys (T : Transaction φ ω) : List String := T.remembered.map ClaimRecord.resourceKey

/-- What a transaction remembers of an `__enter__` that has failed: claims of its own,
one for each key, whose rows are as they were then, or gone. -/
structure Remembers (T : Transaction φ ω) (t : ClaimTable) : Prop where
  nodup : T.rememberedKeys.Nodup
  valid : ∀ c ∈ T.remembered, c.resourceKey ≠ "" ∧ T.owner ≠ "" ∧ T.owns c
  unchanged : ∀ c ∈ T.remembered, ∀ c' ∈ t, c'.resourceKey = c.resourceKey → c' = c

/-- The claims of the resources reached are taken: they are the rows under the keys
reached, those that were there before were the transaction's own, and all other
rows are as they were in `t`. What was remembered under other keys still is. -/
structure Holding (T : Transaction φ ω) (L : LeaseRecord) (t : ClaimTable) (reached : List ResourceHandle)
    (s : TransactionState) (w : World φ) : Prop where
  lease : s.lease = L
  unique : UniqueKeys w.claims
  others : elsewhere (reached.map ResourceHandle.resourceKey) w.claims =
    elsewhere (reached.map ResourceHandle.resourceKey) t
  own : ∀ c ∈ t, c.resourceKey ∈ reached.map ResourceHandle.resourceKey → T.owns c
  nodup : (s.claims.map ClaimRecord.resourceKey).Nodup
  claims : ∀ c, c ∈ s.claims ↔ c ∈ w.claims ∧ c.resourceKey ∈ reached.map ResourceHandle.resourceKey ∨
    c ∈ T.remembered ∧ c.resourceKey ∉ reached.map ResourceHandle.resourceKey
  valid : ∀ c ∈ s.claims, c.resourceKey ≠ "" ∧ T.owner ≠ "" ∧ T.owns c
  claimed : ∀ r ∈ reached, ∃ c ∈ w.claims, T.Claimed L r c

theorem holding_start {T : Transaction φ ω} {L : LeaseRecord} {w : World φ} (hw : UniqueKeys w.claims)
    (hrem : Remembers T w.claims) : Holding T L w.claims [] (.start T.remembered L) w where
  lease := rfl
  unique := hw
  others := rfl
  own c _ h := by cases h
  nodup := hrem.nodup
  claims c := by simp [TransactionState.start]
  valid c h := hrem.valid c h
  claimed r h := by cases h

/-- What `remember_claim` makes of the claims: the new one, and those under other keys. -/
theorem mem_remember {s : TransactionState} {row c : ClaimRecord} :
    c ∈ (s.remember row).claims ↔ c = row ∨ c ∈ s.claims ∧ c.resourceKey ≠ row.resourceKey := by
  unfold TransactionState.remember
  split
  · next hany =>
    obtain ⟨c₀, hc₀, hkey⟩ := List.any_eq_true.1 hany
    rw [decide_eq_true_eq] at hkey
    show c ∈ updateRow _ _ _ _ ↔ _
    rw [updateRow, List.mem_map]
    constructor
    · rintro ⟨c₁, hc₁, rfl⟩
      split
      · exact Or.inl rfl
      · next hne => exact Or.inr ⟨hc₁, hne⟩
    · rintro (rfl | ⟨hc, hne⟩)
      · exact ⟨c₀, hc₀, if_pos hkey⟩
      · exact ⟨c, hc, if_neg hne⟩
  · next hnone =>
    rw [List.any_eq_true] at hnone
    push Not at hnone
    show c ∈ s.claims ++ [row] ↔ _
    rw [List.mem_append, List.mem_singleton]
    constructor
    · rintro (hc | hc)
      · exact Or.inr ⟨hc, fun heq => hnone c hc (decide_eq_true heq)⟩
      · exact Or.inl hc
    · rintro (hc | ⟨hc, -⟩)
      · exact Or.inr hc
      · exact Or.inl hc

/-- One claim for each key is remembered. -/
theorem remember_nodup {s : TransactionState} {row : ClaimRecord}
    (h : (s.claims.map ClaimRecord.resourceKey).Nodup) :
    ((s.remember row).claims.map ClaimRecord.resourceKey).Nodup := by
  unfold TransactionState.remember
  split
  · exact UniqueKeys.update h rfl
  · next hnone =>
    rw [List.any_eq_true] at hnone
    push Not at hnone
    show ((s.claims ++ [row]).map ClaimRecord.resourceKey).Nodup
    rw [List.map_append, List.nodup_append]
    refine ⟨h, by simp, ?_⟩
    intro k hk k' hk' heq
    obtain ⟨c, hc, rfl⟩ := List.mem_map.1 hk
    rw [List.map_singleton, List.mem_singleton] at hk'
    exact hnone c hc (decide_eq_true (heq.trans hk'))

/-- A claim that is accepted: its row, and where it stands. -/
theorem upsertClaim_row {leases : LeaseTable} {t t' : ClaimTable} {key owner : String} {scope : Option String}
    {details : Option ClaimDetails} {lease : LeaseRecord} {now : DateTime} {row : ClaimRecord}
    (ht : UniqueKeys t) (h : upsertClaim leases t key lease owner scope details now = .ok (row, t')) :
    key ≠ "" ∧ owner ≠ "" ∧ row.resourceKey = key ∧ row.owner = owner ∧ row.scope = scope ∧ row.details = details ∧
      UniqueKeys t' ∧ (∀ c, c ∈ t' ↔ c = row ∨ c ∈ t ∧ c.resourceKey ≠ key) ∧
      (∀ c ∈ t, c.resourceKey = key → c.owner = owner ∧ c.scope = scope) ∧
      ∀ keys, key ∈ keys → elsewhere keys t' = elsewhere keys t := by
  have hrun : (ClaimCall.upsert key lease owner scope details now).run leases t = .ok t' :=
    map_eq_ok.2 ⟨(row, t'), h, rfl⟩
  have hvalid : key ≠ "" ∧ owner ≠ "" := by
    simp only [upsertClaim, validateClaimText, bind_eq_ok, require_eq_ok] at h
    obtain ⟨_, hkey, _, howner, -⟩ := h
    exact ⟨hkey, howner⟩
  have hunique := ClaimCall.run_unique hrun ht
  obtain ⟨-, ⟨hnone, rfl, rfl⟩ | ⟨existing, hexisting, ho, hs, rfl, rfl⟩⟩ := upsertClaim_ok h
  -- a key nobody claimed: the row is appended
  · have hfresh : ∀ c ∈ t, c.resourceKey ≠ key := by
      intro c hc heq
      have hfound := ht.getClaim hc
      rw [heq, hnone] at hfound
      cases hfound
    refine ⟨hvalid.1, hvalid.2, rfl, rfl, rfl, rfl, hunique, ?_, fun c hc heq => absurd heq (hfresh c hc), ?_⟩
    · intro c
      rw [List.mem_append, List.mem_singleton]
      constructor
      · rintro (hc | hc)
        · exact Or.inr ⟨hc, hfresh c hc⟩
        · exact Or.inl hc
      · rintro (hc | ⟨hc, -⟩)
        · exact Or.inr hc
        · exact Or.inl hc
    · intro keys hkeys
      rw [elsewhere_append]
      simp [elsewhere, hkeys]
  -- a key claimed under the same owner and scope: its row is replaced
  · have hfound : existing.resourceKey = key := findRow_key hexisting
    refine ⟨hvalid.1, hvalid.2, hfound, ho, hs, rfl, hunique, ?_, ?_, fun keys hkeys =>
      elsewhere_update hkeys hfound⟩
    · intro c
      rw [updateRow, List.mem_map]
      constructor
      · rintro ⟨c₀, hc₀, rfl⟩
        split
        · exact Or.inl rfl
        · next hne => exact Or.inr ⟨hc₀, hne⟩
      · rintro (rfl | ⟨hc, hne⟩)
        · exact ⟨existing, findRow_mem hexisting, if_pos hfound⟩
        · exact ⟨c, hc, if_neg hne⟩
    · intro c hc heq
      have hceq : existing = c := by
        have := ht.getClaim hc
        rw [heq, hexisting] at this
        exact Option.some.inj this
      rw [← hceq]
      exact ⟨ho, hs⟩

/-- One more resource is claimed. -/
theorem Holding.claim {T : Transaction φ ω} {L : LeaseRecord} {t : ClaimTable} {reached : List ResourceHandle}
    {s : TransactionState} {w : World φ} (h : Holding T L t reached s w) {r : ResourceHandle}
    (hnew : r.resourceKey ∉ reached.map ResourceHandle.resourceKey) {now : DateTime} {claimId : String}
    {row : ClaimRecord} {claims : ClaimTable}
    (hok : upsertClaim w.journal.leases w.claims r.resourceKey L T.owner (some T.claimScope)
      (some (leaseClaimDetailsPayload L claimId (some T.runId) r.kind)) now = .ok (row, claims)) :
    Holding T L t (reached ++ [r]) (s.remember row) { w with claims := claims } := by
  obtain ⟨hkey, howner, hrk, hro, hrs, hrd, hunique, hmem, hown, hother⟩ := upsertClaim_row h.unique hok
  have hkeys : (reached ++ [r]).map ResourceHandle.resourceKey =
      reached.map ResourceHandle.resourceKey ++ [r.resourceKey] := by simp
  have hlease : (s.remember row).lease = s.lease := by
    unfold TransactionState.remember
    split <;> rfl
  refine ⟨hlease.trans h.lease, hunique, ?_, ?_, ?_, ?_, ?_, ?_⟩
  · show elsewhere _ claims = _
    rw [hkeys, hother _ (List.mem_append_right _ List.mem_cons_self), elsewhere_snoc, elsewhere_snoc, h.others]
  · intro c hc hk
    rw [hkeys] at hk
    rcases List.mem_append.1 hk with hk | hk
    · exact h.own c hc hk
    · -- a row under the new key is still there, since it is under none of the keys reached
      have hck : c.resourceKey = r.resourceKey := List.mem_singleton.1 hk
      have hce : c ∈ elsewhere (reached.map ResourceHandle.resourceKey) t :=
        List.mem_filter.2 ⟨hc, by rw [hck]; exact decide_eq_true hnew⟩
      rw [← h.others] at hce
      exact hown c (List.mem_filter.1 hce).1 hck
  · exact remember_nodup h.nodup
  · intro c
    -- a claim remembered earlier under the key gives way to the new row
    rw [mem_remember, hkeys, List.mem_append, List.mem_singleton, hmem, h.claims, hrk]
    constructor
    · rintro (rfl | ⟨⟨hc, hk⟩ | ⟨hc, hk⟩, hne⟩)
      · exact Or.inl ⟨Or.inl rfl, Or.inr hrk⟩
      · exact Or.inl ⟨Or.inr ⟨hc, hne⟩, Or.inl hk⟩
      · exact Or.inr ⟨hc, not_or.2 ⟨hk, hne⟩⟩
    · rintro (⟨rfl | ⟨hc, hne⟩, hk⟩ | ⟨hc, hk⟩)
      · exact Or.inl rfl
      · exact Or.inr ⟨Or.inl ⟨hc, hk.resolve_right hne⟩, hne⟩
      · exact Or.inr ⟨Or.inr ⟨hc, (not_or.1 hk).1⟩, (not_or.1 hk).2⟩
  · intro c hc
    rcases mem_remember.1 hc with rfl | ⟨hc, -⟩
    · rw [hrk]
      exact ⟨hkey, howner, hro, hrs⟩
    · exact h.valid c hc
  · intro r' hr'
    rcases List.mem_append.1 hr' with hr' | hr'
    · obtain ⟨c, hc, hclaimed⟩ := h.claimed r' hr'
      refine ⟨c, (hmem c).2 (Or.inr ⟨hc, ?_⟩), hclaimed⟩
      intro heq
      refine hnew ?_
      rw [← heq, hclaimed.1]
      exact List.mem_map_of_mem hr'
    · rw [List.mem_singleton.1 hr']
      exact ⟨row, (hmem row).2 (Or.inl rfl), hrk, ⟨hro, hrs⟩, claimId, hrd⟩

section Along

variable {T : Transaction φ ω} {L : LeaseRecord} {t : ClaimTable}

/-- Taking the claims: all of them, or those before the first that is refused. -/
theorem along_claimResources {C : Sample ω → World φ → Prop} (rs : List ResourceHandle) :
    ∀ (reached : List ResourceHandle) (s : TransactionState) (w : World φ),
      ((reached ++ rs).map ResourceHandle.resourceKey).Nodup → Holding T L t reached s w →
      Along C (fun _ _ => True) (fun r w' => ∃ s' refused reached', r = .ok (s', refused) ∧
        Holding T L t reached' s' w' ∧ w'.journal = w.journal ∧
        (refused = none → reached' = reached ++ rs) ∧
        (refused ≠ none → ∃ r₀ rest, reached ++ rs = reached' ++ r₀ :: rest)) (claimResources T s rs) w := by
  induction rs with
  | nil =>
    intro reached s w _ h
    exact ⟨s, none, reached, rfl, h, rfl, fun _ => (List.append_nil _).symm, fun hne => absurd rfl hne⟩
  | cons r rs ih =>
    intro reached s w hnodup h
    have hnew : r.resourceKey ∉ reached.map ResourceHandle.resourceKey := by
      intro hmem
      rw [List.map_append, List.nodup_append] at hnodup
      exact hnodup.2.2 _ hmem _ (List.mem_map_of_mem List.mem_cons_self) rfl
    -- one claim: refused, or taken
    have hone : Along C (fun _ _ => True) (fun r' w' => (∀ e, r' = .error e → w' = w) ∧
        ∀ row, r' = .ok row → ∃ claims, w' = { w with claims := claims } ∧
          Holding T L t (reached ++ [r]) (s.remember row) w')
        (upsertClaimStep T (T.holder s none) r.resourceKey r.kind) w := by
      refine along_transaction trivial (fun _ _ _ _ => ⟨fun _ _ => rfl, nofun⟩)
        (fun _ _ _ _ _ => ⟨fun _ _ => rfl, nofun⟩) fun i row w' _ _ hact => ?_
      refine ⟨trivial, nofun, fun row' hrow' => ?_⟩
      cases hrow'
      dsimp only at hact
      split at hact
      · next row' claims hok =>
        cases hact
        refine ⟨claims, rfl, ?_⟩
        have hl : (T.holder s none).lease = L := h.lease
        rw [hl] at hok
        exact h.claim hnew hok
      · cases hact
    refine along_outcome_seq hone ?_
    rintro (e | row) w' hw'
    · obtain rfl : w' = w := hw'.1 e rfl
      exact ⟨s, some e, reached, rfl, h, rfl, fun hn => (by cases hn), fun _ => ⟨r, rs, rfl⟩⟩
    · obtain ⟨claims, rfl, h'⟩ := hw'.2 row rfl
      have hsnoc : reached ++ r :: rs = (reached ++ [r]) ++ rs := by simp
      rw [hsnoc] at hnodup
      refine along_mono (fun _ _ h => h) ?_ (ih _ _ _ hnodup h')
      rintro r' w'' ⟨s', refused, reached', hr, hholding, hj, hnone, hsome⟩
      rw [hsnoc]
      exact ⟨s', refused, reached', hr, hholding, hj, hnone, hsome⟩

/-! ## Giving up -/

/-- A holder of a current lease releases its own claim. -/
theorem releaseClaim_own {leases : LeaseTable} {t : ClaimTable} {lease : LeaseRecord} {c : ClaimRecord}
    {now : DateTime} (ht : UniqueKeys t) (hc : c ∈ t) (hkey : c.resourceKey ≠ "") (howner : c.owner ≠ "")
    (hcur : leaseIsCurrent leases lease now = true) :
    ∃ t', releaseClaim leases t c.resourceKey lease c.owner c.scope (some c) now = .ok (true, t') ∧
      (∀ c', c' ∈ t' ↔ c' ∈ t ∧ c' ≠ c) ∧ UniqueKeys t' ∧
      ∀ keys, c.resourceKey ∈ keys → elsewhere keys t' = elsewhere keys t := by
  -- no other claim matches: keys are unique
  have hmatches : ∀ c' ∈ t, releaseMatches c.resourceKey c.owner c.scope (some c) c' = true ↔ c' = c := by
    intro c' hc'
    refine ⟨fun h => ht.eq hc hc' (releaseMatches_true ?_ h).1.symm, ?_⟩
    · rintro e he
      exact Option.some.inj he ▸ rfl
    · rintro rfl
      simp [releaseMatches]
  have hone : (t.filter (releaseMatches c.resourceKey c.owner c.scope (some c))).length = 1 := by
    have hnodup : t.Nodup := List.Nodup.of_map _ ht
    have hcongr : t.filter (releaseMatches c.resourceKey c.owner c.scope (some c)) = t.filter (· = c) := by
      refine List.filter_congr fun c' hc' => ?_
      rw [Bool.eq_iff_iff, hmatches c' hc', decide_eq_true_eq]
    rw [hcongr, ← List.countP_eq_length_filter]
    have := List.count_eq_one_of_mem hnodup hc
    rw [List.count, List.countP_congr (q := fun x => decide (x = c))] at this
    · exact this
    · intro x _
      simp
  refine ⟨(releaseClaimInConnection t c.resourceKey c.owner c.scope (some c)).2, ?_, ?_, ht.filter _, ?_⟩
  · have hok : ∀ (p : Prop) [Decidable p] (e : ClaimError), p → require p e = .ok () := by
      intro p _ e hp
      exact if_pos hp
    unfold releaseClaim validateClaimText requireExpectedKey requireLeaseForClaim
    rw [hok _ _ hkey, hok _ _ howner, hok _ _ (by simp), hok _ _ hcur]
    have hlen : (releaseClaimInConnection t c.resourceKey c.owner c.scope (some c)).1 = true :=
      decide_eq_true hone
    show Except.ok _ = Except.ok _
    rw [← hlen]
  · intro c'
    rw [mem_releaseClaimInConnection]
    refine and_congr_right fun hc' => ?_
    rw [← Bool.not_eq_true, hmatches c' hc']
  · intro keys hkeys
    simp only [elsewhere, releaseClaimInConnection, List.filter_filter]
    refine List.filter_congr fun c' hc' => ?_
    by_cases hk : c'.resourceKey ∈ keys
    · simp only [hk, not_true_eq_false, decide_false, Bool.false_and]
    · have hne : ¬ releaseMatches c.resourceKey c.owner c.scope (some c) c' = true := by
        rw [hmatches c' hc']
        rintro rfl
        exact hk hkeys
      simp [hk, hne]

/-- The database answers, and the lease is current at the clock sample. -/
def Steady (L : LeaseRecord) (i : Sample ω) (w : World φ) : Prop :=
  i.fault = none ∧ leaseIsCurrent w.journal.leases L i.now = true

instance (L : LeaseRecord) (i : Sample ω) (w : World φ) : Decidable (Steady L i w) :=
  inferInstanceAs (Decidable (_ ∧ _))

/-- A claim whose row is gone is none to release. -/
theorem releaseClaim_missing {leases : LeaseTable} {t : ClaimTable} {lease : LeaseRecord} {c : ClaimRecord}
    {now : DateTime} (hgone : ∀ c' ∈ t, c'.resourceKey ≠ c.resourceKey) (hkey : c.resourceKey ≠ "")
    (howner : c.owner ≠ "") (hcur : leaseIsCurrent leases lease now = true) :
    releaseClaim leases t c.resourceKey lease c.owner c.scope (some c) now = .ok (false, t) := by
  have hnone : ∀ c' ∈ t, releaseMatches c.resourceKey c.owner c.scope (some c) c' = false := by
    intro c' hc'
    simp [releaseMatches, hgone c' hc']
  have hkept : t.filter (fun c' => ¬ releaseMatches c.resourceKey c.owner c.scope (some c) c') = t := by
    rw [List.filter_eq_self]
    intro c' hc'
    simp [hnone c' hc']
  have hdropped : t.filter (releaseMatches c.resourceKey c.owner c.scope (some c)) = [] := by
    rw [List.filter_eq_nil_iff]
    intro c' hc'
    simp [hnone c' hc']
  have hok : ∀ (p : Prop) [Decidable p] (e : ClaimError), p → require p e = .ok () := by
    intro p _ e hp
    exact require_eq_ok.2 hp
  simp only [releaseClaim, validateClaimText, requireExpectedKey, requireLeaseForClaim, hok _ _ hkey, hok _ _ howner,
    hok _ _ hcur, Option.all_some, decide_true, hok, releaseClaimInConnection, hkept, hdropped]
  rfl

/-- The rows under the keys are among the claims left, each of which is as remembered
or gone, and all other rows are as they were. -/
structure GivingUp (T : Transaction φ ω) (t : ClaimTable) (keys : List String) (left : List ClaimRecord) (w : World φ) : Prop where
  unique : UniqueKeys w.claims
  others : elsewhere keys w.claims = elsewhere keys t
  rows : ∀ c ∈ w.claims, c.resourceKey ∈ keys → c ∈ left
  same : ∀ c ∈ left, c.resourceKey ∈ keys ∧ ∀ c' ∈ w.claims, c'.resourceKey = c.resourceKey → c' = c
  valid : ∀ c ∈ left, c.resourceKey ≠ "" ∧ T.owner ≠ "" ∧ T.owns c

/-- Giving up all claims, under a lease that is current at the time sampled for it. -/
theorem along_releaseClaims {h : LeaseHolder} {now : DateTime} {keys : List String} {w : World φ}
    (hnow : h = ⟨L, some now⟩) (hcur : leaseIsCurrent w.journal.leases L now = true) {left : List ClaimRecord}
    (hleft : GivingUp T t keys left w) :
    Along (Steady L) (fun _ _ => True) (fun r w' => r = .ok () ∧ GivingUp T t keys [] w' ∧ w'.journal = w.journal)
      (Program.forEach left (releaseTransactionClaim T h)) w := by
  refine along_forEach (I := fun left w' => GivingUp T t keys left w' ∧ w'.journal = w.journal) ?_ ?_ ⟨hleft, rfl⟩
  · rintro c rest w₁ ⟨hup, hj⟩
    obtain ⟨hkey, howner, hown⟩ := hup.valid c List.mem_cons_self
    obtain ⟨hck, hsame⟩ := hup.same c List.mem_cons_self
    -- one release: the row is there and goes, or it was gone already
    obtain ⟨released, claims, hrel, hmem, hunique, hother, hgone⟩ : ∃ released claims,
        releaseClaim w₁.journal.leases w₁.claims c.resourceKey L c.owner c.scope (some c) now = .ok (released, claims) ∧
        (∀ c', c' ∈ claims ↔ c' ∈ w₁.claims ∧ c' ≠ c) ∧ UniqueKeys claims ∧
        elsewhere keys claims = elsewhere keys w₁.claims ∧
        (released = false → ∀ c' ∈ claims, c'.resourceKey ≠ c.resourceKey) := by
      by_cases hc : c ∈ w₁.claims
      · obtain ⟨claims, hrel, hmem, hunique, hother⟩ := releaseClaim_own hup.unique hc hkey (hown.1 ▸ howner) (hj ▸ hcur)
        exact ⟨true, claims, hrel, hmem, hunique, hother keys hck, nofun⟩
      · have hgone : ∀ c' ∈ w₁.claims, c'.resourceKey ≠ c.resourceKey := fun c' hc' heq => hc (hsame c' hc' heq ▸ hc')
        refine ⟨false, w₁.claims, releaseClaim_missing hgone hkey (hown.1 ▸ howner) (hj ▸ hcur), ?_, hup.unique, rfl,
          fun _ => hgone⟩
        exact fun c' => ⟨fun hc' => ⟨hc', fun heq => hc (heq ▸ hc')⟩, And.left⟩
    have hstep : Along (Steady L) (fun _ _ => True)
        (fun r w' => r = .ok released ∧ w' = { w₁ with claims := claims })
        ((releaseClaimStep h T.owner (some T.claimScope) c : Op φ ω Bool).onRaise fun e =>
          if e.isLeaseLost then releaseIfOwnerScopeMatchesStep h T.owner (some T.claimScope) c else .raise e) w₁ := by
      refine along_onRaise (along_claimWrite trivial ?_ ?_ ?_)
      · intro i e hi he
        exact absurd (hi.1.symm.trans he) (by simp)
      · intro i e _ _ he
        subst hnow
        rw [← hown.1, ← hown.2] at he
        exact absurd (hrel.symm.trans he) (by simp)
      · intro i released' claims' _ _ hok
        subst hnow
        rw [← hown.1, ← hown.2] at hok
        obtain ⟨rfl, rfl⟩ := Prod.mk.inj (Except.ok.inj (hrel.symm.trans hok))
        exact ⟨trivial, rfl, rfl⟩
    have hrest : GivingUp T t keys rest { w₁ with claims := claims } := by
      refine ⟨hunique, hother.trans hup.others, ?_, ?_, fun c' hc' => hup.valid c' (List.mem_cons_of_mem _ hc')⟩
      · intro c' hc' hk
        obtain ⟨hc₁, hne⟩ := (hmem c').1 hc'
        exact (List.mem_cons.1 (hup.rows c' hc₁ hk)).resolve_left hne
      · intro c' hc'
        obtain ⟨hk, hs⟩ := hup.same c' (List.mem_cons_of_mem _ hc')
        exact ⟨hk, fun c₁ hc₁ => hs c₁ ((hmem c₁).1 hc₁).1⟩
    refine along_seq hstep ?_ ?_
    · rintro _ _ ⟨ha, rfl⟩
      cases ha
      cases released with
      | true => exact ⟨hrest, hj⟩
      | false =>
        have hnone : getClaim claims c.resourceKey = none := by
          cases hfound : getClaim claims c.resourceKey with
          | none => rfl
          | some c' => exact absurd (findRow_key hfound) (hgone rfl c' (findRow_mem hfound))
        refine along_seq (Q := fun r w' => r = .ok none ∧ w' = { w₁ with claims := claims })
          (along_databaseRead trivial (fun i e hi he => ?_) ?_) ?_ ?_
        · exact absurd (hi.1.symm.trans he) (by simp)
        · exact fun i _ _ => ⟨congrArg Except.ok hnone, rfl⟩
        · rintro _ _ ⟨hr, rfl⟩
          cases hr
          exact ⟨hrest, hj⟩
        · rintro e _ ⟨hr, -⟩
          cases hr
    · rintro e _ ⟨he, -⟩
      cases he
  · rintro w₁ ⟨hup, hj⟩
    exact ⟨rfl, hup, hj⟩

/-- A transaction that holds claims gives up all it remembers. -/
theorem Holding.givingUp {reached : List ResourceHandle} {s : TransactionState} {w : World φ}
    (h : Holding T L t reached s w) (hrem : Remembers T t) :
    GivingUp T t (reached.map ResourceHandle.resourceKey ++ T.rememberedKeys) s.claims.reverse w := by
  -- a row elsewhere is a row there was
  have before : ∀ c ∈ w.claims, c.resourceKey ∉ reached.map ResourceHandle.resourceKey → c ∈ t := by
    intro c hc hk
    have hce : c ∈ elsewhere (reached.map ResourceHandle.resourceKey) w.claims :=
      List.mem_filter.2 ⟨hc, decide_eq_true hk⟩
    rw [h.others] at hce
    exact (List.mem_filter.1 hce).1
  refine ⟨h.unique, ?_, ?_, ?_, fun c hc => h.valid c (List.mem_reverse.1 hc)⟩
  · rw [elsewhere_keys, elsewhere_keys, h.others]
  · intro c hc hk
    rw [List.mem_reverse, h.claims]
    by_cases hr : c.resourceKey ∈ reached.map ResourceHandle.resourceKey
    · exact Or.inl ⟨hc, hr⟩
    · obtain ⟨m, hm, heq⟩ := List.mem_map.1 ((List.mem_append.1 hk).resolve_left hr)
      obtain rfl := hrem.unchanged m hm c (before c hc hr) heq.symm
      exact Or.inr ⟨hm, hr⟩
  · intro c hc
    rcases (h.claims c).1 (List.mem_reverse.1 hc) with ⟨hc, hk⟩ | ⟨hc, hk⟩
    · exact ⟨List.mem_append_left _ hk, fun c' hc' heq => h.unique.eq hc hc' heq⟩
    · refine ⟨List.mem_append_right _ (List.mem_map_of_mem hc), fun c' hc' heq => ?_⟩
      exact hrem.unchanged c hc c' (before c' hc' (heq ▸ hk)) heq

/-- The last thing that happened to the leases was a release of this one. -/
def Released (L : LeaseRecord) (w : World φ) : Prop :=
  ∃ leases generated now, releaseLease leases L generated now = (true, w.journal.leases)

/-- The clean-up of a transaction that was refused a claim: nothing is left under the
keys reached and remembered, and the lease is released. -/
theorem along_cleanupRefused {reached : List ResourceHandle} {s : TransactionState} {w : World φ}
    (h : Holding T L t reached s w) (hrem : Remembers T t) :
    Along (Steady L) (fun _ _ => True) (fun _ w' => Released L w' ∧
        w'.claims = elsewhere (reached.map ResourceHandle.resourceKey ++ T.rememberedKeys) t)
      (cleanupTransaction T s) w := by
  obtain rfl := h.lease
  -- the clock sample of the whole clean-up
  refine along_seq (Q := fun r w' => w' = w ∧ ∃ now, r = .ok ⟨s.lease, some now⟩ ∧
    leaseIsCurrent w.journal.leases s.lease now = true)
    (along_atOperationTime trivial fun i hi => ⟨rfl, i.now, rfl, hi.2⟩) ?_ ?_
  swap
  · rintro e _ ⟨-, now, hr, -⟩
    cases hr
  rintro hh w₀ ⟨hw, now, hr, hcur⟩
  obtain rfl : w = w₀ := hw.symm
  cases hr
  refine along_outcome_seq (Q := fun r w' => r = .ok () ∧ w' = w) ?_ ?_
  · unfold stopLeaseHeartbeat
    split
    · exact ⟨rfl, rfl⟩
    · refine along_databaseRead trivial (fun i e hi he => ?_) fun _ _ _ => ⟨rfl, rfl⟩
      exact absurd (hi.1.symm.trans he) (by simp)
  rintro _ w₀ ⟨rfl, hw⟩
  obtain rfl : w = w₀ := hw.symm
  refine along_outcome_seq (along_releaseClaims rfl hcur (h.givingUp hrem)) ?_
  rintro _ w₁ ⟨rfl, hgone, hj⟩
  have hclaims : w₁.claims = elsewhere (reached.map ResourceHandle.resourceKey ++ T.rememberedKeys) t := by
    rw [← hgone.others, elsewhere, List.filter_eq_self.2]
    exact fun c hc => decide_eq_true fun hk => absurd (hgone.rows c hc hk) List.not_mem_nil
  rw [← hj] at hcur
  refine along_seq (Q := fun _ w' => Released s.lease w' ∧ w'.claims = w₁.claims) ?_ ?_ ?_
  · refine along_transaction trivial (fun i e hi he => absurd (hi.1.symm.trans he) (by simp)) ?_ ?_
    · intro i e _ _ he
      cases he
    · intro i released w' hi _ hact
      cases hact
      refine ⟨trivial, ⟨w₁.journal.leases, i.generated, now, ?_⟩, rfl⟩
      obtain ⟨row, hrow⟩ := Option.isSome_iff_exists.1 hcur
      show releaseLease _ _ _ _ = (true, (releaseLease _ _ _ _).2)
      simp only [releaseLease, LeaseHolder.operationTime, Option.getD_some, hrow]
  · rintro released w₂ ⟨hrel, hc⟩
    exact ⟨hrel, hc.trans hclaims⟩
  · rintro e w₂ ⟨hrel, hc⟩
    exact ⟨hrel, hc.trans hclaims⟩

end Along

/-! ## Entering -/

/-- `__enter__` once the lease is acquired, or refused. -/
def enterUnder (T : Transaction φ ω) (lease : LeaseRecord) : Op φ ω TransactionState :=
  if lease.acquired = false then .raise (.workspaceBusy (leaseIsHeld T.workspace lease))
  else do
    startLeaseHeartbeat T lease
    let (s, refused) ← claimResources T (.start T.remembered lease) T.resources.sorted
    match refused with
    | some e => do
      let _ ← cleanupTransaction T s
      .raise (claimRefused e)
    | none => do
      markEntered T lease
      return s

theorem enterTransaction_eq (T : Transaction φ ω) (h : T.name ≠ "") :
    enterTransaction T = (acquireLease T.workspace T.now).bind (enterUnder T) := if_neg h

/-- A claim was refused, those before it and those remembered are given up, and the
lease is released. -/
def Refused (T : Transaction φ ω) (lease : LeaseRecord) (w w' : World φ) : Prop :=
  ∃ reached refused rest, T.resources.sorted = reached ++ refused :: rest ∧
    let keys := reached.map ResourceHandle.resourceKey ++ T.rememberedKeys
    (∀ c ∈ w.claims, c.resourceKey ∈ keys → T.owns c) ∧ w'.claims = elsewhere keys w.claims ∧
    (w'.claims = w.claims ↔ ∀ c ∈ w.claims, c.resourceKey ∉ keys) ∧ Released lease w'

/-- Every resource is claimed by the transaction, under its lease, which is current. -/
def Entered (T : Transaction φ ω) (s : TransactionState) (w : World φ) : Prop :=
  (∀ r ∈ T.resources.members, ∃ c, getClaim w.claims r.resourceKey = some c ∧ T.Claimed s.lease r c) ∧
    ∃ now, leaseIsCurrent w.journal.leases s.lease now = true

theorem elsewhere_eq_self {keys : List String} {t : ClaimTable} :
    elsewhere keys t = t ↔ ∀ c ∈ t, c.resourceKey ∉ keys := by
  simp [elsewhere, List.filter_eq_self]

theorem sorted_keys_nodup (s : ResourceSet) : (s.sorted.map ResourceHandle.resourceKey).Nodup :=
  ((List.perm_insertionSort _ s.members).map _).nodup_iff.2 s.keysNodup

/-- Starting the heartbeat touches no claim, and fails only where the calendar ends. -/
theorem along_startLeaseHeartbeat {T : Transaction φ ω} {lease : LeaseRecord} {w : World φ} :
    Along (Steady lease) (fun _ _ => True)
      (fun r w' => w'.claims = w.claims ∧ ∀ e, r = .error e → e = leaseErrorRaised .overflow)
      (startLeaseHeartbeat T lease) w := by
  unfold startLeaseHeartbeat
  split
  · exact ⟨rfl, fun e he => by cases he⟩
  next hstart =>
  refine along_seq (Q := fun r w' => w'.claims = w.claims ∧ r ≠ .ok none ∧
    ∀ e, r = .error e → e = leaseErrorRaised .overflow) ?_ ?_ ?_
  · refine along_transaction trivial (fun i e hi he => absurd (hi.1.symm.trans he) (by simp)) ?_ ?_
    · intro i e _ _ hact
      split at hact
      · cases hact
      · next e' hbeat =>
        cases hact
        refine ⟨rfl, by simp, fun e he => ?_⟩
        cases he
        unfold heartbeat at hbeat
        split at hbeat
        · next hpos => exact absurd (Or.inr hpos) hstart
        · split at hbeat
          · cases hbeat
            rfl
          · split at hbeat <;> cases hbeat
    · intro i renewed w' hi _ hact
      split at hact
      · next lease' leases hbeat =>
        cases hact
        refine ⟨trivial, rfl, fun hnone => ?_, fun e he => by cases he⟩
        cases hnone
        have hmiss := (heartbeat_none hbeat).1
        exact absurd hi.2 (by simp [leaseIsCurrent, LeaseHolder.operationTime] at hmiss ⊢; exact hmiss)
      · cases hact
  · rintro renewed w' ⟨hc, hne, -⟩
    cases renewed with
    | none => exact absurd rfl hne
    | some _ => exact ⟨hc, fun e he => by cases he⟩
  · rintro e w' ⟨hc, -, he⟩
    refine ⟨hc, fun e' he' => he e' ?_⟩
    cases he'
    rfl

theorem along_enterUnder {T : Transaction φ ω} {lease : LeaseRecord} {w : World φ} (hw : UniqueKeys w.claims)
    (hrem : Remembers T w.claims) (hacquired : lease.acquired = true) :
    Along (Steady lease) (fun _ _ => True) (fun r w' => match r with
      | .error e => e = leaseErrorRaised .overflow ∧ w'.claims = w.claims ∨ Refused T lease w w'
      | .ok s => Entered T s w') (enterUnder T lease) w := by
  unfold enterUnder
  rw [if_neg (by simp [hacquired])]
  -- the heartbeat's interval may overflow, before any claim is made
  refine along_seq along_startLeaseHeartbeat ?_ ?_
  swap
  · rintro e w' ⟨hc, he⟩
    exact Or.inl ⟨he e rfl, hc⟩
  rintro _ w₁ ⟨hc, -⟩
  have hstart : Holding T lease w.claims [] (.start T.remembered lease) w₁ :=
    hc ▸ holding_start (hc ▸ hw) (hc ▸ hrem)
  -- the resources are claimed in order, up to the first that is refused
  refine along_seq (along_claimResources T.resources.sorted [] _ _ (sorted_keys_nodup T.resources) hstart) ?_ ?_
  swap
  · rintro e w' ⟨s', refused, reached, hr, -⟩
    cases hr
  rintro a w₂ ⟨s', refused, reached, hr, hholding, -, hnone, hsome⟩
  cases hr
  cases refused with
  -- all claimed, and the lease is still current
  | none =>
    obtain rfl : reached = T.resources.sorted := hnone rfl
    refine along_seq (Q := fun r w' => r = .ok () ∧ w'.claims = w₂.claims ∧
      ∃ now, leaseIsCurrent w'.journal.leases lease now = true)
      (along_call fun i hi => ⟨trivial, rfl, rfl, i.now, hi.2⟩) ?_ ?_
    · rintro _ w₃ ⟨-, hc₃, hcur⟩
      refine ⟨fun r hr => ?_, hholding.lease ▸ hcur⟩
      have hr : r ∈ T.resources.sorted := (List.mem_insertionSort _).2 hr
      obtain ⟨c, hmem, hclaimed⟩ := hholding.claimed r hr
      refine ⟨c, ?_, hholding.lease ▸ hclaimed⟩
      rw [hc₃, ← hclaimed.1]
      exact hholding.unique.getClaim hmem
    · rintro e w₃ ⟨hr, -⟩
      cases hr
  -- one refused: every claim on record goes, the remembered ones with them
  | some e =>
    obtain ⟨r₀, rest, hsplit⟩ := hsome (by simp)
    have hown : ∀ c ∈ w.claims, c.resourceKey ∈ reached.map ResourceHandle.resourceKey ++ T.rememberedKeys →
        T.owns c := by
      intro c hc hk
      rcases List.mem_append.1 hk with hk | hk
      · exact hholding.own c hc hk
      · obtain ⟨m, hm, heq⟩ := List.mem_map.1 hk
        rw [hrem.unchanged m hm c hc heq.symm]
        exact (hrem.valid m hm).2.2
    have hrefused : ∀ w', Released lease w' →
        w'.claims = elsewhere (reached.map ResourceHandle.resourceKey ++ T.rememberedKeys) w.claims →
        Refused T lease w w' := by
      intro w' hrel hclaims
      refine ⟨reached, r₀, rest, hsplit, hown, hclaims, ?_, hrel⟩
      rw [hclaims, elsewhere_eq_self]
    refine along_seq (along_cleanupRefused hholding hrem) ?_ ?_
    · rintro _ w' ⟨hrel, hclaims⟩
      exact Or.inr (hrefused w' hrel hclaims)
    · rintro e w' ⟨hrel, hclaims⟩
      exact Or.inr (hrefused w' hrel hclaims)

/-- What `__enter__` comes to. It may also raise before it has a lease, or where the
calendar ends before a heartbeat does; no claim is touched then. -/
def EnterOutcome (T : Transaction φ ω) (w : World φ) : Except OperationError TransactionState → World φ → Prop
  | .error e, w' =>
    w'.claims = w.claims ∧ w'.journal.leases = w.journal.leases ∨
      e = leaseErrorRaised .overflow ∧ w'.claims = w.claims ∨
      ∃ lease, lease.acquired = true ∧ Refused T lease w w'
  | .ok s, w' => Entered T s w'

/-- **Entering is all or nothing.** If `__enter__` raises because a claim was refused,
every claim is as it was, but for those that this very instance had on resources
before the refused one, or remembered of an earlier `__enter__`, which are gone, and
the lease is released; if it returns, every resource is claimed by the instance under
its lease, which is current. -/
theorem enter_all_or_nothing (T : Transaction φ ω) (w w' : World φ) (i : Sample ω) (inputs rest : List (Sample ω))
    (r : Except OperationError TransactionState) (hkeys : UniqueKeys w.claims)
    (hrem : Remembers T w.claims)
    (hsteady : ∀ lease leases, acquire w.journal.leases T.workspace.leaseName T.owner T.workspace.leaseTtl none
      i.generated (T.now.getD i.now) = .ok (lease, leases) →
      (enterUnder T lease).Meets (Steady lease) { w with journal := { w.journal with leases := leases } } inputs)
    (hrun : (enterTransaction T).exec w (i :: inputs) = (some (r, rest), w')) : EnterOutcome T w r w' := by
  -- up to the lease, nothing is changed
  have nothing : ∀ e inputs', (some (Except.error e, inputs'), w) = (some (r, rest), w') → EnterOutcome T w r w' := by
    rintro e inputs' heq
    cases heq
    exact Or.inl ⟨rfl, rfl⟩
  by_cases hname : T.name = ""
  · rw [enterTransaction, if_pos hname] at hrun
    exact nothing _ _ hrun
  rw [enterTransaction_eq T hname, exec_bind, acquireLease, transaction, exec_call] at hrun
  cases hf : i.fault with
  | some e =>
    simp only [hf] at hrun
    exact nothing _ _ hrun
  | none =>
    cases hacq : acquire w.journal.leases T.workspace.leaseName T.owner T.workspace.leaseTtl none i.generated
        (T.now.getD i.now) with
    | error e =>
      simp only [hf, show T.workspace.owner = T.owner from rfl, hacq] at hrun
      exact nothing _ _ hrun
    | ok a =>
      obtain ⟨lease, leases⟩ := a
      simp only [hf, show T.workspace.owner = T.owner from rfl, hacq] at hrun
      cases hgot : lease.acquired with
      | false =>
        obtain ⟨rfl, -⟩ := acquire_refused hacq hgot
        rw [enterUnder, if_pos hgot] at hrun
        exact nothing _ _ hrun
      | true =>
        -- the lease is held: where it fails from here on, the lease goes too
        have halong : Along (Steady lease) (fun _ _ => True) (fun r w' => match r with
            | .error e => e = leaseErrorRaised .overflow ∧ w'.claims = w.claims ∨ Refused T lease w w'
            | .ok s => Entered T s w') (enterUnder T lease)
            { w with journal := { w.journal with leases := leases } } :=
          along_enterUnder (w := { w with journal := { w.journal with leases := leases } }) hkeys hrem hgot
        have hafter := (along_exec halong inputs (hsteady _ _ hacq)).2 r rest (congrArg Prod.fst hrun)
        rw [hrun] at hafter
        cases r with
        | error e =>
          rcases hafter with h | h
          · exact Or.inr (Or.inl h)
          · exact Or.inr (Or.inr ⟨lease, hgot, h⟩)
        | ok s => exact hafter

/-! ## A claim that is refused, run -/

private def noon : DateTime := .soon 100

private theorem twoFiles_distinct :
    (([⟨"file:/a", "file", none⟩, ⟨"file:/b", "file", none⟩] : List ResourceHandle).map
      ResourceHandle.resourceKey).Nodup := by
  decide

/-- A transaction on two files, at a fixed time. -/
private def twoFiles : Transaction Unit Unit where
  workspace := ⟨.inert, "owner", "lease", 1000, none⟩
  name := "tx"
  resources := ⟨[⟨"file:/a", "file", none⟩, ⟨"file:/b", "file", none⟩], twoFiles_distinct⟩
  runId := "run"
  rollback := .automatic
  now := some noon
  instanceId := "i"

/-- Somebody else has the second file. -/
private def theirs : ClaimRecord := ⟨"file:/b", "other", none, none, noon, noon⟩

/-- The instance has the first one already. -/
private def ours : ClaimRecord := ⟨"file:/a", "owner", some "transaction-instance:i", none, noon, noon⟩

private def claimedBy (claims : List ClaimRecord) : World Unit := { World.init () with claims := claims }

/-- The lease as the transaction gets it. -/
private def held : LeaseRow := ⟨"owner", "1", 1, noon, noon, .soon 1100⟩

private def sample (n : String) : Sample Unit := ⟨noon, n, n, none, ()⟩

private def later : List (Sample Unit) := ["2", "3", "4", "5", "6", "7"].map sample

/-- The undo also removes the claim the instance had before the call. -/
theorem enter_gives_up_own_claim : ∃ e rest w',
    (enterTransaction twoFiles).exec (claimedBy [ours, theirs]) (sample "1" :: later) = (some (.error e, rest), w') ∧
      (∀ i ∈ sample "1" :: later, i.fault = none) ∧ w'.claims = [theirs] ∧
      w'.claims ≠ (claimedBy [ours, theirs]).claims :=
  ⟨_, _, _, rfl, by decide, rfl, by decide⟩

/-- A claim the instance made in an `__enter__` before, and could not give up. -/
private def stale : ClaimRecord := ⟨"file:/c", "owner", some "transaction-instance:i", none, noon, noon⟩

/-- The transaction, when it is entered again. -/
private def enteredAgain : Transaction Unit Unit := { twoFiles with remembered := [stale] }

private theorem enteredAgain_remembers : Remembers enteredAgain [stale, theirs] where
  nodup := List.nodup_singleton _
  valid := by decide
  unchanged := by decide

set_option maxRecDepth 4096 in
/-- Without a claim of its own on the first file, that file is claimed and given up
again, and so is what was left of the `__enter__` before. -/
theorem enter_all_or_nothing_refused : ∃ e rest w',
    (enterTransaction enteredAgain).exec (claimedBy [stale, theirs]) (sample "1" :: later) = (some (.error e, rest), w') ∧
      w'.claims = [theirs] ∧ EnterOutcome enteredAgain (claimedBy [stale, theirs]) (.error e) w' := by
  have hrun : ∃ e rest w', (enterTransaction enteredAgain).exec (claimedBy [stale, theirs]) (sample "1" :: later) =
      (some (.error e, rest), w') ∧ w'.claims = [theirs] := ⟨_, _, _, rfl, rfl⟩
  obtain ⟨e, rest, w', hrun, hclaims⟩ := hrun
  have hkeys : ([stale, theirs].map ClaimRecord.resourceKey).Nodup := by decide
  refine ⟨e, rest, w', hrun, hclaims,
    enter_all_or_nothing enteredAgain _ _ _ _ _ _ hkeys enteredAgain_remembers ?_ hrun⟩
  intro lease leases h
  have hacq : acquire (claimedBy [stale, theirs]).journal.leases "lease" "owner" 1000 none "1" noon =
      .ok (leaseFromRow "lease" held true true, LeaseTable.empty.set "lease" held) := rfl
  obtain ⟨rfl, rfl⟩ := Prod.mk.inj (Except.ok.inj (hacq.symm.trans h))
  decide +kernel

end SafeFsOps
