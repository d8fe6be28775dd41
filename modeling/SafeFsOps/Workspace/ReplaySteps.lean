import SafeFsOps.Workspace.Replay
import SafeFsOps.Workspace.RollbackSteps
import SafeFsOps.Workspace.StepRules

/-!
# The steps of a replay

A replay goes through the pending batches, newest first, and after each one it has
recovered it releases claims: the one on the batch's own resource, once all pending
batches on that resource are recovered, and all claims of its scope, once all
pending batches of the scope are. What it does to the claims is only that:

> `along_replayBatches`: claims are only released, and only such whose owner and
> scope a pending batch has; where no batch failed, all claims of every scope with
> a pending batch are gone.

With a list of batches to protect, each step of it keeps their claims until they
are recovered (`KeepsProtected`), if no pending batch's own resource is the second
resource of one of them (`Protects`).
-/

namespace SafeFsOps

open Program

variable {φ ω α : Type} {W : Workspace φ ω} {h : LeaseHolder} {A : Sample ω → World φ → Prop}
  {claims : List ClaimRecord} {U pending rest : List (BatchRow Payload)} {recovered : List String}

/-! ## Batches and claims -/

/-- The claim was made for the batch, by owner and scope. -/
def ClaimedBy (b : BatchRow Payload) (c : ClaimRecord) : Prop := b.claimOwner = some c.owner ∧ b.claimScope = c.scope

instance (b : BatchRow Payload) (c : ClaimRecord) : Decidable (ClaimedBy b c) :=
  inferInstanceAs (Decidable (_ ∧ _))

/-- Two batches under the claims of one owner and scope. -/
def SameClaims (b b' : BatchRow Payload) : Prop := b'.claimOwner = b.claimOwner ∧ b'.claimScope = b.claimScope

instance (b b' : BatchRow Payload) : Decidable (SameClaims b b') := inferInstanceAs (Decidable (_ ∧ _))

/-- The destination of a rename, and the quarantine of a capture. -/
def secondKeys (b : BatchRow Payload) : List String :=
  match b.payload with
  | .intent (.renameNoReplace _ _ _ destinationResourceKey) => [destinationResourceKey]
  | .intent (.captureDirectory _ _ _ destinationResourceKey _) => [destinationResourceKey]
  | _ => []

/-- The resources a batch touches. -/
def touchedKeys (b : BatchRow Payload) : List String := b.resourceKey.toList ++ secondKeys b

/-- A release keeps the claims on what the batches of `U` touch until they are recovered. -/
def KeepsProtected (U : List (BatchRow Payload)) (w w' : World φ) : Prop :=
  ∀ c ∈ w.claims, c ∉ w'.claims → ∀ u ∈ U, ClaimedBy u c → c.resourceKey ∈ touchedKeys u → IsRecovered u.batchId w

/-- What a selection of pending batches must be like to protect those of `U`: where
both have a claim that a batch of `U` needs, that batch is selected too, and the
claim is on its own resource if it is on the other's. -/
def Protects (claims : List ClaimRecord) (pending U : List (BatchRow Payload)) : Prop :=
  ∀ c ∈ claims, ∀ b ∈ pending, ∀ u ∈ U, ClaimedBy b c → ClaimedBy u c → c.resourceKey ∈ touchedKeys u →
    u ∈ pending ∧ (b.resourceKey = some c.resourceKey → u.resourceKey = some c.resourceKey)

instance (U : List (BatchRow Payload)) (w w' : World φ) : Decidable (KeepsProtected U w w') :=
  inferInstanceAs (Decidable (∀ c ∈ w.claims, _))

instance (claims : List ClaimRecord) (pending U : List (BatchRow Payload)) : Decidable (Protects claims pending U) :=
  inferInstanceAs (Decidable (∀ c ∈ claims, ∀ b ∈ pending, ∀ u ∈ U, _))

theorem KeepsProtected.of_claims {w w' : World φ} (h : w'.claims = w.claims) : KeepsProtected U w w' :=
  fun _ hc hgone => absurd (h ▸ hc) hgone

theorem Touches.keepsProtected {S : String → Prop} {P : List BatchPhase} {w w' : World φ} (h : Touches S P w w') :
    KeepsProtected U w w' := .of_claims h.claims

/-- Only claims of `D` were released, and nothing else was done. -/
structure Drops (D : ClaimRecord → Prop) (w w' : World φ) : Prop where
  journal : w'.journal = w.journal
  claims : w'.claims.Sublist w.claims
  dropped : ∀ c ∈ w.claims, c ∉ w'.claims → D c

/-- The claim is under this owner and scope. -/
def Under (owner : String) (scope : Option String) (c : ClaimRecord) : Prop := c.owner = owner ∧ c.scope = scope

namespace Drops

variable {D D' : ClaimRecord → Prop} {w w₁ w₂ : World φ}

protected theorem refl : Drops D w w := ⟨rfl, List.Sublist.refl _, fun _ hc hgone => absurd hc hgone⟩

theorem mono (hD : ∀ c, D c → D' c) (h : Drops D w w₁) : Drops D' w w₁ :=
  ⟨h.journal, h.claims, fun c hc hgone => hD c (h.dropped c hc hgone)⟩

protected theorem trans (h₁ : Drops D w w₁) (h₂ : Drops D w₁ w₂) : Drops D w w₂ where
  journal := h₂.journal.trans h₁.journal
  claims := h₂.claims.trans h₁.claims
  dropped c hc hgone := by
    by_cases hc₁ : c ∈ w₁.claims
    · exact h₂.dropped c hc₁ hgone
    · exact h₁.dropped c hc hc₁

end Drops

theorem mem_insertClaimByKey {c d : ClaimRecord} (t : List ClaimRecord) : d ∈ insertClaimByKey c t ↔ d = c ∨ d ∈ t := by
  induction t with
  | nil => simp [insertClaimByKey]
  | cons e t ih =>
    rw [insertClaimByKey]
    split
    · exact List.mem_cons
    · rw [List.mem_cons, ih, List.mem_cons]
      exact or_left_comm

theorem mem_listClaims {t : ClaimTable} {owner : String} {c : ClaimRecord} :
    c ∈ listClaims t (some owner) ↔ c ∈ t ∧ c.owner = owner := by
  have hmem : ∀ l : List ClaimRecord, c ∈ l.foldr insertClaimByKey [] ↔ c ∈ l := by
    intro l
    induction l with
    | nil => exact Iff.rfl
    | cons d l ih => rw [List.foldr_cons, mem_insertClaimByKey, ih, List.mem_cons]
  rw [listClaims, hmem, List.mem_filter]
  simp [eq_comm]

/-! ## What is pending -/

/-- The batch's own claim, among these. -/
def ownClaim (t : ClaimTable) (b : BatchRow Payload) : Option ClaimRecord :=
  (b.resourceKey.bind (getClaim t)).filter (claimOfBatch b)

/-- `_is_abandoned_succeeded_workspace_recovery_batch`, given the claims. -/
def abandonedSucceededIn (t : ClaimTable) (b : BatchRow Payload) : Bool :=
  b.phase = .succeeded ∧ b.claimOwner ≠ none ∧ (ownClaim t b).isSome

/-- `_is_recovered_workspace_batch_with_unreleased_claim`, given the claims. -/
def recoveredWithUnreleasedClaimIn (t : ClaimTable) (b : BatchRow Payload) : Bool :=
  b.phase = .recoverySucceeded && b.claimOwner.any fun owner =>
    (ownClaim t b).isSome ||
      b.claimScope.isSome && (listClaims t (some owner)).any fun c => c.scope = b.claimScope

/-- `_is_pending_workspace_recovery_batch`, given the claims. -/
def pendingIn (t : ClaimTable) (b : BatchRow Payload) : Bool :=
  b.phase ∈ unfinishedPhases || recoveredWithUnreleasedClaimIn t b || abandonedSucceededIn t b

/-- The batches a replay selects. -/
def pendingBatches (w : World φ) (runId : Option String) : List (BatchRow Payload) :=
  newestFirst ((listBatchRows w.journal runId).filter (pendingIn w.claims))

section Reading

variable {R : World φ → World φ → Prop} {w : World φ} {b : BatchRow Payload}

theorem finds_listOwnedClaims (hR : R w w) (owner : String) :
    Program.Finds A R (listOwnedClaims owner) (listClaims w.claims (some owner)) w :=
  finds_databaseRead hR fun _ => rfl

theorem finds_readBatchClaim (hR : R w w) : Program.Finds A R (readBatchClaim b) (ownClaim w.claims b) w := by
  unfold readBatchClaim ownClaim
  cases b.resourceKey with
  | none => exact finds_ret none w
  | some key => exact finds_bind (finds_databaseRead hR fun _ => rfl) (finds_ret _ w)

theorem finds_isAbandonedSucceeded (hR : R w w) :
    Program.Finds A R (isAbandonedSucceeded b) (abandonedSucceededIn w.claims b) w := by
  unfold isAbandonedSucceeded abandonedSucceededIn
  split
  · next h =>
    have hfalse : decide (b.phase = .succeeded ∧ b.claimOwner ≠ none ∧ (ownClaim w.claims b).isSome = true) = false := by
      refine decide_eq_false fun hyes => ?_
      rcases h with h | h
      · exact h hyes.1
      · exact hyes.2.1 h
    rw [hfalse]
    exact finds_ret _ w
  · next h =>
    rw [not_or, not_not] at h
    refine finds_bind (finds_readBatchClaim hR) ?_
    have hclaim : decide (b.phase = .succeeded ∧ b.claimOwner ≠ none ∧ (ownClaim w.claims b).isSome = true) =
        (ownClaim w.claims b).isSome := by simp [h.1, h.2]
    rw [hclaim]
    exact finds_ret _ w

theorem finds_isRecoveredWithUnreleasedClaim (hR : R w w) :
    Program.Finds A R (isRecoveredWithUnreleasedClaim b) (recoveredWithUnreleasedClaimIn w.claims b) w := by
  unfold isRecoveredWithUnreleasedClaim recoveredWithUnreleasedClaimIn
  cases howner : b.claimOwner with
  | none =>
    rw [Option.any_none, Bool.and_false]
    exact finds_ret _ w
  | some owner =>
    rw [Option.any_some]
    dsimp only
    by_cases hphase : b.phase = .recoverySucceeded
    · rw [if_neg (not_not.2 hphase), decide_eq_true hphase, Bool.true_and]
      refine finds_bind (finds_readBatchClaim hR) ?_
      by_cases hclaim : (ownClaim w.claims b).isSome = true
      · rw [if_pos hclaim, hclaim, Bool.true_or]
        exact finds_ret _ w
      · rw [if_neg hclaim, Bool.eq_false_iff.2 hclaim, Bool.false_or]
        by_cases hscope : b.claimScope = none
        · rw [if_pos hscope, hscope]
          exact finds_ret _ w
        · rw [if_neg hscope, Option.isSome_iff_ne_none.2 hscope, Bool.true_and]
          exact finds_bind (finds_listOwnedClaims hR owner) (finds_ret _ w)
    · rw [if_pos hphase, decide_eq_false hphase, Bool.false_and]
      exact finds_ret _ w

theorem finds_isPending (hR : R w w) : Program.Finds A R (isPending b) (pendingIn w.claims b) w := by
  unfold isPending pendingIn
  by_cases hphase : b.phase ∈ unfinishedPhases
  · rw [if_pos hphase, decide_eq_true hphase]
    exact finds_ret _ w
  · rw [if_neg hphase, decide_eq_false hphase, Bool.false_or]
    refine finds_bind (finds_isRecoveredWithUnreleasedClaim hR) ?_
    cases recoveredWithUnreleasedClaimIn w.claims b with
    | true => exact finds_ret _ w
    | false => exact finds_isAbandonedSucceeded hR

theorem finds_filterPending (hR : R w w) (batches : List (BatchRow Payload)) :
    Program.Finds A R (filterPending batches) (batches.filter (pendingIn w.claims)) w := by
  have heach : ∀ b ∈ batches, Program.Finds A R (do
      let pending ← isPending b
      return if pending then some b else none) (if pendingIn w.claims b then some b else none) w :=
    fun b _ => finds_bind (finds_isPending hR) (finds_ret _ w)
  have hfilter : (batches.map fun b => if pendingIn w.claims b then some b else none).reduceOption =
      batches.filter (pendingIn w.claims) := by
    induction batches with
    | nil => rfl
    | cons b batches ih =>
      rw [List.map_cons, List.filter_cons]
      have ih := ih fun b' hb' => heach b' (List.mem_cons_of_mem _ hb')
      split
      · rw [List.reduceOption_cons_of_some, ih]
      · rw [List.reduceOption_cons_of_none, ih]
  rw [← hfilter]
  exact finds_bind (finds_mapEach heach) (finds_ret _ w)

theorem mem_pendingBatches {runId : Option String} :
    b ∈ pendingBatches w runId ↔ b ∈ w.journal.batches ∧ runId.all (· = b.runId) = true ∧ pendingIn w.claims b = true := by
  rw [pendingBatches, newestFirst, (List.perm_insertionSort _ _).mem_iff, List.mem_filter, mem_listBatchRows, and_assoc]

theorem pendingBatches_nodup (hw : DistinctBatches w.journal) (runId : Option String) :
    ((pendingBatches w runId).map BatchRow.batchId).Nodup := by
  refine ((List.perm_insertionSort _ _).map _).nodup_iff.2 ?_
  exact (listBatchRows_nodup hw runId).sublist (List.filter_sublist.map _)

end Reading

/-! ## Releasing -/

section Releasing

variable {owner : String} {scope : Option String} {w : World φ}

/-- One claim that was found: it goes, or nothing does. -/
theorem along_releaseFound {c : ClaimRecord} {R : World φ → World φ → Prop} {Q : Except OperationError Unit → World φ → Prop}
    (hR : R w w) (herror : ∀ e, Q (.error e) w)
    (hdrop : ∀ w', Drops (Under owner scope) w w' → (∀ d ∈ w.claims, d ∉ w'.claims → d.resourceKey = c.resourceKey) →
      (c.owner = owner → c.scope = scope → c ∉ w'.claims) → R w w' ∧ Q (.ok ()) w') :
    Along A R Q (releaseFound h owner scope c) w := by
  refine along_bind (along_claimWrite hR (fun _ e _ _ => herror e) (fun _ e _ _ _ => herror _)
    fun i released claims _ _ hrun => ?_)
  obtain ⟨e, he, -, -, hrel⟩ := releaseIfOwnerScopeMatches_ok hrun
  cases he
  have hclaims : ∀ d, d ∈ claims ↔ d ∈ w.claims ∧ releaseMatches c.resourceKey owner scope (some c) d = false := by
    intro d
    rw [(Prod.mk.inj hrel).2]
    exact mem_releaseClaimInConnection
  have hgone : ∀ d ∈ w.claims, d ∉ claims → d.resourceKey = c.resourceKey ∧ d.owner = owner ∧ d.scope = scope := by
    intro d hd hnot
    have hmatch : releaseMatches c.resourceKey owner scope (some c) d = true := by
      by_contra hne
      exact hnot ((hclaims d).2 ⟨hd, Bool.not_eq_true _ ▸ hne⟩)
    simp only [releaseMatches, decide_eq_true_eq] at hmatch
    exact ⟨hmatch.1, hmatch.2.1, hmatch.2.2.1⟩
  refine hdrop { w with claims := claims } ⟨rfl, ?_, fun d hd hnot => (hgone d hd hnot).2⟩
    (fun d hd hnot => (hgone d hd hnot).1) fun howner hscope hc => ?_
  · rw [(Prod.mk.inj hrel).2]
    exact List.filter_sublist
  · have hkept := ((hclaims c).1 hc).2
    simp [releaseMatches, howner, hscope] at hkept

/-- Claims released one by one, each under its own owner and scope: all of them go. -/
theorem along_releaseAll {R : World φ → World φ → Prop} {D : ClaimRecord → Prop} {claims : List ClaimRecord}
    {ownerOf : ClaimRecord → String} {scopeOf : ClaimRecord → Option String}
    (hunder : ∀ c ∈ claims, Under (ownerOf c) (scopeOf c) c) (hD : ∀ c ∈ claims, ∀ d, Under c.owner c.scope d → D d)
    (hR : ∀ w' w'' : World φ, Drops D w w' → Drops D w' w'' → R w' w'') :
    Along A R (fun r w' => Drops D w w' ∧ (r = .ok () → ∀ c ∈ claims, c ∉ w'.claims))
      (.forEach claims fun c => releaseFound h (ownerOf c) (scopeOf c) c) w := by
  refine along_forEach (I := fun left w' =>
      Drops D w w' ∧ (∀ c ∈ left, c ∈ claims) ∧ ∀ c ∈ claims, c ∈ w'.claims → c ∈ left) (fun c left w₁ h₁ => ?_)
    (fun w₁ h₁ => ⟨h₁.1, fun _ c hc hin => absurd (h₁.2.2 c hc hin) List.not_mem_nil⟩)
    ⟨Drops.refl, fun _ hc => hc, fun _ hc _ => hc⟩
  obtain ⟨hdrops, hsub, hleft⟩ := h₁
  have hc := hsub c List.mem_cons_self
  obtain ⟨howner, hscope⟩ := hunder c hc
  refine along_releaseFound (hR _ _ hdrops Drops.refl) (fun e => ⟨hdrops, fun he => by cases he⟩)
    fun w₂ h₂ _ hgone => ?_
  have h₂' : Drops D w₁ w₂ := h₂.mono fun d hd => hD c hc d (by rw [howner, hscope]; exact hd)
  refine ⟨hR _ _ hdrops h₂', hdrops.trans h₂', fun d hd => hsub d (List.mem_cons_of_mem _ hd), fun d hd hin => ?_⟩
  rcases List.mem_cons.1 (hleft d hd (h₂.claims.subset hin)) with rfl | hd'
  · exact absurd hin (hgone howner hscope)
  · exact hd'

variable {b row : BatchRow Payload}

/-- The batch a row was written from has its columns. -/
theorem created_columns (hrow : row.created = b.created) :
    b.claimOwner = row.claimOwner ∧ b.claimScope = row.claimScope ∧ b.resourceKey = row.resourceKey :=
  ⟨BatchRow.column_eq (f := BatchRow.claimOwner) (fun _ => rfl) hrow.symm,
    BatchRow.column_eq (f := BatchRow.claimScope) (fun _ => rfl) hrow.symm,
    BatchRow.column_eq (f := BatchRow.resourceKey) (fun _ => rfl) hrow.symm⟩

/-- A claim that is released for a batch is the batch's. -/
theorem Under.claimedBy {c : ClaimRecord} (hc : Under owner row.claimScope c) (hrow : row.created = b.created)
    (howner : row.claimOwner = some owner) : ClaimedBy b c := by
  obtain ⟨hbowner, hbscope, -⟩ := created_columns hrow
  refine ⟨?_, ?_⟩
  · rw [hbowner, howner, hc.1]
  · rw [hbscope, hc.2]

/-- Batches that have one claim are under the same claims. -/
theorem ClaimedBy.same {u : BatchRow Payload} {c : ClaimRecord} (hb : ClaimedBy b c) (hu : ClaimedBy u c) :
    SameClaims b u := ⟨hu.1.trans hb.1.symm, hu.2.trans hb.2.symm⟩

/-- The batch's own claim: it goes only once every pending batch on the resource is recovered. -/
theorem along_releaseOwnClaim (hprotects : Protects claims pending U) (hsub : ∀ c ∈ w.claims, c ∈ claims)
    (hb : b ∈ pending) (hrow : row.created = b.created) (howner : row.claimOwner = some owner) (hrecovered : ∀ id ∈ recovered, IsRecovered id w) :
    Along A (KeepsProtected U) (fun _ w' => Drops (Under owner row.claimScope) w w')
      (releaseOwnClaim h row owner pending recovered) w := by
  have hkept : KeepsProtected U w w := .of_claims rfl
  obtain ⟨hbowner, hbscope, hbkey⟩ := created_columns hrow
  unfold releaseOwnClaim
  split
  · exact Drops.refl
  · next hall =>
    rw [Bool.not_eq_false] at hall
    refine finds_seq (finds_readBatchClaim hkept) ?_ fun e => Drops.refl
    cases hown : ownClaim w.claims row with
      | none => exact Drops.refl
      | some c =>
        have hfound : row.resourceKey = some c.resourceKey := by
          obtain ⟨key, hkey, hget⟩ := Option.bind_eq_some_iff.1 (Option.filter_eq_some_iff.1 hown).1
          rw [hkey, findRow_key hget]
        refine along_releaseFound hkept (fun e => Drops.refl) fun w₂ h₂ hkeys _ => ⟨?_, h₂⟩
        intro d hd hgone u hu hclaimed htouched
        have hclaim := (h₂.dropped d hd hgone).claimedBy hrow howner
        have hsame := hclaim.same hclaimed
        have hkey : b.resourceKey = some d.resourceKey := by
          rw [hbkey, hfound, hkeys d hd hgone]
        obtain ⟨hselected, hukey⟩ := hprotects d (hsub d hd) b hb u hu hclaim hclaimed htouched
        have hmem : u.batchId ∈ pendingByClaim pending row := by
          refine List.mem_map.2 ⟨u, List.mem_filter.2 ⟨hselected, ?_⟩, rfl⟩
          rw [decide_eq_true_eq, ← hbowner, ← hbscope, ← hbkey, hukey hkey, hkey]
          exact ⟨hsame.1, hsame.2, rfl⟩
        have hin := List.all_eq_true.1 hall _ hmem
        exact hrecovered _ (of_decide_eq_true hin)

/-- The claims of the scope: all go once every pending batch of the scope is recovered. -/
theorem along_releaseScopeClaims (hprotects : Protects claims pending U) (hsub : ∀ c ∈ w.claims, c ∈ claims)
    (hb : b ∈ pending) (hrow : row.created = b.created) (howner : row.claimOwner = some owner) (hrecovered : ∀ id ∈ recovered, IsRecovered id w) :
    Along A (KeepsProtected U) (fun r w' => Drops (Under owner row.claimScope) w w' ∧
        (r = .ok () → row.claimScope ≠ none → (∀ u ∈ pending, SameClaims b u → u.batchId ∈ recovered) →
          ∀ c ∈ w'.claims, ¬ ClaimedBy b c))
      (releaseScopeClaims h row owner pending recovered) w := by
  have hkept : KeepsProtected U w w := .of_claims rfl
  obtain ⟨hbowner, hbscope, -⟩ := created_columns hrow
  have hgroup : ∀ u, u ∈ pending ∧ SameClaims b u ↔ u ∈ pending.filter fun b' =>
      b'.claimOwner = row.claimOwner ∧ b'.claimScope = row.claimScope := by
    intro u
    rw [List.mem_filter, decide_eq_true_eq, SameClaims, hbowner, hbscope]
  unfold releaseScopeClaims
  split
  · next hcond =>
    refine ⟨Drops.refl, fun _ hscope hall => ?_⟩
    -- nothing is released: no scope, or batches of it pending
    rcases hcond with hnone | hnot
    · exact absurd hnone hscope
    · have hyes : (pendingByScope pending row).all (· ∈ recovered) = true := by
        refine List.all_eq_true.2 fun id hid => decide_eq_true ?_
        obtain ⟨u, hu, rfl⟩ := List.mem_map.1 hid
        obtain ⟨hu, hsame⟩ := (hgroup u).2 hu
        exact hall u hu hsame
      rw [hyes] at hnot
      cases hnot
  · next hcond =>
    have hall : (pendingByScope pending row).all (· ∈ recovered) = true := by
      by_contra hne
      exact hcond (Or.inr (Bool.not_eq_true _ ▸ hne))
    refine finds_seq (finds_listOwnedClaims hkept owner) ?_ fun e => ⟨Drops.refl, fun hr => by cases hr⟩
    have hlisted : ∀ c, c ∈ (listClaims w.claims (some owner)).filter (fun c => c.scope = row.claimScope) ↔
        c ∈ w.claims ∧ c.owner = owner ∧ c.scope = row.claimScope := by
      intro c
      rw [List.mem_filter, mem_listClaims, decide_eq_true_eq, and_assoc]
    refine along_mono (fun _ _ hR => hR) (fun r w₂ h₂ => ⟨h₂.1, fun hr _ _ c hc hclaimed => ?_⟩)
      (along_releaseAll (D := Under owner row.claimScope) (fun c hc => ((hlisted c).1 hc).2) (fun c hc d hd => ?_)
        fun w₁ w₂ h₁ h₂ => ?_)
    · rw [((hlisted c).1 hc).2.1, ((hlisted c).1 hc).2.2] at hd
      exact hd
    -- whoever touches the resource under this claim is of the scope, and recovered
    · intro d hd hgone u hu hclaimed htouched
      have hclaim := (h₂.dropped d hd hgone).claimedBy hrow howner
      obtain ⟨hselected, -⟩ := hprotects d (hsub d (h₁.claims.subset hd)) b hb u hu hclaim hclaimed htouched
      have hmem : u.batchId ∈ pendingByScope pending row :=
        List.mem_map.2 ⟨u, (hgroup u).1 ⟨hselected, hclaim.same hclaimed⟩, rfl⟩
      obtain ⟨r, hr, hphase⟩ := hrecovered _ (of_decide_eq_true (List.all_eq_true.1 hall _ hmem))
      exact ⟨r, by rw [h₁.journal]; exact hr, hphase⟩
    · -- a claim of the scope was listed, and is gone
      have howner' : c.owner = owner := by
        have := hclaimed.1
        rw [hbowner, howner] at this
        exact (Option.some.inj this).symm
      have hscope' : c.scope = row.claimScope := hclaimed.2.symm.trans hbscope
      exact h₂.2 hr c ((hlisted c).2 ⟨h₂.1.claims.subset hc, howner', hscope'⟩) hc

end Releasing

/-! ## One batch -/

/-- Where a replay stands: claims were only released, and none that no pending batch
has; the batches to come are as they were found, and those noted as recovered are. -/
structure Replaying (w₀ : World φ) (pending rest : List (BatchRow Payload)) (recovered : List String) (w : World φ) :
    Prop where
  claims : w.claims.Sublist w₀.claims
  kept : ∀ c ∈ w₀.claims, (∀ b ∈ pending, ¬ ClaimedBy b c) → c ∈ w.claims
  rows : ∀ b ∈ rest, w.journal.batchRow b.batchId = some b
  recovered : ∀ id ∈ recovered, IsRecovered id w

namespace Replaying

variable {w₀ w w' : World φ} {S : String → Prop} {P : List BatchPhase}

/-- Other batches were touched. -/
theorem other (hI : Replaying w₀ pending rest recovered w) (ht : Touches S P w w') (hrest : ∀ b ∈ rest, ¬ S b.batchId)
    (hrecovered : ∀ id ∈ recovered, ¬ S id) : Replaying w₀ pending rest recovered w' where
  claims := ht.claims ▸ hI.claims
  kept c hc hnone := ht.claims ▸ hI.kept c hc hnone
  rows b hb := (ht.journal.other _ (hrest b hb)).trans (hI.rows b hb)
  recovered id hid := (hI.recovered id hid).other ht (hrecovered id hid)

/-- Batches were touched, but no phase was set. -/
theorem still (hI : Replaying w₀ pending rest recovered w) (ht : Touches S [] w w') (hrest : ∀ b ∈ rest, ¬ S b.batchId) :
    Replaying w₀ pending rest recovered w' where
  claims := ht.claims ▸ hI.claims
  kept c hc hnone := ht.claims ▸ hI.kept c hc hnone
  rows b hb := (ht.journal.other _ (hrest b hb)).trans (hI.rows b hb)
  recovered id hid := (hI.recovered id hid).still (ht.journal.mono (fun _ _ => trivial) fun _ hp => hp)

/-- One stretch after the other. -/
protected theorem trans {rest' : List (BatchRow Payload)} {recovered' : List String}
    (h₁ : Replaying w₀ pending rest recovered w) (h₂ : Replaying w pending rest' recovered' w') :
    Replaying w₀ pending rest' recovered' w' :=
  ⟨h₂.claims.trans h₁.claims, fun c hc hnone => h₂.kept c (h₁.kept c hc hnone) hnone, h₂.rows, h₂.recovered⟩

/-- Claims of a pending batch were released. -/
theorem drops {owner : String} {scope : Option String} (hI : Replaying w₀ pending rest recovered w)
    (hd : Drops (Under owner scope) w w') {b : BatchRow Payload} (hb : b ∈ pending) (howner : b.claimOwner = some owner)
    (hscope : b.claimScope = scope) : Replaying w₀ pending rest recovered w' where
  claims := hd.claims.trans hI.claims
  kept c hc hnone := by
    by_contra hgone
    obtain ⟨hcowner, hcscope⟩ := hd.dropped c (hI.kept c hc hnone) hgone
    exact hnone b hb ⟨by rw [howner, hcowner], by rw [hscope, hcscope]⟩
  rows b hb := by
    rw [hd.journal]
    exact hI.rows b hb
  recovered id hid := by
    obtain ⟨row, hrow, hphase⟩ := hI.recovered id hid
    exact ⟨row, by rw [hd.journal]; exact hrow, hphase⟩

end Replaying

/-- The batch's claims are gone, if all pending batches under them are noted as recovered. -/
def ClaimsGone (pending : List (BatchRow Payload)) (recovered : List String) (b : BatchRow Payload) (w : World φ) : Prop :=
  b.claimScope ≠ none → (∀ u ∈ pending, SameClaims b u → u.batchId ∈ recovered) → ∀ c ∈ w.claims, ¬ ClaimedBy b c

theorem ClaimsGone.sublist {b : BatchRow Payload} {w w' : World φ} (h : ClaimsGone pending recovered b w)
    (hsub : w'.claims.Sublist w.claims) : ClaimsGone pending recovered b w' :=
  fun hscope hall c hc => h hscope hall c (hsub.subset hc)

section OneBatch

variable {w₀ w : World φ} {b row : BatchRow Payload}

theorem along_releaseRecoveredBatchClaims (hprotects : Protects claims pending U)
    (hsub : ∀ c ∈ w₀.claims, c ∈ claims) (hb : b ∈ pending)
    (hrow : row.created = b.created) (hI : Replaying w₀ pending rest recovered w) :
    Along A (KeepsProtected U) (fun r w' => Replaying w₀ pending rest recovered w' ∧
        (r = .ok () → ClaimsGone pending recovered b w'))
      (releaseRecoveredBatchClaims h row pending recovered) w := by
  obtain ⟨hbowner, hbscope, -⟩ := created_columns hrow
  have hsubset : ∀ {recovered} {w : World φ}, Replaying w₀ pending rest recovered w → ∀ c ∈ w.claims, c ∈ claims :=
    fun hI c hc => hsub c (hI.claims.subset hc)
  unfold releaseRecoveredBatchClaims
  cases howner : row.claimOwner with
  | none =>
    refine ⟨hI, fun _ _ _ c _ hclaimed => ?_⟩
    have := hclaimed.1
    rw [hbowner, howner] at this
    cases this
  | some owner =>
    refine along_seq (along_releaseOwnClaim hprotects (hsubset hI) hb hrow howner hI.recovered) (fun _ w₁ h₁ => ?_)
      fun e w₁ h₁ => ⟨hI.drops h₁ hb (hbowner.trans howner) hbscope, fun hr => by cases hr⟩
    have hI₁ := hI.drops h₁ hb (hbowner.trans howner) hbscope
    refine along_mono (fun _ _ hR => hR) (fun r w₂ h₂ => ?_)
      (along_releaseScopeClaims hprotects (hsubset hI₁) hb hrow howner hI₁.recovered)
    exact ⟨hI₁.drops h₂.1 hb (hbowner.trans howner) hbscope, fun hr hscope => h₂.2 hr (hbscope ▸ hscope)⟩

/-- After a batch was recovered, and its diagnostics are on record. -/
theorem along_settleRecoveredBatch (hprotects : Protects claims pending U)
    (hsub : ∀ c ∈ w₀.claims, c ∈ claims) (hb : b ∈ pending) (hrow : row.created = b.created)
    (hrest : ∀ b' ∈ rest, b'.batchId ≠ b.batchId) (hI : Replaying w₀ pending rest recovered w) :
    Along A (KeepsProtected U) (fun r w' => Replaying w₀ pending rest recovered w' ∧
        (r = .ok () → ClaimsGone pending recovered b w'))
      (settleRecoveredBatch W h row pending recovered) w := by
  have htouch : ∀ {w₁ w₂ : World φ} {S : String → Prop} {P : List BatchPhase}, Touches S P w₁ w₂ → KeepsProtected U w₁ w₂ :=
    fun ht => ht.keepsProtected
  have hid : row.batchId = b.batchId := BatchRow.column_eq (f := BatchRow.batchId) (fun _ => rfl) hrow
  refine along_seq (along_releaseRecoveredBatchClaims hprotects hsub hb hrow hI) (fun _ w₂ h₂ => ?_)
    fun e w₂ h₂ => ⟨h₂.1, fun hr => by cases hr⟩
  have hcleanup : AllTouch (fun id => id = b.batchId) []
      (cleanupArtifactsForBatches W (some h.lease) .recoveryCleanup [row]) :=
    touch_cleanupArtifactsForBatches _ _ _ fun b' hb' => by rw [List.mem_singleton.1 hb', hid]
  refine along_seq (along_mono (fun _ _ ht => htouch ht) (fun _ _ h => h) (along_touch hcleanup w₂)) (fun debts w₃ h₃ => ?_)
    fun e w₃ h₃ => ⟨h₂.1.still h₃ hrest, fun hr => by cases hr⟩
  have hI₃ := h₂.1.still h₃ hrest
  unfold raiseCleanupDebt
  split
  · refine ⟨hI₃, fun _ => (h₂.2 rfl).sublist ?_⟩
    rw [h₃.claims]
  · exact ⟨hI₃, fun hr => by cases hr⟩

/-- The diagnostics touch no batch. -/
theorem along_replayDiagnostics (hI : Replaying w₀ pending rest recovered w) :
    Along A (KeepsProtected U) (fun _ w' => Replaying w₀ pending rest recovered w' ∧ Touches (fun _ => False) [] w w')
      (recordTerminalDiagnostics h row) w :=
  along_mono (fun _ _ ht => ht.keepsProtected) (fun _ _ ht => ⟨hI.still ht fun _ _ hf => hf, ht⟩)
    (along_touch (touch_recordTerminalDiagnostics (S := fun _ => False) (P := []) row) w)

theorem along_concludeReplayBatch (hprotects : Protects claims pending U)
    (hsub : ∀ c ∈ w₀.claims, c ∈ claims) (hb : b ∈ pending) (hrow : row.created = b.created)
    (hrest : ∀ b' ∈ rest, b'.batchId ≠ b.batchId) (hI : Replaying w₀ pending rest recovered w) :
    Along A (KeepsProtected U) (fun r w' => Replaying w₀ pending rest recovered w' ∧
        (r = .ok () → ClaimsGone pending recovered b w'))
      (concludeReplayBatch W h b row pending recovered) w := by
  unfold concludeReplayBatch
  split
  · exact along_settleRecoveredBatch hprotects hsub hb hrow hrest hI
  · exact along_seq (along_replayDiagnostics hI)
      (fun _ w₁ h₁ => along_settleRecoveredBatch hprotects hsub hb hrow hrest h₁.1)
      fun e w₁ h₁ => ⟨h₁.1, fun hr => by cases hr⟩

theorem touch_markForReplay (b : BatchRow Payload) :
    AllTouch (fun id => id = b.batchId) [.recoveryDesired] (markForReplay W.coordinator h b) := by
  have hfailure : ∀ {K : JournalWrite Payload → Prop}, AllQuiet K h.lease (replayFailure W.coordinator b) := by
    intro K
    unfold replayFailure
    split
    · exact quiet_pure _
    · refine quiet_bind (quiet_outcome (quiet_fsRead _)) fun seen => ?_
      cases seen <;> exact quiet_pure _
  have hdesired : ∀ payload, AllQuiet (JournalWrite.On (fun id => id = b.batchId) [.recoveryDesired]) h.lease
      (recordRecoveryDesiredStep h b.batchId "workspace recovery replay" payload : Op φ ω (RecoveryRow Payload)) :=
    fun payload => quiet_recordRecoveryDesiredStep (fun _ => ⟨⟨b.batchId, rfl, rfl⟩, fun _ hp => hp⟩) _ _
  have hinterrupted : ∀ payload, AllQuiet (JournalWrite.On (fun id => id = b.batchId) [.recoveryDesired]) h.lease
      (recordInterruptedRecoveryDesiredStep h b.batchId b.resourceKey "workspace recovery replay found abandoned batch"
        payload : Op φ ω (RecoveryRow Payload)) :=
    fun payload => quiet_recordInterruptedStep (fun _ _ => ⟨⟨b.batchId, rfl, rfl⟩, fun _ hp => hp⟩) _ _ _
  have habandoned : AllQuiet (JournalWrite.On (fun id => id = b.batchId) [.recoveryDesired]) h.lease
      (recordAbandonedSucceededStep h b : Op φ ω Unit) := by
    refine quiet_journalWrite fun db ctx a db' hw =>
      ⟨.recordAbandonedSucceededBatchRecoveryDesired b, ⟨⟨b.batchId, rfl, rfl⟩, fun _ hp => hp⟩, ?_⟩
    obtain ⟨db₁, hrun, heq⟩ := map_eq_ok.1 hw
    cases heq
    exact hrun
  refine AllQuiet.touch (L := h.lease) ?_
  unfold markForReplay
  cases b.phase with
  | attempting => exact quiet_bind hfailure fun _ => quiet_bind (hinterrupted _) fun _ => quiet_pure _
  | recovering => exact quiet_bind hfailure fun _ => quiet_bind (hdesired _) fun _ => quiet_pure _
  | failed | recoveryFailed => exact quiet_bind (hdesired _) fun _ => quiet_pure _
  | succeeded => exact habandoned
  | planned | recoveryDesired | recoverySucceeded => exact quiet_ret ()

/-- A batch that is not recovered yet. -/
theorem along_recoverReplayBatch (hrow : w.journal.batchRow b.batchId = some b) :
    Along A (Touches (fun id => id = b.batchId) rollbackPhases)
      (fun r w' => Touches (fun id => id = b.batchId) rollbackPhases w w' ∧
        ∀ row, r = .ok row → row.created = b.created ∧ IsRecovered b.batchId w')
      (recoverReplayBatch W h b) w := by
  have hmark : ∀ {w₁ w₂ : World φ}, Touches (fun id => id = b.batchId) [.recoveryDesired] w₁ w₂ →
      Touches (fun id => id = b.batchId) rollbackPhases w₁ w₂ :=
    fun ht => ht.mono (fun _ hid => hid) fun p hp => List.mem_cons.2 (Or.inl (List.mem_singleton.1 hp))
  have hrecover : ∀ {w₁ w₂ : World φ}, Touches (fun id => id = b.batchId) attemptPhases w₁ w₂ →
      Touches (fun id => id = b.batchId) rollbackPhases w₁ w₂ :=
    fun ht => ht.mono (fun _ hid => hid) fun p hp => List.mem_cons_of_mem _ hp
  have hprepare : Along A (Touches (fun id => id = b.batchId) rollbackPhases)
      (fun r w' => Touches (fun id => id = b.batchId) rollbackPhases w w' ∧ ∀ row, r = .ok row → row.batchId = b.batchId)
      (prepareReplayBatch W.coordinator h b) w := by
    refine along_seq (along_mono (fun _ _ ht => hmark ht) (fun _ _ ht => hmark ht) (along_touch (touch_markForReplay b) w))
      (fun _ w₁ h₁ => ?_) fun e w₁ h₁ => ⟨h₁, fun row hr => by cases hr⟩
    refine along_bind (along_databaseRead Touches.refl (fun _ e _ _ => ⟨h₁, fun row hr => by cases hr⟩) fun i _ _ => ?_)
    dsimp only
    obtain ⟨b₁, hb₁, -⟩ := h₁.journal.row b.batchId b hrow
    rw [hb₁]
    refine ⟨h₁, fun row hr => ?_⟩
    cases hr
    exact findRow_key hb₁
  refine along_seq hprepare (fun prepared w₁ h₁ => ?_) fun e w₁ h₁ => ⟨h₁.1, fun row hr => by cases hr⟩
  obtain ⟨ht, hid⟩ := h₁
  have hactions : ∀ ctx : RecoveryContext, ctx.batch.batchId = b.batchId →
      AllTouch (fun id => id = b.batchId) attemptPhases (replayRunner W h.lease ctx) := fun ctx hctx =>
    eachStep_bind (fun h' => (quiet_runRecoveryActions (h := h') hctx).touch)
      (eachStep_call fun _ _ => Touches.refl)
  rw [hid prepared rfl]
  refine along_mono (fun _ _ ht => hrecover ht) (fun r w₂ h₂ => ?_) (along_recoverBatch hactions w₁)
  refine ⟨ht.trans (hrecover h₂.1), fun row hr => ?_⟩
  obtain ⟨-, hphase, hrow₂⟩ := h₂.2 row hr
  obtain ⟨b₂, hb₂, hcreated, -⟩ := (ht.trans (hrecover h₂.1)).journal.row b.batchId b hrow
  rw [hrow₂] at hb₂
  cases hb₂
  exact ⟨hcreated, row, hrow₂, hphase⟩

/-- What the replay of one batch comes to: `p` are the recovered ids and the error, if there was one. -/
def ReplayedBatch (w₀ : World φ) (pending rest : List (BatchRow Payload)) (recovered : List String) (b : BatchRow Payload)
    (p : List String × Option OperationError) (w' : World φ) : Prop :=
  Replaying w₀ pending rest p.1 w' ∧ (p.1 = recovered ∨ p.1 = b.batchId :: recovered) ∧
    (p.2 = none → p.1 = b.batchId :: recovered ∧ ClaimsGone pending p.1 b w')

theorem along_replayRenewedBatch (hprotects : Protects claims pending U)
    (hsub : ∀ c ∈ w₀.claims, c ∈ claims) (hb : b ∈ pending)
    (hids : ((b :: rest).map BatchRow.batchId).Nodup) (hnew : ∀ b' ∈ b :: rest, b'.batchId ∉ recovered)
    (hI : Replaying w₀ pending (b :: rest) recovered w) :
    Along A (KeepsProtected U) (fun r w' => ∀ p, r = .ok p → ReplayedBatch w₀ pending rest recovered b p w')
      (replayRenewedBatch W h b pending recovered) w := by
  have hother : ∀ b' ∈ rest, b'.batchId ≠ b.batchId := by
    rw [List.map_cons, List.nodup_cons] at hids
    exact fun b' hb' heq => hids.1 (heq ▸ List.mem_map.2 ⟨b', hb', rfl⟩)
  have hrow := hI.rows b List.mem_cons_self
  have hI' : Replaying w₀ pending rest recovered w :=
    ⟨hI.claims, hI.kept, fun b' hb' => hI.rows b' (List.mem_cons_of_mem _ hb'), hI.recovered⟩
  -- the row the claims are released for is the batch's, and recovered
  have hfirst : Along A (KeepsProtected U) (fun r w' => Replaying w₀ pending rest recovered w' ∧
      ∀ row, r = .ok row → row.created = b.created ∧ IsRecovered b.batchId w')
      (recoveredReplayBatch W h b) w := by
    unfold recoveredReplayBatch
    split
    · next hphase =>
      refine along_seq (along_replayDiagnostics hI) (fun _ w₁ h₁ => ?_) fun e w₁ h₁ =>
        ⟨hI'.still h₁.2 fun _ _ hf => hf, fun row hr => by cases hr⟩
      refine ⟨hI'.still h₁.2 fun _ _ hf => hf, fun row hr => ?_⟩
      cases hr
      exact ⟨rfl, b, h₁.1.rows b List.mem_cons_self, hphase⟩
    · refine along_mono (fun _ _ ht => ht.keepsProtected) (fun r w' h' => ⟨?_, h'.2⟩) (along_recoverReplayBatch hrow)
      exact hI'.other h'.1 hother fun id hid heq => hnew b List.mem_cons_self (heq ▸ hid)
  refine along_outcome_seq hfirst fun r w₁ h₁ => ?_
  cases r with
  | error e =>
    intro p hp
    cases hp
    exact ⟨h₁.1, Or.inl rfl, fun hnone => by cases hnone⟩
  | ok row =>
    obtain ⟨hcreated, hrecovered⟩ := h₁.2 row rfl
    have hid : row.batchId = b.batchId := BatchRow.column_eq (f := BatchRow.batchId) (fun _ => rfl) hcreated
    have hI₁ : Replaying w₀ pending rest (row.batchId :: recovered) w₁ := by
      refine ⟨h₁.1.claims, h₁.1.kept, h₁.1.rows, fun id hid' => ?_⟩
      rcases List.mem_cons.1 hid' with rfl | hid'
      · rw [hid]
        exact hrecovered
      · exact h₁.1.recovered id hid'
    refine along_outcome_seq (along_concludeReplayBatch (W := W) (h := h) hprotects hsub hb hcreated hother hI₁) fun r w₂ h₂ => ?_
    rw [hid] at h₂ ⊢
    cases r with
    | error e =>
      intro p hp
      cases hp
      exact ⟨h₂.1, Or.inr rfl, fun hnone => by cases hnone⟩
    | ok u =>
      intro p hp
      cases hp
      exact ⟨h₂.1, Or.inr rfl, fun _ => ⟨rfl, h₂.2 rfl⟩⟩

end OneBatch

/-! ## All batches -/

/-- The state between two rounds: `done` are behind, and where none of them failed
their claims are gone as far as all batches under them are among them. -/
structure ReplayAt (w₀ : World φ) (fencingToken : Nat) (done rest : List (BatchRow Payload)) (s : ReplayState)
    (w : World φ) : Prop where
  replaying : Replaying w₀ (done ++ rest) rest s.recovered w
  token : s.lease.fencingToken = fencingToken
  recovered : ∀ id ∈ s.recovered, id ∈ done.map BatchRow.batchId
  unfailed : s.failures = [] → (∀ b ∈ done, b.batchId ∈ s.recovered) ∧
    ∀ b ∈ done ++ rest, ClaimsGone (done ++ rest) s.recovered b w

section AllBatches

variable {w₀ w : World φ} {b : BatchRow Payload} {done : List (BatchRow Payload)} {s : ReplayState} {fencingToken : Nat}

/-- A batch whose replay failed before anything was done to it. -/
theorem ReplayAt.failed {w' : World φ} (hI : ReplayAt w₀ fencingToken done (b :: rest) s w)
    {S : String → Prop} (ht : Touches S [] w w') (hS : ∀ id, ¬ S id) (lease : LeaseRecord)
    (hlease : lease.fencingToken = fencingToken) (e : OperationError) :
    ReplayAt w₀ fencingToken (done ++ [b]) rest ⟨lease, s.recovered, s.failures ++ [(b.batchId, e)]⟩ w' := by
  have hlist : done ++ [b] ++ rest = done ++ b :: rest := by simp
  have hr := hI.replaying.still ht fun b' _ => hS b'.batchId
  refine ⟨?_, hlease, fun id hid => ?_, fun hnil => absurd hnil (by simp)⟩
  · rw [hlist]
    exact ⟨hr.claims, hr.kept, fun b' hb' => hr.rows b' (List.mem_cons_of_mem _ hb'), hr.recovered⟩
  · rw [List.map_append]
    exact List.mem_append_left _ (hI.recovered id hid)

theorem along_refreshReplayLease {R : World φ → World φ → Prop}
    (hR : ∀ w' : World φ, Touches (fun _ => False) [] w w' → R w w') :
    Along A R (fun r w' => Touches (fun _ => False) [] w w' ∧ ∀ lease, r = .ok lease →
      lease.fencingToken = h.lease.fencingToken) (refreshReplayLease W h) w := by
  refine along_bind (along_transaction (hR w Touches.refl) (fun _ e _ _ => ?_) (fun _ e _ _ _ => ?_) fun i found w' _ _ hact => ?_)
  · exact ⟨Touches.refl, fun lease hl => by cases hl⟩
  · exact ⟨Touches.refl, fun lease hl => by cases hl⟩
  · split at hact
    · next lease leases hbeat =>
      cases hact
      have ht : Touches (fun _ => False) [] w { w with journal := { w.journal with leases := leases } } :=
        Touches.leases leases
      refine ⟨hR _ ht, ?_⟩
      cases found with
      | none => exact ⟨ht, fun lease hl => by cases hl⟩
      | some lease' =>
        refine ⟨ht, fun lease hl => ?_⟩
        cases hl
        obtain ⟨row, renewed, hrow, rfl, -, -, -, htoken, -⟩ := heartbeat_some hbeat
        show renewed.fencingToken = h.lease.fencingToken
        rw [htoken]
        exact (rowMatches_eq_some.1 hrow).2.2.2.1
    · cases hact

/-- **One round.** -/
theorem along_replayBatch (hprotects : Protects claims (done ++ b :: rest) U) (hsub : ∀ c ∈ w₀.claims, c ∈ claims)
    (hids : ((done ++ b :: rest).map BatchRow.batchId).Nodup) (hI : ReplayAt w₀ fencingToken done (b :: rest) s w) :
    Along A (KeepsProtected U) (fun r w' => ∀ s', r = .ok s' → ReplayAt w₀ fencingToken (done ++ [b]) rest s' w')
      (replayBatch W (done ++ b :: rest) s b) w := by
  have hlist : done ++ [b] ++ rest = done ++ b :: rest := by simp
  have hb : b ∈ done ++ b :: rest := List.mem_append_right _ List.mem_cons_self
  have hall_ids := hids
  rw [List.map_append, List.nodup_append] at hids
  obtain ⟨-, htail, hdisjoint⟩ := hids
  have hnew : ∀ b' ∈ b :: rest, b'.batchId ∉ s.recovered := fun b' hb' hin =>
    hdisjoint _ (hI.recovered _ hin) _ (List.mem_map.2 ⟨b', hb', rfl⟩) rfl
  -- first the lease is refreshed
  refine along_seq (along_atOperationTime (Q := fun r w' => w' = w ∧ ∀ h, r = .ok h → h.lease = s.lease)
    (.of_claims rfl) fun i _ => ⟨rfl, fun h hh => ?_⟩) ?_ fun e w' h' s' hs' => by cases hs'
  · cases hh
    rfl
  rintro h w' ⟨rfl, hlease⟩
  refine along_outcome_seq (along_refreshReplayLease fun _ ht => ht.keepsProtected) fun renewed w₁ h₁ => ?_
  cases renewed with
  -- no lease, no attempt: the batch is left as it is, and the failure noted
  | error e =>
    intro s' hs'
    cases hs'
    exact hI.failed h₁.1 (fun _ hf => hf) s.lease hI.token e
  -- the round proper, under the lease just renewed
  | ok lease =>
    have htoken : lease.fencingToken = fencingToken := by
      rw [h₁.2 lease rfl, hlease h rfl, hI.token]
    have hI₁ : Replaying w₀ (done ++ b :: rest) (b :: rest) s.recovered w₁ := hI.replaying.still h₁.1 fun _ _ hf => hf
    have hround : Replaying w₁ (done ++ b :: rest) (b :: rest) s.recovered w₁ :=
      ⟨List.Sublist.refl _, fun _ hc _ => hc, hI₁.rows, hI₁.recovered⟩
    have hsub₁ : ∀ c ∈ w₁.claims, c ∈ claims := fun c hc => hsub c (hI₁.claims.subset hc)
    refine along_seq (along_replayRenewedBatch hprotects hsub₁ hb htail hnew hround) (fun p w₂ h₂ => ?_)
      fun e w₂ _ s' hs' => by cases hs'
    obtain ⟨hrep, hrec, hok⟩ := h₂ p rfl
    have hbefore : ∀ c ∈ w₂.claims, c ∈ w'.claims := by
      intro c hc
      have hc₁ := hrep.claims.subset hc
      rw [h₁.1.claims] at hc₁
      exact hc₁
    intro s' hs'
    cases hs'
    -- what is kept of the rounds before, and of this one
    refine ⟨by rw [hlist]; exact hI₁.trans hrep, htoken, fun id hid => ?_, fun hnil => ?_⟩
    · rw [List.map_append]
      rcases hrec with hrec | hrec
      · rw [hrec] at hid
        exact List.mem_append_left _ (hI.recovered id hid)
      · rw [hrec] at hid
        rcases List.mem_cons.1 hid with rfl | hid
        · exact List.mem_append_right _ List.mem_cons_self
        · exact List.mem_append_left _ (hI.recovered id hid)
    · -- no failure so far, and none in this round
      obtain ⟨hunfailed, hnone⟩ := List.append_eq_nil_iff.1 hnil
      have herror : p.2 = none := by
        cases hp : p.2 with
        | none => rfl
        | some e =>
          rw [hp] at hnone
          cases hnone
      obtain ⟨hids, hgone⟩ := hok herror
      obtain ⟨hdone, hclaims⟩ := hI.unfailed hunfailed
      refine ⟨fun b' hb' => ?_, fun b' hb' hscope hall c hc hclaimed => ?_⟩
      · rw [hids]
        rcases List.mem_append.1 hb' with hb' | hb'
        · exact List.mem_cons_of_mem _ (hdone b' hb')
        · rw [List.mem_singleton.1 hb']
          exact List.mem_cons_self
      · rw [hlist] at hb' hall
        by_cases hsame : SameClaims b b'
        · -- the round's own claims
          refine hgone (by rw [← hsame.2]; exact hscope) (fun u hu hu' => ?_) c hc ⟨?_, ?_⟩
          · exact hall u hu ⟨hu'.1.trans hsame.1.symm, hu'.2.trans hsame.2.symm⟩
          · rw [← hsame.1, hclaimed.1]
          · rw [← hsame.2, hclaimed.2]
        · -- claims of a scope that was done before
          refine hclaims b' hb' hscope (fun u hu hu' => ?_) c ?_ hclaimed
          · have hin := hall u hu hu'
            rw [hids] at hin
            rcases List.mem_cons.1 hin with heq | hin
            · rw [List.inj_on_of_nodup_map hall_ids hu hb heq] at hu'
              exact absurd ⟨hu'.1.symm, hu'.2.symm⟩ hsame
            · exact hin
          · exact hbefore c hc

/-- Before the first batch. -/
theorem replayAt_start {lease : LeaseRecord} (hrows : ∀ b ∈ pending, w.journal.batchRow b.batchId = some b) :
    ReplayAt w lease.fencingToken [] pending ⟨lease, [], []⟩ w where
  replaying := ⟨List.Sublist.refl _, fun _ hc _ => hc, hrows, fun _ hid => absurd hid List.not_mem_nil⟩
  token := rfl
  recovered _ hid := absurd hid List.not_mem_nil
  unfailed _ := ⟨fun _ hb => absurd hb List.not_mem_nil, fun b hb _ hall =>
    absurd (hall b hb ⟨rfl, rfl⟩) List.not_mem_nil⟩

/-- All rounds. -/
theorem along_replayBatches (hsub : ∀ c ∈ w₀.claims, c ∈ claims) (hI : ReplayAt w₀ fencingToken done rest s w)
    (hprotects : Protects claims (done ++ rest) U) (hids : ((done ++ rest).map BatchRow.batchId).Nodup) :
    Along A (KeepsProtected U) (fun r w' => ∀ s', r = .ok s' → ReplayAt w₀ fencingToken (done ++ rest) [] s' w')
      (replayBatches W (done ++ rest) s rest) w := by
  induction rest generalizing done s w with
  | nil =>
    intro s' hs'
    cases hs'
    rw [List.append_nil]
    exact hI
  | cons b rest ih =>
    have hlist : done ++ [b] ++ rest = done ++ b :: rest := by simp
    rw [replayBatches]
    refine along_seq (along_replayBatch hprotects hsub hids hI) (fun s₁ w₁ h₁ => ?_) fun e w₁ _ s' hs' => by cases hs'
    have hround := ih (h₁ s₁ rfl) (by rw [hlist]; exact hprotects) (by rw [hlist]; exact hids)
    rw [hlist] at hround
    exact hround

end AllBatches

/-! ## Claims without batches -/

/-- The claim is of an owner and scope that no batch has. -/
def Unbatched (ownerScopes : List (String × String)) (c : ClaimRecord) : Prop :=
  ∃ scope, c.scope = some scope ∧ (c.owner, scope) ∉ ownerScopes

theorem mem_batchOwnerScopes {batches : List (BatchRow Payload)} {owner scope : String} :
    (owner, scope) ∈ batchOwnerScopes batches ↔
      ∃ b ∈ batches, b.claimOwner = some owner ∧ b.claimScope = some scope := by
  rw [batchOwnerScopes, List.mem_filterMap]
  refine exists_congr fun b => and_congr_right fun _ => ?_
  cases b.claimOwner with
  | none => simp
  | some o =>
    cases b.claimScope with
    | none => simp
    | some s => simp

section Orphans

variable {w : World φ} {lease : LeaseRecord} {runId : Option String} {ownerScopes : List (String × String)}

theorem unbatched_of_orphaned {c : ClaimRecord} (h : isOrphanedClaim lease runId ownerScopes c = true) :
    Unbatched ownerScopes c := by
  rw [isOrphanedClaim, Bool.and_eq_true, Option.any_eq_true_iff_get] at h
  obtain ⟨⟨hsome, hscope⟩, -⟩ := h
  rw [Bool.and_eq_true] at hscope
  exact ⟨_, (Option.some_get hsome).symm, of_decide_eq_true hscope.2⟩

/-- The claims of transactions without batches: those made under a smaller token go. -/
theorem along_releaseOrphanedClaims (hU : ∀ u ∈ U, ∀ c, Unbatched ownerScopes c → ¬ ClaimedBy u c) :
    Along A (KeepsProtected U) (fun r w' => Drops (Unbatched ownerScopes) w w' ∧
        (r = .ok () → ∀ c ∈ w'.claims, c.owner = W.owner → isOrphanedClaim lease runId ownerScopes c = false))
      (releaseOrphanedClaims W lease runId ownerScopes) w := by
  have hkept : ∀ w' w'' : World φ, Drops (Unbatched ownerScopes) w' w'' → KeepsProtected U w' w'' :=
    fun w' w'' hd c hc hgone u hu hclaimed _ => absurd hclaimed (hU u hu c (hd.dropped c hc hgone))
  refine finds_seq (finds_listOwnedClaims (.of_claims rfl) W.owner) ?_ fun e => ⟨Drops.refl, fun hr => by cases hr⟩
  have hlisted : ∀ c, c ∈ (listClaims w.claims (some W.owner)).filter (isOrphanedClaim lease runId ownerScopes) ↔
      (c ∈ w.claims ∧ c.owner = W.owner) ∧ isOrphanedClaim lease runId ownerScopes c = true := by
    intro c
    rw [List.mem_filter, mem_listClaims]
  refine along_mono (fun _ _ hR => hR) (fun r w' h' => ⟨h'.1, fun hr c hc howner => ?_⟩)
    (along_releaseAll (h := ⟨lease, none⟩) (D := Unbatched ownerScopes) (fun c _ => ⟨rfl, rfl⟩) (fun c hc d hd => ?_)
      fun w' w'' _ h'' => hkept w' w'' h'')
  · obtain ⟨scope, hscope, hnot⟩ := unbatched_of_orphaned ((hlisted c).1 hc).2
    exact ⟨scope, hd.2.trans hscope, by rw [hd.1]; exact hnot⟩
  · by_contra horphan
    rw [Bool.not_eq_false] at horphan
    exact h'.2 hr c ((hlisted c).2 ⟨⟨h'.1.claims.subset hc, howner⟩, horphan⟩) hc

end Orphans

/-! ## The whole replay -/

/-- The owners and scopes of all batches. -/
def ownerScopesOf (w : World φ) : List (String × String) := batchOwnerScopes (listBatchRows w.journal none)

theorem mem_ownerScopesOf {w : World φ} {owner scope : String} :
    (owner, scope) ∈ ownerScopesOf w ↔ ∃ b ∈ w.journal.batches, b.claimOwner = some owner ∧ b.claimScope = some scope := by
  rw [ownerScopesOf, mem_batchOwnerScopes]
  refine exists_congr fun b => and_congr_left fun _ => ?_
  rw [mem_listBatchRows]
  simp

/-- What a replay without failures has done to the claims. -/
structure Replayed (W : Workspace φ ω) (runId : Option String) (lease : LeaseRecord) (w w' : World φ) : Prop where
  claims : w'.claims.Sublist w.claims
  kept : ∀ c ∈ w.claims, ¬ Unbatched (ownerScopesOf w) c → (∀ b ∈ pendingBatches w runId, ¬ ClaimedBy b c) → c ∈ w'.claims
  pending : ∀ b ∈ pendingBatches w runId, b.claimScope ≠ none → ∀ c ∈ w'.claims, ¬ ClaimedBy b c
  orphaned : ∀ c ∈ w'.claims, c.owner = W.owner → isOrphanedClaim lease runId (ownerScopesOf w) c = false

section Replay

variable {w : World φ} {runId : Option String} {lease : LeaseRecord}

theorem isOrphanedClaim_congr {lease' : LeaseRecord} (h : lease.fencingToken = lease'.fencingToken) :
    isOrphanedClaim lease = isOrphanedClaim lease' := by
  funext runId ownerScopes c
  simp only [isOrphanedClaim, h]

/-- **The replay.** Each step keeps the claims of the batches to protect, and where
no batch failed, the claims of the pending ones are gone. -/
theorem along_replayUnderLease (hw : DistinctBatches w.journal) (hU : ∀ u ∈ U, u ∈ w.journal.batches)
    (hprotects : Protects w.claims (pendingBatches w runId) U) :
    Along A (KeepsProtected U) (fun r w' => r = .ok [] → Replayed W runId lease w w') (replayUnderLease W runId lease) w := by
  have hkept : ∀ {w' : World φ}, KeepsProtected U w' w' := .of_claims rfl
  refine finds_seq (finds_databaseRead hkept fun _ => rfl) ?_ fun e hr => by cases hr
  refine along_bind (along_transaction hkept (fun _ e _ _ hr => by cases hr) (fun _ e _ _ hact => by cases hact)
    fun i scopes w₁ _ _ hact => ?_)
  -- from here on the journal and the claims are those of `w`
  have hscopes : scopes = ownerScopesOf w := (Prod.mk.inj (Except.ok.inj hact)).1.symm
  have hscanned : w₁ = { w with scans := ⟨lease, runId, ownerScopesOf w⟩ :: w.scans } :=
    (Prod.mk.inj (Except.ok.inj hact)).2.symm
  have hjournal : w₁.journal = w.journal := by rw [hscanned]
  have hclaims : w₁.claims = w.claims := by rw [hscanned]
  clear hscanned hact
  refine ⟨.of_claims hclaims, finds_seq (finds_filterPending hkept _) ?_ fun e hr => by cases hr⟩
  have hfound : newestFirst ((listBatchRows w.journal runId).filter (pendingIn w₁.claims)) = pendingBatches w runId := by
    rw [hclaims, pendingBatches]
  rw [hfound, hscopes]
  have hrows : ∀ b ∈ pendingBatches w runId, w₁.journal.batchRow b.batchId = some b := by
    intro b hb
    rw [hjournal]
    exact hw.row_of_mem (mem_pendingBatches.1 hb).1
  refine along_seq (along_replayBatches (W := W) (fun c hc => hclaims ▸ hc) (replayAt_start hrows)
    hprotects (pendingBatches_nodup hw runId)) (fun s w₂ h₂ => ?_) fun e w₂ _ hr => by cases hr
  obtain ⟨hI, htoken, -, hunfailed⟩ := h₂ s rfl
  rw [List.nil_append, List.append_nil] at hI hunfailed
  have hbatched : ∀ u ∈ U, ∀ c, Unbatched (ownerScopesOf w) c → ¬ ClaimedBy u c := by
    rintro u hu c ⟨scope, hscope, hnot⟩ hclaimed
    exact hnot (mem_ownerScopesOf.2 ⟨u, hU u hu, hclaimed.1, hclaimed.2.trans hscope⟩)
  refine along_seq (along_releaseOrphanedClaims hbatched) (fun _ w₃ h₃ hr => ?_) fun e w₃ _ hr => by cases hr
  have hfailures : s.failures = [] := Except.ok.inj hr
  obtain ⟨hdone, hgone⟩ := hunfailed hfailures
  refine ⟨h₃.1.claims.trans (hclaims ▸ hI.claims), fun c hc hbatch hnone => ?_, fun b hb hscope c hc => ?_, fun c hc howner => ?_⟩
  · by_contra hlost
    exact hbatch (h₃.1.dropped c (hI.kept c (hclaims ▸ hc) hnone) hlost)
  · exact hgone b hb hscope (fun u hu _ => hdone u hu) c (h₃.1.claims.subset hc)
  · rw [← isOrphanedClaim_congr htoken]
    exact h₃.2 rfl c hc howner

end Replay

end SafeFsOps
