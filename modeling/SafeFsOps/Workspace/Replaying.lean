import SafeFsOps.Workspace.Entering
import SafeFsOps.Workspace.ReplaySteps

/-!
# What a replay does to the claims

A claim left by a dead transaction goes one of two ways: with the recovery of a
batch of its owner and scope, or, where no batch has them, with the claims without
batches. A batch that was planned and never started has them and is not pending;
so is one that had succeeded and was left between the release of two claims. The
claims of such a scope stay, whatever the replay reports:

> `no_claim_stranded`: after a replay that reports no failure, no old claim of a
> transaction is left, exactly if each such claim with a batch had a pending one.

In the other direction a claim may go too early. Batches on one resource wait for
each other, but the destination of a rename and the quarantine of a capture are not
counted as theirs:

> `claims_protect_unrecovered`: no step releases a claim that an unrecovered batch
> needs, if no claim on the second resource of one is another pending batch's own.
-/

namespace SafeFsOps

open Program

variable {φ ω : Type} {W : Workspace φ ω} {A : Sample ω → World φ → Prop} {U : List (BatchRow Payload)} {w : World φ}
  {runId : Option String} {lease : LeaseRecord}

/-! ## The replay and its lease -/

theorem Replayed.of_claims {w₁ w' : World φ} (h : Replayed W runId lease w w₁) (hclaims : w'.claims = w₁.claims) :
    Replayed W runId lease w w' where
  claims := hclaims ▸ h.claims
  kept := hclaims ▸ h.kept
  pending := hclaims ▸ h.pending
  orphaned := hclaims ▸ h.orphaned

/-- The replay, and the release of its lease whatever comes of it. -/
theorem along_replayThenRelease (hw : DistinctBatches w.journal) (hU : ∀ u ∈ U, u ∈ w.journal.batches)
    (hprotects : Protects w.claims (pendingBatches w runId) U) :
    Along A (KeepsProtected U) (fun r w' => r = .ok [] → Replayed W runId lease w w')
      ((replayUnderLease W runId lease).finallyDo (releaseHeldLease ⟨lease, none⟩ >>= fun _ => .ret ())) w := by
  refine along_outcome_seq (along_replayUnderLease hw hU hprotects) fun r w₁ h₁ => ?_
  have hrelease : AllTouch (fun _ => False) [] (releaseHeldLease ⟨lease, none⟩ >>= fun _ => .ret () : Op φ ω Unit) :=
    eachStep_bind (f := fun _ => .ret ()) (fun _ => trivial) touch_releaseHeldLease
  refine along_seq (along_mono (fun _ _ ht => ht.keepsProtected) (fun _ _ h => h) (along_touch hrelease w₁))
    (fun _ w₂ h₂ => ?_) fun e w₂ _ hr => by cases hr
  exact along_ofExcept fun hr => (h₁ hr).of_claims h₂.claims

/-- The program after its first step. -/
def replayAcquired (W : Workspace φ ω) (runId : Option String) (lease : LeaseRecord) : Op φ ω (Option OperationError) :=
  if lease.acquired = false then return some (.safeWorkspace (leaseIsHeld W lease))
  else do
    let failures ← (replayUnderLease W runId lease).finallyDo
      (releaseHeldLease ⟨lease, none⟩ >>= fun _ => .ret ())
    if failures = [] then return none
    else return some (.safeWorkspace (rollbackFailureMessage failures))

theorem recoverPendingWorkspaceBatches_eq :
    recoverPendingWorkspaceBatches W runId = (acquireLease W none >>= replayAcquired W runId) := rfl

theorem along_replayAcquired (hw : DistinctBatches w.journal) (hU : ∀ u ∈ U, u ∈ w.journal.batches)
    (hprotects : Protects w.claims (pendingBatches w runId) U) :
    Along A (KeepsProtected U) (fun r w' => r = .ok none → Replayed W runId lease w w') (replayAcquired W runId lease) w := by
  unfold replayAcquired
  split
  · exact fun hr => by cases hr
  · refine along_seq (along_replayThenRelease hw hU hprotects) (fun failures w₁ h₁ => ?_) fun e w₁ _ hr => by cases hr
    split
    · next hnil => exact fun _ => h₁ (by rw [hnil])
    · exact fun hr => by cases hr

/-! ## No claim is stranded -/

/-- A claim of the workspace's owner, of a transaction, made under a smaller token. -/
def MadeBefore (W : Workspace φ ω) (lease : LeaseRecord) (c : ClaimRecord) : Prop :=
  c.owner = W.owner ∧ c.scope.any isTransactionScope = true ∧
    c.details.any (fun d => d.leaseFencingToken.any (· < lease.fencingToken)) = true

instance (W : Workspace φ ω) (lease : LeaseRecord) (c : ClaimRecord) : Decidable (MadeBefore W lease c) :=
  inferInstanceAs (Decidable (_ ∧ _ ∧ _))

/-- Such a claim is released as one without a batch exactly if it has none. -/
theorem MadeBefore.orphaned_iff {ownerScopes : List (String × String)} {c : ClaimRecord} (h : MadeBefore W lease c) :
    isOrphanedClaim lease none ownerScopes c = true ↔ Unbatched ownerScopes c := by
  refine ⟨unbatched_of_orphaned, fun ⟨scope, hscope, hnot⟩ => ?_⟩
  obtain ⟨-, htransaction, hdetails⟩ := h
  rw [hscope, Option.any_some] at htransaction
  simp only [isOrphanedClaim, hscope, Option.any_some, htransaction, hnot, not_false_eq_true, decide_true,
    Option.all_none, Bool.true_and]
  exact hdetails

/-- **No claim is stranded.** After a replay without a failure no claim made before is
left, exactly if every such claim has no batch, or a pending one. -/
theorem no_claim_stranded (W : Workspace φ ω) (w w' : World φ) (i : Sample ω) (inputs rest : List (Sample ω))
    (leases : LeaseTable) (hw : DistinctBatches w.journal)
    (hacquire : acquire w.journal.leases W.leaseName W.owner W.leaseTtl none i.generated i.now = .ok (lease, leases))
    (hrun : (recoverPendingWorkspaceBatches W none).exec w (i :: inputs) = (some (.ok none, rest), w')) :
    (∀ c ∈ w'.claims, ¬ MadeBefore W lease c) ↔
      ∀ c ∈ w.claims, MadeBefore W lease c →
        Unbatched (ownerScopesOf w) c ∨ ∃ b ∈ pendingBatches w none, ClaimedBy b c := by
  -- the first step takes the lease
  have hfirst : ∃ mid, (replayAcquired W none lease).exec { w with journal := { w.journal with leases := leases } } mid =
      (some (.ok none, rest), w') := by
    rw [recoverPendingWorkspaceBatches_eq] at hrun
    obtain ⟨lease', mid, w₁, hlease, hrest⟩ := exec_bind_ok hrun
    rw [acquireLease, transaction, exec_call] at hlease
    cases hf : i.fault with
    | some e =>
      simp only [hf] at hlease
      cases hlease
    | none =>
      simp only [hf, Option.getD_none, hacquire] at hlease
      cases hlease
      exact ⟨_, hrest⟩
  obtain ⟨mid, hrest⟩ := hfirst
  have hnone : Protects w.claims (pendingBatches w none) [] := fun _ _ _ _ u hu => absurd hu List.not_mem_nil
  have hreplayed : Replayed W none lease w w' := by
    have hdone := along_finishes (along_replayAcquired (A := fun _ _ => True) (W := W)
      (w := { w with journal := { w.journal with leases := leases } }) hw (fun u hu => absurd hu List.not_mem_nil) hnone)
      (meets_true _ _ _) hrest
    exact ⟨(hdone rfl).claims, (hdone rfl).kept, (hdone rfl).pending, (hdone rfl).orphaned⟩
  constructor
  · intro hgone c hc hbefore
    by_contra hneither
    rw [not_or] at hneither
    exact hgone c (hreplayed.kept c hc hneither.1 fun b hb hclaimed => hneither.2 ⟨b, hb, hclaimed⟩) hbefore
  · intro hall c hc hbefore
    rcases hall c (hreplayed.claims.subset hc) hbefore with hunbatched | ⟨b, hb, hclaimed⟩
    · have horphan := hreplayed.orphaned c hc hbefore.1
      rw [(hbefore.orphaned_iff).2 hunbatched] at horphan
      cases horphan
    · refine hreplayed.pending b hb ?_ c hc hclaimed
      obtain ⟨scope, hscope, -⟩ := (Option.any_eq_true _ _).1 hbefore.2.1
      rw [hclaimed.2, hscope]
      exact Option.some_ne_none _

/-! ### Transactions on two directories, killed -/

private def lateNight : DateTime := .soon 100

private def earlyMorning : DateTime := .soon 5000

/-- A transaction on two directories, at a fixed time. -/
private def tidying : Transaction Unit Unit where
  workspace := ⟨.inert, "owner", "lease", 1000, none⟩
  name := "tx"
  resources := ⟨[⟨"directory:/d", "directory", none⟩, ⟨"directory:/x", "directory", none⟩], by decide⟩
  runId := "run"
  rollback := .automatic
  now := some lateNight
  instanceId := "i"

private def touchD : TransactionRequest := .mutate (.recordDirectoryNoop ["d"] "directory:/d") ⟨none, ⟨none, none⟩, none⟩

private def moveXToD : TransactionRequest :=
  .mutate (.renameNoReplace ["x"] ["d"] "directory:/x" "directory:/d") ⟨none, ⟨none, none⟩, none⟩

private def nights (n : Nat) : List (Sample Unit) :=
  (List.range n).map fun k => ⟨lateNight, toString k ++ "h", toString k, none, ()⟩

private def firstMorning : Sample Unit := ⟨earlyMorning, "h", "0", none, ()⟩

private def mornings : List (Sample Unit) :=
  (List.range 80).map fun k => ⟨earlyMorning, toString k ++ "h", toString k ++ "m", none, ()⟩

/-- The transaction on a new database, killed after so many steps. -/
private def killedAfter (n : Nat) (body : TransactionBody) : World Unit :=
  ((runTransaction tidying body).exec (World.init ()) (nights n)).2

/-- The lease of the replay. -/
private def morningLease : LeaseRecord := ⟨"lease", "owner", "0", 2, earlyMorning, earlyMorning, .soon 6000, true⟩

private def onlyTouch : TransactionBody := .call touchD fun _ => .finish

/-- What a replay of it comes to. -/
private def replayed (w : World Unit) : World Unit :=
  ((recoverPendingWorkspaceBatches tidying.workspace none).exec w (firstMorning :: mornings)).2

private theorem acquired_morning {t : LeaseTable}
    (h : (acquire t "lease" "owner" 1000 none "0" earlyMorning).map Prod.fst = .ok morningLease) :
    ∃ leases, acquire t "lease" "owner" 1000 none "0" earlyMorning = .ok (morningLease, leases) := by
  obtain ⟨⟨lease, leases⟩, hacquire, rfl⟩ := map_eq_ok.1 h
  exact ⟨leases, hacquire⟩

/-- Killed between the creation of its batch and the start, it leaves claims that no replay releases. -/
theorem no_claim_stranded_planned :
    (runTransaction tidying onlyTouch).exec (World.init ()) (nights 7) = (none, killedAfter 7 onlyTouch) ∧
    (∃ leases, acquire (killedAfter 7 onlyTouch).journal.leases "lease" "owner" 1000 none "0" earlyMorning =
      .ok (morningLease, leases)) ∧
    (∃ rest, (recoverPendingWorkspaceBatches tidying.workspace none).exec (killedAfter 7 onlyTouch)
        (firstMorning :: mornings) =
      (some (.ok none, rest), replayed (killedAfter 7 onlyTouch))) ∧
      ¬ ∀ c ∈ (replayed (killedAfter 7 onlyTouch)).claims, ¬ MadeBefore tidying.workspace morningLease c := by
  refine ⟨Prod.ext (Option.isNone_iff_eq_none.1 ?_) rfl, acquired_morning ?_, exec_of_outcome ?_, ?_⟩
  · decide +kernel
  · decide +kernel
  · decide +kernel
  · decide +kernel

/-- Killed after the start, it leaves none. -/
theorem no_claim_stranded_started : DistinctBatches (killedAfter 9 onlyTouch).journal ∧
    ∀ c ∈ (replayed (killedAfter 9 onlyTouch)).claims, ¬ MadeBefore tidying.workspace morningLease c := by
  have hrun : ∃ rest, (recoverPendingWorkspaceBatches tidying.workspace none).exec (killedAfter 9 onlyTouch)
        (firstMorning :: mornings) =
      (some (.ok none, rest), replayed (killedAfter 9 onlyTouch)) := exec_of_outcome (by decide +kernel)
  obtain ⟨rest, hrun⟩ := hrun
  obtain ⟨leases, hacquire⟩ := acquired_morning (t := (killedAfter 9 onlyTouch).journal.leases) (by decide +kernel)
  have hpending : ∀ c ∈ (killedAfter 9 onlyTouch).claims, ∃ b ∈ pendingBatches (killedAfter 9 onlyTouch) none,
      ClaimedBy b c := by decide +kernel
  have hw : DistinctBatches (killedAfter 9 onlyTouch).journal := by
    unfold DistinctBatches
    decide +kernel
  exact ⟨hw, (no_claim_stranded tidying.workspace (killedAfter 9 onlyTouch) (replayed (killedAfter 9 onlyTouch))
    firstMorning mornings rest leases hw hacquire hrun).2 fun c hc _ => Or.inr (hpending c hc)⟩

/-! ## Claims protect unrecovered work -/

/-- The batches pending in a state that are not recovered yet. -/
def unrecovered (w : World φ) : List (BatchRow Payload) :=
  (pendingBatches w none).filter fun b => b.phase ≠ .recoverySucceeded

/-- **Claims protect unrecovered work.** No step of a replay releases a claim on what
an unrecovered batch touches, if such a claim is another pending batch's own only
where it is its own too, and no batch left out shares claims with a selected one. -/
theorem claims_protect_unrecovered (W : Workspace φ ω) (runId : Option String) (w : World φ) (inputs : List (Sample ω))
    (hw : DistinctBatches w.journal) (hprotects : Protects w.claims (pendingBatches w runId) (unrecovered w)) :
    (trace (recoverPendingWorkspaceBatches W runId) w inputs).IsChain (KeepsProtected (unrecovered w)) := by
  have hU : ∀ u ∈ unrecovered w, u ∈ w.journal.batches :=
    fun u hu => (mem_pendingBatches.1 (List.mem_of_mem_filter hu)).1
  have halong : Along (fun _ _ => True) (KeepsProtected (unrecovered w)) (fun _ _ => True)
      (recoverPendingWorkspaceBatches W runId) w := by
    rw [recoverPendingWorkspaceBatches_eq]
    refine along_bind (along_transaction (.of_claims rfl) (fun _ _ _ _ => trivial) (fun _ _ _ _ _ => trivial)
      fun i lease w₁ _ _ hact => ?_)
    split at hact
    · next lease' leases _ =>
      cases hact
      refine ⟨.of_claims rfl, along_mono (fun _ _ hR => hR) (fun _ _ _ => trivial) (along_replayAcquired (U := unrecovered w)
        (w := { w with journal := { w.journal with leases := leases } }) hw hU hprotects)⟩
    · cases hact
  exact (along_exec halong inputs (meets_true _ _ _)).1

private def moveThenTouch : TransactionBody := .call moveXToD fun _ => .call touchD fun _ => .finish

/-- The directory is touched after the rename to it: its batch is recovered first, and
the claim on it goes while the rename is not undone. -/
theorem claims_protect_unrecovered_destination :
    (runTransaction tidying moveThenTouch).exec (World.init ()) (nights 22) = (none, killedAfter 22 moveThenTouch) ∧
    ¬ (trace (recoverPendingWorkspaceBatches tidying.workspace none) (killedAfter 22 moveThenTouch)
      (firstMorning :: mornings)).IsChain (KeepsProtected (unrecovered (killedAfter 22 moveThenTouch))) := by
  refine ⟨Prod.ext (Option.isNone_iff_eq_none.1 ?_) rfl, ?_⟩
  · decide +kernel
  · decide +kernel

/-- Without the rename, the batch is recovered under its claim. -/
theorem claims_protect_unrecovered_touched :
    (trace (recoverPendingWorkspaceBatches tidying.workspace none) (killedAfter 9 onlyTouch)
      (firstMorning :: mornings)).IsChain (KeepsProtected (unrecovered (killedAfter 9 onlyTouch))) := by
  refine claims_protect_unrecovered tidying.workspace none (killedAfter 9 onlyTouch) (firstMorning :: mornings) ?_ ?_
  · unfold DistinctBatches
    decide +kernel
  · decide +kernel

end SafeFsOps
