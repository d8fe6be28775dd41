import SafeFsOps.OperationJournal.StepRules
import SafeFsOps.Workspace.Workspace

/-!
# The steps of a workspace

What `Along` asks of the steps that a workspace adds to those of the journal: a
write of the claims, and a look at the clock.
-/

namespace SafeFsOps

open Program

variable {φ ω α β : Type} {C : Sample ω → World φ → Prop} {R : World φ → World φ → Prop}
  {Q : Except OperationError α → World φ → Prop} {w : World φ}

/-- A write of the claims: what it commits, or nothing. -/
theorem along_claimWrite {h : LeaseHolder}
    {write : LeaseTable → ClaimTable → DateTime → Except ClaimError (α × ClaimTable)} (hR : R w w)
    (hfault : ∀ i e, C i w → i.fault = some e → Q (.error e) w)
    (hraise : ∀ i e, C i w → i.fault = none →
      write w.journal.leases w.claims (h.operationTime i) = .error e → Q (.error (.claim e)) w)
    (hwrite : ∀ i a claims, C i w → i.fault = none →
      write w.journal.leases w.claims (h.operationTime i) = .ok (a, claims) →
      R w { w with claims := claims } ∧ Q (.ok a) { w with claims := claims }) :
    Along C R Q (claimWrite h write) w := by
  refine along_transaction hR hfault (fun i e hi hf hact => ?_) fun i a w' hi hf hact => ?_
  · split at hact
    · cases hact
    · next e' hrun =>
      cases hact
      exact hraise i e' hi hf hrun
  · split at hact
    · next a' claims hrun =>
      cases hact
      exact hwrite i _ _ hi hf hrun
    · cases hact

/-- Sampling the clock. -/
theorem along_atOperationTime {h : LeaseHolder} {Q : Except OperationError LeaseHolder → World φ → Prop} (hR : R w w)
    (hQ : ∀ i, C i w → Q (.ok { h with now := some (h.operationTime i) }) w) :
    Along C R Q (atOperationTime h) w := along_call fun i hi => ⟨hR, hQ i hi⟩

end SafeFsOps
