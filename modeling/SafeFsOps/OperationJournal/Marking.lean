import SafeFsOps.OperationJournal.Advances

/-!
# When a batch can be put up for recovery

A rollback begins by marking batches: `record_recovery_desired` for one that has
failed, failed to recover, or succeeded, `record_interrupted_recovery_desired` for
one that is still attempting. With new ids, whether the mark is accepted is a
question about the batch's row and the lease alone (`Markable`):

> `recordRecoveryDesired_succeeds`, `recordInterrupted_succeeds`: the mark is
> accepted exactly if the row is markable.

The two ask for different leases: the same or an older one of the name for the
first kind, a strictly older one for the second.
-/

namespace SafeFsOps

open SequencedRow

variable {π : Type} [JournalPayload π] {db db' : JournalDb π} {b : String} {ctx : WriteContext} {row : BatchRow π}
  {note : RecoveryNote π}

/-- The two ids a write draws are new among the recovery records. -/
structure FreshIds (db : JournalDb π) (handoffId generated : String) : Prop where
  distinct : handoffId ≠ generated
  handoff : ∀ r ∈ db.recoveries, r.recoveryId ≠ handoffId
  generated : ∀ r ∈ db.recoveries, r.recoveryId ≠ generated

instance (db : JournalDb π) (handoffId generated : String) : Decidable (FreshIds db handoffId generated) :=
  decidable_of_iff (handoffId ≠ generated ∧ (∀ r ∈ db.recoveries, r.recoveryId ≠ handoffId) ∧
    ∀ r ∈ db.recoveries, r.recoveryId ≠ generated) ⟨fun h => ⟨h.1, h.2.1, h.2.2⟩, fun h => ⟨h.1, h.2, h.3⟩⟩

/-- The row can be put up for recovery under the lease. -/
def Markable (leases : LeaseTable) (lease : LeaseRecord) (now : DateTime) (row : BatchRow π) : Prop :=
  row.batchId ≠ "" ∧ leaseIsCurrent leases lease now = true ∧ row.leaseName = lease.name ∧
    match row.phase with
    | .attempting => row.leaseFencingToken < lease.fencingToken
    | .succeeded => row.leaseFencingToken = lease.fencingToken
    | _ => row.leaseFencingToken ≤ lease.fencingToken

omit [JournalPayload π] in
/-- A record with a new id, numbered as the next of its batch, is accepted. -/
theorem insertRecovery_succeeds {r : RecoveryRow π} (hid : ∀ x ∈ db.recoveries, x.recoveryId ≠ r.recoveryId)
    (hseq : r.sequence = db.nextSequence r.batchId) :
    insertRecovery db r = .ok { db with recoveries := db.recoveries ++ [r] } := by
  have hfree : ¬ (db.recoveries.any fun x => rowId x = rowId r ∨ rowGroup x = rowGroup r ∧
      rowSequence x = rowSequence r) = true := by
    intro hany
    obtain ⟨x, hx, h⟩ := List.any_eq_true.1 hany
    rcases of_decide_eq_true h with hsame | ⟨hgroup, hnumber⟩
    · exact hid x hx hsame
    · have hle : rowSequence x ≤ maxSequence db.recoveries (rowGroup x) := sequence_le_maxSequence hx
      rw [hgroup, hnumber] at hle
      have hlt : maxSequence db.recoveries r.batchId < db.nextSequence r.batchId := by
        unfold JournalDb.nextSequence
        omega
      rw [← hseq] at hlt
      exact absurd hlt (Nat.not_lt.2 hle)
  simp only [insertRecovery, insertRow, if_neg hfree]
  rfl

theorem writeRecovery_succeeds (b : String) (phase : BatchPhase) (bind : BatchRow π → BatchRow π)
    (hnote : note.recoveryId = none) (hid : ∀ x ∈ db.recoveries, x.recoveryId ≠ ctx.generated) :
    ∃ r, writeRecovery db b phase note bind ctx = .ok r := by
  have hgenerated : newId note.recoveryId ctx.generated = ctx.generated := by
    rw [hnote]
    rfl
  refine ⟨_, bind_eq_ok.2 ⟨_, insertRecovery_succeeds (fun x hx => ?_) rfl, rfl⟩⟩
  dsimp only
  rw [hgenerated]
  exact hid x hx

theorem handoff_succeeds (row : BatchRow π) (hfresh : FreshIds db ctx.handoffId ctx.generated) :
    ∃ db₁, recordRecoveryTakeoverHandoff db row ctx = .ok db₁ ∧ ∀ x ∈ db₁.recoveries, x.recoveryId ≠ ctx.generated := by
  refine ⟨_, insertRecovery_succeeds hfresh.handoff rfl, fun x hx => ?_⟩
  rcases List.mem_append.1 hx with hx | hx
  · exact hfresh.generated x hx
  · rw [List.mem_singleton.1 hx]
    exact hfresh.distinct

/-- `record_recovery_desired`, of the batches a rollback calls it for. -/
theorem recordRecoveryDesired_succeeds (hrow : db.batchRow row.batchId = some row)
    (hphase : row.phase ∈ [BatchPhase.failed, .recoveryFailed, .succeeded]) (hnote : note.recoveryId = none)
    (hfresh : FreshIds db ctx.handoffId ctx.generated) :
    (∃ r, recordRecoveryDesired db row.batchId note ctx = .ok r) ↔ Markable db.leases ctx.lease ctx.now row := by
  constructor
  · rintro ⟨r, h⟩
    simp only [recordRecoveryDesired, recordRecoveryPhase, validateRequired, bind_eq_ok, require_eq_ok] at h
    obtain ⟨_, hid, ⟨row', taken, db₁⟩, hguard, -⟩ := h
    simp only [requireBatchForRecoveryWrite, bind_eq_ok, require_eq_ok] at hguard
    obtain ⟨_, hcur, r', hr', _, hname, hguard⟩ := hguard
    obtain rfl := Option.some.inj (hrow.symm.trans (requireBatchRow_ok hr'))
    -- the tokens agree, or the batch may be taken over, which a succeeded one may not
    refine ⟨hid, requireCurrentLease_ok hcur, hname, ?_⟩
    split at hguard
    · next htoken =>
      cases hp : row.phase with
      | attempting => simp [hp] at hphase
      | succeeded => exact htoken
      | _ => exact Nat.le_of_eq htoken
    · split at hguard
      · next htaken =>
        cases hp : row.phase with
        | attempting => simp [hp] at hphase
        | succeeded => simp [hp, takeoverAllowed] at htaken
        | _ => exact Nat.le_of_lt htaken.1
      · split at hguard <;> cases hguard
  · rintro ⟨hid, hcur, hname, htoken⟩
    have hguard : ∃ row' taken db₁, requireBatchForRecoveryWrite db row.batchId .recoveryDesired ctx =
        .ok (row', taken, db₁) ∧ row'.phase = row.phase ∧ ∀ x ∈ db₁.recoveries, x.recoveryId ≠ ctx.generated := by
      have hread : requireBatchRow db row.batchId = .ok row := by
        unfold requireBatchRow
        rw [hrow]
      simp only [requireBatchForRecoveryWrite, requireCurrentLease, hread, hcur, hname, require, if_true, bind, Except.bind]
      by_cases heq : row.leaseFencingToken = ctx.lease.fencingToken
      · rw [if_pos heq]
        exact ⟨_, _, _, rfl, rfl, hfresh.generated⟩
      · -- an older lease: the batch is handed over first
        have hlt : row.leaseFencingToken < ctx.lease.fencingToken ∧ takeoverAllowed .recoveryDesired row.phase = true := by
          simp only [List.mem_cons, List.not_mem_nil, or_false] at hphase
          rcases hphase with hp | hp | hp <;> rw [hp] at htoken ⊢
          · exact ⟨by omega, rfl⟩
          · exact ⟨by omega, rfl⟩
          · exact absurd htoken heq
        rw [if_neg heq, if_pos hlt]
        obtain ⟨db₁, hhandoff, hids⟩ := handoff_succeeds row hfresh
        have hread₁ : requireBatchRow db₁ row.batchId = .ok (row.bindLease ctx) := by
          unfold requireBatchRow
          rw [handoff_binds hhandoff hrow]
        rw [hhandoff]
        simp only [hread₁]
        exact ⟨_, _, _, rfl, rfl, hids⟩
    obtain ⟨row', taken, db₁, hguard, hphase', hids⟩ := hguard
    -- from these three phases a recovery may be asked for, whoever does
    have htransition : requireRecoveryTransition taken row'.phase .recoveryDesired = .ok () := by
      rw [hphase']
      simp only [List.mem_cons, List.not_mem_nil, or_false] at hphase
      rcases hphase with hp | hp | hp <;> rw [hp] <;> cases taken <;> rfl
    obtain ⟨r, hwrite⟩ := writeRecovery_succeeds row.batchId .recoveryDesired id hnote hids
    refine ⟨r, ?_⟩
    have hvalid : validateRequired "batch_id" row.batchId = .ok () := require_eq_ok.2 hid
    have hattempt : requireAttemptToFinish db₁ row.batchId .recoveryDesired none = .ok () := rfl
    simp only [recordRecoveryDesired, recordRecoveryPhase, hvalid, hguard, htransition, hattempt, bind, Except.bind]
    exact hwrite

/-- `record_interrupted_recovery_desired`, of a batch that is attempting. -/
theorem recordInterrupted_succeeds (hrow : db.batchRow row.batchId = some row) (hphase : row.phase = .attempting)
    (hnote : note.recoveryId = none) (hfresh : FreshIds db ctx.handoffId ctx.generated) :
    (∃ r, recordInterruptedRecoveryDesired db row.batchId row.resourceKey note ctx = .ok r) ↔
      Markable db.leases ctx.lease ctx.now row := by
  constructor
  · rintro ⟨r, h⟩
    simp only [recordInterruptedRecoveryDesired, validateRequired, requireRecoveryTakeover, bind_eq_ok,
      require_eq_ok] at h
    obtain ⟨_, hid, _, hcur, r', hr', _, ⟨_, -, _, hname, _, htoken, -⟩, -⟩ := h
    obtain rfl := Option.some.inj (hrow.symm.trans (requireBatchRow_ok hr'))
    refine ⟨hid, requireCurrentLease_ok hcur, hname, ?_⟩
    rw [hphase]
    exact htoken
  · rintro ⟨hid, hcur, hname, htoken⟩
    rw [hphase] at htoken
    obtain ⟨r, hwrite⟩ := writeRecovery_succeeds row.batchId .recoveryDesired
      (fun r => r.bindLease ctx) hnote hfresh.generated
    refine ⟨r, ?_⟩
    simp only [recordInterruptedRecoveryDesired, validateRequired, requireRecoveryTakeover, requireBatchResourceKey,
      bind_eq_ok, require_eq_ok]
    refine ⟨(), hid, (), require_eq_ok.2 hcur, row, ?_, (), ⟨(), ?_, (), hname, (), htoken, (), Or.inr rfl, ?_⟩, hwrite⟩
    · unfold requireBatchRow
      rw [hrow]
    · rw [hphase]
      decide
    · intro hplanned
      rw [hphase] at hplanned
      cases hplanned

end SafeFsOps
