import SafeFsOps.OperationJournal.Advances

/-!
# Stale workers are excluded

A batch stores the name and the fencing token of the lease it is bound to. Over
any run of the journal:

> `onward_step`: a stored token never falls and the name never changes,
> `bound_step`: a stored token never exceeds the fencing token of its lease row.

So a record of the same lease with a smaller token than the batch's is not
current, and it is not the record the batch is bound to either: neither of the
two ways to pass a guard (`run_guarded`) is open to it. That is the exclusion:

> `stale_worker_exclusion`.
-/

namespace SafeFsOps

variable {π : Type}

/-- Every batch is bound to a token its lease row has reached. -/
def Bound (db : JournalDb π) : Prop :=
  ∀ b row, db.batchRow b = some row →
    ∃ lease, db.leases row.leaseName = some lease ∧ row.leaseFencingToken ≤ lease.fencingToken

/-- Every batch is still there, under the same lease name and no smaller token. -/
def Onward (db db' : JournalDb π) : Prop :=
  ∀ b row, db.batchRow b = some row → ∃ row', db'.batchRow b = some row' ∧
    row'.leaseName = row.leaseName ∧ row.leaseFencingToken ≤ row'.leaseFencingToken

theorem Onward.refl (db : JournalDb π) : Onward db db := fun _ row h => ⟨row, h, rfl, Nat.le_refl _⟩

theorem Onward.trans {db db₁ db₂ : JournalDb π} (h₁ : Onward db db₁) (h₂ : Onward db₁ db₂) :
    Onward db db₂ := by
  intro b row hrow
  obtain ⟨row₁, hrow₁, hn₁, hle₁⟩ := h₁ b row hrow
  obtain ⟨row₂, hrow₂, hn₂, hle₂⟩ := h₂ b row₁ hrow₁
  exact ⟨row₂, hrow₂, hn₂.trans hn₁, Nat.le_trans hle₁ hle₂⟩

/-- A current record carries the fencing token of its row. -/
theorem current_fencing {t : LeaseTable} {lease : LeaseRecord} {now : DateTime}
    (h : leaseIsCurrent t lease now = true) :
    ∃ row, t lease.name = some row ∧ row.fencingToken = lease.fencingToken := by
  obtain ⟨row, hrow, -, -, hf, -⟩ := leaseIsCurrent_iff.1 h
  exact ⟨row, hrow, hf⟩

theorem Advances.onward {L : LeaseRecord} {P : List BatchPhase} {b : String} {db db' : JournalDb π}
    (h : Advances L P b db db') : Onward db db' := by
  intro b' row hrow
  by_cases hb : b' = b
  · subst hb
    obtain ⟨row', hrow', hc, -, hf⟩ := h.row row hrow
    refine ⟨row', hrow', BatchRow.column_eq BatchRow.created_leaseName hc, ?_⟩
    rcases hf with hf | ⟨-, hle, hf, -⟩ <;> omega
  · exact ⟨row, (h.other b' hb).trans hrow, rfl, Nat.le_refl _⟩

/-- Advancing a batch under a current lease, or under the very lease it is bound
to, keeps every token within its lease row. -/
theorem Advances.bound {ctx : WriteContext} {P : List BatchPhase} {b : String} {db db' : JournalDb π}
    (h : Advances ctx.lease P b db db') (hdb : Bound db)
    (hguard : leaseIsCurrent db.leases ctx.lease ctx.now = true ∨
      ∃ row, db.batchRow b = some row ∧ row.leaseName = ctx.lease.name ∧
        row.leaseFencingToken = ctx.lease.fencingToken) : Bound db' := by
  intro b' row' hrow'
  rw [h.leases]
  by_cases hb : b' = b
  · subst hb
    cases hrow : db.batchRow b' with
    | none => rw [h.absent hrow] at hrow'; cases hrow'
    | some row =>
      obtain ⟨row₁, hrow₁, hc, -, hf⟩ := h.row row hrow
      have hn := BatchRow.column_eq BatchRow.created_leaseName hc
      rw [hrow'] at hrow₁
      cases hrow₁
      obtain ⟨lease, hlease, hle⟩ := hdb b' row hrow
      rw [hn]
      rcases hf with hf | ⟨hname, -, hf, -⟩
      · exact ⟨lease, hlease, by omega⟩
      · refine ⟨lease, hlease, ?_⟩
        rcases hguard with hcur | ⟨row₂, hrow₂, -, hf₂⟩
        · obtain ⟨current, hcurrent, hfc⟩ := current_fencing hcur
          rw [hname, hcurrent] at hlease
          cases hlease
          omega
        · rw [hrow] at hrow₂
          cases hrow₂
          omega
  · rw [h.other b' hb] at hrow'
    exact hdb b' row' hrow'

section Runs

variable [JournalPayload π] [DecidableEq π]

/-- Creating a batch binds it to a current lease and leaves the others alone. -/
theorem create_onward_bound {db db' : JournalDb π} {w : JournalWrite π} {ctx : WriteContext}
    (hb : w.batch = none) (h : w.run db ctx = .ok db') :
    Onward db db' ∧ (Bound db → Bound db') := by
  obtain ⟨hcur, rfl | ⟨req, batchId, rfl, -, hid⟩⟩ := run_create hb h
  · exact ⟨Onward.refl _, id⟩
  · have hread : ∀ b, ({ db with batches := db.batches ++ [newBatchRow db req batchId ctx] } :
        JournalDb π).batchRow b = (db.batchRow b).or
          (if (newBatchRow db req batchId ctx).batchId = b then some (newBatchRow db req batchId ctx) else none) :=
      findRow_append_one BatchRow.batchId db.batches _
    refine ⟨?_, ?_⟩
    · intro b row hrow
      exact ⟨row, by rw [hread, hrow]; rfl, rfl, Nat.le_refl _⟩
    · intro hdb b row hrow
      rw [hread] at hrow
      cases hold : db.batchRow b with
      | some old =>
        rw [hold] at hrow
        cases hrow
        exact hdb b _ hold
      | none =>
        rw [hold, Option.none_or] at hrow
        split at hrow
        · obtain rfl := Option.some.inj hrow
          obtain ⟨current, hcurrent, hf⟩ := current_fencing hcur
          exact ⟨current, hcurrent, Nat.le_of_eq hf.symm⟩
        · cases hrow

theorem onward_step (db : JournalDb π) (c : JournalCall π) : Onward db (db.step c) := by
  cases c with
  | lease c => exact Onward.refl db
  | operationRuns runs phases => exact Onward.refl db
  | write w ctx =>
    simp only [JournalDb.step]
    split
    · next db' h =>
      cases hb : w.batch with
      | none => exact (create_onward_bound hb h).1
      | some b => exact (run_advances hb h).onward
    · exact Onward.refl db

theorem bound_step (db : JournalDb π) (c : JournalCall π) (hdb : Bound db) : Bound (db.step c) := by
  cases c with
  | lease c =>
    intro b row hrow
    obtain ⟨lease, hlease, hle⟩ := hdb b row hrow
    obtain ⟨lease', hlease', hle'⟩ := c.run_fencing db.leases row.leaseName lease hlease
    exact ⟨lease', hlease', Nat.le_trans hle hle'⟩
  | operationRuns runs phases => exact hdb
  | write w ctx =>
    simp only [JournalDb.step]
    split
    · next db' h =>
      cases hb : w.batch with
      | none => exact (create_onward_bound hb h).2 hdb
      | some b => exact (run_advances hb h).bound hdb (run_guarded hb h)
    · exact hdb

/-- A write under an older record of the batch's lease raises. -/
theorem older_lease_raises {db : JournalDb π} (hdb : Bound db) {b : String} {row : BatchRow π}
    (hrow : db.batchRow b = some row) {w : JournalWrite π} {ctx : WriteContext} (hb : w.batch = some b)
    (hn : ctx.lease.name = row.leaseName) (hlt : ctx.lease.fencingToken < row.leaseFencingToken) :
    ∃ e, w.run db ctx = .error e := by
  cases h : w.run db ctx with
  | error e => exact ⟨e, rfl⟩
  | ok db' =>
    exfalso
    rcases run_guarded hb h with hcur | ⟨row', hrow', -, hf⟩
    · obtain ⟨current, hcurrent, hfc⟩ := current_fencing hcur
      obtain ⟨lease, hlease, hle⟩ := hdb b row hrow
      rw [← hn, hcurrent] at hlease
      cases hlease
      omega
    · rw [hrow] at hrow'
      cases hrow'
      omega

/-- **Stale workers are excluded.** In every run of the journal: stored fencing
tokens never fall, and never exceed the token of their lease row; once a batch
has been bound to a token, every later write on it under an older record of the
lease raises; and a write that raises leaves every row unchanged. -/
theorem stale_worker_exclusion (run : List (JournalCall π)) :
    (∀ pre post, run = pre ++ post →
      Onward (after JournalDb.step (JournalDb.init π) pre) (after JournalDb.step (JournalDb.init π) run)) ∧
    Bound (after JournalDb.step (JournalDb.init π) run) ∧
    (∀ pre post b row w ctx, run = pre ++ post →
      (after JournalDb.step (JournalDb.init π) pre).batchRow b = some row → JournalWrite.batch w = some b →
      ctx.lease.name = row.leaseName → ctx.lease.fencingToken < row.leaseFencingToken →
      ∃ e, w.run (after JournalDb.step (JournalDb.init π) run) ctx = .error e) ∧
    (∀ w ctx e, JournalWrite.run (after JournalDb.step (JournalDb.init π) run) ctx w = .error e →
      (after JournalDb.step (JournalDb.init π) run).step (.write w ctx) =
        after JournalDb.step (JournalDb.init π) run) := by
  have honward : ∀ pre post, run = pre ++ post →
      Onward (after JournalDb.step (JournalDb.init π) pre) (after JournalDb.step (JournalDb.init π) run) := by
    intro pre post hsplit
    rw [hsplit, after_append]
    exact after_relates Onward.refl Onward.trans onward_step post _
  have hbound : Bound (after JournalDb.step (JournalDb.init π) run) :=
    after_invariant bound_step run _ (by intro b row h; cases h)
  refine ⟨honward, hbound, ?_, ?_⟩
  · intro pre post b row w ctx hsplit hrow hb hn hlt
    obtain ⟨row', hrow', hn', hle⟩ := honward pre post hsplit b row hrow
    exact older_lease_raises hbound hrow' hb (hn.trans hn'.symm) (Nat.lt_of_lt_of_le hlt hle)
  · intro w ctx e h
    simp only [JournalDb.step, h]

end Runs

end SafeFsOps
