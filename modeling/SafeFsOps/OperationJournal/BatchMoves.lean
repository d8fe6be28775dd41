import SafeFsOps.OperationJournal.QuietSteps

/-!
# Steps on some batches

A recovery works on one batch, a cleanup on a few, and whatever else is in the
journal stays as it is. `Moves S P db db'` says that between `db` and `db'` only
batches in `S` were written, that they keep the columns they were created with,
and that their phase is the old one or one of `P`. `Touches S P` is the same of two
worlds, whose claims are equal besides.

> `moves_after`: calls that write batches of `S` only, and set phases of `P` only,
> move the journal so.
> `Quiet.touches`: quiet steps of such writes touch nothing else.
-/

namespace SafeFsOps

open Program

variable {φ ω π α β : Type}

/-! ## The journal -/

/-- A batch's id is its primary key. -/
def DistinctBatches (db : JournalDb π) : Prop := (db.batches.map BatchRow.batchId).Nodup

theorem DistinctBatches.row_of_mem {db : JournalDb π} (hdb : DistinctBatches db) {r : BatchRow π} (h : r ∈ db.batches) :
    db.batchRow r.batchId = some r := findRow_of_mem hdb h

/-- Only batches in `S` were written, and got phases of `P` at most. -/
structure Moves (S : String → Prop) (P : List BatchPhase) (db db' : JournalDb π) : Prop where
  batchIds : db'.batches.map BatchRow.batchId = db.batches.map BatchRow.batchId
  other : ∀ id, ¬ S id → db'.batchRow id = db.batchRow id
  row : ∀ id r, db.batchRow id = some r → ∃ r', db'.batchRow id = some r' ∧ r'.created = r.created ∧
    (r'.phase = r.phase ∨ r'.phase ∈ P)

namespace Moves

variable {S S' : String → Prop} {P P' : List BatchPhase} {db db₁ db₂ : JournalDb π}

protected theorem refl : Moves S P db db := ⟨rfl, fun _ _ => rfl, fun _ r hr => ⟨r, hr, rfl, Or.inl rfl⟩⟩

protected theorem trans (h₁ : Moves S P db db₁) (h₂ : Moves S P db₁ db₂) : Moves S P db db₂ where
  batchIds := h₂.batchIds.trans h₁.batchIds
  other id hid := (h₂.other id hid).trans (h₁.other id hid)
  row := by
    intro id r hr
    obtain ⟨r₁, hr₁, hc₁, hp₁⟩ := h₁.row id r hr
    obtain ⟨r₂, hr₂, hc₂, hp₂⟩ := h₂.row id r₁ hr₁
    refine ⟨r₂, hr₂, hc₂.trans hc₁, ?_⟩
    rcases hp₂ with hp₂ | hp₂
    · exact hp₁.imp hp₂.trans (fun h => hp₂ ▸ h)
    · exact Or.inr hp₂

theorem mono (hS : ∀ id, S id → S' id) (hP : ∀ p ∈ P, p ∈ P') (h : Moves S P db db₁) : Moves S' P' db db₁ where
  batchIds := h.batchIds
  other id hid := h.other id fun hs => hid (hS id hs)
  row id r hr := by
    obtain ⟨r', hr', hc, hp⟩ := h.row id r hr
    exact ⟨r', hr', hc, hp.imp_right (hP _)⟩

/-- Batches neither come nor go. -/
theorem absent (h : Moves S P db db₁) {id : String} (hid : db.batchRow id = none) : db₁.batchRow id = none := by
  cases hr : db₁.batchRow id with
  | none => rfl
  | some r =>
    have hmem : id ∈ db.batches.map BatchRow.batchId := by
      rw [← h.batchIds]
      exact List.mem_map.2 ⟨r, findRow_mem hr, findRow_key hr⟩
    obtain ⟨r', hr', hkey⟩ := List.mem_map.1 hmem
    obtain ⟨r'', hr''⟩ := findRow_isSome_of_mem (f := BatchRow.batchId) hr'
    rw [hkey] at hr''
    rw [JournalDb.batchRow, hr''] at hid
    cases hid

/-- A row afterwards comes from one before. -/
theorem source (h : Moves S P db db₁) {id : String} {r' : BatchRow π} (hr : db₁.batchRow id = some r') :
    ∃ r, db.batchRow id = some r ∧ r'.created = r.created ∧ (r'.phase = r.phase ∨ r'.phase ∈ P) := by
  cases hid : db.batchRow id with
  | none =>
    rw [h.absent hid] at hr
    cases hr
  | some r =>
    obtain ⟨r₁, hr₁, hc, hp⟩ := h.row id r hid
    rw [hr₁] at hr
    cases hr
    exact ⟨r, rfl, hc, hp⟩

/-- The batches are as they were. -/
theorem of_batches (h : db₁.batches = db.batches) : Moves S P db db₁ := by
  have hrow : ∀ id, db₁.batchRow id = db.batchRow id := fun id => by rw [JournalDb.batchRow, JournalDb.batchRow, h]
  exact ⟨by rw [h], fun id _ => hrow id, fun id r hr => ⟨r, (hrow id).trans hr, rfl, Or.inl rfl⟩⟩

theorem distinct (h : Moves S P db db₁) (hdb : DistinctBatches db) : DistinctBatches db₁ := by
  unfold DistinctBatches
  rw [h.batchIds]
  exact hdb

end Moves

theorem Advances.moves {L : LeaseRecord} {P P' : List BatchPhase} {S : String → Prop} {b : String}
    {db db' : JournalDb π} (h : Advances L P' b db db') (hb : S b) (hP : ∀ p ∈ P', p ∈ P) : Moves S P db db' where
  batchIds := h.batchIds
  other id hid := h.other id fun heq => hid (heq ▸ hb)
  row := by
    intro id r hr
    by_cases hid : id = b
    · subst hid
      obtain ⟨r', hr', hc, hp, -⟩ := h.row r hr
      exact ⟨r', hr', hc, hp.imp_right fun hp => hP _ hp.1⟩
    · exact ⟨r, (h.other id hid).trans hr, rfl, Or.inl rfl⟩

variable [JournalPayload π] [DecidableEq π]

/-- A write of a batch in `S` that sets phases of `P` at most. -/
def JournalWrite.On (S : String → Prop) (P : List BatchPhase) (x : JournalWrite π) : Prop :=
  (∃ b, x.batch = some b ∧ S b) ∧ ∀ p ∈ x.phases, p ∈ P

/-- A call that writes nothing else. -/
def JournalCall.On (S : String → Prop) (P : List BatchPhase) : JournalCall π → Prop
  | .write x _ => x.On S P
  | _ => True

theorem moves_step {S : String → Prop} {P : List BatchPhase} {c : JournalCall π} (hc : c.On S P) (db : JournalDb π) :
    Moves S P db (db.step c) := by
  cases c with
  | lease c => exact Moves.of_batches rfl
  | operationRuns runs phases => exact Moves.of_batches rfl
  | write x ctx =>
    obtain ⟨⟨b, hb, hS⟩, hP⟩ := hc
    cases hrun : x.run db ctx with
    | error e =>
      have hstep : db.step (.write x ctx) = db := by simp only [JournalDb.step, hrun]
      rw [hstep]
      exact Moves.refl
    | ok db' =>
      have hstep : db.step (.write x ctx) = db' := by simp only [JournalDb.step, hrun]
      rw [hstep]
      exact (run_advances hb hrun).moves hS hP

theorem moves_after {S : String → Prop} {P : List BatchPhase} : ∀ {calls : List (JournalCall π)} {db : JournalDb π},
    (∀ c ∈ calls, c.On S P) → Moves S P db (after JournalDb.step db calls)
  | [], _, _ => Moves.refl
  | c :: _, db, h => (moves_step (h c List.mem_cons_self) db).trans
      (moves_after fun c' hc' => h c' (List.mem_cons_of_mem _ hc'))

/-- No call makes two batches of one id. -/
theorem distinctBatches_step (db : JournalDb π) (c : JournalCall π) (h : DistinctBatches db) :
    DistinctBatches (db.step c) := by
  cases c with
  | lease c => exact h
  | operationRuns runs phases => exact h
  | write x ctx =>
    cases hrun : x.run db ctx with
    | error e => simpa only [JournalDb.step, hrun] using h
    | ok db' =>
      simp only [JournalDb.step, hrun]
      cases hb : x.batch with
      | some b =>
        unfold DistinctBatches
        rw [(run_advances hb hrun).batchIds]
        exact h
      | none =>
        obtain ⟨-, rfl | ⟨req, id, rfl, -, hnone⟩⟩ := run_create hb hrun
        · exact h
        · exact nodup_append_one h hnone

/-- Batches stay, keep the columns they were created with, and are never made planned again. -/
structure Grows (db db' : JournalDb π) : Prop where
  distinct : DistinctBatches db → DistinctBatches db'
  row : ∀ id r, db.batchRow id = some r → ∃ r', db'.batchRow id = some r' ∧ r'.created = r.created ∧
    (r.phase ≠ .planned → r'.phase ≠ .planned)

section Grows

variable {db db₁ db₂ : JournalDb π}

omit [JournalPayload π] [DecidableEq π] in
protected theorem Grows.refl : Grows db db := ⟨id, fun _ r hr => ⟨r, hr, rfl, id⟩⟩

omit [JournalPayload π] [DecidableEq π] in
protected theorem Grows.trans (h₁ : Grows db db₁) (h₂ : Grows db₁ db₂) : Grows db db₂ where
  distinct h := h₂.distinct (h₁.distinct h)
  row id r hr := by
    obtain ⟨r₁, hr₁, hc₁, hp₁⟩ := h₁.row id r hr
    obtain ⟨r₂, hr₂, hc₂, hp₂⟩ := h₂.row id r₁ hr₁
    exact ⟨r₂, hr₂, hc₂.trans hc₁, fun h => hp₂ (hp₁ h)⟩

omit [JournalPayload π] [DecidableEq π] in
theorem Grows.of_batches (h : db₁.batches = db.batches) : Grows db db₁ := by
  refine ⟨fun hdb => ?_, fun id r hr => ⟨r, ?_, rfl, fun hp => hp⟩⟩
  · unfold DistinctBatches
    rw [h]
    exact hdb
  · rw [JournalDb.batchRow, h]
    exact hr

omit [JournalPayload π] [DecidableEq π] in
theorem Moves.grows {S : String → Prop} {P : List BatchPhase} (h : Moves S P db db₁) (hP : .planned ∉ P) :
    Grows db db₁ := by
  refine ⟨h.distinct, fun id r hr => ?_⟩
  obtain ⟨r', hr', hc, hp⟩ := h.row id r hr
  refine ⟨r', hr', hc, fun hne heq => ?_⟩
  rcases hp with hp | hp
  · exact hne (hp.symm.trans heq)
  · exact hP (heq ▸ hp)

theorem grows_step (db : JournalDb π) (c : JournalCall π) : Grows db (db.step c) := by
  refine ⟨distinctBatches_step db c, fun id r hr => ?_⟩
  cases c with
  | lease c => exact ⟨r, hr, rfl, fun hp => hp⟩
  | operationRuns runs phases => exact ⟨r, hr, rfl, fun hp => hp⟩
  | write x ctx =>
    cases hrun : x.run db ctx with
    | error e => exact ⟨r, by simpa only [JournalDb.step, hrun] using hr, rfl, fun hp => hp⟩
    | ok db' =>
      simp only [JournalDb.step, hrun]
      cases hb : x.batch with
      | some b =>
        have hmoves : Moves (fun id => id = b) x.phases db db' := (run_advances hb hrun).moves rfl fun _ hp => hp
        exact (hmoves.grows x.planned_not_mem_phases).row id r hr
      | none =>
        obtain ⟨-, rfl | ⟨req, given, rfl, -, -⟩⟩ := run_create hb hrun
        · exact ⟨r, hr, rfl, fun hp => hp⟩
        · refine ⟨r, (findRow_append_one BatchRow.batchId db.batches _ id).trans ?_, rfl, fun hp => hp⟩
          rw [show findRow BatchRow.batchId db.batches id = some r from hr]
          rfl

theorem grows_after (calls : List (JournalCall π)) (db : JournalDb π) : Grows db (after JournalDb.step db calls) :=
  after_relates (fun _ => Grows.refl) (fun h₁ h₂ => h₁.trans h₂) grows_step calls db

end Grows

/-! ## Worlds -/

/-- Only batches in `S` were written, with phases of `P` at most; leases, the disk
and the statuses of operation runs may have changed, and nothing else has. -/
structure Touches (S : String → Prop) (P : List BatchPhase) (w w' : World φ) : Prop where
  claims : w'.claims = w.claims
  live : w'.live = w.live
  scans : w'.scans = w.scans
  journal : Moves S P w.journal w'.journal
  operations : OperationsKept w.journal w'.journal

namespace Touches

variable {S S' : String → Prop} {P P' : List BatchPhase} {w w₁ w₂ : World φ}

protected theorem refl : Touches S P w w := ⟨rfl, rfl, rfl, Moves.refl, .refl⟩

protected theorem trans (h₁ : Touches S P w w₁) (h₂ : Touches S P w₁ w₂) : Touches S P w w₂ :=
  ⟨h₂.claims.trans h₁.claims, h₂.live.trans h₁.live, h₂.scans.trans h₁.scans, h₁.journal.trans h₂.journal,
    h₁.operations.trans h₂.operations⟩

theorem mono (hS : ∀ id, S id → S' id) (hP : ∀ p ∈ P, p ∈ P') (h : Touches S P w w₁) : Touches S' P' w w₁ :=
  ⟨h.claims, h.live, h.scans, h.journal.mono hS hP, h.operations⟩

/-- A call on the leases. -/
theorem leases (leases : LeaseTable) : Touches S P w { w with journal := { w.journal with leases := leases } } :=
  ⟨rfl, rfl, rfl, Moves.of_batches rfl, .of_eq rfl rfl⟩

end Touches

/-- A call of such writes writes nothing else. -/
theorem JournalCall.Under.on {S : String → Prop} {P : List BatchPhase} {L : LeaseRecord} {c : JournalCall Payload}
    (h : c.Under (JournalWrite.On S P) L) : c.On S P := by
  cases c with
  | write x ctx => exact h.2
  | lease c => exact trivial
  | operationRuns runs phases => exact trivial

/-- Quiet steps touch the batches they write. -/
theorem Quiet.touches {S : String → Prop} {P : List BatchPhase} {L : LeaseRecord} {w w' : World φ}
    (h : Quiet (JournalWrite.On S P) L w w') : Touches S P w w' := by
  obtain ⟨calls, hcalls, hj⟩ := h.journal
  exact ⟨h.claims, h.live, h.scans, hj ▸ moves_after fun c hc => (hcalls c hc).on, h.operations⟩

/-- Every step of the program touches batches in `S` only. -/
def AllTouch (S : String → Prop) (P : List BatchPhase) (p : Op φ ω α) : Prop := EachStep (Touches S P) p

section Rules

variable {S : String → Prop} {P : List BatchPhase}

theorem AllQuiet.touch {L : LeaseRecord} {p : Op φ ω α} (h : AllQuiet (JournalWrite.On S P) L p) : AllTouch S P p :=
  eachStep_mono (fun _ _ h => h.touches) h

theorem touch_transaction {act : Sample ω → World φ → Except OperationError (α × World φ)}
    (h : ∀ i w a w', act i w = .ok (a, w') → Touches S P w w') : AllTouch S P (transaction act) := by
  refine eachStep_call fun i w => ?_
  split
  · exact Touches.refl
  · split
    · next a w' hact => exact h i w a w' hact
    · exact Touches.refl

/-- Of the journal, only batches in `S` were written, and statuses of operation runs. -/
structure JournalMoves (S : String → Prop) (P : List BatchPhase) (w w' : World φ) : Prop where
  journal : Moves S P w.journal w'.journal
  operations : OperationsKept w.journal w'.journal

protected theorem JournalMoves.refl {w : World φ} : JournalMoves S P w w := ⟨Moves.refl, .refl⟩

/-- Every step of the program writes batches in `S` only, and may change the claims. -/
def AllMove (S : String → Prop) (P : List BatchPhase) (p : Op φ ω α) : Prop := EachStep (JournalMoves S P) p

theorem move_ret (a : α) : AllMove S P (.ret a : Op φ ω α) := trivial

theorem move_raise (e : OperationError) : AllMove S P (.raise e : Op φ ω α) := trivial

theorem move_bind {p : Op φ ω α} {f : α → Op φ ω β} (hp : AllMove S P p) (hf : ∀ a, AllMove S P (f a)) :
    AllMove S P (p >>= f) := eachStep_bind hf hp

theorem AllTouch.move {p : Op φ ω α} (h : AllTouch S P p) : AllMove S P p :=
  eachStep_mono (fun _ _ h => ⟨h.journal, h.operations⟩) h

/-- A transaction of the database that leaves the batches alone. -/
theorem move_transaction {act : Sample ω → World φ → Except OperationError (α × World φ)}
    (h : ∀ i w a w', act i w = .ok (a, w') →
      w'.journal.batches = w.journal.batches ∧ OperationsKept w.journal w'.journal) :
    AllMove S P (transaction act) := by
  refine eachStep_call fun i w => ?_
  split
  · exact .refl
  · split
    · next a w' hact =>
      obtain ⟨hbatches, hkept⟩ := h i w a w' hact
      exact ⟨Moves.of_batches hbatches, hkept⟩
    · exact .refl

theorem move_read (read : Sample ω → World φ → Except OperationError α) : AllMove S P (databaseRead read) := by
  refine move_transaction fun i w a w' h => ?_
  obtain ⟨b, -, heq⟩ := map_eq_ok.1 h
  cases heq
  exact ⟨rfl, .refl⟩

/-- The world in which a program ends, or is cut off, and each step on the way. -/
theorem along_touch {C : Sample ω → World φ → Prop} {p : Op φ ω α} (h : AllTouch S P p) (w : World φ) :
    Along C (Touches S P) (fun _ w' => Touches S P w w') p w :=
  along_eachStep (fun _ _ hstep hI => ⟨hstep, hI.trans hstep⟩) h Touches.refl

/-- Going on after steps that only touch `S`. -/
theorem along_touch_seq {C : Sample ω → World φ → Prop} {Q : Except OperationError β → World φ → Prop} {p : Op φ ω α}
    {f : α → Op φ ω β} {w : World φ} (hp : AllTouch S P p)
    (hf : ∀ a w', Touches S P w w' → Along C (Touches S P) Q (f a) w')
    (herror : ∀ e w', Touches S P w w' → Q (.error e) w') : Along C (Touches S P) Q (p >>= f) w :=
  along_seq (along_touch hp w) hf herror

end Rules

end SafeFsOps
