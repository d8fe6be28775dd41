import SafeFsOps.OperationJournal.Calls

/-!
# What a write can do

Everything proved about runs of the journal rests on one statement about all of
its writes:

> `run_advances`: a write that succeeds only *advances* its batch: it touches no
> other batch, keeps the columns the batch was created with, sets at most the
> phases of its kind (`JournalWrite.phases`), and if it changes the fencing token,
> then from one at most the caller's to the caller's; recovery records are only
> appended, numbered above all others of the batch.

`Advances` composes, so each write is taken apart into the few primitive changes
it is made of, and no later proof looks into a write again.

The other half is what a write that succeeds must have passed:

> `run_guarded`: its lease was current, or it was the lease-lost marker of the
> very lease its batch is bound to.
-/

namespace SafeFsOps

variable {π : Type}

/-- The columns of a batch that are written once, when it is created. -/
def BatchRow.created (r : BatchRow π) : BatchRow π :=
  { r with
    leaseFencingToken := 0
    leaseOwner := none
    leaseTokenDigest := none
    phase := .planned
    statusMessage := none
    statusPayload := r.payload
    updatedAt := r.createdAt }

theorem BatchRow.created_batchId (r : BatchRow π) : r.created.batchId = r.batchId := rfl
theorem BatchRow.created_idempotencyKey (r : BatchRow π) : r.created.idempotencyKey = r.idempotencyKey := rfl
theorem BatchRow.created_leaseName (r : BatchRow π) : r.created.leaseName = r.leaseName := rfl

/-- A column of the creation agrees where the creations do. -/
theorem BatchRow.column_eq {β : Type} {f : BatchRow π → β} (hf : ∀ r : BatchRow π, f r.created = f r)
    {r r' : BatchRow π} (h : r'.created = r.created) : f r' = f r := by
  rw [← hf r', h, hf r]

/-- A recovery attempt is under way, or was completed. -/
def BatchPhase.inRecovery : BatchPhase → Bool
  | recovering | recoverySucceeded | recoveryFailed => true
  | _ => false

/-- `db'` is `db` with batch `b` moved on under lease `L`, to one of the phases `P` if to another at all. -/
structure Advances (L : LeaseRecord) (P : List BatchPhase) (b : String) (db db' : JournalDb π) : Prop where
  leases : db'.leases = db.leases
  /-- other batches are untouched -/
  other : ∀ b', b' ≠ b → db'.batchRow b' = db.batchRow b'
  absent : db.batchRow b = none → db'.batchRow b = none
  /-- no batch comes or goes under a key -/
  key : ∀ k, (db'.batchRowByIdempotencyKey k).map BatchRow.batchId =
    (db.batchRowByIdempotencyKey k).map BatchRow.batchId
  /-- the batch is rebound at most to `L`, from a token at most that of `L`, and its
  recovery is taken up or completed under `L` only -/
  row : ∀ r, db.batchRow b = some r → ∃ r', db'.batchRow b = some r' ∧ r'.created = r.created ∧
    (r'.phase = r.phase ∨ r'.phase ∈ P ∧
      (r'.phase.inRecovery = true → r.leaseName = L.name ∧ r'.leaseFencingToken = L.fencingToken)) ∧
    (r'.leaseFencingToken = r.leaseFencingToken ∨
      r.leaseName = L.name ∧ r.leaseFencingToken ≤ L.fencingToken ∧
        r'.leaseFencingToken = L.fencingToken ∧
        ((∃ x ∈ db'.recoveries, x.batchId = b ∧ db.nextSequence b ≤ x.sequence) ∨
          ∀ x ∈ db.recoveries, x.batchId ≠ b))
  /-- recovery records are appended, under new keys and numbers -/
  recoveries : ∃ new, db'.recoveries = db.recoveries ++ new ∧
    ∀ x ∈ new, x.batchId = b ∧ db.nextSequence b ≤ x.sequence
  ids : (db.recoveries.map RecoveryRow.recoveryId).Nodup → (db'.recoveries.map RecoveryRow.recoveryId).Nodup
  sequence : db.nextSequence b ≤ db'.nextSequence b
  /-- no batch comes or goes -/
  batchIds : db'.batches.map BatchRow.batchId = db.batches.map BatchRow.batchId

namespace Advances

variable {L : LeaseRecord} {P : List BatchPhase} {b : String} {db db₁ db₂ : JournalDb π}

protected theorem refl : Advances L P b db db where
  leases := rfl
  other _ _ := rfl
  absent h := h
  key _ := rfl
  row r h := ⟨r, h, rfl, Or.inl rfl, Or.inl rfl⟩
  recoveries := ⟨[], by simp, by simp⟩
  ids h := h
  sequence := Nat.le_refl _
  batchIds := rfl

protected theorem trans (h₁ : Advances L P b db db₁) (h₂ : Advances L P b db₁ db₂) : Advances L P b db db₂ where
  leases := h₂.leases.trans h₁.leases
  other b' hb := (h₂.other b' hb).trans (h₁.other b' hb)
  absent h := h₂.absent (h₁.absent h)
  key k := (h₂.key k).trans (h₁.key k)
  row := by
    intro r hr
    obtain ⟨r₁, hr₁, hc₁, hp₁, hf₁⟩ := h₁.row r hr
    obtain ⟨r₂, hr₂, hc₂, hp₂, hf₂⟩ := h₂.row r₁ hr₁
    obtain ⟨new₁, hnew₁, -⟩ := h₁.recoveries
    obtain ⟨new₂, hnew₂, -⟩ := h₂.recoveries
    have hseq := h₁.sequence
    have hn₁ : r₁.leaseName = r.leaseName := BatchRow.column_eq BatchRow.created_leaseName hc₁
    refine ⟨r₂, hr₂, hc₂.trans hc₁, ?_, ?_⟩
    -- the phase is the one set last; the lease then stays the caller's
    · rcases hp₂ with hp₂ | ⟨hmem, hin⟩
      · rcases hp₁ with hp₁ | ⟨hmem, hin⟩
        · exact Or.inl (hp₂.trans hp₁)
        · refine Or.inr ⟨hp₂ ▸ hmem, fun h => ?_⟩
          obtain ⟨hn, hf⟩ := hin (hp₂ ▸ h)
          refine ⟨hn, ?_⟩
          rcases hf₂ with hf₂ | ⟨-, -, hf₂, -⟩
          · exact hf₂.trans hf
          · exact hf₂
      · exact Or.inr ⟨hmem, fun h => ⟨hn₁ ▸ (hin h).1, (hin h).2⟩⟩
    -- a takeover in either half is one of the whole
    · rcases hf₂ with hf₂ | ⟨hn, hle, hf₂, hlater⟩
      · rcases hf₁ with hf₁ | ⟨hn, hle, hf₁, hlater⟩
        · exact Or.inl (hf₂.trans hf₁)
        · refine Or.inr ⟨hn, hle, hf₂.trans hf₁, hlater.imp_left ?_⟩
          rintro ⟨x, hx, hxb, hxs⟩
          exact ⟨x, by rw [hnew₂]; exact List.mem_append_left _ hx, hxb, hxs⟩
      · refine Or.inr ⟨hn₁ ▸ hn, ?_, hf₂, ?_⟩
        · rcases hf₁ with hf₁ | ⟨-, hle₁, -⟩ <;> omega
        · rcases hlater with ⟨x, hx, hxb, hxs⟩ | hnone
          · exact Or.inl ⟨x, hx, hxb, Nat.le_trans hseq hxs⟩
          · exact Or.inr (fun x hx => hnone x (by rw [hnew₁]; exact List.mem_append_left _ hx))
  recoveries := by
    obtain ⟨new₁, hnew₁, hall₁⟩ := h₁.recoveries
    obtain ⟨new₂, hnew₂, hall₂⟩ := h₂.recoveries
    refine ⟨new₁ ++ new₂, by rw [hnew₂, hnew₁, List.append_assoc], ?_⟩
    intro x hx
    rcases List.mem_append.1 hx with hx | hx
    · exact hall₁ x hx
    · exact ⟨(hall₂ x hx).1, Nat.le_trans h₁.sequence (hall₂ x hx).2⟩
  ids h := h₂.ids (h₁.ids h)
  sequence := Nat.le_trans h₁.sequence h₂.sequence
  batchIds := h₂.batchIds.trans h₁.batchIds

/-- A write that sets no phase may be counted among those that do. -/
theorem weaken (h : Advances L [] b db db₁) : Advances L P b db db₁ where
  leases := h.leases
  other := h.other
  absent := h.absent
  key := h.key
  row := by
    intro r hr
    obtain ⟨r', hr', hc, hp, hf⟩ := h.row r hr
    refine ⟨r', hr', hc, Or.inl ?_, hf⟩
    rcases hp with hp | ⟨hmem, -⟩
    · exact hp
    · cases hmem
  recoveries := h.recoveries
  ids := h.ids
  sequence := h.sequence
  batchIds := h.batchIds

/-- A batch is never made planned again. -/
theorem not_planned (h : Advances L P b db db₁) (hP : .planned ∉ P) {r : BatchRow π} (hr : db.batchRow b = some r)
    (hp : r.phase ≠ .planned) : ∃ r', db₁.batchRow b = some r' ∧ r'.phase ≠ .planned := by
  obtain ⟨r', hr', -, hphase, -⟩ := h.row r hr
  refine ⟨r', hr', ?_⟩
  rcases hphase with hsame | ⟨hmem, -⟩
  · exact hsame ▸ hp
  · rintro heq
    exact hP (heq ▸ hmem)

end Advances

/-! ## The primitive changes -/

section Primitives

variable {L : LeaseRecord} {P : List BatchPhase} {b : String} {db db' : JournalDb π}

/-- Records appended to tables other than the batches and the recovery records. -/
theorem advances_append {db' : JournalDb π} (hl : db'.leases = db.leases) (hb : db'.batches = db.batches)
    (hr : db'.recoveries = db.recoveries) (hs : db.nextSequence b ≤ db'.nextSequence b) :
    Advances L P b db db' where
  leases := hl
  other b' _ := by simp only [JournalDb.batchRow, hb]
  absent h := by simpa only [JournalDb.batchRow, hb] using h
  key k := by simp only [JournalDb.batchRowByIdempotencyKey, hb]
  row r h := ⟨r, by simpa only [JournalDb.batchRow, hb] using h, rfl, Or.inl rfl, Or.inl rfl⟩
  recoveries := ⟨[], by simp [hr], by simp⟩
  ids h := by rw [hr]; exact h
  sequence := hs
  batchIds := by rw [hb]

/-- An update of a batch may not touch the columns it was created with. -/
def KeepsBatch (f : BatchRow π → BatchRow π) : Prop := ∀ r, (f r).created = r.created

theorem KeepsBatch.setPhase (phase : BatchPhase) (message : Option String) (status : π) (now : DateTime) :
    KeepsBatch fun r => r.setPhase phase message status now := fun _ => rfl

theorem KeepsBatch.bindLease (ctx : WriteContext) : KeepsBatch fun r : BatchRow π => r.bindLease ctx := fun _ => rfl

theorem KeepsBatch.comp {f g : BatchRow π → BatchRow π} (hg : KeepsBatch g) (hf : KeepsBatch f) :
    KeepsBatch fun r => g (f r) := fun r => (hg (f r)).trans (hf r)

theorem KeepsBatch.batchId {f : BatchRow π → BatchRow π} (hf : KeepsBatch f) (r : BatchRow π) :
    (f r).batchId = r.batchId := BatchRow.column_eq BatchRow.created_batchId (hf r)

theorem KeepsBatch.idempotencyKey {f : BatchRow π → BatchRow π} (hf : KeepsBatch f) (r : BatchRow π) :
    (f r).idempotencyKey = r.idempotencyKey :=
  BatchRow.column_eq BatchRow.created_idempotencyKey (hf r)

theorem batchRow_updateBatch {f : BatchRow π → BatchRow π} (hf : KeepsBatch f) (b' : String) :
    (db.updateBatch b f).batchRow b' = if b' = b then (db.batchRow b').map f else db.batchRow b' :=
  findRow_updateRow hf.batchId db.batches b b'

theorem batchKey_updateBatch {f : BatchRow π → BatchRow π} (hf : KeepsBatch f) (k : String) :
    ((db.updateBatch b f).batchRowByIdempotencyKey k).map BatchRow.batchId =
      (db.batchRowByIdempotencyKey k).map BatchRow.batchId := by
  simp only [JournalDb.batchRowByIdempotencyKey, JournalDb.updateBatch,
    findRow_updateRow_other hf.idempotencyKey, Option.map_map]
  refine Option.map_congr ?_
  intro r _
  simp only [Function.comp]
  split
  · exact hf.batchId r
  · rfl

/-- What an update of a batch does to its phase and its binding. -/
structure AdvancesRow (L : LeaseRecord) (P : List BatchPhase) (r r' : BatchRow π) : Prop where
  phase : r'.phase = r.phase ∨ r'.phase ∈ P ∧
    (r'.phase.inRecovery = true → r.leaseName = L.name ∧ r'.leaseFencingToken = L.fencingToken)
  fencing : r'.leaseFencingToken = r.leaseFencingToken ∨
    r.leaseName = L.name ∧ r.leaseFencingToken ≤ L.fencingToken ∧ r'.leaseFencingToken = L.fencingToken

/-- An update of the batch; it may rebind only a batch without recovery records. -/
theorem advances_update {f : BatchRow π → BatchRow π} (hf : KeepsBatch f)
    (hstep : ∀ r, db.batchRow b = some r → AdvancesRow L P r (f r))
    (hbind : ∀ r, db.batchRow b = some r → (f r).leaseFencingToken = r.leaseFencingToken ∨
      ∀ x ∈ db.recoveries, x.batchId ≠ b) : Advances L P b db (db.updateBatch b f) where
  leases := rfl
  other b' hb := by rw [batchRow_updateBatch hf, if_neg hb]
  absent h := by rw [batchRow_updateBatch hf, if_pos rfl, h]; rfl
  key k := batchKey_updateBatch hf k
  row := by
    intro r hr
    obtain ⟨hphase, hfence⟩ := hstep r hr
    refine ⟨f r, by rw [batchRow_updateBatch hf, if_pos rfl, hr]; rfl, hf r, hphase, ?_⟩
    rcases hbind r hr with hsame | hnone
    · exact Or.inl hsame
    · rcases hfence with hsame | ⟨hn, hle, hnew⟩
      · exact Or.inl hsame
      · exact Or.inr ⟨hn, hle, hnew, Or.inr hnone⟩
  recoveries := ⟨[], by simp [JournalDb.updateBatch], by simp⟩
  ids h := h
  sequence := Nat.le_refl _
  batchIds := map_key_updateRow hf.batchId _ _

/-- An update of the batch together with the recovery record of it. -/
theorem advances_record {f : BatchRow π → BatchRow π} {r : RecoveryRow π} (hf : KeepsBatch f)
    (hrb : r.batchId = b) (hrs : r.sequence = db.nextSequence b)
    (h : insertRecovery (db.updateBatch b f) r = .ok db')
    (hstep : ∀ row, db.batchRow b = some row → AdvancesRow L P row (f row)) : Advances L P b db db' := by
  simp only [insertRecovery, bind_eq_ok, pure_eq_ok] at h
  obtain ⟨recoveries, hins, rfl⟩ := h
  obtain ⟨rfl, hfresh⟩ := insertRow_eq_ok hins
  have hmem : r ∈ db.recoveries ++ [r] := List.mem_append_right _ List.mem_cons_self
  refine ⟨rfl, ?_, ?_, batchKey_updateBatch hf, ?_, ⟨[r], rfl, ?_⟩, ?_, ?_, map_key_updateRow hf.batchId _ _⟩
  · intro b' hb
    exact (batchRow_updateBatch hf b').trans (if_neg hb)
  · intro hnone
    refine (batchRow_updateBatch hf b).trans ?_
    rw [if_pos rfl, hnone]; rfl
  · intro row hrow
    obtain ⟨hphase, hfence⟩ := hstep row hrow
    refine ⟨f row, ?_, hf row, hphase, ?_⟩
    · refine (batchRow_updateBatch hf b).trans ?_
      rw [if_pos rfl, hrow]; rfl
    · rcases hfence with hsame | ⟨hn, hle, hnew⟩
      · exact Or.inl hsame
      · exact Or.inr ⟨hn, hle, hnew, Or.inl ⟨r, hmem, hrb, Nat.le_of_eq hrs.symm⟩⟩
  · intro x hx
    obtain rfl := List.mem_singleton.1 hx
    exact ⟨hrb, Nat.le_of_eq hrs.symm⟩
  · intro hnodup
    show ((db.recoveries ++ [r]).map RecoveryRow.recoveryId).Nodup
    rw [List.map_append, List.nodup_append]
    refine ⟨hnodup, by simp, ?_⟩
    intro k hk k' hk'
    obtain ⟨x, hx, rfl⟩ := List.mem_map.1 hk
    simp only [List.map_cons, List.map_nil, List.mem_singleton] at hk'
    rw [hk']
    exact hfresh x hx
  · have := maxSequence_append_le db.recoveries [r] b
    simp only [JournalDb.nextSequence, JournalDb.updateBatch]
    omega

end Primitives

/-! ## The guards -/

section Guards

variable {db db' : JournalDb π} {b : String} {ctx : WriteContext} {row : BatchRow π}

theorem requireCurrentLease_ok {u : Unit} (h : requireCurrentLease db ctx = .ok u) :
    leaseIsCurrent db.leases ctx.lease ctx.now = true := require_eq_ok.1 h

theorem requireBatchRow_ok (h : requireBatchRow db b = .ok row) : db.batchRow b = some row := by
  unfold requireBatchRow at h
  split at h
  · next r hr => rw [hr]; exact congrArg some (Except.ok.inj h)
  · cases h

theorem requireBatchForWrite_ok (h : requireBatchForWrite db b ctx = .ok row) :
    leaseIsCurrent db.leases ctx.lease ctx.now = true ∧ db.batchRow b = some row ∧
      row.leaseName = ctx.lease.name ∧ row.leaseFencingToken = ctx.lease.fencingToken := by
  simp only [requireBatchForWrite, bind_eq_ok, require_eq_ok, pure_eq_ok] at h
  obtain ⟨_, hcur, r, hrow, _, ⟨hn, hf⟩, rfl⟩ := h
  exact ⟨requireCurrentLease_ok hcur, requireBatchRow_ok hrow, hn, hf⟩

theorem requireBatchForArtifactCleanupWrite_ok (h : requireBatchForArtifactCleanupWrite db b ctx = .ok row) :
    leaseIsCurrent db.leases ctx.lease ctx.now = true ∧ db.batchRow b = some row := by
  simp only [requireBatchForArtifactCleanupWrite, bind_eq_ok, require_eq_ok] at h
  obtain ⟨_, hcur, r, hrow, _, -, h⟩ := h
  refine ⟨requireCurrentLease_ok hcur, ?_⟩
  have hrow := requireBatchRow_ok hrow
  split at h
  · simp only [pure_eq_ok] at h; exact h ▸ hrow
  · split at h
    · simp only [pure_eq_ok] at h; exact h ▸ hrow
    · split at h <;> cases h

variable [JournalPayload π]

/-- A handoff advances the batch to the caller's lease. -/
theorem handoff_advances (h : recordRecoveryTakeoverHandoff db row ctx = .ok db')
    (hrow : db.batchRow row.batchId = some row) (hn : row.leaseName = ctx.lease.name)
    (hlt : row.leaseFencingToken < ctx.lease.fencingToken) : Advances ctx.lease [] row.batchId db db' := by
  refine advances_record (KeepsBatch.bindLease ctx) rfl rfl h ?_
  intro r hr
  rw [hrow] at hr
  cases hr
  exact ⟨Or.inl rfl, Or.inr ⟨hn, Nat.le_of_lt hlt, rfl⟩⟩

/-- A handoff leaves the batch bound to the caller's lease. -/
theorem handoff_binds (h : recordRecoveryTakeoverHandoff db row ctx = .ok db')
    (hrow : db.batchRow row.batchId = some row) : db'.batchRow row.batchId = some (row.bindLease ctx) := by
  simp only [recordRecoveryTakeoverHandoff, insertRecovery, bind_eq_ok, pure_eq_ok] at h
  obtain ⟨recoveries, -, rfl⟩ := h
  refine (batchRow_updateBatch (KeepsBatch.bindLease ctx) row.batchId).trans ?_
  rw [if_pos rfl, hrow]
  rfl

theorem requireBatchForRecoveryWrite_ok {phase : BatchPhase} {taken : Bool}
    (h : requireBatchForRecoveryWrite db b phase ctx = .ok (row, taken, db')) :
    leaseIsCurrent db.leases ctx.lease ctx.now = true ∧ Advances ctx.lease [] b db db' ∧
      db'.batchRow b = some row ∧ row.leaseName = ctx.lease.name ∧
      row.leaseFencingToken = ctx.lease.fencingToken := by
  simp only [requireBatchForRecoveryWrite, bind_eq_ok, require_eq_ok] at h
  obtain ⟨_, hcur, r, hrow, _, hn, h⟩ := h
  have hrow := requireBatchRow_ok hrow
  have hkey : r.batchId = b := findRow_key hrow
  refine ⟨requireCurrentLease_ok hcur, ?_⟩
  split at h
  · next hf =>
    simp only [pure_eq_ok, Prod.mk.injEq] at h
    obtain ⟨rfl, -, rfl⟩ := h
    exact ⟨Advances.refl, hrow, hn, hf⟩
  · split at h
    · next hlt =>
      simp only [bind_eq_ok, pure_eq_ok, Prod.mk.injEq] at h
      obtain ⟨db₁, hhand, updated, hup, rfl, -, rfl⟩ := h
      subst hkey
      have hup := requireBatchRow_ok hup
      obtain rfl := Option.some.inj ((handoff_binds hhand hrow).symm.trans hup)
      exact ⟨handoff_advances hhand hrow hn hlt.1, hup, hn, rfl⟩
    · split at h <;> cases h

theorem requireBatchForRecoveryActionWrite_ok
    (h : requireBatchForRecoveryActionWrite db b ctx = .ok (row, db')) :
    leaseIsCurrent db.leases ctx.lease ctx.now = true ∧ Advances ctx.lease [] b db db' ∧
      db'.batchRow b = some row := by
  simp only [requireBatchForRecoveryActionWrite, bind_eq_ok, require_eq_ok] at h
  obtain ⟨_, hcur, r, hrow, _, hn, _, -, h⟩ := h
  have hrow := requireBatchRow_ok hrow
  have hkey : r.batchId = b := findRow_key hrow
  refine ⟨requireCurrentLease_ok hcur, ?_⟩
  split at h
  · simp only [pure_eq_ok, Prod.mk.injEq] at h
    obtain ⟨rfl, rfl⟩ := h
    exact ⟨Advances.refl, hrow⟩
  · split at h
    · next hlt =>
      simp only [bind_eq_ok, pure_eq_ok, Prod.mk.injEq] at h
      obtain ⟨db₁, hhand, updated, hup, rfl, rfl⟩ := h
      subst hkey
      exact ⟨handoff_advances hhand hrow hn hlt, requireBatchRow_ok hup⟩
    · cases h

/-- The guard of a checkpoint: of a worker's, or of a recovery attempt's. -/
theorem requireBatchForCheckpoint_ok {attempt : Option String}
    (h : requireBatchForCheckpoint db b attempt ctx = .ok (row, db')) :
    leaseIsCurrent db.leases ctx.lease ctx.now = true ∧ Advances ctx.lease [] b db db' ∧
      db'.batchRow b = some row := by
  cases attempt with
  | none =>
    simp only [requireBatchForCheckpoint, bind_eq_ok, pure_eq_ok, Prod.mk.injEq] at h
    obtain ⟨r, hr, _, -, rfl, rfl⟩ := h
    obtain ⟨hcur, hrow, -⟩ := requireBatchForWrite_ok hr
    exact ⟨hcur, Advances.refl, hrow⟩
  | some a =>
    simp only [requireBatchForCheckpoint, bind_eq_ok, pure_eq_ok, Prod.mk.injEq] at h
    obtain ⟨⟨r, db₁⟩, hr, _, -, rfl, rfl⟩ := h
    exact requireBatchForRecoveryActionWrite_ok hr

end Guards

/-! ## The writes -/

section Writes

variable {P : List BatchPhase} {db db' : JournalDb π} {b : String} {ctx : WriteContext}

theorem KeepsBatch.id : KeepsBatch (id : BatchRow π → BatchRow π) := fun _ => rfl

theorem newOperation_advances {L : LeaseRecord} {r : OperationRow π}
    (h : insertOperation db r = .ok db') : Advances L P b db db' := by
  simp only [insertOperation, bind_eq_ok, pure_eq_ok] at h
  obtain ⟨operations, hins, rfl⟩ := h
  refine advances_append rfl rfl rfl ?_
  have hle : maxSequence db.operations b ≤ _ := insertRow_maxSequence_le hins b
  simp only [JournalDb.nextSequence]
  omega

variable [JournalPayload π]

/-- A recovery record with the phase it sets; an attempt is taken up or completed
only by the lease the batch is bound to. -/
theorem writeRecovery_advances {phase : BatchPhase} {note : RecoveryNote π}
    {bind : BatchRow π → BatchRow π} {L : LeaseRecord} {r : RecoveryRow π}
    (h : writeRecovery db b phase note bind ctx = .ok (r, db')) (hP : phase ∈ P)
    (hin : ∀ row, db.batchRow b = some row → phase.inRecovery = true →
      row.leaseName = L.name ∧ (bind row).leaseFencingToken = L.fencingToken)
    (hbind : KeepsBatch bind)
    (hstep : ∀ row, db.batchRow b = some row → (bind row).leaseFencingToken = row.leaseFencingToken ∨
      row.leaseName = L.name ∧ row.leaseFencingToken ≤ L.fencingToken ∧
        (bind row).leaseFencingToken = L.fencingToken) : Advances L P b db db' := by
  simp only [writeRecovery, bind_eq_ok, pure_eq_ok, Prod.mk.injEq] at h
  obtain ⟨db₁, hins, -, rfl⟩ := h
  refine advances_record ((KeepsBatch.setPhase phase note.reason _ ctx.now).comp hbind) rfl rfl hins ?_
  intro row hrow
  exact ⟨Or.inr ⟨hP, hin row hrow⟩, hstep row hrow⟩

/-- What a recovery record leaves of the batch's row. -/
theorem writeRecovery_row {phase : BatchPhase} {note : RecoveryNote π} {bind : BatchRow π → BatchRow π}
    {r : RecoveryRow π} {row : BatchRow π} (h : writeRecovery db b phase note bind ctx = .ok (r, db'))
    (hbind : KeepsBatch bind) (hrow : db.batchRow b = some row) :
    db'.batchRow b = some ((bind row).setPhase phase note.reason (payloadToJson note.payload) ctx.now) := by
  simp only [writeRecovery, insertRecovery, bind_eq_ok, pure_eq_ok, Prod.mk.injEq] at h
  obtain ⟨db₁, ⟨recoveries, -, rfl⟩, -, rfl⟩ := h
  refine (batchRow_updateBatch ((KeepsBatch.setPhase phase note.reason _ ctx.now).comp hbind) b).trans ?_
  rw [if_pos rfl, hrow]
  rfl

theorem recordRecoveryPhase_phase {phase : BatchPhase} {attempt : Option String} {note : RecoveryNote π}
    {r : RecoveryRow π} (h : recordRecoveryPhase db b phase attempt note ctx = .ok (r, db')) :
    ∃ row', db'.batchRow b = some row' ∧ row'.phase = phase := by
  simp only [recordRecoveryPhase, bind_eq_ok] at h
  obtain ⟨_, -, ⟨row, taken, db₁⟩, hguard, _, -, _, -, hwrite⟩ := h
  obtain ⟨-, -, hrow, -⟩ := requireBatchForRecoveryWrite_ok hguard
  exact ⟨_, writeRecovery_row hwrite KeepsBatch.id hrow, rfl⟩

theorem appendOperation_advances {op : String} {key id : Option String} {payload : Option π}
    {r : OperationRow π} (h : appendOperation db b op key payload id ctx = .ok (r, db')) :
    leaseIsCurrent db.leases ctx.lease ctx.now = true ∧ Advances ctx.lease [] b db db' := by
  simp only [appendOperation, bind_eq_ok, pure_eq_ok, Prod.mk.injEq] at h
  obtain ⟨_, -, _, -, row, hrow, _, -, _, -, db₁, hins, -, rfl⟩ := h
  exact ⟨(requireBatchForWrite_ok hrow).1, newOperation_advances hins⟩

/-- What starting a batch leaves: a batch that was planned, without any record,
is no longer planned. -/
theorem startBatchOperation_advances {op : String} {key id : Option String} {payload status : Option π}
    {started : BatchRow π} {r : OperationRow π}
    (h : startBatchOperation db b op key payload id status ctx = .ok (started, r, db')) :
    leaseIsCurrent db.leases ctx.lease ctx.now = true ∧ Advances ctx.lease [.attempting] b db db' ∧
      (∃ row, db.batchRow b = some row ∧ row.phase = .planned) ∧ db'.batchRow b = some started ∧
      started.phase = .attempting := by
  simp only [startBatchOperation, bind_eq_ok, pure_eq_ok, Prod.mk.injEq] at h
  obtain ⟨_, -, _, -, _, hcur, row, hrow, _, hstart, db₁, hins, started', hstarted, rfl, -, rfl⟩ := h
  simp only [requireStartableBatch, bind_eq_ok, require_eq_ok] at hstart
  obtain ⟨_, hplanned, _, hn, _, hle, _, -, hrecords⟩ := hstart
  have hrow := requireBatchRow_ok hrow
  have hkey : row.batchId = b := findRow_key hrow
  have hnone : ∀ x ∈ db.recoveries, x.batchId ≠ b := by
    rw [hkey] at hrecords
    simp only [JournalDb.batchHasJournalRecords, Bool.or_eq_false_iff] at hrecords
    exact hasRows_false hrecords.1.1.2
  have hbound : Advances ctx.lease [.attempting] b db
      (if row.leaseFencingToken = ctx.lease.fencingToken then db
        else db.updateBatch b fun r => r.bindLease ctx) := by
    split
    · exact Advances.refl
    · refine advances_update (KeepsBatch.bindLease ctx) ?_ fun _ _ => Or.inr hnone
      intro r hr
      rw [hrow] at hr
      cases hr
      exact ⟨Or.inl rfl, Or.inr ⟨hn, hle, rfl⟩⟩
  have hphase : Advances ctx.lease [.attempting] b db₁ (db₁.updateBatch b fun r => r.setPhase .attempting none
      (status.getD (JournalPayload.startedOperation
        (newOperationRow db b op key payload id ctx).operationId)) ctx.now) := by
    refine advances_update (KeepsBatch.setPhase _ _ _ _) ?_ fun _ _ => Or.inl rfl
    intro r _
    exact ⟨Or.inr ⟨List.mem_cons_self, fun h => by cases h⟩, Or.inl rfl⟩
  have hstarted := requireBatchRow_ok hstarted
  refine ⟨requireCurrentLease_ok hcur, (hbound.trans (newOperation_advances hins)).trans hphase,
    ⟨row, hrow, hplanned⟩, hstarted, ?_⟩
  rw [batchRow_updateBatch (KeepsBatch.setPhase _ _ _ _), if_pos rfl] at hstarted
  obtain ⟨r', -, rfl⟩ := Option.map_eq_some_iff.1 hstarted
  rfl

theorem recordCheckpoint_advances {key type : String} {payload : Option π} {op id attempt : Option String}
    {r : CheckpointRow π} (h : recordCheckpoint db b key type payload op id attempt ctx = .ok (r, db')) :
    leaseIsCurrent db.leases ctx.lease ctx.now = true ∧ Advances ctx.lease [] b db db' := by
  simp only [recordCheckpoint, bind_eq_ok, pure_eq_ok, Prod.mk.injEq] at h
  obtain ⟨_, -, _, -, _, -, ⟨row, db₁⟩, hguard, _, -, _, -, checkpoints, hins, -, rfl⟩ := h
  obtain ⟨hcur, hadv, -⟩ := requireBatchForCheckpoint_ok hguard
  refine ⟨hcur, hadv.trans (advances_append rfl rfl rfl ?_)⟩
  have hle : maxSequence db₁.checkpoints b ≤ _ := insertRow_maxSequence_le hins b
  simp only [JournalDb.nextSequence]
  omega

theorem transitionBatch_advances {phase : BatchPhase} {message : Option String} {status : Option π}
    {r : BatchRow π} (h : transitionBatch db b phase message status ctx = .ok (r, db')) :
    leaseIsCurrent db.leases ctx.lease ctx.now = true ∧ Advances ctx.lease [phase] b db db' := by
  simp only [transitionBatch, bind_eq_ok, pure_eq_ok, Prod.mk.injEq] at h
  obtain ⟨_, -, row, hrow, _, -, _, -, -, rfl⟩ := h
  obtain ⟨hcur, hrow, hn, hf⟩ := requireBatchForWrite_ok hrow
  refine ⟨hcur, advances_update (KeepsBatch.setPhase _ _ _ _) ?_ fun _ _ => Or.inl rfl⟩
  intro r hr
  rw [hrow] at hr
  cases hr
  exact ⟨Or.inr ⟨List.mem_cons_self, fun _ => ⟨hn, hf⟩⟩, Or.inl rfl⟩

theorem startRecovery_advances {note : RecoveryNote π} {r : BatchRow π} {record : RecoveryRow π}
    (h : startRecovery db b note ctx = .ok (r, record, db')) :
    leaseIsCurrent db.leases ctx.lease ctx.now = true ∧ Advances ctx.lease [.recovering] b db db' := by
  simp only [startRecovery, bind_eq_ok, pure_eq_ok, Prod.mk.injEq] at h
  obtain ⟨_, -, ⟨row, taken, db₁⟩, hguard, _, -, ⟨rec', db₂⟩, hwrite, _, -, -, -, rfl⟩ := h
  obtain ⟨hcur, hadv, hrow, hn, hf⟩ := requireBatchForRecoveryWrite_ok hguard
  refine ⟨hcur, hadv.weaken.trans (writeRecovery_advances hwrite List.mem_cons_self ?_ KeepsBatch.id fun _ _ => Or.inl rfl)⟩
  intro r hr _
  rw [hrow] at hr
  cases hr
  exact ⟨hn, hf⟩

theorem recordRecoveryPhase_advances {phase : BatchPhase} {attempt : Option String} {note : RecoveryNote π}
    {r : RecoveryRow π} (h : recordRecoveryPhase db b phase attempt note ctx = .ok (r, db')) :
    leaseIsCurrent db.leases ctx.lease ctx.now = true ∧ Advances ctx.lease [phase] b db db' := by
  simp only [recordRecoveryPhase, bind_eq_ok] at h
  obtain ⟨_, -, ⟨row, taken, db₁⟩, hguard, _, -, _, -, hwrite⟩ := h
  obtain ⟨hcur, hadv, hrow, hn, hf⟩ := requireBatchForRecoveryWrite_ok hguard
  refine ⟨hcur, hadv.weaken.trans (writeRecovery_advances hwrite List.mem_cons_self ?_ KeepsBatch.id fun _ _ => Or.inl rfl)⟩
  intro r hr _
  rw [hrow] at hr
  cases hr
  exact ⟨hn, hf⟩

theorem recordInterrupted_advances {key : Option String} {note : RecoveryNote π} {r : RecoveryRow π}
    (h : recordInterruptedRecoveryDesired db b key note ctx = .ok (r, db')) :
    leaseIsCurrent db.leases ctx.lease ctx.now = true ∧ Advances ctx.lease [.recoveryDesired] b db db' := by
  simp only [recordInterruptedRecoveryDesired, bind_eq_ok] at h
  obtain ⟨_, -, _, hcur, row, hrow, _, htake, hwrite⟩ := h
  simp only [requireRecoveryTakeover, bind_eq_ok, require_eq_ok] at htake
  obtain ⟨_, -, _, hn, _, hlt, -⟩ := htake
  refine ⟨requireCurrentLease_ok hcur,
    writeRecovery_advances hwrite List.mem_cons_self (fun _ _ h => by cases h) (KeepsBatch.bindLease ctx) ?_⟩
  intro r hr
  rw [requireBatchRow_ok hrow] at hr
  cases hr
  exact Or.inr ⟨hn, Nat.le_of_lt hlt, rfl⟩

/-- The lease-lost marker is written by the lease the batch is bound to, and binds nothing. -/
theorem recordLeaseLost_advances {key : Option String} {note : RecoveryNote π} {r : RecoveryRow π}
    (h : recordLeaseLostRecoveryDesired db b key note ctx = .ok (r, db')) :
    (∃ row, db.batchRow b = some row ∧ row.leaseName = ctx.lease.name ∧
      row.leaseFencingToken = ctx.lease.fencingToken) ∧ Advances ctx.lease [.recoveryDesired] b db db' := by
  simp only [recordLeaseLostRecoveryDesired, bind_eq_ok] at h
  obtain ⟨_, -, _, -, row, hrow, _, hmark, hwrite⟩ := h
  simp only [requireLeaseLostRecoveryMarker, bind_eq_ok, require_eq_ok] at hmark
  obtain ⟨_, ⟨hn, hf⟩, -⟩ := hmark
  exact ⟨⟨row, requireBatchRow_ok hrow, hn, hf⟩,
    writeRecovery_advances hwrite List.mem_cons_self (fun _ _ h => by cases h) KeepsBatch.id
      fun _ _ => Or.inl rfl⟩

theorem recordAbandoned_advances {batch : BatchRow π}
    (h : recordAbandonedSucceededBatchRecoveryDesired db batch ctx = .ok db') :
    leaseIsCurrent db.leases ctx.lease ctx.now = true ∧
      Advances ctx.lease [.recoveryDesired] batch.batchId db db' := by
  simp only [recordAbandonedSucceededBatchRecoveryDesired, bind_eq_ok] at h
  obtain ⟨_, hcur, h⟩ := h
  refine ⟨requireCurrentLease_ok hcur, ?_⟩
  split at h
  · cases h
  · next row hrow =>
    split at h
    · simp only [pure_eq_ok] at h
      exact h ▸ Advances.refl
    · simp only [bind_eq_ok, require_eq_ok, pure_eq_ok] at h
      obtain ⟨_, hn, _, hle, ⟨record, db₁⟩, hwrite, rfl⟩ := h
      refine writeRecovery_advances hwrite List.mem_cons_self (fun _ _ h => by cases h) (fun _ => rfl) ?_
      intro r hr
      rw [hrow] at hr
      cases hr
      exact Or.inr ⟨hn, hle, rfl⟩

theorem recordRecoveryAction_advances {attempt : String} {status : RecoveryActionStatus}
    {type key reason action record : Option String} {payload : Option π} {r : RecoveryActionRow π}
    (h : recordRecoveryAction db b attempt status type key reason payload action record ctx = .ok (r, db')) :
    leaseIsCurrent db.leases ctx.lease ctx.now = true ∧ Advances ctx.lease [] b db db' := by
  simp only [recordRecoveryAction, bind_eq_ok, pure_eq_ok, Prod.mk.injEq] at h
  obtain ⟨_, -, _, -, ⟨row, db₁⟩, hguard, _, -, _, -, _, -, actions, hins, -, rfl⟩ := h
  obtain ⟨hcur, hadv, -⟩ := requireBatchForRecoveryActionWrite_ok hguard
  refine ⟨hcur, hadv.trans (advances_append rfl rfl rfl ?_)⟩
  have hle : maxSequence db₁.recoveryActions b ≤ _ := insertRow_maxSequence_le hins b
  simp only [JournalDb.nextSequence]
  omega

theorem recordArtifactCleanup_advances {artifact : String} {status : ArtifactCleanupStatus}
    {trigger : Option ArtifactCleanupTrigger} {key reason record : Option String} {payload : Option π}
    {r : ArtifactCleanupRow π}
    (h : recordArtifactCleanup db b artifact status trigger key reason payload record ctx = .ok (r, db')) :
    leaseIsCurrent db.leases ctx.lease ctx.now = true ∧ Advances ctx.lease [] b db db' := by
  simp only [recordArtifactCleanup, bind_eq_ok, pure_eq_ok, Prod.mk.injEq] at h
  obtain ⟨_, -, _, -, row, hguard, _, -, _, -, _, -, cleanups, hins, -, rfl⟩ := h
  obtain ⟨hcur, -⟩ := requireBatchForArtifactCleanupWrite_ok hguard
  refine ⟨hcur, advances_append rfl rfl rfl ?_⟩
  have hle : maxSequence db.artifactCleanups b ≤ _ := insertRow_maxSequence_le hins b
  simp only [JournalDb.nextSequence]
  omega

end Writes

/-! ## All writes at once -/

section AllWrites

variable [JournalPayload π] [DecidableEq π] {db db' : JournalDb π} {ctx : WriteContext} {w : JournalWrite π}

/-- A replay of a batch changes nothing; a new batch is planned, bound to the
caller's current lease, and under a new id and key. -/
theorem createBatch_ok {req : BatchRequest π} {batchId : Option String} {row : BatchRow π}
    (h : createBatch db req batchId ctx = .ok (row, db')) :
    leaseIsCurrent db.leases ctx.lease ctx.now = true ∧
      (db' = db ∧ db.batchRowByIdempotencyKey req.idempotencyKey = some row ∨
        db' = { db with batches := db.batches ++ [row] } ∧ row = newBatchRow db req batchId ctx ∧
          db.batchRowByIdempotencyKey req.idempotencyKey = none ∧ db.batchRow row.batchId = none) := by
  simp only [createBatch, bind_eq_ok] at h
  obtain ⟨_, -, _, -, _, -, _, hcur, h⟩ := h
  refine ⟨requireCurrentLease_ok hcur, ?_⟩
  split at h
  · next existing hexisting =>
    simp only [bind_eq_ok, pure_eq_ok, Prod.mk.injEq] at h
    obtain ⟨_, -, rfl, rfl⟩ := h
    exact Or.inl ⟨rfl, hexisting⟩
  · next hnone =>
    simp only [bind_eq_ok, require_eq_ok, pure_eq_ok, Prod.mk.injEq] at h
    obtain ⟨_, -, _, hfree, rfl, rfl⟩ := h
    exact Or.inr ⟨rfl, rfl, hnone, Option.isNone_iff_eq_none.1 hfree⟩

/-- The phases a write may set. -/
def JournalWrite.phases : JournalWrite π → List BatchPhase
  | .startBatchOperation .. | .markAttempting .. => [.attempting]
  | .markSucceeded .. => [.succeeded]
  | .markFailed .. => [.failed]
  | .recordRecoveryDesired .. | .recordInterruptedRecoveryDesired .. | .recordLeaseLostRecoveryDesired ..
  | .recordAbandonedSucceededBatchRecoveryDesired .. => [.recoveryDesired]
  | .startRecovery .. => [.recovering]
  | .recordRecoverySucceeded .. => [.recoverySucceeded]
  | .recordRecoveryFailed .. => [.recoveryFailed]
  | _ => []

omit [JournalPayload π] [DecidableEq π] in
/-- Only a creation makes a batch planned. -/
theorem JournalWrite.planned_not_mem_phases (w : JournalWrite π) : .planned ∉ w.phases := by
  cases w <;> simp [JournalWrite.phases]

/-- Guard and effect of every write on an existing batch. -/
theorem run_spec {b : String} (hb : w.batch = some b) (h : w.run db ctx = .ok db') :
    (leaseIsCurrent db.leases ctx.lease ctx.now = true ∨
      ∃ row, db.batchRow b = some row ∧ row.leaseName = ctx.lease.name ∧
        row.leaseFencingToken = ctx.lease.fencingToken) ∧ Advances ctx.lease w.phases b db db' := by
  cases w <;> simp only [JournalWrite.batch, Option.some.injEq, reduceCtorEq] at hb <;> subst hb <;>
    simp only [JournalWrite.run, map_eq_ok, Prod.exists, exists_eq_right] at h
  case appendOperation =>
    obtain ⟨_, h⟩ := h
    exact (appendOperation_advances h).imp_left Or.inl
  case startBatchOperation =>
    obtain ⟨_, _, h⟩ := h
    obtain ⟨hcur, hadv, -⟩ := startBatchOperation_advances h
    exact ⟨Or.inl hcur, hadv⟩
  case recordCheckpoint =>
    obtain ⟨_, h⟩ := h
    exact (recordCheckpoint_advances h).imp_left Or.inl
  case markAttempting =>
    obtain ⟨_, h⟩ := h
    exact (transitionBatch_advances h).imp_left Or.inl
  case markSucceeded =>
    obtain ⟨_, h⟩ := h
    exact (transitionBatch_advances h).imp_left Or.inl
  case markFailed =>
    obtain ⟨_, h⟩ := h
    simp only [SafeFsOps.markFailed, bind_eq_ok] at h
    obtain ⟨_, -, h⟩ := h
    exact (transitionBatch_advances h).imp_left Or.inl
  case recordRecoveryDesired =>
    obtain ⟨_, h⟩ := h
    exact (recordRecoveryPhase_advances h).imp_left Or.inl
  case startRecovery =>
    obtain ⟨_, _, h⟩ := h
    exact (startRecovery_advances h).imp_left Or.inl
  case recordRecoverySucceeded =>
    obtain ⟨_, h⟩ := h
    exact (recordRecoveryPhase_advances h).imp_left Or.inl
  case recordRecoveryFailed =>
    obtain ⟨_, h⟩ := h
    exact (recordRecoveryPhase_advances h).imp_left Or.inl
  case recordInterruptedRecoveryDesired =>
    obtain ⟨_, h⟩ := h
    exact (recordInterrupted_advances h).imp_left Or.inl
  case recordLeaseLostRecoveryDesired =>
    obtain ⟨_, h⟩ := h
    exact (recordLeaseLost_advances h).imp_left Or.inr
  case recordAbandonedSucceededBatchRecoveryDesired =>
    exact (recordAbandoned_advances h).imp_left Or.inl
  case recordRecoveryActionPlanned =>
    obtain ⟨_, h⟩ := h
    simp only [SafeFsOps.recordRecoveryActionPlanned, bind_eq_ok] at h
    obtain ⟨_, -, h⟩ := h
    exact (recordRecoveryAction_advances h).imp_left Or.inl
  case transitionRecoveryAction =>
    obtain ⟨_, h⟩ := h
    exact (recordRecoveryAction_advances h).imp_left Or.inl
  case recordArtifactCleanupPlanned =>
    obtain ⟨_, h⟩ := h
    exact (recordArtifactCleanup_advances h).imp_left Or.inl
  case transitionArtifactCleanup =>
    obtain ⟨_, h⟩ := h
    exact (recordArtifactCleanup_advances h).imp_left Or.inl

/-- What a write that succeeds leaves of its batch. -/
theorem run_advances {b : String} (hb : w.batch = some b) (h : w.run db ctx = .ok db') :
    Advances ctx.lease w.phases b db db' := (run_spec hb h).2

/-- What a write that succeeds has passed. -/
theorem run_guarded {b : String} (hb : w.batch = some b) (h : w.run db ctx = .ok db') :
    leaseIsCurrent db.leases ctx.lease ctx.now = true ∨
      ∃ row, db.batchRow b = some row ∧ row.leaseName = ctx.lease.name ∧
        row.leaseFencingToken = ctx.lease.fencingToken := (run_spec hb h).1

/-- A write that names no batch creates one, or answers with the one there is. -/
theorem run_create (hb : w.batch = none) (h : w.run db ctx = .ok db') :
    leaseIsCurrent db.leases ctx.lease ctx.now = true ∧
      (db' = db ∨ ∃ req batchId, db' = { db with batches := db.batches ++ [newBatchRow db req batchId ctx] } ∧
        db.batchRowByIdempotencyKey req.idempotencyKey = none ∧
        db.batchRow (newBatchRow db req batchId ctx).batchId = none) := by
  cases w <;> simp only [JournalWrite.batch, reduceCtorEq] at hb
  case createBatch req batchId =>
    simp only [JournalWrite.run, map_eq_ok, Prod.exists, exists_eq_right] at h
    obtain ⟨row, h⟩ := h
    obtain ⟨hcur, ⟨rfl, -⟩ | ⟨rfl, rfl, hkey, hid⟩⟩ := createBatch_ok h
    · exact ⟨hcur, Or.inl rfl⟩
    · exact ⟨hcur, Or.inr ⟨req, batchId, rfl, hkey, hid⟩⟩

end AllWrites

end SafeFsOps
