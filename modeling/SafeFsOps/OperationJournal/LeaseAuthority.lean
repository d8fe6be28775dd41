import SafeFsOps.OperationJournal.LeaseBinding
import SafeFsOps.OperationJournal.Marking
import SafeFsOps.OperationJournal.RecordNumbers

/-!
# The lease a batch is bound to

A batch stores three things of the lease it is bound to: its fencing token, its
owner and the digest of its secret token. A holder whose lease is lost proves by
the three together that the batch was its own, and may then mark it for recovery
(`_require_lease_lost_recovery_marker`). `JournalWorld` puts the journal beside the
records its `LeaseStore` has handed out, so that one can say where the three come
from:

> `ConsistentAuthority`: what a batch is bound to is one acquired lease, and it is
> this lease's holder, and nobody else, whose marker is taken.

Every guard that binds a batch writes all three (`run_rebinds`), except the rollback
of an abandoned succeeded batch, which writes the fencing token alone. That leaves
a token of one lease beside the owner and the digest of another:

> `lease_authority`: authority is consistent as long as no such rollback meets a
> batch of an older lease with another owner or token.
> `lease_authority_split`: a rollback that does meet one, and the worker locked out.
-/

namespace SafeFsOps

variable {π : Type}

/-! ## The journal and the records handed out -/

/-- The journal's database and what callers have seen of its leases. -/
structure JournalWorld (π : Type) where
  db : JournalDb π
  leases : LeaseWorld

/-- A lease record that `acquire` granted. -/
def JournalWorld.Granted (w : JournalWorld π) (lease : LeaseRecord) : Prop :=
  lease ∈ w.leases.handed ∧ lease.acquired = true

namespace JournalWorld

def init (π : Type) : JournalWorld π := { db := JournalDb.init π, leases := LeaseWorld.init }

variable [JournalPayload π] [DecidableEq π]

/-- One call. -/
def step (w : JournalWorld π) (c : JournalCall π) : JournalWorld π where
  db := w.db.step c
  leases :=
    match c with
    | .lease c => w.leases.step c
    | _ => w.leases

end JournalWorld

/-- What the callers of the journal bring along: `secrets.token_hex` draws no empty token, and a
write is made under a lease that was acquired, whether the record is the acquired one or renewed. -/
def JournalCall.Authorized (w : JournalWorld π) : JournalCall π → Prop
  | .lease (.acquire _ _ _ _ generated _) => generated ≠ ""
  | .write _ ctx => ∃ lease, w.Granted lease ∧ ctx.lease.SameLease lease
  | _ => True

/-- A rollback that would bind an abandoned succeeded batch of an older lease finds the owner and
the token of its own lease on it. -/
def JournalCall.RebindsWholly (db : JournalDb π) : JournalCall π → Prop
  | .write (.recordAbandonedSucceededBatchRecoveryDesired batch) ctx =>
    ∀ row, db.batchRow batch.batchId = some row → row.phase = .succeeded → row.leaseName = ctx.lease.name →
      row.leaseFencingToken < ctx.lease.fencingToken → leaseIsCurrent db.leases ctx.lease ctx.now = true →
      row.leaseOwner = some ctx.lease.owner ∧ row.leaseTokenDigest = some (leaseTokenDigest ctx.lease)
  | _ => True

/-! ## What a write binds -/

section Writes

variable {ctx : WriteContext} {K : List RecordTable} {b : String} {db db' : JournalDb π} {last : Option RecordTable}

theorem Rebinding.refl (r : BatchRow π) : Rebinding ctx true r r := Or.inl rfl

/-- A batch once bound to the caller's lease is of no older one. -/
theorem Rebinding.trans {r r' r'' : BatchRow π} (h : Rebinding ctx true r r') (h' : Rebinding ctx true r' r'') :
    Rebinding ctx true r r'' := by
  rcases h with hsame | ⟨hn, hlt, hbound | ⟨hW, -⟩⟩
  · have hname : r'.leaseName = r.leaseName := congrArg LeaseBinding.leaseName hsame
    have htoken : r'.leaseFencingToken = r.leaseFencingToken := congrArg LeaseBinding.leaseFencingToken hsame
    rcases h' with hsame' | ⟨hn', hlt', hbound' | ⟨hW, -⟩⟩
    · exact Or.inl (hsame'.trans hsame)
    · exact Or.inr ⟨hname ▸ hn', htoken ▸ hlt', Or.inl hbound'⟩
    · cases hW
  · have htoken : r'.leaseFencingToken = ctx.lease.fencingToken := congrArg LeaseBinding.leaseFencingToken hbound
    rcases h' with hsame' | ⟨-, hlt', -⟩
    · exact Or.inr ⟨hn, hlt, Or.inl (hsame'.trans hbound)⟩
    · omega
  · cases hW

/-- What the updates of a write come to. -/
theorem Writes.rebinds (h : Writes ctx true K b db last db') {row : BatchRow π} (hrow : db.batchRow b = some row) :
    ∃ row', db'.batchRow b = some row' ∧ Rebinding ctx true row row' := by
  induction h with
  | refl => exact ⟨row, hrow, Rebinding.refl row⟩
  | update f _ hf hrebind ih =>
    obtain ⟨r, hr, hsofar⟩ := ih
    refine ⟨f r, ?_, hsofar.trans (hrebind r hr)⟩
    rw [batchRow_updateBatch hf, if_pos rfl, hr]
    rfl
  | insert T r _ _ _ _ _ ih =>
    obtain ⟨r', hr', hsofar⟩ := ih
    refine ⟨r', ?_, hsofar⟩
    rw [JournalDb.batchRow, JournalDb.batches_setRows]
    exact hr'

variable [JournalPayload π]

/-- The rollback of an abandoned succeeded batch binds it by its fencing token. -/
theorem recordAbandoned_rebinds {batch row : BatchRow π}
    (h : recordAbandonedSucceededBatchRecoveryDesired db batch ctx = .ok db')
    (hrow : db.batchRow batch.batchId = some row)
    (hwhole : (JournalCall.write (.recordAbandonedSucceededBatchRecoveryDesired batch) ctx).RebindsWholly db) :
    ∃ row', db'.batchRow batch.batchId = some row' ∧ Rebinding ctx true row row' := by
  simp only [recordAbandonedSucceededBatchRecoveryDesired, bind_eq_ok] at h
  obtain ⟨_, hcurrent, h⟩ := h
  simp only [hrow] at h
  by_cases hphase : row.phase = .succeeded
  · rw [if_neg (not_not.2 hphase)] at h
    simp only [bind_eq_ok, require_eq_ok, pure_eq_ok] at h
    obtain ⟨_, hn, _, hle, ⟨_, _⟩, hwrite, rfl⟩ := h
    refine ⟨_, writeRecovery_row hwrite (fun _ => rfl) hrow, ?_⟩
    unfold Rebinding
    by_cases hf : row.leaseFencingToken = ctx.lease.fencingToken
    · left
      show LeaseBinding.mk row.leaseName ctx.lease.fencingToken row.leaseOwner row.leaseTokenDigest = row.binding
      rw [← hf]
      rfl
    · obtain ⟨ho, hd⟩ := hwhole row hrow hphase hn (by omega) (requireCurrentLease_ok hcurrent)
      refine Or.inr ⟨hn, by omega, Or.inl ?_⟩
      show LeaseBinding.mk row.leaseName ctx.lease.fencingToken row.leaseOwner row.leaseTokenDigest =
        ctx.lease.binding
      rw [hn, ho, hd]
      rfl
  · rw [if_pos hphase] at h
    simp only [pure_eq_ok] at h
    subst h
    exact ⟨row, hrow, Rebinding.refl row⟩

variable [DecidableEq π] {w : JournalWrite π}

/-- A write keeps the binding of its batch or binds it to the caller's lease as a whole. -/
theorem run_rebinds (hb : w.batch = some b) (h : w.run db ctx = .ok db')
    (hwhole : (JournalCall.write w ctx).RebindsWholly db) {row : BatchRow π} (hrow : db.batchRow b = some row) :
    ∃ row', db'.batchRow b = some row' ∧ Rebinding ctx true row row' := by
  cases hw : w.bindsWhole with
  | true =>
    rcases run_writes hb h with hwrites | rfl
    · rw [hw] at hwrites
      exact hwrites.rebinds hrow
    · exact ⟨row, hrow, Rebinding.refl row⟩
  | false =>
    cases w <;> simp only [JournalWrite.bindsWhole, Bool.true_eq_false] at hw
    case recordAbandonedSucceededBatchRecoveryDesired batch =>
      obtain rfl : batch.batchId = b := Option.some.inj hb
      exact recordAbandoned_rebinds h hrow hwhole

end Writes

/-! ## Who may mark a batch -/

/-- Two records are of one lease exactly if they bind a batch to the same. -/
theorem sameLease_iff_binding {lease other : LeaseRecord} : lease.SameLease other ↔ lease.binding = other.binding := by
  simp only [LeaseRecord.SameLease, LeaseRecord.binding, leaseTokenDigest, LeaseBinding.mk.injEq, Option.some.injEq,
    TokenDigest.mk.injEq]
  constructor
  · rintro ⟨hn, ho, ht, hf⟩
    exact ⟨hn, hf, ho, ht⟩
  · rintro ⟨hn, hf, ho, ht⟩
    exact ⟨hn, ho, ht, hf⟩

section Marker

variable [JournalPayload π] {db db' : JournalDb π} {b : String} {ctx : WriteContext} {key : Option String}
  {note : RecoveryNote π} {row : BatchRow π} {lease : LeaseRecord}

/-- Whoever's marker is taken has the lease the batch is bound to. -/
theorem marker_sameLease (hrow : db.batchRow b = some row) (hbound : row.binding = lease.binding)
    {answer : RecoveryRow π × JournalDb π}
    (h : recordLeaseLostRecoveryDesired db b key note ctx = .ok answer) : ctx.lease.SameLease lease := by
  simp only [recordLeaseLostRecoveryDesired, requireLeaseLostRecoveryMarker, bind_eq_ok, require_eq_ok] at h
  obtain ⟨_, -, _, -, row', hrow', _, ⟨_, ⟨hn, hf⟩, _, -, _, ⟨ho, hd⟩, -⟩, -⟩ := h
  rw [requireBatchRow_ok hrow'] at hrow
  cases hrow
  rw [sameLease_iff_binding, ← hbound, LeaseRecord.binding, ← hn, ← hf, ← ho, ← hd]
  rfl

/-- A holder whose lease is lost can mark the batch that is bound to it. -/
theorem marker_taken (hrow : db.batchRow b = some row) (hbound : row.binding = lease.binding)
    (hlease : ctx.lease.SameLease lease) (htoken : lease.token ≠ "") (hb : b ≠ "")
    (hlost : leaseIsCurrent db.leases ctx.lease ctx.now = false)
    (hphase : row.phase ∈ [BatchPhase.attempting, .failed, .recoveryFailed])
    (hkey : row.resourceKey = none ∨ key = row.resourceKey)
    (hfree : ∀ x ∈ db.recoveries, x.recoveryId ≠ newId note.recoveryId ctx.generated) :
    ∃ answer, recordLeaseLostRecoveryDesired db b key note ctx = .ok answer := by
  have hsame : row.binding = ctx.lease.binding := hbound.trans (sameLease_iff_binding.1 hlease).symm
  have hn : row.leaseName = ctx.lease.name := congrArg LeaseBinding.leaseName hsame
  have hf : row.leaseFencingToken = ctx.lease.fencingToken := congrArg LeaseBinding.leaseFencingToken hsame
  have ho : row.leaseOwner = some ctx.lease.owner := congrArg LeaseBinding.leaseOwner hsame
  have hd : row.leaseTokenDigest = some (leaseTokenDigest ctx.lease) := congrArg LeaseBinding.leaseTokenDigest hsame
  have ht : ctx.lease.token ≠ "" := by
    rw [hlease.2.2.1]
    exact htoken
  have hmark : requireLeaseLostRecoveryMarker row key ctx = .ok () := by
    simp only [requireLeaseLostRecoveryMarker, requireBatchResourceKey, bind_eq_ok, require_eq_ok]
    refine ⟨(), ⟨hn, hf⟩, (), ⟨ht, ?_, ?_⟩, (), ⟨ho, hd⟩, (), hkey, hphase⟩
    · rw [ho]
      exact Option.some_ne_none _
    · rw [hd]
      exact Option.some_ne_none _
  have hwrite : ∃ answer, writeRecovery db b .recoveryDesired note id ctx = .ok answer :=
    ⟨_, bind_eq_ok.2 ⟨_, insertRecovery_succeeds hfree rfl, rfl⟩⟩
  obtain ⟨answer, hwrite⟩ := hwrite
  refine ⟨answer, ?_⟩
  have hfound : requireBatchRow db b = .ok row := by
    rw [requireBatchRow, hrow]
  simp only [recordLeaseLostRecoveryDesired, validateRequired, bind_eq_ok, require_eq_ok]
  exact ⟨(), hb, (), hlost, row, hfound, (), hmark, hwrite⟩

end Marker

/-- Each batch is bound to one acquired lease, the only one of that name and fencing token; its
holder, once the lease is lost, can mark the batch for recovery, and nobody else can. -/
def ConsistentAuthority [JournalPayload π] (w : JournalWorld π) : Prop :=
  ∀ b row, w.db.batchRow b = some row → ∃ lease, w.Granted lease ∧ row.binding = lease.binding ∧
    (∀ other, w.Granted other → other.name = row.leaseName → other.fencingToken = row.leaseFencingToken →
      other = lease) ∧
    ∀ ctx key note,
      (∀ answer, recordLeaseLostRecoveryDesired w.db b key note ctx = .ok answer → ctx.lease.SameLease lease) ∧
      (ctx.lease.SameLease lease → b ≠ "" → leaseIsCurrent w.db.leases ctx.lease ctx.now = false →
        row.phase ∈ [BatchPhase.attempting, .failed, .recoveryFailed] →
        (row.resourceKey = none ∨ key = row.resourceKey) →
        (∀ x ∈ w.db.recoveries, x.recoveryId ≠ newId note.recoveryId ctx.generated) →
        ∃ answer, recordLeaseLostRecoveryDesired w.db b key note ctx = .ok answer)

/-! ## Runs -/

/-- Every batch is bound to an acquired lease, and the store's records are in order. -/
structure AuthorityKept (w : JournalWorld π) : Prop where
  table : w.leases.table = w.db.leases
  leases : LeaseInv w.leases
  tokens : ∀ lease, w.Granted lease → lease.token ≠ ""
  bound : ∀ b row, w.db.batchRow b = some row → ∃ lease, w.Granted lease ∧ row.binding = lease.binding

section Runs

/-- The two views of a call on the leases. -/
theorem leaseCall_table (w : LeaseWorld) (c : LeaseCall) : (w.step c).table = c.run w.table := by
  cases c with
  | acquire name owner ttl token generated now =>
    simp only [LeaseWorld.step, LeaseCall.run]
    cases acquire w.table name owner ttl token generated now <;> rfl
  | heartbeat lease ttl now =>
    simp only [LeaseWorld.step, LeaseCall.run]
    cases heartbeat w.table lease ttl now with
    | error e => rfl
    | ok answer =>
      obtain ⟨_ | renewed, t⟩ := answer
      · rfl
      · rfl
  | release lease generated now => rfl

/-- Records once handed out stay handed out; what is granted newly has the token the call gave it. -/
theorem leaseCall_handed (w : LeaseWorld) (c : LeaseCall) :
    (∀ r ∈ w.handed, r ∈ (w.step c).handed) ∧ ∀ r ∈ (w.step c).handed, r.acquired = true → r ∈ w.handed ∨
      ∃ name owner ttl token generated now, c = .acquire name owner ttl token generated now ∧
        r.token = tokenOr token generated := by
  cases c with
  | acquire name owner ttl token generated now =>
    simp only [LeaseWorld.step]
    cases h : acquire w.table name owner ttl token generated now with
    | error e => exact ⟨fun r hr => hr, fun r hr _ => Or.inl hr⟩
    | ok answer =>
      obtain ⟨lease, t⟩ := answer
      refine ⟨fun r hr => List.mem_cons_of_mem _ hr, ?_⟩
      intro r hr hgranted
      rcases List.mem_cons.1 hr with rfl | hr
      · obtain ⟨row, rfl, -, -, -, htoken, -⟩ := acquire_acquired h hgranted
        exact Or.inr ⟨name, owner, ttl, token, generated, now, rfl, htoken⟩
      · exact Or.inl hr
  | heartbeat lease ttl now =>
    simp only [LeaseWorld.step]
    cases h : heartbeat w.table lease ttl now with
    | error e => exact ⟨fun r hr => hr, fun r hr _ => Or.inl hr⟩
    | ok answer =>
      obtain ⟨_ | renewed, t⟩ := answer
      · exact ⟨fun r hr => hr, fun r hr _ => Or.inl hr⟩
      · refine ⟨fun r hr => List.mem_cons_of_mem _ hr, ?_⟩
        intro r hr hgranted
        rcases List.mem_cons.1 hr with rfl | hr
        · obtain ⟨row, renewed, -, rfl, -⟩ := heartbeat_some h
          cases hgranted
        · exact Or.inl hr
  | release lease generated now => exact ⟨fun r hr => hr, fun r hr _ => Or.inl hr⟩

variable [JournalPayload π] [DecidableEq π]

omit [JournalPayload π] [DecidableEq π] in
/-- A call that is not one on the leases hands out no record. -/
theorem AuthorityKept.of_write {w : JournalWorld π} (h : AuthorityKept w) {db : JournalDb π}
    (hleases : db.leases = w.db.leases)
    (hbound : ∀ b row, db.batchRow b = some row → ∃ lease, w.Granted lease ∧ row.binding = lease.binding) :
    AuthorityKept { w with db := db } where
  table := h.table.trans hleases.symm
  leases := h.leases
  tokens := h.tokens
  bound := hbound

theorem authorityKept_step (w : JournalWorld π) (c : JournalCall π)
    (hc : c.Authorized w ∧ c.RebindsWholly w.db) (h : AuthorityKept w) : AuthorityKept (w.step c) := by
  obtain ⟨hauthorized, hwhole⟩ := hc
  cases c with
  -- leases are handed out, never taken back, and a token that is new is nobody's yet
  | lease c =>
    obtain ⟨hkept, hnew⟩ := leaseCall_handed w.leases c
    refine ⟨?_, leaseInv_step w.leases c h.leases, ?_, ?_⟩
    · show (w.leases.step c).table = c.run w.db.leases
      rw [leaseCall_table, h.table]
    · intro lease hgranted
      rcases hnew lease hgranted.1 hgranted.2 with hold | ⟨name, owner, ttl, token, generated, now, rfl, htoken⟩
      · exact h.tokens lease ⟨hold, hgranted.2⟩
      · rw [htoken]
        cases token with
        | none => exact hauthorized
        | some token =>
          rw [tokenOr]
          split
          · exact hauthorized
          · assumption
    · intro b row hrow
      obtain ⟨lease, hgranted, hsame⟩ := h.bound b row hrow
      exact ⟨lease, ⟨hkept lease hgranted.1, hgranted.2⟩, hsame⟩
  | operationRuns runs phases => exact h.of_write rfl h.bound
  -- a write of the journal: a batch is bound to the writer's lease, or as before
  | write v ctx =>
    obtain ⟨lease, hgranted, hlease⟩ := hauthorized
    have hbinding := sameLease_iff_binding.1 hlease
    cases hrun : v.run w.db ctx with
    | error e =>
      have hstep : w.step (.write v ctx) = w := by
        simp only [JournalWorld.step, JournalDb.step, hrun]
      rw [hstep]
      exact h
    | ok db' =>
      have hstep : w.step (.write v ctx) = { w with db := db' } := by
        simp only [JournalWorld.step, JournalDb.step, hrun]
      rw [hstep]
      cases hb : v.batch with
      -- a batch that is created is bound to its creator's lease
      | none =>
        obtain ⟨-, rfl | ⟨req, batchId, rfl, -, -⟩⟩ := run_create hb hrun
        · exact h
        · refine h.of_write rfl ?_
          intro b row hrow
          rw [JournalDb.batchRow, findRow_append_one] at hrow
          cases hold : w.db.batchRow b with
          | some old =>
            rw [show findRow BatchRow.batchId w.db.batches b = some old from hold] at hrow
            cases hrow
            exact h.bound b row hold
          | none =>
            rw [show findRow BatchRow.batchId w.db.batches b = none from hold, Option.none_or] at hrow
            split at hrow
            · obtain rfl := Option.some.inj hrow
              exact ⟨lease, hgranted, hbinding⟩
            · cases hrow
      -- a batch that is written to: the other rows are untouched
      | some b =>
        have hadv := run_advances hb hrun
        refine h.of_write hadv.leases ?_
        intro b' row' hrow'
        by_cases hb' : b' = b
        · subst hb'
          cases hrow : w.db.batchRow b' with
          | none =>
            rw [hadv.absent hrow] at hrow'
            cases hrow'
          | some row =>
            obtain ⟨row₁, hrow₁, hrebind⟩ := run_rebinds hb hrun hwhole hrow
            rw [hrow'] at hrow₁
            cases hrow₁
            rcases hrebind with hsame | ⟨-, -, hbound | ⟨hW, -⟩⟩
            · rw [hsame]
              exact h.bound b' row hrow
            · exact ⟨lease, hgranted, hbound.trans hbinding⟩
            · cases hW
        · rw [hadv.other b' hb'] at hrow'
          exact h.bound b' row' hrow'

omit [JournalPayload π] [DecidableEq π] in
theorem authorityKept_init : AuthorityKept (JournalWorld.init π) where
  table := rfl
  leases := leaseInv_init
  tokens lease h := by cases h.1
  bound b row hrow := by cases hrow

/-- **Lease authority.** In every run under acquired leases, if no rollback of an abandoned succeeded
batch binds a batch that carries another lease's owner or token, then after it every batch is bound
to one acquired lease, in its fencing token, owner and digest alike, and the holder of that lease,
and nobody else, can mark the batch when the lease is lost. -/
theorem lease_authority (run : List (JournalCall π))
    (hrun : AllSteps JournalWorld.step (fun w c => c.Authorized w ∧ c.RebindsWholly w.db) (JournalWorld.init π) run) :
    (after JournalWorld.step (JournalWorld.init π) run).leases.table =
      (after JournalWorld.step (JournalWorld.init π) run).db.leases ∧
    ConsistentAuthority (after JournalWorld.step (JournalWorld.init π) run) := by
  have h := after_invariant_of authorityKept_step run _ hrun authorityKept_init
  refine ⟨h.table, ?_⟩
  intro b row hrow
  obtain ⟨lease, hgranted, hbound⟩ := h.bound b row hrow
  refine ⟨lease, hgranted, hbound, ?_, ?_⟩
  · intro other hother hn hf
    refine h.leases.once other hother.1 lease hgranted.1 hother.2 hgranted.2 ?_ ?_
    · exact hn.trans (congrArg LeaseBinding.leaseName hbound)
    · exact hf.trans (congrArg LeaseBinding.leaseFencingToken hbound)
  · intro ctx key note
    refine ⟨fun answer => marker_sameLease hrow hbound, ?_⟩
    intro hlease hb hlost hphase hkey hfree
    exact marker_taken hrow hbound hlease (h.tokens lease hgranted) hb hlost hphase hkey hfree

end Runs

/-! ## A succeeded batch, taken over -/

private def monday : DateTime := .soon 5
private def tuesday : DateTime := .soon 100
private def wednesday : DateTime := .soon 200

/-- The leases of a first worker, and of the second one that takes the name over. -/
private def mondayLease : LeaseRecord := leaseFromRow "lease" ⟨"a", "t1", 1, monday, monday, tuesday⟩ true true
private def tuesdayLease : LeaseRecord :=
  leaseFromRow "lease" ⟨"b", "t2", 2, tuesday, tuesday, .soon 195⟩ true true

/-- A first worker's batch succeeds, or fails; then the lease is taken over. -/
private def untilTuesday (ending : JournalWrite String) : List (JournalCall String) :=
  let first (w : JournalWrite String) (n : String) : JournalCall String :=
    .write w ⟨mondayLease, monday, "handoff" ++ n, "id" ++ n⟩
  [.lease (.acquire "lease" "a" 95 none "t1" monday),
    first (.createBatch ⟨"key", "a", "run", none, none, none, none, none, none⟩ (some "batch")) "1",
    first (.startBatchOperation "batch" "write_bytes" none none none none) "2",
    first ending "3",
    .lease (.acquire "lease" "b" 95 none "t2" tuesday)]

private def onTuesday (w : JournalWrite String) (n : String) : JournalCall String :=
  .write w ⟨tuesdayLease, tuesday, "handoff" ++ n, "id" ++ n⟩

private theorem monday_granted : (JournalWorld.step (JournalWorld.init String)
    (.lease (.acquire "lease" "a" 95 none "t1" monday))).Granted mondayLease := ⟨by decide +kernel, rfl⟩

private theorem tuesday_granted (ending : JournalWrite String) :
    (after JournalWorld.step (JournalWorld.init String) (untilTuesday ending)).Granted tuesdayLease := by
  refine ⟨?_, rfl⟩
  show tuesdayLease ∈ (((LeaseWorld.init.step (.acquire "lease" "a" 95 none "t1" monday)).step
    (.acquire "lease" "b" 95 none "t2" tuesday))).handed
  decide +kernel

private theorem untilTuesday_authorized (ending : JournalWrite String) :
    AllSteps JournalWorld.step (fun w c => c.Authorized w) (JournalWorld.init String) (untilTuesday ending) := by
  have first : ∃ lease, (JournalWorld.step (JournalWorld.init String)
      (.lease (.acquire "lease" "a" 95 none "t1" monday))).Granted lease ∧ mondayLease.SameLease lease :=
    ⟨mondayLease, monday_granted, rfl, rfl, rfl, rfl⟩
  have hfirst : "t1" ≠ "" := by decide
  have hsecond : "t2" ≠ "" := by decide
  exact ⟨hfirst, first, first, first, hsecond, trivial⟩

/-- A failed batch handed over is bound to the second worker's lease as a whole. -/
theorem lease_authority_handoff :
    ConsistentAuthority (after JournalWorld.step (JournalWorld.init String)
      (untilTuesday (.markFailed "batch" "error" none) ++
        [onTuesday (.recordRecoveryDesired "batch" ⟨none, none, none⟩) "4"])) := by
  refine (lease_authority _ (allSteps_append.2 ⟨?_, ?_⟩)).2
  · obtain ⟨h₁, h₂, h₃, h₄, h₅, -⟩ := untilTuesday_authorized (.markFailed "batch" "error" none)
    exact ⟨⟨h₁, trivial⟩, ⟨h₂, trivial⟩, ⟨h₃, trivial⟩, ⟨h₄, trivial⟩, ⟨h₅, trivial⟩, trivial⟩
  · exact ⟨⟨⟨tuesdayLease, tuesday_granted _, rfl, rfl, rfl, rfl⟩, trivial⟩, trivial⟩

/-- The succeeded batch, as the second worker's replay has read it. -/
private def abandonedBatch : BatchRow String where
  storageOrder := 1
  batchId := "batch"
  idempotencyKey := "key"
  leaseName := "lease"
  leaseOwner := some "a"
  leaseFencingToken := 1
  leaseTokenDigest := some ⟨"t1"⟩
  owner := "a"
  runId := "run"
  operationRunId := none
  operationPhaseId := none
  resourceKey := none
  claimOwner := none
  claimScope := none
  phase := .succeeded
  payload := jsonObject []
  statusMessage := none
  statusPayload := jsonObject []
  createdAt := monday
  updatedAt := monday

/-- The second worker rolls the succeeded batch back, and fails. -/
private def rolledBack : List (JournalCall String) :=
  untilTuesday (.markSucceeded "batch" none) ++
    [onTuesday (.recordAbandonedSucceededBatchRecoveryDesired abandonedBatch) "4",
      onTuesday (.startRecovery "batch" ⟨none, none, some "attempt"⟩) "5",
      onTuesday (.recordRecoveryFailed "batch" (some "attempt") ⟨none, none, none⟩) "6"]

/-- Authority is split by the rollback of an abandoned succeeded batch: the batch is bound to the
fencing token of one lease and the owner and digest of another, and the worker whose lease last bound
it is refused when the lease is lost. -/
theorem lease_authority_split :
    AllSteps JournalWorld.step (fun w c => c.Authorized w) (JournalWorld.init String) rolledBack ∧
    ¬ ConsistentAuthority (after JournalWorld.step (JournalWorld.init String) rolledBack) ∧
    (recordLeaseLostRecoveryDesired (after JournalWorld.step (JournalWorld.init String) rolledBack).db "batch" none
      ⟨none, none, none⟩ ⟨tuesdayLease, wednesday, "h", "g"⟩).map (fun _ => ()) =
      .error (.journalLeaseMismatch "batch 'batch' lease-lost marker authority does not match") := by
  have hrow : ((after JournalWorld.step (JournalWorld.init String) rolledBack).db.batchRow "batch").map
      BatchRow.binding = some ⟨"lease", 2, some "a", some ⟨"t1"⟩⟩ := by decide +kernel
  refine ⟨?_, ?_, ?_⟩
  · have hsecond := tuesday_granted (.markSucceeded "batch" none)
    refine allSteps_append.2 ⟨untilTuesday_authorized _, ?_, ?_, ?_, trivial⟩
    all_goals exact ⟨tuesdayLease, hsecond, rfl, rfl, rfl, rfl⟩
  · intro h
    obtain ⟨row, hfound, hbinding⟩ := Option.map_eq_some_iff.1 hrow
    obtain ⟨lease, hgranted, hbound, -⟩ := h "batch" row hfound
    have hnone : ∀ lease ∈ (after JournalWorld.step (JournalWorld.init String) rolledBack).leases.handed,
        lease.binding ≠ ⟨"lease", 2, some "a", some ⟨"t1"⟩⟩ := by decide +kernel
    exact hnone lease hgranted.1 (hbound.symm.trans hbinding)
  · decide +kernel

end SafeFsOps
