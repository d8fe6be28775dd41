import SafeFsOps.OperationJournal.ActionRecords
import SafeFsOps.OperationJournal.StoredRecovery

/-!
# Runs of one recovery action

What a run of an action does, whoever its handler is. The steps around a handler change
nothing but the journal, and there only add records (`Quiet`); the handler runs between
two checks of its authority, and makes one of its own before it changes the disk.

- `AuthorityCurrent`: what such a check has seen.
- `Conclusion`: what is known where a run finishes.

> `along_runRecoveryAction`: what a handler does is all that an action does to the disk, and
> what the handler comes to is what is recorded, unless the journal refuses the record.
-/

namespace SafeFsOps.StoredRecovery

open TreeBackups (Mapping PythonValues)

/-! ## What the journal keeps -/

/-- Operations and checkpoints stay, batches stay as they were created, and actions are only added to. -/
structure Kept (db db' : JournalDb Mapping) : Prop where
  operations : db'.operations = db.operations
  checkpoints : db'.checkpoints = db.checkpoints
  actions : ∃ new, db'.recoveryActions = db.recoveryActions ++ new
  row : ∀ b r, db.batchRow b = some r → ∃ r', db'.batchRow b = some r' ∧ r'.created = r.created

namespace Kept

variable {db db₁ db₂ : JournalDb Mapping}

protected theorem refl : Kept db db := ⟨rfl, rfl, ⟨[], (List.append_nil _).symm⟩, fun _ r h => ⟨r, h, rfl⟩⟩

protected theorem trans (h₁ : Kept db db₁) (h₂ : Kept db₁ db₂) : Kept db db₂ where
  operations := h₂.operations.trans h₁.operations
  checkpoints := h₂.checkpoints.trans h₁.checkpoints
  actions := by
    obtain ⟨new₁, hnew₁⟩ := h₁.actions
    obtain ⟨new₂, hnew₂⟩ := h₂.actions
    exact ⟨new₁ ++ new₂, by rw [hnew₂, hnew₁, List.append_assoc]⟩
  row := by
    intro b r hr
    obtain ⟨r₁, hr₁, hc₁⟩ := h₁.row b r hr
    obtain ⟨r₂, hr₂, hc₂⟩ := h₂.row b r₁ hr₁
    exact ⟨r₂, hr₂, hc₂.trans hc₁⟩

end Kept

/-- The journal holds what was read of a batch. -/
structure StoredBatch.HeldBy (b : StoredBatch) (db : JournalDb Mapping) : Prop where
  row : ∃ row, db.batchRow b.batch.batchId = some row ∧ row.created = b.batch.created
  operations : ∀ o ∈ b.operations, o ∈ db.operations
  checkpoints : ∀ c ∈ b.checkpoints, c ∈ db.checkpoints

/-- The journal holds what a context was read from. -/
structure StoredContext.HeldBy (ctx : StoredContext) (db : JournalDb Mapping) : Prop where
  own : ctx.toStoredBatch.HeldBy db
  proofs : ∀ b ∈ ctx.proofContexts, b.HeldBy db

theorem StoredBatch.HeldBy.kept {b : StoredBatch} {db db' : JournalDb Mapping} (h : b.HeldBy db) (hkept : Kept db db') :
    b.HeldBy db' where
  row := by
    obtain ⟨row, hrow, hc⟩ := h.row
    obtain ⟨row', hrow', hc'⟩ := hkept.row _ row hrow
    exact ⟨row', hrow', hc'.trans hc⟩
  operations := by
    rw [hkept.operations]
    exact h.operations
  checkpoints := by
    rw [hkept.checkpoints]
    exact h.checkpoints

theorem StoredContext.HeldBy.kept {ctx : StoredContext} {db db' : JournalDb Mapping} (h : ctx.HeldBy db)
    (hkept : Kept db db') : ctx.HeldBy db' :=
  ⟨h.own.kept hkept, fun b hb => (h.proofs b hb).kept hkept⟩

theorem readStoredBatch_heldBy {db : JournalDb Mapping} {batchId : String} {b : StoredBatch}
    (h : readStoredBatch db batchId = some b) : b.HeldBy db := by
  obtain ⟨row, hrow, rfl⟩ := Option.map_eq_some_iff.1 h
  refine ⟨⟨row, ?_, rfl⟩, fun o ho => (mem_listRows.1 ho).1, fun c hc => (mem_listRows.1 hc).1⟩
  have hkey : row.batchId = batchId := findRow_key hrow
  rw [hkey]
  exact hrow

/-- A context that was read is held by the journal it was read from. -/
theorem readRecoveryContext_heldBy {V : StoredValues} {db : JournalDb Mapping} {batchId : String} {ctx : StoredContext}
    (h : readRecoveryContext V db batchId = .ok ctx) : ctx.HeldBy db := by
  simp only [readRecoveryContext, bind_eq_ok] at h
  obtain ⟨_, -, h⟩ := h
  split at h
  · cases h
  · next records hrecords =>
    simp only [bind_eq_ok, pure_eq_ok] at h
    obtain ⟨_, -, rfl⟩ := h
    refine ⟨readStoredBatch_heldBy hrecords, fun b hb => ?_⟩
    obtain ⟨id, -, hid⟩ := List.mem_filterMap.1 hb
    exact readStoredBatch_heldBy hid

/-- What a transition of an action adds to the journal. -/
theorem kept_transitionRecoveryAction {db db' : JournalDb Mapping} {b a id : String} {status : RecoveryActionStatus}
    {reason record : Option String} {payload : Option Mapping} {ctx : WriteContext} {r : RecoveryActionRow Mapping}
    (hstatus : status ≠ .planned)
    (h : transitionRecoveryAction db b a id status reason payload record ctx = .ok (r, db')) :
    Kept db db' ∧ db'.recoveryActions = db.recoveryActions ++ [r] ∧ r.batchId = b ∧ r.recoveryAttemptId = a ∧
      r.actionId = id ∧ r.status = status ∧
        ∃ e ∈ db.recoveryActions, e.recoveryAttemptId = a ∧ e.actionId = id ∧ r.actionType = e.actionType := by
  obtain ⟨hbatch, hattempt, hstatus', hid, -⟩ := recordRecoveryAction_row h
  obtain ⟨hactions, hnext, -⟩ := recordRecoveryAction_next (fun hplanned => absurd hplanned hstatus) h
  rw [if_neg hstatus] at hid
  have hwrites := recordRecoveryAction_writes (W := true) (K := [.recoveries, .recoveryActions]) (by decide) (by decide) h
  refine ⟨⟨?_, ?_, ⟨[r], hactions⟩, ?_⟩, hactions, hbatch, hattempt, hid, hstatus', ?_⟩
  · exact hwrites.rows_eq (T := .operations) (by decide)
  · exact hwrites.rows_eq (T := .checkpoints) (by decide)
  · intro b' row hrow
    obtain ⟨-, hadv⟩ := recordRecoveryAction_advances h
    by_cases hb : b' = b
    · subst hb
      obtain ⟨row', hrow', hc, -⟩ := hadv.row row hrow
      exact ⟨row', hrow', hc⟩
    · exact ⟨row, by rw [hadv.other b' hb, hrow], rfl⟩
  · rcases hnext with ⟨hplanned, -⟩ | ⟨e, he, hfollows⟩
    · exact absurd (hstatus'.symm.trans hplanned) hstatus
    · obtain ⟨hmem, hkey⟩ := latestRow_mem he
      have hkey := of_decide_eq_true hkey
      exact ⟨e, hmem, hkey.1.trans hattempt, hkey.2.trans hid, hfollows.2.1⟩

/-- A step that changes nothing but the journal, and keeps what is in it. -/
structure Quiet {φ : Type} (w w' : StoredWorld φ) : Prop where
  fs : w'.fs = w.fs
  calls : w'.calls = w.calls
  journal : Kept w.journal w'.journal

protected theorem Quiet.refl {φ : Type} {w : StoredWorld φ} : Quiet w w := ⟨rfl, rfl, .refl⟩

protected theorem Quiet.trans {φ : Type} {w₁ w₂ w₃ : StoredWorld φ} (h₁ : Quiet w₁ w₂) (h₂ : Quiet w₂ w₃) : Quiet w₁ w₃ :=
  ⟨h₂.fs.trans h₁.fs, h₂.calls.trans h₁.calls, h₁.journal.trans h₂.journal⟩

/-! ## The authority of an action -/

/-- A time the holder works at: the one it was given, or else one of the clock. -/
def OperationTime (T : DateTime → Prop) (h : LeaseHolder) (t : DateTime) : Prop := h.now = some t ∨ h.now = none ∧ T t

/-- The lease is current, the batch is recovering under it, the attempt is the last thing recorded of the
batch's recovery, and the action is being attempted. -/
structure AuthorityCurrent (T : DateTime → Prop) (authority : RecoveryAuthority) (actionId : String)
    (db : JournalDb Mapping) : Prop where
  lease : ∃ t, OperationTime T authority.holder t ∧ leaseIsCurrent db.leases authority.holder.lease t = true
  batch : ∃ row, db.batchRow authority.batchId = some row ∧ row.phase = .recovering ∧
    row.leaseName = authority.holder.lease.name ∧ row.leaseFencingToken = authority.holder.lease.fencingToken
  attempt : ∃ latest, db.latestRecoveryRow authority.batchId = some latest ∧
    latest.recoveryId = authority.recoveryAttemptId ∧ latest.phase = .recovering
  attempting : checkAttempting db authority.batchId authority.recoveryAttemptId actionId = .ok ()

section Rules

open Program

variable {φ ω α : Type} {T : DateTime → Prop} {R : StoredWorld φ → StoredWorld φ → Prop}
  {Q : Except RecoveryError α → StoredWorld φ → Prop} {w : StoredWorld φ}

/-- The runs whose clock shows times of `T`. -/
def ClockShows (T : DateTime → Prop) (i : StoredInput ω) (_ : StoredWorld φ) : Prop := T i.now

theorem operationTime_reads {h : LeaseHolder} {i : StoredInput ω} (hi : T i.now) : OperationTime T h (operationTime h i) := by
  unfold OperationTime operationTime
  cases h.now with
  | none => exact Or.inr ⟨rfl, hi⟩
  | some t => exact Or.inl rfl

theorem isAccess_heartbeatRaised (e : LeaseError) : (heartbeatRaised e).isAccess = true := by
  cases e <;> rfl

variable (hR : ∀ w w', Quiet w w' → R w w')

include hR

theorem along_transaction {act : StoredInput ω → JournalDb Mapping → Except JournalError (α × JournalDb Mapping)}
    (hok : ∀ i a db, T i.now → act i w.journal = .ok (a, db) → Kept w.journal db ∧ Q (.ok a) { w with journal := db })
    (herror : ∀ e, e.isAccess = true → Q (.error e) w) : Along (ClockShows T) R Q (transaction act) w := by
  refine along_call fun i hi => ?_
  have hsame : R w w := hR _ _ .refl
  cases hfault : i.fault with
  | some fault =>
    obtain ⟨name, message⟩ := fault
    exact ⟨hsame, herror _ rfl⟩
  | none =>
    cases hact : act i w.journal with
    | error e => exact ⟨hsame, herror _ rfl⟩
    | ok x =>
      obtain ⟨a, db⟩ := x
      obtain ⟨hkept, hQ⟩ := hok i a db hi hact
      exact ⟨hR _ _ ⟨rfl, rfl, hkept⟩, hQ⟩

theorem along_journalRead {read : StoredInput ω → JournalDb Mapping → Except JournalError α}
    (hok : ∀ i a, T i.now → read i w.journal = .ok a → Q (.ok a) w)
    (herror : ∀ e, e.isAccess = true → Q (.error e) w) : Along (ClockShows T) R Q (journalRead read) w := by
  refine along_transaction hR (fun i a db hi h => ?_) herror
  obtain ⟨a', ha', heq⟩ := map_eq_ok.1 h
  cases heq
  exact ⟨.refl, hok i a hi ha'⟩

theorem along_diskRead {read : φ → Except RecoveryError α} (hread : Q (read w.fs) w)
    (herror : ∀ name message, Q (.error (.other name message)) w) :
    Along (ClockShows (ω := ω) T) R Q (diskRead read) w := by
  refine along_call fun i _ => ?_
  cases hfault : i.fault with
  | some fault =>
    obtain ⟨name, message⟩ := fault
    exact ⟨hR _ _ .refl, herror name message⟩
  | none => exact ⟨hR _ _ .refl, hread⟩

theorem along_atOperationTime {Q : Except RecoveryError LeaseHolder → StoredWorld φ → Prop} {h : LeaseHolder}
    (hok : ∀ t, OperationTime T h t → Q (.ok { h with now := some t }) w) :
    Along (ClockShows (ω := ω) T) R Q (atOperationTime h) w :=
  along_call fun _ hi => ⟨hR _ _ .refl, hok _ (operationTime_reads hi)⟩

theorem along_requireCurrent {Q : Except RecoveryError Unit → StoredWorld φ → Prop} {h : LeaseHolder}
    (hok : ∀ t, OperationTime T h t → leaseIsCurrent w.journal.leases h.lease t = true → Q (.ok ()) w)
    (herror : ∀ e, e.isAccess = true → Q (.error e) w) :
    Along (ClockShows (ω := ω) T) R Q (requireCurrent h) w :=
  along_journalRead hR (fun _ _ hi h => hok _ (operationTime_reads hi) (requireCurrentLease_ok h)) herror

theorem along_requireActiveAttempt {Q : Except RecoveryError Unit → StoredWorld φ → Prop} {h : LeaseHolder}
    {batchId attemptId : String}
    (hok : (∃ row, w.journal.batchRow batchId = some row ∧ row.phase = .recovering ∧
        row.leaseName = h.lease.name ∧ row.leaseFencingToken = h.lease.fencingToken) →
      (∃ latest, w.journal.latestRecoveryRow batchId = some latest ∧ latest.recoveryId = attemptId ∧
        latest.phase = .recovering) → Q (.ok ()) w)
    (herror : ∀ e, e.isAccess = true → Q (.error e) w) :
    Along (ClockShows (ω := ω) T) R Q (requireActiveAttempt h batchId attemptId) w := by
  refine along_journalRead hR (fun i a _ h => ?_) herror
  obtain ⟨attempt, hcheck, -⟩ := map_eq_ok.1 h
  simp only [checkActiveRecoveryAttempt, requireBatchForRecoveryAttemptCheck, bind_eq_ok, pure_eq_ok,
    require_eq_ok] at hcheck
  obtain ⟨_, -, row, ⟨row', hwrite, _, hphase, rfl⟩, hactive⟩ := hcheck
  obtain ⟨-, hrow, hname, htoken⟩ := requireBatchForWrite_ok hwrite
  obtain ⟨-, hid, -, latest, hlatest, hsame, hrecovering⟩ := requireActiveRecoveryAttempt_ok hactive
  exact hok ⟨row', hrow, hphase, hname, htoken⟩ ⟨latest, hlatest, hsame.trans (Option.some.inj hid).symm, hrecovering⟩

/-- What an authority that was found current knows of the lease, the batch and the attempt. -/
theorem along_authorityCurrent {Q : Except RecoveryError Unit → StoredWorld φ → Prop} {authority : RecoveryAuthority}
    (hok : (∃ t, OperationTime T authority.holder t ∧ leaseIsCurrent w.journal.leases authority.holder.lease t = true) →
      (∃ row, w.journal.batchRow authority.batchId = some row ∧ row.phase = .recovering ∧
        row.leaseName = authority.holder.lease.name ∧
          row.leaseFencingToken = authority.holder.lease.fencingToken) →
      (∃ latest, w.journal.latestRecoveryRow authority.batchId = some latest ∧
        latest.recoveryId = authority.recoveryAttemptId ∧ latest.phase = .recovering) → Q (.ok ()) w)
    (herror : ∀ e, e.isAccess = true → Q (.error e) w) :
    Along (ClockShows (ω := ω) T) R Q authority.requireCurrent w := by
  refine along_bind (along_atOperationTime hR fun t ht => ?_)
  refine along_bind (along_requireCurrent hR (fun t' ht' hcurrent => ?_) herror)
  obtain rfl : t = t' := by
    rcases ht' with h | ⟨h, -⟩
    · exact Option.some.inj h
    · cases h
  exact along_requireActiveAttempt hR (fun hbatch hattempt => hok ⟨t, ht, hcurrent⟩ hbatch hattempt) herror

/-- An action may be worked on where the authority of the context is current for it. -/
theorem along_requireRecoveryActionAuthority {Q : Except RecoveryError Unit → StoredWorld φ → Prop} {ctx : StoredContext}
    {action : RecoveryActionRow Mapping}
    (hok : ∀ authority, ctx.recoveryAuthority = some authority →
      some authority.recoveryAttemptId = ctx.recoveryAttemptId → action.batchId = ctx.batch.batchId →
      AuthorityCurrent T authority action.actionId w.journal → Q (.ok ()) w)
    (herror : ∀ e, e.isRefused = true → Q (.error e) w) :
    Along (ClockShows (ω := ω) T) R Q (requireRecoveryActionAuthority ctx action) w := by
  have haccess : ∀ e : RecoveryError, e.isAccess = true → Q (.error e) w := fun e he =>
    herror e (by cases e <;> first | rfl | exact he)
  unfold requireRecoveryActionAuthority
  cases hauthority : ctx.recoveryAuthority with
  | none => exact herror _ rfl
  | some authority =>
    refine along_bind (along_authorityCurrent hR (fun _ _ _ => ?_) haccess)
    cases hattempt : ctx.recoveryAttemptId with
    | none => exact herror _ rfl
    | some attemptId =>
      show Along _ R Q (if _ then _ else _) w
      by_cases hsame : authority.recoveryAttemptId ≠ attemptId
      · rw [if_pos hsame]
        exact herror _ rfl
      rw [if_neg hsame]
      by_cases hof : action.batchId ≠ ctx.batch.batchId ∨ action.recoveryAttemptId ≠ attemptId
      · rw [if_pos hof]
        exact herror _ rfl
      rw [if_neg hof]
      refine along_bind (along_authorityCurrent hR (fun _ _ _ => ?_) haccess)
      refine along_bind (along_authorityCurrent hR (fun hlease hbatch hlatest => ?_) haccess)
      refine along_journalRead hR (fun _ _ _ hattempting => ?_) haccess
      refine hok authority hauthority ?_ ?_ ⟨hlease, hbatch, hlatest, hattempting⟩
      · rw [hattempt, not_not.1 hsame]
      · exact not_not.1 fun h => hof (Or.inl h)

theorem along_transitionAction {Q : Except RecoveryError (RecoveryActionRow Mapping) → StoredWorld φ → Prop}
    {h : LeaseHolder} {b a id : String} {status : RecoveryActionStatus} {reason : Option String} {payload : Mapping}
    (hstatus : status ≠ .planned)
    (hok : ∀ r db, Kept w.journal db → db.recoveryActions = w.journal.recoveryActions ++ [r] → r.batchId = b →
      r.recoveryAttemptId = a → r.actionId = id → r.status = status →
      (∃ e ∈ w.journal.recoveryActions, e.recoveryAttemptId = a ∧ e.actionId = id ∧ r.actionType = e.actionType) →
      Q (.ok r) { w with journal := db })
    (herror : ∀ e, e.isAccess = true → Q (.error e) w) :
    Along (ClockShows (ω := ω) T) R Q (transitionAction h b a id status reason payload) w := by
  refine along_transaction hR (fun i r db _ hrun => ?_) herror
  obtain ⟨hkept, hadded, hbatch, hattempt, hid, hstatus, htype⟩ := kept_transitionRecoveryAction hstatus hrun
  exact ⟨hkept, hok r db hkept hadded hbatch hattempt hid hstatus htype⟩

theorem along_heartbeatOnce {Q : Except RecoveryError Unit → StoredWorld φ → Prop} {h : LeaseHolder}
    (hok : ∀ db, Kept w.journal db → Q (.ok ()) { w with journal := db })
    (herror : ∀ e, e.isAccess = true → Q (.error e) w) : Along (ClockShows (ω := ω) T) R Q (heartbeatOnce h) w := by
  refine along_call fun i _ => ?_
  cases i.fault with
  | some fault => exact ⟨hR _ _ .refl, herror _ rfl⟩
  | none =>
    cases heartbeat w.journal.leases h.lease h.lease.ttl (operationTime h i) with
    | error e => exact ⟨hR _ _ .refl, herror _ (isAccess_heartbeatRaised e)⟩
    | ok renewed =>
      obtain ⟨record, leases⟩ := renewed
      cases record with
      | none => exact ⟨hR _ _ .refl, herror _ rfl⟩
      | some record =>
        have hkept : Kept w.journal { w.journal with leases := leases } :=
          ⟨rfl, rfl, ⟨[], (List.append_nil _).symm⟩, fun _ r hr => ⟨r, hr, rfl⟩⟩
        exact ⟨hR _ _ ⟨rfl, rfl, hkept⟩, hok _ hkept⟩

theorem along_withLeaseHeartbeat {enabled : Bool} {h : LeaseHolder} {handler : StoredOp φ ω α}
    (hhandler : ∀ w', Quiet w w' → Along (ClockShows T) R
      (fun r w' => Q r w' ∧ ∀ a, r = .ok a → ∀ e, e.isAccess = true → Q (.error e) w') handler w')
    (herror : ∀ e, e.isAccess = true → Q (.error e) w) :
    Along (ClockShows T) R Q (withLeaseHeartbeat enabled h handler) w := by
  unfold withLeaseHeartbeat
  by_cases hoff : enabled = false ∨ h.lease.ttl ≤ 0
  · rw [if_pos hoff]
    exact along_mono (fun _ _ hs => hs) (fun _ _ hQ => hQ.1) (hhandler w .refl)
  rw [if_neg hoff]
  refine along_bind (along_heartbeatOnce hR (fun db hkept => ?_) herror)
  refine along_bind (along_mono (fun _ _ hs => hs) ?_ (hhandler _ ⟨rfl, rfl, hkept⟩))
  intro r w' hQ
  cases r with
  | error e => exact hQ.1
  | ok a =>
    refine along_bind (along_journalRead hR (fun _ _ _ _ => hQ.1) fun e he => ?_)
    exact hQ.2 a rfl e he

end Rules

/-! ## How an action ends -/

/-- The status an action ends in, by what its handler raised. -/
def endOf : RecoveryError → RecoveryActionStatus
  | .skipped .. => .skipped
  | .manual .. => .manualInterventionRequired
  | _ => .failed

/-- What is known where a run of an action finishes: it had ended before; or it ended, by one of the errors `E`,
in the status recorded now; or nothing is recorded, and the run raises the error of a database, of the journal,
or of an action that is no longer the caller's. -/
inductive Conclusion {φ : Type} (E : RecoveryError → Prop) (ctx : StoredContext) (action : RecoveryActionRow Mapping) :
    Except RecoveryError (RecoveryActionRow Mapping) → StoredWorld φ → Prop
  | endedBefore {w} (h : isOpen action.status = false) : Conclusion E ctx action (.ok action) w
  | recorded {r w} (row : RecoveryActionRow Mapping) (e : RecoveryError) (hmem : row ∈ w.journal.recoveryActions)
      (hid : row.actionId = action.actionId) (hbatch : row.batchId = ctx.batch.batchId)
      (hattempt : some row.recoveryAttemptId = ctx.recoveryAttemptId) (he : E e) (hstatus : row.status = endOf e) :
      Conclusion E ctx action r w
  | refused {w} (e : RecoveryError) (h : e.isAccess = true ∨ ctx.recoveryAttemptId = none ∨
      e = actionError ctx.batch.batchId action.actionId "is no longer active") : Conclusion E ctx action (.error e) w

/-- All records of the action have a type of `P`. -/
def OfType (P : String → Prop) (ctx : StoredContext) (action : RecoveryActionRow Mapping) (db : JournalDb Mapping) :
    Prop :=
  P action.actionType ∧ ∀ row ∈ db.recoveryActions, some row.recoveryAttemptId = ctx.recoveryAttemptId →
    row.actionId = action.actionId → P row.actionType

section Conclusions

open Program

variable {φ ω : Type} {T : DateTime → Prop} {R : StoredWorld φ → StoredWorld φ → Prop} {E : RecoveryError → Prop}
  {ctx : StoredContext} {action : RecoveryActionRow Mapping} {a : String} {w : StoredWorld φ} {h : LeaseHolder}

variable (hR : ∀ w w', Quiet w w' → R w w')

include hR

variable (action) in
/-- The record of an end, or the refusal of it. -/
theorem along_recordEnd {status : RecoveryActionStatus} {reason : Option String} {payload : Mapping} {e : RecoveryError}
    (ha : ctx.recoveryAttemptId = some a) (he : E e) (hstatus : status = endOf e) :
    Along (ClockShows (ω := ω) T) R
      (fun r w' => match r with
        | .ok _ => ∀ r', Conclusion E ctx action r' w'
        | .error e => e.isAccess = true)
      (transitionAction h ctx.batch.batchId a action.actionId status reason payload) w := by
  have hplanned : status ≠ .planned := by
    rw [hstatus]
    cases e <;> intro heq <;> cases heq
  refine along_transitionAction hR hplanned (fun r db _ hadded hbatch hattempt hid hr _ => ?_) fun e he => he
  intro r'
  refine .recorded r e ?_ hid hbatch (by rw [hattempt, ha]) he (hr.trans hstatus)
  show r ∈ db.recoveryActions
  rw [hadded]
  exact List.mem_append_right _ List.mem_cons_self

theorem along_leaveToIntervention {reason : String} {payload : Mapping} (ha : ctx.recoveryAttemptId = some a)
    (hE : ∀ m p, E (.manual m p)) :
    Along (ClockShows (ω := ω) T) R (Conclusion E ctx action)
      (leaveToIntervention h ctx.batch.batchId a action.actionId reason payload) w := by
  refine along_bind (along_mono (fun _ _ hs => hs) ?_
    (along_recordEnd action hR ha (hE reason payload) rfl))
  intro r w' hr
  cases r with
  | ok _ => exact hr _
  | error e => exact .refused e (Or.inl hr)

/-- What is recorded of a handler that raised. -/
theorem along_actionRaised {source : RecoveryActionRow Mapping} {e : RecoveryError} (ha : ctx.recoveryAttemptId = some a)
    (he : E e) (hE : ∀ m p, E (.manual m p)) :
    Along (ClockShows (ω := ω) T) R (Conclusion E ctx action)
      (actionRaised h ctx.batch.batchId a action.actionId source e) w := by
  have hfailed : ∀ e : RecoveryError, E e → endOf e = .failed → Along (ClockShows (ω := ω) T) R (Conclusion E ctx action)
      (if e.losesAuthority then .raise (actionError ctx.batch.batchId action.actionId "is no longer active")
      else do
        let _ ← transitionAction h ctx.batch.batchId a action.actionId .failed (some e.text)
          (actionStatusPayload source "failed" (some e.text) none (some e))
        .raise (actionError ctx.batch.batchId action.actionId "failed")) w := by
    intro e he hend
    by_cases hlost : e.losesAuthority = true
    · rw [if_pos hlost]
      exact .refused _ (Or.inr (Or.inr rfl))
    rw [if_neg hlost]
    refine along_bind (along_mono (fun _ _ hs => hs) ?_
      (along_recordEnd action hR ha he hend.symm))
    intro r w' hr
    cases r with
    | ok _ => exact hr _
    | error e => exact .refused e (Or.inl hr)
  cases e with
  | skipped reason p =>
    refine along_mono (fun _ _ hs => hs) ?_ (along_recordEnd action hR ha he rfl)
    intro r w' hr
    cases r with
    | ok _ => exact hr _
    | error e => exact .refused e (Or.inl hr)
  | manual reason p => exact along_leaveToIntervention hR ha hE
  | journal e => exact hfailed (.journal e) he rfl
  | fileNotFound p => exact hfailed (.fileNotFound p) he rfl
  | fileExists p => exact hfailed (.fileExists p) he rfl
  | unsafePath m => exact hfailed (.unsafePath m) he rfl
  | unsupportedMutation m => exact hfailed (.unsupportedMutation m) he rfl
  | recovery m b => exact hfailed (.recovery m b) he rfl
  | other name m => exact hfailed (.other name m) he rfl

end Conclusions

theorem Conclusion.mono {φ : Type} {E E' : RecoveryError → Prop} {ctx : StoredContext}
    {action : RecoveryActionRow Mapping} {r : Except RecoveryError (RecoveryActionRow Mapping)} {w : StoredWorld φ}
    (hE : ∀ e, E e → E' e) (h : Conclusion E ctx action r w) : Conclusion E' ctx action r w := by
  cases h with
  | endedBefore h => exact .endedBefore h
  | recorded row e hmem hid hbatch hattempt he hstatus => exact .recorded row e hmem hid hbatch hattempt (hE e he) hstatus
  | refused e h => exact .refused e h

/-- The record an action is run by is one of the action. -/
theorem actionPayloadSource_actionId (ctx : StoredContext) (action : RecoveryActionRow Mapping) :
    (actionPayloadSource ctx action).actionId = action.actionId := by
  dsimp only [actionPayloadSource]
  have hmem : ∀ r ∈ ctx.recoveryActions.filter fun a =>
      a.recoveryAttemptId = action.recoveryAttemptId ∧ a.actionId = action.actionId, r.actionId = action.actionId :=
    fun r hr => (of_decide_eq_true (List.mem_filter.1 hr).2).2
  cases hfind : (ctx.recoveryActions.filter fun a =>
      a.recoveryAttemptId = action.recoveryAttemptId ∧ a.actionId = action.actionId).find?
        fun a => a.status = .planned with
  | some r => exact hmem r (List.mem_of_find?_eq_some hfind)
  | none =>
    rw [Option.none_or]
    cases hlast : (ctx.recoveryActions.filter fun a =>
        a.recoveryAttemptId = action.recoveryAttemptId ∧ a.actionId = action.actionId).getLast? with
    | none => rfl
    | some r => exact hmem r (List.mem_of_getLast? hlast)

section RunnerRule

open Program

variable {φ ω : Type} {T : DateTime → Prop} {R : StoredWorld φ → StoredWorld φ → Prop} {E : RecoveryError → Prop}
  {A : ActionRunner φ ω} {ctx : StoredContext} {action : RecoveryActionRow Mapping} {a : String} {h : LeaseHolder}
  {calls : List DiskCall}

/-- A part of a run that leaves the disk alone. -/
theorem along_quietly {α : Type} {Q : Except RecoveryError α → StoredWorld φ → Prop} {p : StoredOp φ ω α}
    {w : StoredWorld φ} (hR : ∀ w w', Quiet w w' → R w w') (hp : Along (ClockShows T) Quiet Q p w) :
    Along (ClockShows T) R (fun r w' => Q r w' ∧ Quiet w w') p w :=
  along_mono hR (fun _ _ hQ => hQ) (along_track (R := Quiet) (fun h₁ h₂ => h₁.trans h₂) .refl hp)

/-- What a handler comes to where it made no call: an error of `E`. -/
def Uncalled (E : RecoveryError → Prop) (calls : List DiskCall) {α : Type} (r : Except RecoveryError α)
    (w : StoredWorld φ) : Prop := w.calls = calls → ∃ e, r = .error e ∧ E e

variable (calls) in
/-- The handler between the checks of its authority. -/
theorem along_runHandler {handler : StoredOp φ ω Mapping} {w : StoredWorld φ} (hR : ∀ w w', Quiet w w' → R w w')
    (hE : ∀ e, e.isRefused = true → E e)
    (hhandler : ∀ w', Quiet w w' → Along (ClockShows T) R (Uncalled E calls) handler w') :
    Along (ClockShows T) R (Uncalled E calls) (runHandler A h ctx a action handler) w := by
  have haccess : ∀ (e : RecoveryError), e.isAccess = true → ∀ w' : StoredWorld φ,
      Uncalled E calls (.error e : Except RecoveryError Mapping) w' := fun e he _ _ =>
    ⟨e, rfl, hE e (by cases e <;> first | rfl | exact he)⟩
  refine along_bind (along_requireActiveAttempt hR (fun _ _ => ?_) fun e he => haccess e he w)
  refine along_withLeaseHeartbeat hR (fun w' hw' => ?_) fun e he => haccess e he w
  refine along_bind (along_requireRecoveryActionAuthority hR (fun _ _ _ _ _ => ?_) fun e he => ?_)
  · refine along_bind (along_mono (fun _ _ hs => hs) ?_ (hhandler w' hw'))
    intro r w'' hr
    cases r with
    | error e => exact ⟨hr, fun _ ha => by cases ha⟩
    | ok result =>
      -- a handler that returns has made its call, so nothing is left to show
      have hcalled : w''.calls ≠ calls := fun heq => by
        obtain ⟨e, he, -⟩ := hr heq
        cases he
      refine along_bind (along_requireRecoveryActionAuthority hR (fun _ _ _ _ _ => ?_) fun e _ => ?_)
      · exact ⟨fun heq => absurd heq hcalled, fun _ _ e he => haccess e he w''⟩
      · exact ⟨fun heq => absurd heq hcalled, fun _ ha => by cases ha⟩
  · exact ⟨fun _ => ⟨e, rfl, hE e he⟩, fun _ ha => by cases ha⟩

/-- What follows a handler leaves the disk alone and records what it came to. -/
theorem along_finishAction {source : RecoveryActionRow Mapping} {result : Except RecoveryError Mapping}
    {w : StoredWorld φ} (hR : ∀ w w', Quiet w w' → R w w') (hE : ∀ m p, E (.manual m p))
    (ha : ctx.recoveryAttemptId = some a) (hresult : Uncalled E calls result w) :
    Along (ClockShows T) R (fun r w' => w'.calls = calls → Conclusion E ctx action r w')
      (finishAction h ctx.batch.batchId a action.actionId source result : StoredOp φ ω _) w := by
  cases result with
  | error e =>
    have hraised : Along (ClockShows (ω := ω) T) Quiet (Conclusion (fun e => w.calls = calls → E e) ctx action)
        (actionRaised h ctx.batch.batchId a action.actionId source e) w := along_actionRaised (fun _ _ hq => hq) ha
      (fun heq => by
        obtain ⟨e', he', hE'⟩ := hresult heq
        cases he'
        exact hE')
      (fun m p _ => hE m p)
    refine along_mono (fun _ _ hs => hs) ?_ (along_quietly hR hraised)
    intro r w' hr heq
    exact hr.1.mono fun e he => he (hr.2.calls.symm.trans heq)
  | ok _ =>
    have hcalled : w.calls ≠ calls := fun heq => by
      obtain ⟨e, he, -⟩ := hresult heq
      cases he
    have hquiet : Along (ClockShows T) Quiet (fun _ _ => True)
        (finishAction h ctx.batch.batchId a action.actionId source (.ok ‹_›) : StoredOp φ ω _) w := by
      have hsame : ∀ w w' : StoredWorld φ, Quiet w w' → Quiet w w' := fun _ _ hq => hq
      refine along_bind (along_atOperationTime hsame fun _ _ => ?_)
      refine along_bind (along_requireCurrent hsame (fun _ _ _ => ?_) fun _ _ => trivial)
      exact along_transitionAction hsame (by decide) (fun _ _ _ _ _ _ _ _ _ => trivial) fun _ _ => trivial
    refine along_mono (fun _ _ hs => hs) ?_ (along_quietly hR hquiet)
    intro r w' hr heq
    exact absurd (hr.2.calls.symm.trans heq) hcalled

/-- Calls are only added to, and without one the disk stays as it is. -/
def Calls (w w' : StoredWorld φ) : Prop := ∃ more, w'.calls = w.calls ++ more ∧ (more = [] → w'.fs = w.fs)

theorem Quiet.calls_none {w w' : StoredWorld φ} (h : Quiet w w') : Calls w w' :=
  ⟨[], by rw [h.calls, List.append_nil], fun _ => h.fs⟩

theorem Calls.trans {w₁ w₂ w₃ : StoredWorld φ} (h₁ : Calls w₁ w₂) (h₂ : Calls w₂ w₃) : Calls w₁ w₃ := by
  obtain ⟨more₁, hcalls₁, hfs₁⟩ := h₁
  obtain ⟨more₂, hcalls₂, hfs₂⟩ := h₂
  refine ⟨more₁ ++ more₂, by rw [hcalls₂, hcalls₁, List.append_assoc], fun hnone => ?_⟩
  obtain ⟨hnone₁, hnone₂⟩ := List.append_eq_nil_iff.1 hnone
  rw [hfs₂ hnone₂, hfs₁ hnone₁]

/-- Where no call was made, the disk is as it was. -/
theorem Calls.fs {w w' : StoredWorld φ} (h : Calls w w') (hcalls : w'.calls = w.calls) : w'.fs = w.fs := by
  obtain ⟨more, hmore, hfs⟩ := h
  refine hfs ((List.append_right_inj w.calls).mp ?_)
  rw [← hmore, hcalls, List.append_nil]

/-- The run of an action, but for the disk. -/
theorem along_runRecoveryAction_concludes {P : String → Prop} {w : StoredWorld φ} (hR : ∀ w w', Quiet w w' → R w w')
    (hE : ∀ e, e.isRefused = true → E e)
    (hhandler : ∀ type handler, P type → A.handlers type = some handler → ∀ source w', source.actionId = action.actionId →
      Quiet w w' → Along (ClockShows T) R (Uncalled E w.calls) (handler ctx source) w')
    (htype : OfType P ctx action w.journal) :
    Along (ClockShows T) R (fun r w' => w'.calls = w.calls → Conclusion E ctx action r w')
      (runRecoveryAction A h ctx action) w := by
  have hmanual : ∀ m p, E (.manual m p) := fun m p => hE _ rfl
  unfold runRecoveryAction
  cases hattempt : ctx.recoveryAttemptId with
  | none => exact fun _ => .refused _ (Or.inr (Or.inl hattempt))
  | some attemptId =>
    show Along _ R _ (if _ then _ else _) w
    by_cases hopen : isOpen action.status = false
    · rw [if_pos hopen]
      exact fun _ => .endedBefore hopen
    rw [if_neg hopen]
    refine along_bind (along_atOperationTime hR fun t _ => ?_)
    refine along_bind (along_requireCurrent hR (fun _ _ _ => ?_) fun e he _ => .refused e (Or.inl he))
    -- the action as it is run: of the same id, of a type the handlers are known for
    have hperform : ∀ current w', current.actionId = action.actionId → P current.actionType → Quiet w w' →
        Along (ClockShows T) R (fun r w'' => w''.calls = w.calls → Conclusion E ctx action r w'')
          (performAction A h ctx attemptId current (actionPayloadSource ctx current)) w' := by
      intro current w' hid hP hquiet
      have hleave : ∀ reason payload, Along (ClockShows (ω := ω) T) R
          (fun r w'' => w''.calls = w.calls → Conclusion E ctx action r w'')
          (leaveToIntervention h ctx.batch.batchId attemptId current.actionId reason payload) w' := by
        intro reason payload
        rw [hid]
        have hleft : Along (ClockShows (ω := ω) T) R (Conclusion E ctx action)
            (leaveToIntervention h ctx.batch.batchId attemptId action.actionId reason payload) w' :=
          along_leaveToIntervention hR hattempt hmanual
        refine along_mono (fun _ _ hs => hs) ?_ hleft
        intro r w'' hc _
        exact hc
      unfold performAction
      dsimp only
      split
      · exact hleave _ _
      · split
        · exact hleave _ _
        · next handler hfound =>
          refine along_outcome_seq (along_runHandler w.calls hR hE fun w'' hw'' =>
            hhandler _ handler hP hfound _ w'' ((actionPayloadSource_actionId ctx current).trans hid)
              (hquiet.trans hw'')) fun result w'' hresult => ?_
          rw [hid]
          exact along_finishAction hR hmanual hattempt hresult
    by_cases hplanned : action.status = .planned
    · simp only [if_pos hplanned]
      refine along_bind (along_transitionAction hR (by decide) (fun r db hkept _ _ _ hid _ hfrom => ?_)
        fun e he _ => .refused e (Or.inl he))
      obtain ⟨e, hmem, heattempt, heid, hetype⟩ := hfrom
      exact hperform r _ hid (hetype ▸ htype.2 e hmem (by rw [heattempt, hattempt]) heid) ⟨rfl, rfl, hkept⟩
    · simp only [if_neg hplanned]
      exact hperform action w rfl htype.1 .refl

/-- A run of an action changes the disk by its handler alone. Where the handler made no call, what it raised
is what is recorded of the action, unless the journal refuses the record. -/
theorem along_runRecoveryAction {P : String → Prop} {w : StoredWorld φ} (hR : ∀ w w', Quiet w w' → R w w')
    (hcalls : ∀ w w', R w w' → Calls w w') (hE : ∀ e, e.isRefused = true → E e)
    (hhandler : ∀ type handler, P type → A.handlers type = some handler → ∀ source w', source.actionId = action.actionId →
      Quiet w w' → Along (ClockShows T) R (Uncalled E w.calls) (handler ctx source) w')
    (htype : OfType P ctx action w.journal) :
    Along (ClockShows T) R (fun r w' => w'.calls = w.calls → w'.fs = w.fs ∧ Conclusion E ctx action r w')
      (runRecoveryAction A h ctx action) w := by
  have hconcludes := along_runRecoveryAction_concludes (h := h) hR hE hhandler htype
  have htracked := along_track (R := Calls) (fun h₁ h₂ => h₁.trans h₂) Quiet.refl.calls_none
    (along_mono hcalls (fun _ _ hQ => hQ) hconcludes)
  refine along_mono (fun _ _ hs => hs.1) ?_ (along_and hconcludes htracked)
  intro r w' hr heq
  exact ⟨hr.2.2.fs heq, hr.1 heq⟩

end RunnerRule

end SafeFsOps.StoredRecovery
