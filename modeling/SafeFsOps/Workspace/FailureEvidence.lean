import SafeFsOps.OperationJournal.FileRollback
import SafeFsOps.OperationJournal.RecoveryWalk
import SafeFsOps.OperationJournal.StepRules
import SafeFsOps.Workspace.Replay

/-!
# Failure evidence across a crash

A file mutation that fails marks its batch failed and then puts it up for recovery, in
two transactions. The planner takes the failure from the key `failure` of the batch's
status or of a recovery record. A recovery record of the mutation has the key; the
status of a failed batch does not, it *is* the failure. So when the process is killed
between the two transactions, the failure is on record where no planner looks, and the
replay that puts the batch up again writes a status and a record without it.

> `failure_evidence`: the plan made after such a replay is the plan made without the
> crash exactly if the checkpoints carry the plan by themselves (`CarriedByCheckpoints`).

An abandoned batch in any other phase is looked at once more by the replay, and what
it sees is recorded under `failure`.
-/

namespace SafeFsOps

open Program

/-! ## What the failure adds to the checkpoints -/

section Planning

variable {checkpoints : List (CheckpointRow Payload)} {key : String} {path : Path} {intent : Intent}
  {f : FailurePayload}

/-- The snapshot shows what the mutation was expected to leave. -/
def provenAfter (checkpoints : List (CheckpointRow Payload)) (key : String) (path : Path) (s : ResourceSnapshot) :
    Bool :=
  ((latestCheckpoint checkpoints "expected_after" key path).map CheckpointRow.payload).any fun e =>
    matchesExpectedAfter s e path

/-- The snapshot shows what was there before, by the `before` checkpoint or by the backup. -/
def provenBefore (checkpoints : List (CheckpointRow Payload)) (key : String) (path : Path) (backup : FileBackup)
    (s : ResourceSnapshot) : Bool :=
  ((latestCheckpoint checkpoints "before" key path).bind fun c => c.payload.snapshot?).any
      (fun b => sameSnapshot b s path) || sameSnapshot backup.snapshot s path

/-- The checkpoints carry the plan by themselves: there is no backup and the failure names no
stage; or there is one, and an `after` checkpoint; or a `failure` checkpoint shows what was
expected, and the failure saw nothing else that was; or neither does, the failure names no
stage, and what it saw proves nothing. -/
@[irreducible] def CarriedByCheckpoints (checkpoints : List (CheckpointRow Payload)) (key : String) (path : Path)
    (f : FailurePayload) : Prop :=
  match (latestCheckpoint checkpoints "backup" key path).bind fun c => backupOf c path with
  | none => f.stage = none
  | some backup =>
    match (latestCheckpoint checkpoints "after" key path).bind fun c => c.payload.snapshot? with
    | some _ => True
    | none =>
      match ((latestCheckpoint checkpoints "failure" key path).bind fun c => c.payload.snapshot?).filter
          (provenAfter checkpoints key path) with
      | some s => ∀ o, f.after.or f.snapshot = some o → provenAfter checkpoints key path o = true → o = s
      | none => f.stage = none ∧
        (∀ o, f.after.or f.snapshot = some o → provenAfter checkpoints key path o = false) ∧
        ∀ s, f.snapshot = some s → (latestCheckpoint checkpoints "expected_after" key path).isSome = true →
          provenBefore checkpoints key path backup s = false

/-- Where a failure names no stage, it was not before the mutation. -/
theorem isBeforeMutation_of_stage (h : f.stage = none) : isBeforeMutation (some f) = false := by
  rw [isBeforeMutation, Option.any_some, h]
  rfl

/-- Without a failure only checkpoints tell what the mutation left. -/
theorem expectedCurrent_none
    (hafter : ((latestCheckpoint checkpoints "after" key path).bind fun c => c.payload.snapshot?) = none) :
    expectedCurrent checkpoints key path none =
      ((latestCheckpoint checkpoints "failure" key path).bind fun c => c.payload.snapshot?).filter
        (provenAfter checkpoints key path) := by
  simp only [expectedCurrent, hafter, failureObservedAfter, failureSnapshot, isBeforeMutation, Option.bind_none,
    Option.or_none, Option.filter_none, Option.none_or, Option.any_none, Bool.false_eq_true, if_false]
  rfl

/-- With one, what was seen at the failure comes first, and last what was seen before the mutation. -/
theorem expectedCurrent_some
    (hafter : ((latestCheckpoint checkpoints "after" key path).bind fun c => c.payload.snapshot?) = none) :
    expectedCurrent checkpoints key path (some f) =
      ((f.after.or f.snapshot).filter (provenAfter checkpoints key path)).or
        ((((latestCheckpoint checkpoints "failure" key path).bind fun c => c.payload.snapshot?).filter
          (provenAfter checkpoints key path)).or
        (if isBeforeMutation (some f) then f.snapshot.filter fun s => s.path = path else none)) := by
  simp only [expectedCurrent, hafter, failureObservedAfter, failureSnapshot, Option.bind_some]
  rfl

/-- Nothing that was done: the failure saw what was there before, of a mutation that was to leave something else. -/
theorem noSideEffectNoop_some {backup : FileBackup} :
    noSideEffectNoop checkpoints key path backup (some f) = true ↔ ∃ s, f.snapshot = some s ∧
      (latestCheckpoint checkpoints "expected_after" key path).isSome = true ∧
      provenBefore checkpoints key path backup s = true := by
  rw [noSideEffectNoop]
  cases hs : f.snapshot with
  | none => simp [failureSnapshot, hs]
  | some s => simp [failureSnapshot, hs, provenBefore]

/-- The plan without the failure is the plan with it exactly where the checkpoints carry it. -/
theorem planned_without_iff (hintent : intent.OfFile path) :
    fileRecoveryProofFromRecords (.intent intent) checkpoints (some key) none =
        fileRecoveryProofFromRecords (.intent intent) checkpoints (some key) (some f) ↔
      CarriedByCheckpoints checkpoints key path f := by
  rw [fileRecoveryProofFromRecords_eq hintent, fileRecoveryProofFromRecords_eq hintent, CarriedByCheckpoints]
  cases hbackup : (latestCheckpoint checkpoints "backup" key path).bind fun c => backupOf c path with
  | none =>
    have hno : beforeMutationNoop checkpoints key path none = false := rfl
    simp only [hno, Bool.false_eq_true, if_false]
    by_cases hnoop : beforeMutationNoop checkpoints key path (some f) = true
    · -- with the failure nothing is to be done, without it there is no proof
      have hstage : f.stage ≠ none := by
        intro h
        rw [beforeMutationNoop, isBeforeMutation_of_stage h] at hnoop
        cases hnoop
      simp [hnoop, hstage]
    · simp [hnoop, eq_comm]
  | some backup =>
    cases hafter : (latestCheckpoint checkpoints "after" key path).bind fun c => c.payload.snapshot? with
    | some after => simp only [expectedCurrent, hafter]
    | none =>
      simp only [expectedCurrent_none hafter, expectedCurrent_some hafter]
      have hno : noSideEffectNoop checkpoints key path backup none = false := rfl
      cases hfail : ((latestCheckpoint checkpoints "failure" key path).bind fun c => c.payload.snapshot?).filter
          (provenAfter checkpoints key path) with
      | some s =>
        cases hseen : (f.after.or f.snapshot).filter (provenAfter checkpoints key path) with
        | some o =>
          obtain ⟨ho, hproven⟩ := Option.filter_eq_some_iff.1 hseen
          simp only [Option.some_or, Option.some.injEq, FileProof.restore.injEq, true_and, ho]
          exact ⟨fun h o' ho' _ => ho' ▸ h.symm, fun h => (h o rfl hproven).symm⟩
        | none =>
          simp only [Option.none_or, Option.some_or, true_iff]
          intro o ho hproven
          rw [ho, Option.filter_some, if_pos hproven] at hseen
          cases hseen
      | none =>
        cases hseen : (f.after.or f.snapshot).filter (provenAfter checkpoints key path) with
        | some o =>
          obtain ⟨ho, hproven⟩ := Option.filter_eq_some_iff.1 hseen
          simp [ho, hproven, hno]
        | none =>
          have hunproven : ∀ o, f.after.or f.snapshot = some o → provenAfter checkpoints key path o = false := by
            intro o ho
            rw [ho, Option.filter_some] at hseen
            by_cases hproven : provenAfter checkpoints key path o = true
            · rw [if_pos hproven] at hseen
              cases hseen
            · exact Bool.eq_false_iff.2 hproven
          simp only [Option.none_or, hno, Bool.false_eq_true, if_false]
          cases hstage : f.stage with
          | none =>
            -- a failure without a stage is told from none by a plan to do nothing only
            simp only [isBeforeMutation_of_stage hstage, Bool.false_eq_true, if_false, true_and]
            by_cases hnoop : noSideEffectNoop checkpoints key path backup (some f) = true
            · obtain ⟨s, hs, hexpected, hbefore⟩ := noSideEffectNoop_some.1 hnoop
              rw [if_pos hnoop]
              refine ⟨(fun h => by cases Option.some.inj h), fun h => ?_⟩
              rw [h.2 s hs hexpected] at hbefore
              cases hbefore
            · rw [if_neg hnoop]
              refine ⟨fun _ => ⟨hunproven, fun s hs hexpected => ?_⟩, fun _ => by simp [hstage]⟩
              by_contra hbefore
              exact hnoop (noSideEffectNoop_some.2 ⟨s, hs, hexpected, Bool.eq_true_of_not_eq_false hbefore⟩)
          | some stage =>
            refine ⟨fun h => ?_, (fun h => by cases h.1)⟩
            split at h
            · cases h
            · split at h <;> simp [hstage] at h

end Planning

/-! ## The evidence the journal holds -/

/-- The latest failure under the key `failure` of a recovery record. -/
def JournalDb.recordedFailure (db : JournalDb Payload) (b : String) : Option FailurePayload :=
  (db.recoveryHistory b).reverse.findSome? fun r => r.payload.failure?

/-- `_file_recovery_proof` of the batch, from what the journal holds of it now. -/
def filePlan (db : JournalDb Payload) (b : String) : Except JournalError (Option FileProof) :=
  (readRecoveryContext db b).map fileRecoveryProof

/-- What a journal holds of a failed mutation of a file: its intent, its checkpoints, and the
failure a planner finds. -/
structure EvidenceOf (intent : Intent) (key : String) (checkpoints : List (CheckpointRow Payload))
    (failure : Option FailurePayload) (b : String) (db : JournalDb Payload) : Prop where
  numbered : Numbered db
  row : ∃ r, db.batchRow b = some r ∧ r.payload = .intent intent ∧ r.resourceKey = some key ∧
    (r.statusPayload.failure? = none ∨ r.statusPayload.failure? = failure)
  attempt : db.phaseOf b = some .recovering → ∃ x ∈ db.recoveryHistory b, x.phase = .recovering
  checkpoints : db.listCheckpoints b = checkpoints
  failure : db.recordedFailure b = failure

/-- A call of others: it names another batch, or none. -/
def JournalCall.Spares {π : Type} (b : String) : JournalCall π → Prop
  | .write w _ => w.batch ≠ some b
  | _ => True

section Evidence

variable {intent : Intent} {key b : String} {checkpoints : List (CheckpointRow Payload)}
  {failure : Option FailurePayload} {db d d' : JournalDb Payload} {ctx : WriteContext} {row : BatchRow Payload}

theorem recordedFailure_append {x : RecoveryRow Payload} (h : d.recoveryHistory b = db.recoveryHistory b ++ [x]) :
    d.recordedFailure b = x.payload.failure?.or (db.recordedFailure b) := by
  rw [JournalDb.recordedFailure, h, List.reverse_append, List.reverse_singleton, List.singleton_append,
    List.findSome?_cons]
  cases x.payload.failure? with
  | none => rfl
  | some f => rfl

/-- A handoff puts no failure on record. -/
theorem requireBatchForRecoveryWrite_failure {phase : BatchPhase} {taken : Bool}
    (h : requireBatchForRecoveryWrite db b phase ctx = .ok (row, taken, d)) :
    d.recordedFailure b = db.recordedFailure b := by
  simp only [requireBatchForRecoveryWrite, bind_eq_ok, require_eq_ok] at h
  obtain ⟨_, -, r, hrow, _, -, h⟩ := h
  have hkey : r.batchId = b := findRow_key (requireBatchRow_ok hrow)
  subst hkey
  split at h
  · simp only [pure_eq_ok, Prod.mk.injEq] at h
    obtain ⟨-, -, rfl⟩ := h
    rfl
  · split at h
    · simp only [bind_eq_ok, pure_eq_ok, Prod.mk.injEq] at h
      obtain ⟨_, hhand, _, -, -, -, rfl⟩ := h
      exact recordedFailure_append (insertRecovery_history rfl hhand)
    · split at h <;> cases h

/-- The plan depends on nothing but the evidence. -/
theorem EvidenceOf.filePlan (h : EvidenceOf intent key checkpoints failure b db) :
    filePlan db b = .ok (fileRecoveryProofFromRecords (.intent intent) checkpoints (some key) failure) := by
  obtain ⟨r, hr, hpayload, hkey, hstatus⟩ := h.row
  have hattempt : r.phase = .recovering → db.latestRecoveringRecoveryRow b ≠ none := by
    intro hphase hnone
    obtain ⟨x, hx, hxphase⟩ := h.attempt (by rw [phaseOf_of_batchRow hr, hphase])
    obtain ⟨hmem, hb⟩ := List.mem_filter.1 hx
    rw [JournalDb.latestRecoveringRecoveryRow, latestRow_eq_none, List.filter_eq_nil_iff] at hnone
    exact hnone x hmem (decide_eq_true ⟨of_decide_eq_true hb, hxphase⟩)
  obtain ⟨ctx, hctx⟩ : ∃ ctx, readRecoveryContext db b = .ok ctx := by
    unfold readRecoveryContext readBatchRecords
    rw [hr]
    refine ⟨_, bind_eq_ok.2 ⟨(), require_eq_ok.2 fun hphase => ?_, rfl⟩⟩
    have hphase : r.phase = .recovering := hphase
    show (if r.phase = .recovering then db.latestRecoveringRecoveryRow b else none) ≠ none
    rw [if_pos hphase]
    exact hattempt hphase
  obtain ⟨hbatch, hcheckpoints, hrecords⟩ := readRecoveryContext_eq_ok hctx
  rw [hr] at hbatch
  obtain rfl : r = ctx.batch := Option.some.inj hbatch
  have hfailure : ctx.latestFailure = failure := by
    have hlisted : ctx.recoveryRecords = db.recoveryHistory b := hrecords.trans (h.numbered.listRecoveryRecords b)
    have hfound : (ctx.recoveryRecords.reverse.findSome? fun r => r.payload.failure?) = failure := by
      rw [hlisted]
      exact h.failure
    rw [RecoveryContext.latestFailure, hfound]
    rcases hstatus with hstatus | hstatus <;> rw [hstatus]
    · rfl
    · cases failure <;> rfl
  rw [SafeFsOps.filePlan, hctx]
  show Except.ok (fileRecoveryProof ctx) = _
  rw [fileRecoveryProof_eq hpayload hkey, hcheckpoints, h.checkpoints, hfailure]

/-- A call of others leaves the evidence as it is. -/
theorem EvidenceOf.others (h : EvidenceOf intent key checkpoints failure b db) {c : JournalCall Payload}
    (hc : c.Spares b) : EvidenceOf intent key checkpoints failure b (db.step c) := by
  have hnumbered := numbered_step db c h.numbered
  have same : ∀ {d : JournalDb Payload}, Numbered d → d.batchRow b = db.batchRow b →
      d.recoveryHistory b = db.recoveryHistory b → d.listCheckpoints b = db.listCheckpoints b →
      EvidenceOf intent key checkpoints failure b d := by
    intro d hd hrow hhistory hlist
    obtain ⟨r, hr, hrest⟩ := h.row
    refine ⟨hd, ⟨r, hrow.trans hr, hrest⟩, ?_, hlist.trans h.checkpoints, ?_⟩
    · rw [JournalDb.phaseOf, hrow, hhistory]
      exact h.attempt
    · rw [JournalDb.recordedFailure, hhistory]
      exact h.failure
  cases c with
  | lease c => exact same hnumbered rfl rfl rfl
  | operationRuns runs phases => exact same hnumbered rfl rfl rfl
  | write w ctx =>
    simp only [JournalDb.step] at hnumbered ⊢
    cases hrun : w.run db ctx with
    | error e => exact h
    | ok db' =>
      rw [hrun] at hnumbered
      cases hb : w.batch with
      | none =>
        obtain ⟨-, rfl | ⟨req, batchId, rfl, -⟩⟩ := run_create hb hrun
        · exact h
        · refine same hnumbered ?_ rfl rfl
          obtain ⟨r, hr, -⟩ := h.row
          rw [JournalDb.batchRow, findRow_append_one, show findRow BatchRow.batchId db.batches b = some r from hr, hr]
          rfl
      | some b' =>
        have hne : b ≠ b' := fun heq => hc (heq ▸ hb)
        have hadv := run_advances hb hrun
        refine same hnumbered (hadv.other b hne) (hadv.recoveryHistory_other hne) ?_
        rcases run_writes hb hrun with hw | rfl
        · rw [hnumbered.listCheckpoints, h.numbered.listCheckpoints]
          exact hw.rows_other hne .checkpoints
        · rfl

theorem EvidenceOf.after_others (h : EvidenceOf intent key checkpoints failure b db) :
    ∀ {calls : List (JournalCall Payload)}, (∀ c ∈ calls, c.Spares b) →
      EvidenceOf intent key checkpoints failure b (after JournalDb.step db calls) := by
  intro calls
  induction calls generalizing db with
  | nil => intro _; exact h
  | cons c calls ih =>
    intro hcalls
    exact ih (h.others (hcalls c List.mem_cons_self)) fun x hx => hcalls x (List.mem_cons_of_mem _ hx)

/-- A recovery record puts its failure, if it has one, before what was on record. -/
theorem EvidenceOf.recovery (h : EvidenceOf intent key checkpoints failure b db) {phase : BatchPhase} {taken : Bool}
    {note : RecoveryNote Payload} {x : RecoveryRow Payload}
    (hguard : requireBatchForRecoveryWrite db b phase ctx = .ok (row, taken, d))
    (hwrite : writeRecovery d b phase note id ctx = .ok (x, d')) :
    EvidenceOf intent key checkpoints ((payloadToJson note.payload).failure?.or failure) b d' := by
  obtain ⟨-, hadv, hrow, -⟩ := requireBatchForRecoveryWrite_ok hguard
  obtain ⟨last, hw⟩ := requireBatchForRecoveryWrite_writes (W := true) (K := [.recoveries]) List.mem_cons_self hguard
  have hw' := writeRecovery_writes hw List.mem_cons_self hwrite KeepsBatch.id fun r _ => Or.inl rfl
  have hrow' := writeRecovery_row hwrite KeepsBatch.id hrow
  obtain ⟨hxphase, hhistory⟩ := writeRecovery_history hwrite
  refine ⟨hw'.numbered h.numbered, ?_, ?_, ?_, ?_⟩
  · obtain ⟨r, hr, hpayload, hkey, -⟩ := h.row
    obtain ⟨r', hr', hc, -⟩ := hadv.row r hr
    rw [hrow] at hr'
    obtain rfl : row = r' := Option.some.inj hr'
    refine ⟨_, hrow', ?_, ?_, ?_⟩
    · exact (BatchRow.column_eq (f := BatchRow.payload) (fun _ => rfl) hc).trans hpayload
    · exact (BatchRow.column_eq (f := BatchRow.resourceKey) (fun _ => rfl) hc).trans hkey
    · show (payloadToJson note.payload).failure? = none ∨ (payloadToJson note.payload).failure? = _
      cases (payloadToJson note.payload).failure? with
      | none => exact Or.inl rfl
      | some f => exact Or.inr rfl
  · intro hphase
    rw [phaseOf_of_batchRow hrow'] at hphase
    refine ⟨x, ?_, hxphase.trans (Option.some.inj hphase)⟩
    rw [hhistory]
    exact List.mem_append_right _ (List.mem_singleton.2 rfl)
  · have hkept : d'.checkpoints = db.checkpoints := hw'.rows_eq (T := .checkpoints) (by decide)
    rw [JournalDb.listCheckpoints, hkept]
    exact h.checkpoints
  · have hpayload : x.payload = payloadToJson note.payload := by
      simp only [writeRecovery, bind_eq_ok, pure_eq_ok, Prod.mk.injEq] at hwrite
      obtain ⟨_, -, rfl, -⟩ := hwrite
      rfl
    rw [recordedFailure_append hhistory, requireBatchForRecoveryWrite_failure hguard, h.failure, hpayload]

theorem EvidenceOf.recoveryDesired (h : EvidenceOf intent key checkpoints failure b db)
    {note : RecoveryNote Payload} {x : RecoveryRow Payload} (hrun : recordRecoveryDesired db b note ctx = .ok (x, d)) :
    EvidenceOf intent key checkpoints ((payloadToJson note.payload).failure?.or failure) b d := by
  simp only [recordRecoveryDesired, recordRecoveryPhase, bind_eq_ok] at hrun
  obtain ⟨_, -, ⟨row, taken, db₁⟩, hguard, _, -, _, -, hwrite⟩ := hrun
  exact h.recovery hguard hwrite

/-- The database when the plan is made: once the batch is put up, or once the recovery has started. -/
def Pursued (b : String) (db d : JournalDb Payload) : Prop :=
  d = db ∨ ∃ ctx row record,
    startRecovery db b ⟨some "recovery callback started", some (.recoveryStarted b), none⟩ ctx = .ok (row, record, d)

/-- Starting the recovery is no news of the failure. -/
theorem EvidenceOf.pursued (h : EvidenceOf intent key checkpoints failure b db) (hd : Pursued b db d) :
    EvidenceOf intent key checkpoints failure b d := by
  obtain rfl | ⟨ctx, row, record, hstart⟩ := hd
  · exact h
  · simp only [startRecovery, bind_eq_ok, pure_eq_ok, Prod.mk.injEq] at hstart
    obtain ⟨_, -, ⟨row₀, taken, db₁⟩, hguard, _, -, ⟨record₀, db₂⟩, hwrite, _, -, -, -, rfl⟩ := hstart
    exact h.recovery hguard hwrite

/-- Marking the batch failed leaves its failure in the status, where no planner looks. -/
theorem evidenceOf_markFailed {error : String} {f : FailurePayload} (hdb : RecoveryAgrees db)
    (hmark : markFailed db b error (some (.failed f)) ctx = .ok (row, d)) (hpayload : row.payload = .intent intent)
    (hkey : row.resourceKey = some key) :
    d.batchRow b = some row ∧ row.phase = .failed ∧ EvidenceOf intent key (d.listCheckpoints b) none b d := by
  have hrun : (JournalWrite.markFailed b error (some (.failed f))).run db ctx = .ok d := by
    simp only [JournalWrite.run, hmark, Except.map]
  have hd : RecoveryAgrees d := by
    have hstep := recoveryAgrees_step db (.write (.markFailed b error (some (.failed f))) ctx) hdb
    rw [JournalDb.step, hrun] at hstep
    exact hstep
  simp only [markFailed, transitionBatch, bind_eq_ok, pure_eq_ok, Prod.mk.injEq] at hmark
  obtain ⟨_, -, _, -, r, hguard, _, -, updated, hupdated, rfl, rfl⟩ := hmark
  have hrow := requireBatchRow_ok hupdated
  obtain ⟨-, hr, -⟩ := requireBatchForWrite_ok hguard
  have hset := hrow
  rw [batchRow_updateBatch (KeepsBatch.setPhase .failed (some error) _ ctx.now), if_pos rfl, hr] at hset
  obtain rfl := Option.some.inj hset
  have hnil := (hd.history b _ (phaseOf_of_batchRow hrow)).eq_nil rfl
  refine ⟨hrow, rfl, hd.numbered, ⟨_, hrow, hpayload, hkey, Or.inl rfl⟩, ?_, rfl, ?_⟩
  · rw [phaseOf_of_batchRow hrow]
    intro hphase
    cases hphase
  · rw [JournalDb.recordedFailure, hnil]
    rfl

end Evidence

/-! ## The two ways to a plan -/

section Routes

variable {φ ω : Type} {w w' : World φ} {h : LeaseHolder} {inputs rest : List (Sample ω)}

theorem exec_recordRecoveryDesiredStep {b reason : String} {payload : Payload} {x : RecoveryRow Payload}
    (hrun : (recordRecoveryDesiredStep h b reason payload).exec w inputs = (some (.ok x, rest), w')) :
    ∃ ctx, recordRecoveryDesired w.journal b ⟨some reason, some payload, none⟩ ctx = .ok (x, w'.journal) :=
  exec_journalWrite hrun

/-- The replay of a failed batch is a request for its recovery without a failure. -/
theorem exec_prepareReplayBatch {C : Coordinator φ ω} {row row' : BatchRow Payload} (hphase : row.phase = .failed)
    (hrun : (prepareReplayBatch C h row).exec w inputs = (some (.ok row', rest), w')) :
    ∃ ctx x, recordRecoveryDesired w.journal row.batchId ⟨some "workspace recovery replay",
      some (.replay row.batchId row.runId row.phase none), none⟩ ctx = .ok (x, w'.journal) := by
  obtain ⟨_, mid, w₁, hmarked, hread⟩ := exec_bind_ok hrun
  obtain ⟨found, mid', w₂, hget, hanswer⟩ := exec_bind_ok hread
  obtain rfl : w₂ = w₁ := exec_databaseRead hget
  have hw : w' = w₂ := by
    cases found with
    | none => cases hanswer
    | some r =>
      cases hanswer
      rfl
  subst hw
  rw [markForReplay, hphase] at hmarked
  obtain ⟨x, mid'', w₃, hdesired, hret⟩ := exec_bind_ok hmarked
  cases hret
  obtain ⟨ctx, hctx⟩ := exec_recordRecoveryDesiredStep hdesired
  exact ⟨ctx, x, hphase ▸ hctx⟩

end Routes

/-- A write or deletion that failed, in any run of the journal, is marked failed with a failure `f`.
Once, the request for its recovery follows at once, with the same failure; once, the process is
killed before it, others go about their business, and the workspace's replay puts the failed batch
up. The plan made from there, before or after the recovery is started, is the same both times
exactly if the checkpoints carry it without the failure. -/
theorem failure_evidence {φ ω : Type} (C : Coordinator φ ω) (h h' : LeaseHolder)
    (calls others : List (JournalCall Payload)) (b error reason key : String) (ctx : WriteContext) (f : FailurePayload)
    (details : RecoveryDetails) (intent : Intent) (path : Path) (row row' : BatchRow Payload) (x : RecoveryRow Payload)
    (db d d' : JournalDb Payload) (w w₁ v v₁ : World φ) (inputs rest inputs' rest' : List (Sample ω))
    (hmark : markFailed (after JournalDb.step (JournalDb.init Payload) calls) b error (some (.failed f)) ctx =
      .ok (row, db))
    (hpayload : row.payload = .intent intent) (hfile : intent.OfFile path) (hkey : row.resourceKey = some key)
    (hw : w.journal = db) (hdetails : details.failure = some f)
    (hdirect : (recordRecoveryDesiredStep h b reason (.recovery details)).exec w inputs = (some (.ok x, rest), w₁))
    (hothers : ∀ c ∈ others, c.Spares b) (hv : v.journal = after JournalDb.step db others)
    (hreplay : (prepareReplayBatch C h' row).exec v inputs' = (some (.ok row', rest'), v₁))
    (hd : Pursued b w₁.journal d) (hd' : Pursued b v₁.journal d') :
    filePlan d' b = filePlan d b ↔ CarriedByCheckpoints (db.listCheckpoints b) key path f := by
  obtain ⟨hrow, hphase, hevidence⟩ := evidenceOf_markFailed (recoveryAgrees_after calls) hmark hpayload hkey
  obtain ⟨ctx₁, hdesired⟩ := exec_recordRecoveryDesiredStep hdirect
  have hwith : EvidenceOf intent key (db.listCheckpoints b) (some f) b d := by
    rw [hw] at hdesired
    have hput := hevidence.recoveryDesired hdesired
    rw [show (payloadToJson (some (Payload.recovery details))).failure? = some f from hdetails] at hput
    exact hput.pursued hd
  have hwithout : EvidenceOf intent key (db.listCheckpoints b) none b d' := by
    obtain ⟨ctx₂, x', hreplayed⟩ := exec_prepareReplayBatch hphase hreplay
    rw [hv, show row.batchId = b from findRow_key hrow] at hreplayed
    exact ((hevidence.after_others hothers).recoveryDesired hreplayed).pursued hd'
  rw [hwith.filePlan, hwithout.filePlan, Except.ok.injEq]
  exact planned_without_iff hfile

/-! ## A write that failed -/

private def today : DateTime := .soon 5
private def tomorrow : DateTime := .soon 100

private def ourLease : LeaseRecord := leaseFromRow "lease" ⟨"a", "t1", 1, today, today, tomorrow⟩ true true
private def replayLease : LeaseRecord :=
  leaseFromRow "lease" ⟨"b", "t2", 2, tomorrow, tomorrow, .soon 195⟩ true true

/-- Nothing there, and the file that was to be written. -/
private def nothing : ResourceSnapshot := ResourceSnapshot.missing ["f"]
private def writtenFile : ResourceSnapshot :=
  ⟨["f"], true, .file, some ⟨[1]⟩, some 1, some 0, none, some 1, some 1, some 0⟩

/-- The write failed, and this was seen then. -/
private def failedWrite (seen : ResourceSnapshot) : FailurePayload :=
  ⟨["f"], some "file:f", none, some "OSError", some "no space left", some seen, none, none⟩

/-- A new file is written, up to the checkpoint of the failure. -/
private def untilFailure (seen : ResourceSnapshot) : List (JournalCall Payload) :=
  let call (w : JournalWrite Payload) (n : String) : JournalCall Payload :=
    .write w ⟨ourLease, today, "handoff" ++ n, "id" ++ n⟩
  let intent : Payload := .intent (.writeBytes ["f"] "file:f" 1 ⟨[1]⟩ none 10 false)
  let checkpoint (type : String) (payload : Payload) (operationId : Option String) : JournalWrite Payload :=
    .recordCheckpoint "batch" "file:f" type (some payload) operationId none none
  [.lease (.acquire "lease" "a" 95 none "t1" today),
    call (.createBatch ⟨"key", "a", "run", none, none, some "file:f", some "a", none, some intent⟩ (some "batch")) "1",
    call (.startBatchOperation "batch" "write_bytes" (some "file:f") (some intent) none none) "2",
    call (checkpoint "before" (.snapshot nothing none) (some "id2")) "3",
    call (checkpoint "backup_artifact_intent" (.backup (.missing nothing)) (some "id2")) "4",
    call (checkpoint "backup" (.backup (.missing nothing)) (some "id2")) "5",
    call (checkpoint "expected_after" (.expectedAfter ["f"] (some ⟨true, .file, some 1, some ⟨[1]⟩⟩)) (some "id2")) "6",
    call (checkpoint "failure" (.snapshot seen none) none) "7"]

/-- `mark_failed`, and then the process is killed. -/
private def marking (seen : ResourceSnapshot) : Except JournalError (BatchRow Payload × JournalDb Payload) :=
  markFailed (after JournalDb.step (JournalDb.init Payload) (untilFailure seen)) "batch" "no space left"
    (some (.failed (failedWrite seen))) ⟨ourLease, today, "handoff8", "id8"⟩

private def atCrash (seen : ResourceSnapshot) : JournalDb Payload :=
  (marking seen).toOption.elim (JournalDb.init Payload) Prod.snd

private def failedRow (seen : ResourceSnapshot) : BatchRow Payload where
  storageOrder := 1
  batchId := "batch"
  idempotencyKey := "key"
  leaseName := "lease"
  leaseOwner := some "a"
  leaseFencingToken := 1
  leaseTokenDigest := some ⟨"t1"⟩
  owner := "a"
  runId := "run"
  operationRunId := none
  operationPhaseId := none
  resourceKey := some "file:f"
  claimOwner := some "a"
  claimScope := none
  phase := .failed
  payload := .intent (.writeBytes ["f"] "file:f" 1 ⟨[1]⟩ none 10 false)
  statusMessage := some "no space left"
  statusPayload := .failed (failedWrite seen)
  createdAt := today
  updatedAt := today

private def onDb (db : JournalDb Payload) : World Unit := { World.init () with journal := db }

private theorem onDb_journal (db : JournalDb Payload) : (onDb db).journal = db := rfl

/-- The request for a recovery had the process not been killed. -/
private def puttingUp (seen : ResourceSnapshot) :=
  (recordRecoveryDesiredStep ⟨ourLease, some today⟩ "batch" "filesystem mutation failed"
    (.recovery { RecoveryDetails.empty with failure := some (failedWrite seen) })).exec (onDb (atCrash seen))
    [⟨today, "handoff9", "id9", none, ()⟩]

/-- The replay of the failed batch by the next worker. -/
private def replaying (seen : ResourceSnapshot) :=
  (prepareReplayBatch Coordinator.inert ⟨replayLease, some tomorrow⟩ (failedRow seen)).exec
    (onDb (after JournalDb.step (atCrash seen) [.lease (.acquire "lease" "b" 95 none "t2" tomorrow)]))
    [⟨tomorrow, "handoff10", "id10", none, ()⟩, ⟨tomorrow, "handoff11", "id11", none, ()⟩]

private theorem marked {seen : ResourceSnapshot} (h : (marking seen).map Prod.fst = .ok (failedRow seen)) :
    marking seen = .ok (failedRow seen, atCrash seen) := by
  unfold atCrash
  cases hm : marking seen with
  | error e =>
    rw [hm] at h
    cases h
  | ok r =>
    rw [hm] at h
    have hrow : r.1 = failedRow seen := Except.ok.inj h
    rw [← hrow]
    rfl

private theorem answers {α : Type} (run : Option (Except OperationError α × List (Sample Unit)) × World Unit)
    (h : run.1.any (fun r => r.1.toBool) = true) : ∃ a rest, run = (some (.ok a, rest), run.2) := by
  obtain ⟨r, w⟩ := run
  obtain ⟨⟨x, rest⟩, rfl, hx⟩ := (Option.any_eq_true _ _).1 h
  cases x with
  | error e => cases hx
  | ok a => exact ⟨a, rest, rfl⟩

/-- A write that left its file: the checkpoint of the failure shows it, and both plans restore the backup. -/
theorem failure_evidence_carried :
    filePlan (replaying writtenFile).2.journal "batch" = filePlan (puttingUp writtenFile).2.journal "batch" := by
  have hothers : ∀ c ∈ [JournalCall.lease (π := Payload) (.acquire "lease" "b" 95 none "t2" tomorrow)],
      c.Spares "batch" := by
    intro c hc
    rw [List.mem_singleton.1 hc]
    trivial
  -- the theorem, for what the failed write may have left
  have hiff : ∀ seen x rest row' rest', marking seen = .ok (failedRow seen, atCrash seen) →
      puttingUp seen = (some (.ok x, rest), (puttingUp seen).2) →
      replaying seen = (some (.ok row', rest'), (replaying seen).2) →
      (filePlan (replaying seen).2.journal "batch" = filePlan (puttingUp seen).2.journal "batch" ↔
        CarriedByCheckpoints ((atCrash seen).listCheckpoints "batch") "file:f" ["f"] (failedWrite seen)) := by
    intro seen x rest row' rest' hmark hdirect hreplay
    refine failure_evidence Coordinator.inert ⟨ourLease, some today⟩ ⟨replayLease, some tomorrow⟩ (untilFailure seen)
      [.lease (.acquire "lease" "b" 95 none "t2" tomorrow)] "batch" "no space left" "filesystem mutation failed"
      "file:f" ⟨ourLease, today, "handoff8", "id8"⟩ (failedWrite seen)
      { RecoveryDetails.empty with failure := some (failedWrite seen) }
      (.writeBytes ["f"] "file:f" 1 ⟨[1]⟩ none 10 false) ["f"] (failedRow seen) row' x (atCrash seen) _ _
      (onDb (atCrash seen)) _ (onDb _) _ _ _ _ _ hmark ?_ ?_ ?_ ?_ ?_ hdirect ?_ ?_ hreplay ?_ ?_
    · rfl
    · exact ⟨by decide, rfl⟩
    · rfl
    · exact onDb_journal _
    · rfl
    · exact hothers
    · exact onDb_journal _
    · exact Or.inl rfl
    · exact Or.inl rfl
  obtain ⟨x, rest, hdirect⟩ := answers (puttingUp writtenFile) (by decide +kernel)
  obtain ⟨row', rest', hreplay⟩ := answers (replaying writtenFile) (by decide +kernel)
  have hmark : marking writtenFile = .ok (failedRow writtenFile, atCrash writtenFile) := marked (by decide +kernel)
  -- the failure checkpoint holds what the `after` one would have
  have hcarried : CarriedByCheckpoints ((atCrash writtenFile).listCheckpoints "batch") "file:f" ["f"]
      (failedWrite writtenFile) := by
    have hbackup : ((latestCheckpoint ((atCrash writtenFile).listCheckpoints "batch") "backup" "file:f" ["f"]).bind
        fun c => backupOf c ["f"]) = some (.missing nothing) := by decide +kernel
    have hafter : ((latestCheckpoint ((atCrash writtenFile).listCheckpoints "batch") "after" "file:f" ["f"]).bind
        fun c => c.payload.snapshot?) = none := by decide +kernel
    have hfailure : (((latestCheckpoint ((atCrash writtenFile).listCheckpoints "batch") "failure" "file:f" ["f"]).bind
        fun c => c.payload.snapshot?).filter (provenAfter ((atCrash writtenFile).listCheckpoints "batch") "file:f"
          ["f"])) = some writtenFile := by decide +kernel
    simp only [CarriedByCheckpoints, hbackup, hafter, hfailure]
    intro o ho _
    exact (Option.some.inj ho).symm
  have hwritten := hiff writtenFile x rest row' rest' hmark hdirect hreplay
  exact hwritten.2 hcarried

/-- A write that left nothing: there is nothing to do, but once the failed batch was replayed no plan is made. -/
theorem failure_evidence_lost :
    marking nothing = .ok (failedRow nothing, atCrash nothing) ∧
    (∃ x rest, puttingUp nothing = (some (.ok x, rest), (puttingUp nothing).2)) ∧
    (∃ row rest, replaying nothing = (some (.ok row, rest), (replaying nothing).2)) ∧
    filePlan (puttingUp nothing).2.journal "batch" =
      .ok (some (.noop "noop:restore-backup:self:file:f" "file:f")) ∧
    filePlan (replaying nothing).2.journal "batch" =
      .ok (some (.manual "manual:restore-backup:self:file:f" "file:f"
        (.fileRollback ["f"] (some (.missing nothing)) "missing_expected_current_proof" none))) := by
  refine ⟨marked ?_, answers _ ?_, answers _ ?_, ?_, ?_⟩ <;> decide +kernel

end SafeFsOps
