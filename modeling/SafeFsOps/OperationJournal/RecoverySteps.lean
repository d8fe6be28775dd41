import SafeFsOps.OperationJournal.BatchMoves
import SafeFsOps.OperationJournal.RecoveryRunner
import SafeFsOps.OperationJournal.StepRules

/-!
# The steps of a recovery

A recovery of batch `b` reads, works on the disk, and writes records of `b` under
one lease: all its steps are quiet (`quiet_runRecoveryActions`), its actions set no
phase, and only the start and the end of the attempt do.

> `along_recoverBatch`: what a recovery comes to. Whatever happens, no other batch
> was touched; and where it succeeds, its batch is recovered.
-/

namespace SafeFsOps

open Program

variable {φ ω α β : Type} {C : Coordinator φ ω} {h : LeaseHolder} {b : String} {P : List BatchPhase}

/-- The writes of one batch. -/
abbrev OnBatch (b : String) (P : List BatchPhase) : JournalWrite Payload → Prop := JournalWrite.On (fun id => id = b) P

/-! ## Going on with a result -/

/-- The lease does not change with the time. -/
theorem quiet_atOperationTime {K : JournalWrite Payload → Prop} {L : LeaseRecord} {f : LeaseHolder → Op φ ω β}
    (hf : ∀ h', h'.lease = h.lease → AllQuiet K L (f h')) : AllQuiet K L (atOperationTime h >>= f) := by
  refine eachStep_yields (A := fun h' => h'.lease = h.lease) hf (quiet_call fun _ w => Quiet.refl w) ?_
  refine yields_call fun i w a ha => ?_
  cases ha
  rfl

/-- The context read of a batch is of that batch. -/
theorem readRecoveryContext_batchId {db : JournalDb Payload} {ctx : RecoveryContext}
    (hctx : readRecoveryContext db b = .ok ctx) : ctx.batch.batchId = b := by
  unfold readRecoveryContext at hctx
  split at hctx
  · cases hctx
  · next records hrecords =>
    simp only [bind_eq_ok, pure_eq_ok] at hctx
    obtain ⟨_, -, rfl⟩ := hctx
    obtain ⟨row, hrow, rfl⟩ := Option.map_eq_some_iff.1 hrecords
    exact findRow_key hrow

/-! ## Reads and checks -/

section Checks

variable {K : JournalWrite Payload → Prop} {L : LeaseRecord}

theorem quiet_requireActiveAttempt (batchId recoveryAttemptId : String) :
    AllQuiet K L (requireActiveAttempt h batchId recoveryAttemptId : Op φ ω Unit) := quiet_databaseRead _

theorem quiet_requireRecoveryAuthority (batchId recoveryAttemptId : String) :
    AllQuiet K L (requireRecoveryAuthority h batchId recoveryAttemptId : Op φ ω Unit) :=
  quiet_bind (quiet_requireCurrent h) fun _ => quiet_requireActiveAttempt _ _

theorem quiet_requireActionCurrent (batchId recoveryAttemptId : String) (action : RecoveryActionRow Payload) :
    AllQuiet K L (requireActionCurrent h batchId recoveryAttemptId action : Op φ ω Unit) :=
  quiet_bind (quiet_requireRecoveryAuthority _ _) fun _ => quiet_databaseRead _

theorem quiet_requireRecoveryActionAuthority (ctx : RecoveryContext) (attempt : RecoveryRow Payload)
    (action : RecoveryActionRow Payload) :
    AllQuiet K L (requireRecoveryActionAuthority h ctx attempt action : Op φ ω Unit) :=
  quiet_bind (quiet_requireRecoveryAuthority _ _) fun _ => quiet_ite (quiet_raise _) <|
    quiet_bind (quiet_requireRecoveryAuthority _ _) fun _ => quiet_requireActionCurrent _ _ _

theorem quiet_getBatch (batchId : String) : AllQuiet K L (getBatch batchId : Op φ ω (Option (BatchRow Payload))) :=
  quiet_databaseRead _

theorem quiet_listActions (batchId recoveryAttemptId : String) :
    AllQuiet K L (listActions batchId recoveryAttemptId : Op φ ω (List (RecoveryActionRow Payload))) :=
  quiet_databaseRead _

theorem quiet_quarantineHolds (quarantine : Path) (identity : DirectoryIdentity) (token : String) :
    AllQuiet K L (quarantineHolds C quarantine identity token) :=
  quiet_bind (quiet_fsRead _) fun _ => quiet_ite (quiet_pure _) <|
    quiet_bind (quiet_outcome (quiet_fsRead _)) fun _ => quiet_ite (quiet_pure _) <|
      quiet_bind (quiet_outcome (quiet_fsRead _)) fun _ => quiet_pure _

theorem quiet_observedCapturedDirectoryPlan (ctx : RecoveryContext) (source quarantine : Path) (key : String) :
    AllQuiet K L (observedCapturedDirectoryPlan C ctx source quarantine key) := by
  unfold observedCapturedDirectoryPlan
  split
  · exact quiet_pure _
  · split
    · exact quiet_pure _
    · refine quiet_bind (quiet_fsRead _) fun safety => ?_
      split
      · exact quiet_bind (quiet_quarantineHolds _ _ _) fun _ => quiet_ite (quiet_pure _) (quiet_pure _)
      · exact quiet_pure _

theorem quiet_capturedDirectoryPlans (ctx : RecoveryContext) :
    AllQuiet K L (capturedDirectoryRecoveryActionPlans C ctx) := by
  unfold capturedDirectoryRecoveryActionPlans unprovenCapturePlans
  split
  · exact quiet_pure _
  · exact quiet_pure _
  · split
    · exact quiet_pure _
    · refine quiet_bind (quiet_observedCapturedDirectoryPlan _ _ _ _) fun observed => ?_
      cases observed <;> exact quiet_pure _
    · exact quiet_pure _

end Checks

/-! ## The handlers -/

section Handlers

variable {K : JournalWrite Payload → Prop} {L : LeaseRecord} {authority : Op φ ω Unit}

theorem quiet_restoreBackupHandler (ha : AllQuiet K L authority) (payload : Payload) :
    AllQuiet K L (restoreBackupHandler C authority payload) := by
  unfold restoreBackupHandler
  split
  · exact quiet_bind ha fun _ => quiet_bind (quiet_onRaise (quiet_fsCall _) fun _ => quiet_raise _) fun _ => quiet_pure _
  · exact quiet_raise _

theorem quiet_skipIfRenameRestored (r : RenameRecord) : AllQuiet K L (skipIfRenameRestored C r) :=
  quiet_bind (quiet_fsRead _) fun _ => quiet_bind (quiet_fsRead _) fun _ => quiet_ite (quiet_pure _) <|
    quiet_bind (quiet_fsRead _) fun _ => quiet_ite (quiet_pure _) (quiet_raise _)

theorem quiet_restoreInverseRenameHandler (ha : AllQuiet K L authority) (payload : Payload) :
    AllQuiet K L (restoreInverseRenameHandler C authority payload) := by
  unfold restoreInverseRenameHandler
  split
  · next r =>
    refine quiet_ite (quiet_raise _) (quiet_bind ha fun _ => ?_)
    refine quiet_onRaise (quiet_bind (quiet_fsCall _) fun _ => quiet_pure _) fun e => ?_
    unfold inverseRenameFailed
    split
    · exact quiet_bind (quiet_skipIfRenameRestored r) fun _ => quiet_raise _
    · exact quiet_bind (quiet_skipIfRenameRestored r) fun _ => quiet_raise _
    · exact quiet_raise _
    · exact quiet_raise _
  · exact quiet_raise _

theorem quiet_skipIfCaptureRestored (r : CapturedDirectoryRecord) : AllQuiet K L (skipIfCaptureRestored C r) := by
  refine quiet_bind (quiet_fsRead _) fun _ => quiet_bind (quiet_fsRead _) fun _ => quiet_ite (quiet_pure _) <|
    quiet_bind (quiet_fsRead _) fun _ => quiet_ite (quiet_pure _) <|
      quiet_bind (quiet_outcome (quiet_fsRead _)) fun proven => ?_
  cases proven with
  | error e => exact quiet_pure _
  | ok _ => exact quiet_raise _

theorem quiet_restoreCapturedDirectoryHandler (ha : AllQuiet K L authority) (payload : Payload) :
    AllQuiet K L (restoreCapturedDirectoryHandler C authority payload) := by
  unfold restoreCapturedDirectoryHandler
  split
  · refine quiet_bind (quiet_ofExcept _) fun r => quiet_bind ha fun _ => ?_
    refine quiet_onRaise (quiet_bind (quiet_fsCall _) fun _ => quiet_pure _) fun e => ?_
    unfold captureRestoreFailed
    split
    · exact quiet_bind (quiet_skipIfCaptureRestored r) fun _ => quiet_raise _
    · exact quiet_bind (quiet_skipIfCaptureRestored r) fun _ => quiet_raise _
    · exact quiet_raise _
    · exact quiet_raise _
  · exact quiet_raise _

theorem quiet_removeOwnedDirectory (ha : AllQuiet K L authority) (r : CreatedDirectoryRemoval) :
    AllQuiet K L (removeOwnedDirectory C authority r) := by
  refine quiet_bind (quiet_fsRead _) fun _ => quiet_ite (quiet_raise _) <|
    quiet_bind (quiet_fsRead _) fun _ => quiet_ite (quiet_raise _) ?_
  split
  · exact quiet_raise _
  · exact quiet_bind ha fun _ => quiet_onRaise (quiet_fsCall _) fun _ => quiet_raise _

theorem quiet_removeCreatedDirectoryHandler (ctx : RecoveryContext) (ha : AllQuiet K L authority) (payload : Payload) :
    AllQuiet K L (removeCreatedDirectoryHandler C ctx authority payload) := by
  unfold removeCreatedDirectoryHandler
  split
  · exact quiet_bind (quiet_ofExcept _) fun _ => quiet_bind (quiet_fsRead _) fun _ => quiet_ite (quiet_raise _) <|
      quiet_ite (quiet_raise _) (quiet_removeOwnedDirectory ha _)
  · exact quiet_raise _

theorem quiet_restoreTreeBackupHandler (ha : AllQuiet K L authority) (resourceKey : Option String) (payload : Payload) :
    AllQuiet K L (restoreTreeBackupHandler C authority resourceKey payload) := by
  unfold restoreTreeBackupHandler
  split
  · refine quiet_ite (quiet_raise _) (quiet_bind ha fun _ => quiet_bind ha fun _ => ?_)
    exact quiet_bind (quiet_onRaise (quiet_fsCall _) fun _ => quiet_raise _) fun _ => quiet_pure _
  · exact quiet_raise _

theorem quiet_recoveryActionHandler (ctx : RecoveryContext) (ha : AllQuiet K L authority) {actionType : String}
    {handler : Payload → Op φ ω Unit} (hh : recoveryActionHandler C ctx authority actionType = some handler)
    (payload : Payload) : AllQuiet K L (handler payload) := by
  unfold recoveryActionHandler at hh
  split at hh
  · cases hh
    exact quiet_restoreBackupHandler ha payload
  · split at hh
    · cases hh
      exact quiet_restoreInverseRenameHandler ha payload
    · split at hh
      · cases hh
        exact quiet_restoreCapturedDirectoryHandler ha payload
      · split at hh
        · cases hh
          exact quiet_removeCreatedDirectoryHandler ctx ha payload
        · split at hh
          · cases hh
            exact quiet_restoreTreeBackupHandler ha _ payload
          · cases hh

end Handlers

/-! ## Actions -/

theorem quiet_planActionStep (recoveryAttemptId : String) (plan : ActionPlan) : AllQuiet (OnBatch b P) h.lease
    (planActionStep h b recoveryAttemptId plan : Op φ ω (RecoveryActionRow Payload)) := by
  refine quiet_journalWrite fun db ctx a db' hw => ⟨.recordRecoveryActionPlanned b recoveryAttemptId plan.actionType
    plan.resourceKey (some plan.payload) (some plan.actionId) none, ⟨⟨b, rfl, rfl⟩, by simp [JournalWrite.phases]⟩, ?_⟩
  simp only [JournalWrite.run, hw, Except.map]

theorem quiet_transitionActionStep (recoveryAttemptId actionId : String) (status : RecoveryActionStatus)
    (reason : Option String) (payload : Payload) : AllQuiet (OnBatch b P) h.lease
    (transitionActionStep h b recoveryAttemptId actionId status reason payload :
      Op φ ω (RecoveryActionRow Payload)) := by
  refine quiet_journalWrite fun db ctx a db' hw => ⟨.transitionRecoveryAction b recoveryAttemptId actionId status
    reason (some payload) none, ⟨⟨b, rfl, rfl⟩, by simp [JournalWrite.phases]⟩, ?_⟩
  simp only [JournalWrite.run, hw, Except.map]

theorem quiet_recordFileManual (recoveryAttemptId actionId key : String) (payload : ManualPayload) :
    AllQuiet (OnBatch b P) h.lease (recordFileManual h b recoveryAttemptId actionId key payload : Op φ ω Unit) :=
  quiet_bind (quiet_planActionStep _ _) fun _ => quiet_bind (quiet_transitionActionStep _ _ _ _ _) fun _ => quiet_pure _

theorem quiet_planRecoveryActions {ctx : RecoveryContext} (hctx : ctx.batch.batchId = b) (recoveryAttemptId : String) :
    AllQuiet (OnBatch b P) h.lease (planRecoveryActions C h ctx recoveryAttemptId) := by
  subst hctx
  unfold planRecoveryActions
  dsimp only
  split
  · split
    · exact quiet_raise _
    · exact quiet_bind (quiet_recordFileManual _ _ _ _) fun _ => quiet_raise _
  · refine quiet_bind (quiet_bind (quiet_capturedDirectoryPlans _) fun _ => quiet_pure _) fun plans => ?_
    refine quiet_bind (quiet_forEach fun p _ => quiet_bind (quiet_planActionStep _ _) fun _ => quiet_ret _) fun _ => ?_
    exact quiet_ite (quiet_pure _) (quiet_bind (quiet_listActions _ _) fun _ => quiet_pure _)

/-- Planning stays with its batch. -/
theorem planRecoveryActions_yields (ctx : RecoveryContext) (recoveryAttemptId : String) :
    Yields (fun ctx' => ctx'.batch = ctx.batch) (planRecoveryActions C h ctx recoveryAttemptId) := by
  unfold planRecoveryActions
  dsimp only
  split
  · split
    · exact trivial
    · refine yields_bind fun _ => ?_
      exact trivial
  · refine yields_bind fun plans => yields_bind fun _ => ?_
    split
    · exact rfl
    · refine yields_bind fun _ => ?_
      exact rfl

theorem quiet_leaveToIntervention (recoveryAttemptId : String) (action : RecoveryActionRow Payload) (reason : String)
    (error : Option OperationError) : AllQuiet (OnBatch b P) h.lease
    (leaveToIntervention h b recoveryAttemptId action reason error : Op φ ω (RecoveryActionRow Payload)) :=
  quiet_bind (quiet_transitionActionStep _ _ _ _ _) fun _ => quiet_raise _

theorem quiet_actionRaised (recoveryAttemptId : String) (action : RecoveryActionRow Payload) (e : OperationError) :
    AllQuiet (OnBatch b P) h.lease
      (actionRaised h b recoveryAttemptId action e : Op φ ω (RecoveryActionRow Payload)) := by
  unfold actionRaised
  split
  · exact quiet_transitionActionStep _ _ _ _ _
  · exact quiet_leaveToIntervention _ _ _ _
  all_goals first
    | exact quiet_raise _
    | exact quiet_bind (quiet_transitionActionStep _ _ _ _ _) fun _ => quiet_raise _

theorem quiet_finishAction (recoveryAttemptId : String) (action : RecoveryActionRow Payload)
    (result : Except OperationError Unit) : AllQuiet (OnBatch b P) h.lease
      (finishAction h b recoveryAttemptId action result : Op φ ω (RecoveryActionRow Payload)) := by
  unfold finishAction
  split
  · exact quiet_actionRaised _ _ _
  · refine quiet_atOperationTime fun h' hh' => quiet_bind (quiet_requireCurrent _) fun _ => ?_
    rw [← hh']
    exact quiet_transitionActionStep _ _ _ _ _

theorem quiet_runHandler {ctx : RecoveryContext} (attempt : RecoveryRow Payload) (action : RecoveryActionRow Payload)
    {handler : Op φ ω Unit} (hh : AllQuiet (OnBatch b P) h.lease handler) :
    AllQuiet (OnBatch b P) h.lease (runHandler C h ctx attempt action handler) :=
  quiet_bind (quiet_requireActiveAttempt _ _) fun _ => quiet_maintain <|
    quiet_bind (quiet_requireRecoveryActionAuthority _ _ _) fun _ => quiet_bind hh fun _ =>
      quiet_requireRecoveryActionAuthority _ _ _

theorem quiet_performAction {ctx : RecoveryContext} (hctx : ctx.batch.batchId = b) (attempt : RecoveryRow Payload)
    (action source : RecoveryActionRow Payload) :
    AllQuiet (OnBatch b P) h.lease (performAction C h ctx attempt action source) := by
  subst hctx
  unfold performAction
  dsimp only
  refine quiet_ite (quiet_leaveToIntervention _ _ _ _) ?_
  split
  · exact quiet_leaveToIntervention _ _ _ _
  · next handler hhandler =>
    refine quiet_bind (quiet_outcome (quiet_runHandler _ _ ?_)) fun _ => quiet_finishAction _ _ _
    exact quiet_recoveryActionHandler ctx (quiet_requireRecoveryActionAuthority _ _ _) hhandler _

theorem quiet_runRecoveryAction {ctx : RecoveryContext} (hctx : ctx.batch.batchId = b) (attempt : RecoveryRow Payload)
    (action : RecoveryActionRow Payload) :
    AllQuiet (OnBatch b P) h.lease (runRecoveryAction C h ctx attempt action) := by
  refine quiet_ite (quiet_pure _) (quiet_atOperationTime fun entry hentry => ?_)
  refine quiet_bind (quiet_requireCurrent _) fun _ => quiet_ite ?_ ?_
  · refine quiet_bind ?_ fun _ => quiet_performAction hctx _ _ _
    rw [← hentry, hctx]
    exact quiet_transitionActionStep _ _ _ _ _
  · exact quiet_performAction hctx _ _ _

theorem quiet_runRecoveryActions {ctx : RecoveryContext} (hctx : ctx.batch.batchId = b) :
    AllQuiet (OnBatch b P) h.lease (runRecoveryActions C h ctx) := by
  unfold runRecoveryActions
  split
  · exact quiet_raise _
  · next attempt _ =>
    refine quiet_bind (quiet_requireCurrent _) fun _ => quiet_bind (quiet_listActions _ _) fun actions => ?_
    have hplan : AllQuiet (OnBatch b P) h.lease
        (planRecoveryActions C h { ctx with recoveryActions := actions } attempt.recoveryId) := by
      refine quiet_planRecoveryActions ?_ _
      exact hctx
    refine eachStep_yields (fun ctx' hctx' => ?_) hplan (planRecoveryActions_yields _ _)
    have hctx' : ctx'.batch.batchId = b := (congrArg BatchRow.batchId hctx').trans hctx
    refine quiet_forEach fun action _ => quiet_bind (quiet_requireRecoveryAuthority _ _) fun _ => ?_
    exact quiet_bind (quiet_runRecoveryAction hctx' _ _) fun _ => quiet_pure _

/-! ## An attempt -/

/-- The phases an attempt takes its batch through. -/
def attemptPhases : List BatchPhase := [.recovering, .recoverySucceeded, .recoveryFailed]

/-- What an attempt on `b` that succeeds answers with: the row of `b`, recovered. -/
def Recovered (b : String) (w : World φ) (row : BatchRow Payload) : Prop :=
  row.batchId = b ∧ row.phase = .recoverySucceeded ∧ w.journal.batchRow b = some row

theorem quiet_startRecoveryStep : AllQuiet (OnBatch b attemptPhases) h.lease
    (startRecoveryStep h b : Op φ ω (RecoveryRow Payload)) := by
  refine quiet_journalWrite fun db ctx a db' hw => ⟨.startRecovery b ⟨some "recovery callback started",
    some (.recoveryStarted b), none⟩, ⟨⟨b, rfl, rfl⟩, by simp [JournalWrite.phases, attemptPhases]⟩, ?_⟩
  obtain ⟨⟨row, record, db₁⟩, hrun, heq⟩ := map_eq_ok.1 hw
  cases heq
  simp only [JournalWrite.run, hrun, Except.map]

theorem quiet_startRecoveryRaised {K : JournalWrite Payload → Prop} {L : LeaseRecord} (batch : BatchRow Payload)
    (e : OperationError) : AllQuiet K L (startRecoveryRaised batch e : Op φ ω α) := by
  unfold startRecoveryRaised
  split
  · exact quiet_raise _
  · exact quiet_bind (quiet_getBatch _) fun _ => quiet_raise _
  · exact quiet_raise _

theorem quiet_recordRecoveryFailedStep (recoveryAttemptId : String) (payload : Payload) :
    AllQuiet (OnBatch b attemptPhases) h.lease
      (recordRecoveryFailedStep h b recoveryAttemptId payload : Op φ ω (RecoveryRow Payload)) := by
  refine quiet_journalWrite fun db ctx a db' hw => ⟨.recordRecoveryFailed b (some recoveryAttemptId)
    ⟨some "recovery callback failed", some payload, none⟩,
    ⟨⟨b, rfl, rfl⟩, by simp [JournalWrite.phases, attemptPhases]⟩, ?_⟩
  simp only [JournalWrite.run, hw, Except.map]

/-- A step that succeeds by a write leaves what the write leaves. -/
theorem along_writeThen {A : Sample ω → World φ → Prop} {R : World φ → World φ → Prop}
    {Q : Except OperationError β → World φ → Prop} {w : World φ}
    {write : JournalDb Payload → WriteContext → Except JournalError (α × JournalDb Payload)}
    {f : α → Op φ ω β} (hR : R w w) (herror : ∀ e, Q (.error e) w)
    (hwrite : ∀ (i : Sample ω) a db, write w.journal (h.context i) = .ok (a, db) →
      R w { w with journal := db } ∧ Along A R Q (f a) { w with journal := db }) :
    Along A R Q (journalWrite h write >>= f) w :=
  along_bind (along_journalWrite hR (fun _ e _ _ => herror e) (fun _ _ _ _ _ => herror _)
    fun i a db _ _ hrun => hwrite i a db hrun)

/-- The end of an attempt: where it does not raise, the batch is recovered. -/
theorem along_finishRecovery {A : Sample ω → World φ → Prop} (ctx : RecoveryContext) (recoveryAttemptId : String)
    (result : Except OperationError Unit) (w : World φ) :
    Along A (Touches (fun id => id = b) attemptPhases)
      (fun r w' => Touches (fun id => id = b) attemptPhases w w' ∧ ∀ row, r = .ok row → Recovered b w' row)
      (finishRecovery h ctx b recoveryAttemptId result) w := by
  cases result with
  | error e =>
    have hquiet : AllQuiet (OnBatch b attemptPhases) h.lease
        (recordRecoveryFailedStep h b recoveryAttemptId (recoveryFailedPayload ctx e) : Op φ ω _).outcome :=
      quiet_outcome (quiet_recordRecoveryFailedStep _ _)
    exact along_seq (along_touch hquiet.touch w) (fun _ w' hw' => ⟨hw', fun row hrow => by cases hrow⟩)
      fun _ w' hw' => ⟨hw', fun row hrow => by cases hrow⟩
  | ok u =>
    refine along_writeThen Touches.refl (fun e => ⟨Touches.refl, fun row hrow => by cases hrow⟩)
      fun i record db hrun => ?_
    have hruns := (recordRecoveryPhase_writes (K := [.recoveries]) (W := true) List.mem_cons_self hrun).operationRuns
    have hmove : Touches (fun id => id = b) attemptPhases w { w with journal := db } :=
      ⟨rfl, rfl, rfl, (recordRecoveryPhase_advances hrun).2.moves rfl (by simp [attemptPhases]),
        OperationsKept.of_eq hruns.1 hruns.2⟩
    refine ⟨hmove, along_bind (along_databaseRead Touches.refl (fun _ e _ _ => ?_) fun _ _ _ => ?_)⟩
    · exact ⟨hmove, fun row hrow => by cases hrow⟩
    · dsimp only
      obtain ⟨row, hrow, hphase⟩ := recordRecoveryPhase_phase hrun
      rw [hrow]
      refine ⟨hmove, fun row' hrow' => ?_⟩
      cases hrow'
      exact ⟨findRow_key hrow, hphase, hrow⟩

/-- What `recover_batch` promises of `b` from `w` on. -/
def AttemptOutcome (b : String) (w : World φ) (r : Except OperationError (BatchRow Payload)) (w' : World φ) : Prop :=
  Touches (fun id => id = b) attemptPhases w w' ∧ ∀ row, r = .ok row → Recovered b w' row

theorem AttemptOutcome.error {w w' : World φ} (h : Touches (fun id => id = b) attemptPhases w w') (e : OperationError) :
    AttemptOutcome b w (.error e) w' := ⟨h, fun _ hrow => by cases hrow⟩

theorem AttemptOutcome.after {w w₁ w₂ : World φ} (h : Touches (fun id => id = b) attemptPhases w w₁)
    {r : Except OperationError (BatchRow Payload)} (hr : AttemptOutcome b w₁ r w₂) : AttemptOutcome b w r w₂ :=
  ⟨h.trans hr.1, hr.2⟩

theorem along_runAttempt {A : Sample ω → World φ → Prop} {recover : RecoveryContext → Op φ ω Unit}
    (hrecover : ∀ ctx, ctx.batch.batchId = b → AllTouch (fun id => id = b) attemptPhases (recover ctx))
    (recoveryAttemptId : String) (w : World φ) :
    Along A (Touches (fun id => id = b) attemptPhases) (AttemptOutcome b w)
      (runAttempt h b recoveryAttemptId recover) w := by
  refine along_seq (Q := fun r w' => w' = w ∧ ∀ ctx, r = .ok ctx → ctx.batch.batchId = b)
    (along_databaseRead Touches.refl (fun _ e _ _ => ⟨rfl, fun _ hctx => by cases hctx⟩) fun i _ _ => ⟨rfl, ?_⟩)
    ?_ fun e w' hw' => .error (hw'.1 ▸ Touches.refl) e
  · intro ctx hctx
    cases hread : readRecoveryContext w.journal b with
    | error e =>
      rw [hread] at hctx
      cases hctx
    | ok ctx' =>
      rw [hread] at hctx
      cases hctx
      exact readRecoveryContext_batchId hread
  · rintro ctx w' ⟨rfl, hctx⟩
    have hcallback : AllTouch (fun id => id = b) attemptPhases
        (requireRecoveryAuthority h b recoveryAttemptId >>= fun _ => recover ctx) :=
      eachStep_bind (fun _ => hrecover ctx (hctx ctx rfl))
        (quiet_requireRecoveryAuthority (L := h.lease) b recoveryAttemptId).touch
    refine along_touch_seq (quiet_requireActiveAttempt (L := h.lease) b recoveryAttemptId).touch ?_ fun e _ h₁ => .error h₁ e
    intro _ w₁ h₁
    refine along_touch_seq (eachStep_outcome hcallback) ?_ fun e _ h₂ => .error (h₁.trans h₂) e
    intro result w₂ h₂
    exact along_mono (fun _ _ h => h) (fun _ _ h₃ => .after (h₁.trans h₂) h₃) (along_finishRecovery ctx _ result w₂)

/-- **What a recovery comes to.** It touches no other batch, and where it does not
raise its own batch is recovered. -/
theorem along_recoverBatch {A : Sample ω → World φ → Prop} {recover : RecoveryContext → Op φ ω Unit}
    (hrecover : ∀ ctx, ctx.batch.batchId = b → AllTouch (fun id => id = b) attemptPhases (recover ctx)) (w : World φ) :
    Along A (Touches (fun id => id = b) attemptPhases) (AttemptOutcome b w) (recoverBatch h b recover) w := by
  have herror : ∀ {w₁ : World φ} (e : OperationError) w₂, Touches (fun id => id = b) attemptPhases w w₁ →
      Touches (fun id => id = b) attemptPhases w₁ w₂ → AttemptOutcome b w (.error e) w₂ :=
    fun e _ h₁ h₂ => .error (h₁.trans h₂) e
  refine along_touch_seq (quiet_call (L := h.lease) fun _ w => Quiet.refl w).touch ?_ fun e _ h₁ => .error h₁ e
  intro entry w₁ h₁
  refine along_touch_seq (quiet_requireCurrent (L := h.lease) entry).touch ?_ fun e w₂ h₂ => herror e w₂ h₁ h₂
  intro _ w₂ h₂
  refine along_touch_seq (quiet_getBatch (L := h.lease) b).touch ?_ fun e w₃ h₃ => herror e w₃ (h₁.trans h₂) h₃
  intro found w₃ h₃
  have h₁₃ := (h₁.trans h₂).trans h₃
  cases found with
  | none => exact .error h₁₃ _
  | some batch =>
    dsimp only
    split
    · exact .error h₁₃ _
    · refine along_touch_seq (quiet_onRaise quiet_startRecoveryStep fun e => quiet_startRecoveryRaised batch e).touch ?_
        fun e w₄ h₄ => herror e w₄ h₁₃ h₄
      intro started w₄ h₄
      exact along_mono (fun _ _ h => h) (fun _ _ h₅ => .after (h₁₃.trans h₄) h₅) (along_runAttempt hrecover _ w₄)

end SafeFsOps
