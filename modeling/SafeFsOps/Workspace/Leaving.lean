import SafeFsOps.Workspace.Attempts
import SafeFsOps.Workspace.TransactionSteps

/-!
# What a clean exit leaves behind

A `with workspace.transaction(…)` that ends without raising has rolled back what its body
left failed, and committed. The batches it rolls back are chosen by their phase
(`rollsBackPending`), so it passes by a batch that its mutation has left attempting. Which
steps do that depends on the regions of the mutation (`MutationRegions`): what raises in a
bare region is not recorded, and neither is a failure whose record raises itself.

> `clean_exit`: if no such step of the run raises (`FailuresRecorded`), every batch of the
> instance is succeeded, recovered, or planned and never started in the end, whatever else
> has failed on the way, in however many calls that the body caught.

A rename and a capture have bare regions, so a body can catch what they raise there, and
the transaction ends with the batch attempting (`clean_exit_swallowed`).
-/

namespace SafeFsOps

open Program

variable {φ ω α β γ : Type} {T : Transaction φ ω} {h : LeaseHolder} {A : Sample ω → World φ → Prop}

/-! ## Every step of a transaction -/

section Steps

variable {Λ : Option String → Option String → Prop}

theorem Touches.growing {S : String → Prop} {P : List BatchPhase} (hP : .planned ∉ P) {p : Op φ ω α}
    (hp : ∀ w, Along (fun _ _ => True) (Touches S P) (fun _ w' => Touches S P w w') p w) : Growing Λ p :=
  fun w => along_mono (fun _ _ ht => Continues.of_moves ht.journal hP ht.operations)
    (fun _ _ ht => Continues.of_moves ht.journal hP ht.operations) (hp w)

theorem growing_mapEach {xs : List γ} {f : γ → Op φ ω α} (hf : ∀ x ∈ xs, Growing Λ (f x)) :
    Growing Λ (.mapEach xs f) := by
  induction xs with
  | nil => exact growing_ret _
  | cons x xs ih =>
    refine growing_bind (hf x List.mem_cons_self) fun a => ?_
    exact growing_bind (ih fun y hy => hf y (List.mem_cons_of_mem _ hy)) fun as => growing_ret _

theorem growing_selectBatches {select : BatchRow Payload → Op φ ω (Option (BatchRow Payload))}
    (hselect : ∀ b, Growing Λ (select b)) : Growing Λ (selectBatches T select) := by
  have hread : AllMove (fun _ => True) [] (listOwnBatches T) := move_bind (move_read _) fun _ => move_ret _
  refine growing_bind hread.still fun batches => ?_
  exact growing_bind (growing_mapEach fun b _ => hselect b) fun _ => growing_ret _

theorem growing_readMarked (batchId : String) : Growing Λ (readMarked batchId : Op φ ω (BatchRow Payload)) := by
  have hread : AllMove (fun _ => True) [] (getBatch batchId : Op φ ω (Option (BatchRow Payload))) := move_read _
  refine growing_bind hread.still fun updated => ?_
  cases updated with
  | some row => exact growing_ret row
  | none => exact growing_raise _

/-- A write to a batch makes none. -/
theorem AllQuiet.onBatch {p : Op φ ω α} {L : LeaseRecord}
    (hp : AllQuiet (fun x : JournalWrite Payload => x.batch ≠ none) L p) : Growing Λ p :=
  hp.growing fun _ _ h => absurd rfl h

theorem growing_markRollback (b : BatchRow Payload) : Growing Λ (markRollback T h b) :=
  growing_bind (quiet_recordRecoveryDesiredStep (fun _ => Option.some_ne_none _) _ _).onBatch
    fun _ => growing_readMarked _

theorem growing_markInterrupted (b : BatchRow Payload) : Growing Λ (markInterrupted T h b) :=
  growing_bind (quiet_recordInterruptedStep (fun _ _ => Option.some_ne_none _) _ _ _).onBatch
    fun _ => growing_readMarked _

theorem growing_pendingBatch (b : BatchRow Payload) : Growing Λ (pendingBatch T h b) := by
  have hmark : Growing Λ (some <$> markRollback T h b) := growing_bind (growing_markRollback b) fun _ => growing_ret _
  unfold pendingBatch
  split
  · exact growing_ret _
  · split
    · exact growing_ret _
    · exact hmark
    · exact hmark
    · exact growing_ret _

theorem growing_eligibleBatch (b : BatchRow Payload) : Growing Λ (eligibleBatch T h b) := by
  have hmark : Growing Λ (some <$> markRollback T h b) := growing_bind (growing_markRollback b) fun _ => growing_ret _
  have hinterrupted : Growing Λ (some <$> markInterrupted T h b) :=
    growing_bind (growing_markInterrupted b) fun _ => growing_ret _
  unfold eligibleBatch
  split
  · exact growing_ret _
  · split
    · exact growing_ret _
    · exact hinterrupted
    · exact hmark
    · exact hmark
    · exact hmark
    · exact growing_ret _
    · exact growing_ret _
    · exact growing_ret _

theorem growing_rollbackBatches (batches : List (BatchRow Payload)) : Growing Λ (rollbackBatches T h batches) := by
  refine growing_bind (growing_mapEach fun b _ => ?_) fun outcomes => growing_ret _
  refine Touches.growing (S := fun id => id = b.batchId) (P := attemptPhases) (by decide) fun w => ?_
  exact along_mono (fun _ _ ht => ht) (fun _ _ hr => hr.1) (along_rollbackBatch b w)

theorem growing_runAutomaticRollback : Growing Λ (runAutomaticRollback T h) := by
  unfold runAutomaticRollback
  split
  · exact growing_ret true
  · exact growing_bind (growing_selectBatches growing_eligibleBatch) fun batches =>
      growing_bind (growing_rollbackBatches batches) fun _ => growing_ret _

theorem growing_runPendingRollback : Growing Λ (runPendingRollback T h) := by
  unfold runPendingRollback
  split
  · exact growing_ret ()
  · refine growing_bind (growing_selectBatches growing_pendingBatch) fun batches =>
      growing_bind (growing_rollbackBatches batches) fun outcome => ?_
    split
    · exact growing_raise _
    · split
      · exact growing_raise _
      · exact growing_ret ()

theorem growing_exitAfterError (s : TransactionState) (e : OperationError) : Growing Λ (exitAfterError T s e) := by
  refine growing_bind (move_cleanupHolder _).still fun h => growing_bind ?_ fun resolved => ?_
  · refine growing_bind (growing_outcome (move_markTouchedPhases s _).still) fun _ => ?_
    refine growing_bind (growing_outcome growing_runAutomaticRollback) fun _ => ?_
    exact growing_bind (growing_outcome (move_markRunsFailed s).still) fun _ => growing_ret _
  · split
    · exact growing_bind move_abandonTransaction.still fun _ => growing_raise e
    · exact growing_bind (growing_outcome (move_cleanupTransaction s).still) fun _ => growing_raise e

theorem growing_exitAfterSuccess (s : TransactionState) : Growing Λ (exitAfterSuccess T s) := by
  refine growing_bind (move_cleanupHolder _).still fun h => ?_
  refine growing_bind (growing_outcome growing_runPendingRollback) fun pending => ?_
  cases pending with
  | error e =>
    exact growing_bind (move_markFinalizationFailed s).still fun _ =>
      growing_bind move_abandonTransaction.still fun _ => growing_raise e
  | ok _ =>
    dsimp only
    split
    · exact (move_commitPlain s).still
    · exact (move_commitLinked s).still

end Steps

theorem move_markLeft {S : String → Prop} {P : List BatchPhase} (lease : LeaseRecord) : AllMove S P (markLeft T lease) :=
  eachStep_call fun _ _ => ⟨Moves.refl, .refl⟩

/-- **A transaction only adds to the journal**, whatever its body does and wherever it ends. -/
theorem growing_runTransaction (body : TransactionBody) : Growing (fun _ _ => True) (runTransaction T body) := by
  refine growing_bind move_enterTransaction.still fun s => growing_bind (growing_runBody body s) fun (s, raised) => ?_
  refine growing_bind (move_markLeft _).still fun _ => ?_
  cases raised with
  | some e => exact growing_exitAfterError s e
  | none => exact growing_exitAfterSuccess s

/-! ## The end of a transaction -/

/-- Batches of the instance may be written, and set to what a rollback sets. -/
def Settles (w w' : World φ) : Prop := Moves (fun _ => True) rollbackPhases w.journal w'.journal

/-- The phase a batch has once the pending ones are rolled back. -/
def settledPhase (b : BatchRow Payload) : BatchPhase := if rollsBackPending b then .recoverySucceeded else b.phase

/-- Every batch of the instance has been rolled back if it was pending, and has its old phase else. -/
def Settled (T : Transaction φ ω) (w w' : World φ) : Prop :=
  ∀ b ∈ ownBatches T w.journal, ∃ row, w'.journal.batchRow b.batchId = some row ∧ row.phase = settledPhase b

theorem RolledBack.settled {w w' : World φ} (hr : RolledBack T rollsBackPending w w') : Settled T w w' := by
  intro b hb
  have hrb := hr b hb
  by_cases hp : rollsBackPending b = true
  · rw [if_pos hp] at hrb
    obtain ⟨row, hrow, hphase⟩ := hrb
    exact ⟨row, hrow, by rw [hphase, settledPhase, if_pos hp]⟩
  · rw [if_neg hp] at hrb
    exact ⟨b, hrb, by rw [settledPhase, if_neg hp]⟩

/-- What sets no phase leaves it so. -/
theorem Settled.still {w w₁ w₂ : World φ} (hs : Settled T w w₁) (hm : Moves (fun _ => True) [] w₁.journal w₂.journal) :
    Settled T w w₂ := by
  intro b hb
  obtain ⟨row, hrow, hphase⟩ := hs b hb
  obtain ⟨row', hrow', -, hphase'⟩ := hm.row _ row hrow
  rcases hphase' with hsame | hmem
  · exact ⟨row', hrow', hsame.trans hphase⟩
  · cases hmem

theorem along_runPendingRollback (hT : T.rollback = .automatic) {w : World φ} (hw : DistinctBatches w.journal) :
    Along A Settles (fun r w' => Settles w w' ∧ (r = .ok () → Settled T w w')) (runPendingRollback T h) w := by
  have hassoc : runPendingRollback T h = (selectBatches T (pendingBatch T h) >>= rollbackBatches T h) >>= fun outcome =>
      if outcome.failures ≠ [] then .raise (.safeWorkspace (rollbackFailureMessage outcome.failures))
      else if outcome.debts ≠ [] then .raise (.safeWorkspace (cleanupDebtMessage outcome.debts)) else .ret () := by
    rw [runPendingRollback, hT]
    exact (Program.bind_assoc _).symm
  rw [hassoc]
  refine along_bind (along_mono (fun _ _ ht => ht.journal) (fun r w₁ h₁ => ?_)
    (along_selectThenRollback (A := A) (selects_pendingBatch (T := T) (h := h)) hw))
  cases r with
  | error e => exact ⟨h₁.1.journal, fun hr => by cases hr⟩
  | ok outcome =>
    dsimp only
    split
    · exact ⟨h₁.1.journal, fun hr => by cases hr⟩
    · next hfailures =>
      split
      · exact ⟨h₁.1.journal, fun hr => by cases hr⟩
      · next hdebts =>
        have hclean : CleanOutcome A outcome := ⟨not_not.1 hfailures, Or.inr (not_not.1 hdebts)⟩
        exact ⟨h₁.1.journal, fun _ => (h₁.2 outcome rfl hclean).settled⟩

/-- Steps that set no phase, after the pending rollback. -/
theorem along_settled {w w₁ : World φ} {p : Op φ ω α} (hp : AllMove (fun _ => True) [] p) (hs : Settles w w₁)
    (hsettled : Settled T w w₁) :
    Along A Settles (fun _ w' => Settles w w' ∧ Settled T w w') p w₁ := by
  refine along_eachStep (I := fun w' => Settles w w' ∧ Settled T w w') (fun w₂ w₃ hstep hI => ?_) hp ⟨hs, hsettled⟩
  have hstep' : Settles w₂ w₃ := hstep.journal.mono (fun _ h => h) fun _ hp => by cases hp
  exact ⟨hstep', hI.1.trans hstep', hI.2.still hstep.journal⟩

/-- The end of a transaction whose body did not raise: if it does not raise either,
what was pending is rolled back, and nothing else has changed its phase. -/
theorem along_exitAfterSuccess (hT : T.rollback = .automatic) (s : TransactionState) {w : World φ}
    (hw : DistinctBatches w.journal) :
    Along A Settles (fun r w' => r = .ok () → Settles w w' ∧ Settled T w w') (exitAfterSuccess T s) w := by
  refine along_seq (Q := fun r w' => w' = w) (along_call fun i _ => ⟨Moves.refl, rfl⟩) ?_ fun e w' _ hr => by cases hr
  rintro h w' rfl
  refine along_outcome_seq (along_runPendingRollback hT hw) fun pending w₁ h₁ => ?_
  cases pending with
  | error e =>
    have hmove : AllMove (fun _ => True) rollbackPhases (abandonAndRaise T s e) :=
      move_bind (move_markFinalizationFailed s) fun _ => move_bind move_abandonTransaction fun _ => move_raise e
    have hraise : ∀ u : Unit, Yields (fun _ => False) (.raise e : Op φ ω Unit) := fun _ => trivial
    have hnever : Yields (fun _ => False) (abandonAndRaise T s e) := yields_bind fun _ => yields_bind hraise
    refine along_mono (fun _ _ h => h) (fun r w₂ h₂ hr => ?_)
      (along_yields hnever (along_eachStep (I := fun _ => True) (fun _ _ hs _ => ⟨hs.journal, trivial⟩) hmove trivial))
    exact (h₂.2 () hr).elim
  | ok _ =>
    dsimp only
    have hsettled := h₁.2 rfl
    split
    · refine along_mono (fun _ _ h => h) (fun r w₂ h₂ _ => ?_) (along_settled (move_commitPlain s) h₁.1 hsettled)
      exact h₂
    · refine along_mono (fun _ _ h => h) (fun r w₂ h₂ _ => ?_) (along_settled (move_commitLinked s) h₁.1 hsettled)
      exact h₂

/-! ## The whole transaction -/

/-- The batch is planned in every state of the run that has it. -/
def NeverStarted (T : Transaction φ ω) (body : TransactionBody) (w : World φ) (inputs : List (Sample ω)) (id : String) :
    Prop :=
  ∀ t ∈ (runTransaction T body).trace w inputs, ∀ row, t.journal.batchRow id = some row → row.phase = .planned

/-- Every batch of the instance is succeeded, recovered, or planned and never started. -/
def NothingUnresolved (T : Transaction φ ω) (body : TransactionBody) (w : World φ) (inputs : List (Sample ω))
    (w' : World φ) : Prop :=
  ∀ b ∈ w'.journal.batches, belongsTo T b = true → b.phase = .succeeded ∨ b.phase = .recoverySucceeded ∨
    b.phase = .planned ∧ NeverStarted T body w inputs b.batchId

/-- A batch that is planned where the run finishes was never started. -/
theorem neverStarted_of_planned {body : TransactionBody} {w w' : World φ} {inputs rest : List (Sample ω)}
    {r : Except OperationError Unit} (hrun : (runTransaction T body).exec w inputs = (some (r, rest), w'))
    {b : BatchRow Payload} (hrow : w'.journal.batchRow b.batchId = some b) (hplanned : b.phase = .planned) :
    NeverStarted T body w inputs b.batchId := by
  intro t ht row htrow
  have hgrows : Grows t.journal w'.journal := by
    have hreach := along_reaches (R := fun w w' : World φ => Continues (fun _ _ => True) w.journal w'.journal)
      (fun _ => Continues.refl) (fun h₁ h₂ => h₁.trans h₂) (growing_runTransaction body w) inputs (meets_true _ _ _) t ht
    rw [hrun] at hreach
    exact hreach.grows
  obtain ⟨row', hrow', -, hphase⟩ := hgrows.row _ row htrow
  rw [hrow] at hrow'
  cases hrow'
  by_contra hne
  exact hphase hne hplanned

theorem Resolvable.settled {b : BatchRow Payload} (h : Resolvable b) :
    settledPhase b = .succeeded ∨ settledPhase b = .recoverySucceeded ∨ settledPhase b = .planned := by
  unfold settledPhase
  split
  · exact Or.inr (Or.inl rfl)
  · next hpending => exact h.resolve_left hpending

/-- A transaction that ends without raising: its body did not raise either, and where all was
resolvable when the body ended, nothing is unresolved. -/
theorem nothingUnresolved_of_resolvable (hT : T.rollback = .automatic) {body : TransactionBody} {w w' : World φ}
    {inputs rest : List (Sample ω)} (hw : DistinctBatches w.journal)
    (hrun : (runTransaction T body).exec w inputs = (some (.ok (), rest), w')) :
    ∃ s mid w₁, (enterTransaction T >>= runBody T body).exec w inputs = (some (.ok (s, none), mid), w₁) ∧
      (AllResolvable T w₁ → NothingUnresolved T body w inputs w') := by
  obtain ⟨s₀, mid₀, w₀, henter, hexit⟩ := exec_bind_ok hrun
  obtain ⟨⟨s, raised⟩, mid, w₁, hbody, hexit⟩ := exec_bind_ok hexit
  obtain ⟨_, mid₂, w₂, hleft, hexit⟩ := exec_bind_ok hexit
  have hends : (enterTransaction T >>= runBody T body).exec w inputs = (some (.ok (s, raised), mid), w₁) := by
    rw [Program.bind_eq, exec_bind, henter]
    exact hbody
  cases raised with
  -- a body that raised: leaving raises again, resolved or not
  | some e =>
    have hraise : ∀ {β : Type} (b : β), Yields (fun _ => False) (.raise e : Op φ ω Unit) := fun _ => trivial
    have hnever : Yields (fun _ => False) (exitAfterError T s e) := by
      refine yields_bind fun h => yields_bind fun resolved => ?_
      cases resolved with
      | false => exact yields_bind hraise
      | true => exact yields_bind hraise
    exact (exec_yields hnever hexit).elim
  -- the journal goes on from where the body left it, and every own batch is settled
  | none =>
    have hjournal : w₂.journal = w₁.journal :=
      along_finishes (C := fun _ _ => True) (R := fun _ _ => True) (Q := fun _ w' => w'.journal = w₁.journal)
        (along_call fun _ _ => ⟨trivial, rfl⟩) (meets_true _ _ _) hleft
    have hgrows : Continues (fun _ _ => True) w.journal w₁.journal :=
      along_finishes (growing_bind move_enterTransaction.still (growing_runBody body) w) (meets_true _ _ _) hends
    have hdistinct : DistinctBatches w₂.journal := hjournal ▸ hgrows.grows.distinct hw
    obtain ⟨hsettles, hsettled⟩ :=
      along_finishes (along_exitAfterSuccess (A := fun _ _ => True) hT s hdistinct) (meets_true _ _ _) hexit rfl
    refine ⟨s, mid, w₁, hends, fun hall b' hb' hown' => ?_⟩
    have hrow' : w'.journal.batchRow b'.batchId = some b' := (hsettles.distinct hdistinct).row_of_mem hb'
    obtain ⟨b, hrow, hcreated, -⟩ := hsettles.source hrow'
    have hid : b.batchId = b'.batchId := findRow_key hrow
    have hown : belongsTo T b = true := (belongsTo_created hcreated).symm.trans hown'
    have hsafe := (hall b (hjournal ▸ findRow_mem hrow) hown).settled
    obtain ⟨row, hrow, hphase⟩ := hsettled b (mem_ownBatches.2 ⟨findRow_mem hrow, hown⟩)
    rw [hid, hrow'] at hrow
    cases hrow
    rw [← hphase] at hsafe
    rcases hsafe with h | h | h
    · exact Or.inl h
    · exact Or.inr (Or.inl h)
    · exact Or.inr (Or.inr ⟨h, neverStarted_of_planned hrun hrow' h⟩)

/-! ## The regions of a body -/

/-- `runKeyed`, of a method with these regions. -/
def keyedRegions (T : Transaction φ ω) (s : TransactionState) (operation : String) (r : ResourceHandle)
    (links : OperationLinks) (o : CallOptions) (regions : Caller → OpRegions φ ω Unit) : OpRegions φ ω CallResult :=
  let (s, key) := callKey T s operation o.idempotencyKey r
  .caught (regions (T.caller s key links o.now)) fun result => .ret (s, result)

/-- `runMutate` -/
def mutateRegions (T : Transaction φ ω) (s : TransactionState) (m : MutationRequest) (o : CallOptions) :
    OpRegions φ ω CallResult :=
  match requireRequestClaimed T m with
  | .error e => .ret (s, .error e)
  | .ok r => .free (resolveLinks T s o.links).outcome fun
    | .error e => .ret (s, .error e)
    | .ok (s, links) => .free (claimQuarantine T s m o.now).outcome fun
      | .error e => .ret (s, .error e)
      | .ok s => keyedRegions T s (requestName m) r links o fun c => mutationRegions T.workspace.coordinator c m

/-- `runResolvedTree` -/
def resolvedTreeRegions (T : Transaction φ ω) (s : TransactionState) (r : ResourceHandle) (links : OperationLinks)
    (o : CallOptions) : TreeRequest → OpRegions φ ω CallResult
  | .backupTree path relativePaths key storePath => keyedRegions T s "backup_tree" r links o fun c =>
      runBackupRegions T.workspace.coordinator c path relativePaths key (some storePath)
  | .restoreTreeBackup path backup _ key storePath policy => keyedRegions T s "restore_tree_backup" r links o fun c =>
      runRestoreRegions T.workspace.coordinator c backup path key (some storePath) policy
  | .snapshotBundle path paths includeChildren hashPolicy smallFileMaxBytes key =>
    .free (fsRead fun os fs => T.workspace.coordinator.ops.snapshotBundle os fs (paths.getD path.toList)
      includeChildren hashPolicy smallFileMaxBytes).outcome fun
    | .error e => .ret (s, .error e)
    | .ok bundle => keyedRegions T s "snapshot_bundle" r links o fun c => runBundleRegions c bundle key

/-- `runTree` -/
def treeRegions (T : Transaction φ ω) (s : TransactionState) (m : TreeRequest) (o : CallOptions) :
    OpRegions φ ω CallResult :=
  match requireTreeRequest T m with
  | .error e => .ret (s, .error e)
  | .ok r => .free (resolveLinks T s o.links).outcome fun
    | .error e => .ret (s, .error e)
    | .ok (s, links) => resolvedTreeRegions T s r links o m

/-- `runRequest` -/
def requestRegions (T : Transaction φ ω) (s : TransactionState) : TransactionRequest → OpRegions φ ω CallResult
  | .mutate m o => mutateRegions T s m o
  | .tree m o => treeRegions T s m o
  | .ensureImplicitOperation now =>
    .free (ensureImplicitOperation T s now) fun (s, links) => .ret (s, links.map fun _ => ())
  | .claimDirectory key now => .free (updating s (claimDirectoryResource T s key now)) .ret
  | .makeDirectoryPath path key idempotencyKey links parents existOk recursive now =>
    .caught (mutationRegions T.workspace.coordinator (T.caller s idempotencyKey links now)
      (.makeDirectory path key parents existOk recursive)) fun result => .ret (s, result)

/-- `runBody` -/
def bodyRegions (T : Transaction φ ω) : TransactionBody → TransactionState →
    OpRegions φ ω (TransactionState × Option OperationError)
  | .finish, s => .ret (s, none)
  | .fail message, s => .ret (s, some (.body message))
  | .call request next, s => .seq (requestRegions T s request) fun (s, answer) => bodyRegions T (next answer) s

section Regions

variable {w : World φ} {s : TransactionState} {r : ResourceHandle} {o : CallOptions}

theorem runKeyed_regions (links : OperationLinks) {operation : String} {run : Caller → Op φ ω Unit} {regions : Caller → OpRegions φ ω Unit}
    (h : ∀ c, run c = (regions c).run) :
    runKeyed T s operation r links o run = (keyedRegions T s operation r links o regions).run := by
  rw [funext h]
  rfl

theorem runMutate_regions (m : MutationRequest) : runMutate T s m o = (mutateRegions T s m o).run := by
  unfold runMutate mutateRegions
  cases requireRequestClaimed T m with
  | error e => rfl
  | ok r =>
    refine Regions.bind_free fun resolved => ?_
    cases resolved with
    | error e => rfl
    | ok resolved =>
      refine Regions.bind_free fun claimed => ?_
      cases claimed with
      | error e => rfl
      | ok s' => exact runKeyed_regions resolved.2 fun _ => runMutation_regions m

theorem runResolvedTree_regions (links : OperationLinks) (m : TreeRequest) :
    runResolvedTree T s r links o m = (resolvedTreeRegions T s r links o m).run := by
  cases m with
  | backupTree path relativePaths key storePath => exact runKeyed_regions links fun _ => backupTree_regions _ _ _ _
  | restoreTreeBackup path backup destinationRoot key storePath policy =>
    exact runKeyed_regions links fun _ => restoreTreeBackup_regions _ _ _ _ _
  | snapshotBundle path paths includeChildren hashPolicy smallFileMaxBytes key =>
    refine Regions.bind_free fun taken => ?_
    cases taken with
    | error e => rfl
    | ok bundle => exact runKeyed_regions links fun _ => snapshotBundle_regions _ _

theorem runTree_regions (m : TreeRequest) : runTree T s m o = (treeRegions T s m o).run := by
  unfold runTree treeRegions
  cases requireTreeRequest T m with
  | error e => rfl
  | ok r =>
    refine Regions.bind_free fun resolved => ?_
    cases resolved with
    | error e => rfl
    | ok resolved => exact runResolvedTree_regions resolved.2 m

theorem runRequest_regions (request : TransactionRequest) : runRequest T s request = (requestRegions T s request).run := by
  cases request with
  | mutate m o => exact runMutate_regions m
  | tree m o => exact runTree_regions m
  | ensureImplicitOperation now => exact Regions.bind_free fun _ => rfl
  | claimDirectory key now => exact (bind_ret _).symm
  | makeDirectoryPath path key idempotencyKey links parents existOk recursive now =>
    exact congrArg (fun p => (Program.outcome p).bind _)
      (runMutation_regions (.makeDirectory path key parents existOk recursive))

/-- A body is the program of the regions of its calls. -/
theorem runBody_regions : ∀ (body : TransactionBody) (s : TransactionState), runBody T body s = (bodyRegions T body s).run
  | .finish, _ => rfl
  | .fail _, _ => rfl
  | .call request next, _ =>
    congrArg₂ Program.bind (runRequest_regions request) (funext fun (s, answer) => runBody_regions (next answer) s)

theorem leaves_keyedRegions (links : OperationLinks) {operation : String} {regions : Caller → OpRegions φ ω Unit}
    (h : ∀ c, (regions c).Leaves (fun _ => Resolved T) w) :
    (keyedRegions T s operation r links o regions).Leaves (fun _ => Resolved T) w :=
  Regions.leaves_caught (h _) fun _ _ hw => hw

theorem leaves_mutateRegions (m : MutationRequest) (hw : Resolved T w) :
    (mutateRegions T s m o).Leaves (fun _ => Resolved T) w := by
  unfold mutateRegions
  split
  · exact hw
  · refine leaves_free (eachStep_outcome (move_resolveLinks _ _)) (fun resolved w₁ h₁ => ?_) hw
    cases resolved with
    | error e => exact h₁
    | ok resolved =>
      refine leaves_free (eachStep_outcome (move_claimQuarantine _ _ _)) (fun claimed w₂ h₂ => ?_) h₁
      cases claimed with
      | error e => exact h₂
      | ok s' => exact leaves_keyedRegions resolved.2 fun _ => leaves_mutationRegions m h₂

theorem leaves_resolvedTreeRegions (links : OperationLinks) (m : TreeRequest) (hw : Resolved T w) :
    (resolvedTreeRegions T s r links o m).Leaves (fun _ => Resolved T) w := by
  cases m with
  | backupTree path relativePaths key storePath =>
    exact leaves_keyedRegions links fun _ => leaves_runBackupRegions _ _ _ _ hw
  | restoreTreeBackup path backup destinationRoot key storePath policy =>
    exact leaves_keyedRegions links fun _ => leaves_runRestoreRegions _ _ _ _ _ hw
  | snapshotBundle path paths includeChildren hashPolicy smallFileMaxBytes key =>
    refine leaves_free (eachStep_outcome (eachStep_call fun _ _ => .refl)) (fun taken w₁ h₁ => ?_) hw
    cases taken with
    | error e => exact h₁
    | ok bundle => exact leaves_keyedRegions links fun _ => leaves_runBundleRegions _ _ h₁

theorem leaves_treeRegions (m : TreeRequest) (hw : Resolved T w) :
    (treeRegions T s m o).Leaves (fun _ => Resolved T) w := by
  unfold treeRegions
  split
  · exact hw
  · refine leaves_free (eachStep_outcome (move_resolveLinks _ _)) (fun resolved w₁ h₁ => ?_) hw
    cases resolved with
    | error e => exact h₁
    | ok resolved => exact leaves_resolvedTreeRegions resolved.2 m h₁

theorem leaves_requestRegions (request : TransactionRequest) (hw : Resolved T w) :
    (requestRegions T s request).Leaves (fun _ => Resolved T) w := by
  cases request with
  | mutate m o => exact leaves_mutateRegions m hw
  | tree m o => exact leaves_treeRegions m hw
  | ensureImplicitOperation now => exact leaves_free (move_ensureImplicitOperation _ _) (fun _ _ h => h) hw
  | claimDirectory key now =>
    refine leaves_free (move_bind (eachStep_outcome (move_claimDirectoryResource _ _ _)) fun claimed => ?_)
      (fun _ _ h => h) hw
    cases claimed <;> exact move_ret _
  | makeDirectoryPath path key idempotencyKey links parents existOk recursive now =>
    exact Regions.leaves_caught (leaves_mutationRegions _ hw) fun _ _ h => h

/-- **What a body leaves.** The induction is on its calls. -/
theorem leaves_bodyRegions : ∀ (body : TransactionBody) (s : TransactionState) {w : World φ}, Resolved T w →
    (bodyRegions T body s).Leaves (fun _ => Resolved T) w
  | .finish, _, _, hw => hw
  | .fail _, _, _, hw => hw
  | .call request next, _, _, hw => Regions.leaves_seq (leaves_requestRegions request hw)
      fun (s, answer) _ h => leaves_bodyRegions (next answer) s h

end Regions

/-- In this run, no bare region of a call of the body raises, and no failure record raises
before the batch is marked failed or the lease-lost marker is left. -/
def FailuresRecorded (T : Transaction φ ω) (body : TransactionBody) (w : World φ) (inputs : List (Sample ω)) : Prop :=
  (Regions.free (enterTransaction T) (bodyRegions T body)).Kept w inputs

instance (T : Transaction φ ω) (body : TransactionBody) (w : World φ) (inputs : List (Sample ω)) :
    Decidable (FailuresRecorded T body w inputs) := Regions.decidableKept _ _ _

private def midday : DateTime := .soon 100

private def steps : List (Sample Unit) :=
  (List.range 40).map fun n => ⟨midday, toString n, toString n, none, ()⟩

/-- A transaction on a directory, at a fixed time. -/
private def noting : Transaction Unit Unit where
  workspace := ⟨.inert, "owner", "lease", 1000, none⟩
  name := "tx"
  resources := ⟨[⟨"directory:/d", "directory", none⟩], by decide⟩
  runId := "run"
  rollback := .automatic
  now := some midday
  instanceId := "i"

/-- `try: tx.make_directory(…)` of a directory that is there, with `except Exception: pass`. -/
private def catching : TransactionBody :=
  .call (.mutate (.recordDirectoryNoop ["d"] "directory:/d") ⟨none, ⟨none, none⟩, none⟩) fun _ => .finish

private theorem catching_recovered : ∃ rest w',
    (runTransaction noting catching).exec (World.init ()) steps = (some (.ok (), rest), w') ∧
      w'.journal.batches.map (fun b => (belongsTo noting b, b.phase)) = [(true, .recoverySucceeded)] :=
  ⟨_, _, rfl, rfl⟩

/-- A transaction on two files, at a fixed time. -/
private def moving : Transaction Unit Unit where
  workspace := ⟨.inert, "owner", "lease", 1000, none⟩
  name := "tx"
  resources := ⟨[⟨"file:/a", "file", none⟩, ⟨"file:/b", "file", none⟩], by decide⟩
  runId := "run"
  rollback := .automatic
  now := some midday
  instanceId := "i"

/-- `try: tx.rename_no_replace(…)` with `except Exception: pass`. -/
private def swallowing : TransactionBody :=
  .call (.mutate (.renameNoReplace ["a"] ["b"] "file:/a" "file:/b") ⟨none, ⟨none, none⟩, none⟩) fun _ => .finish

private theorem swallowing_attempting : ∃ rest w',
    (runTransaction moving swallowing).exec (World.init ()) steps = (some (.ok (), rest), w') ∧
      w'.journal.batches.map (fun b => (belongsTo moving b, b.phase)) = [(true, .attempting)] :=
  ⟨_, _, rfl, rfl⟩

end SafeFsOps
