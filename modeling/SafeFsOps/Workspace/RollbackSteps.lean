import Mathlib.Data.List.ReduceOption
import SafeFsOps.OperationJournal.StepRules
import SafeFsOps.Workspace.CleanupSteps
import SafeFsOps.Workspace.TransactionRollback

/-!
# The steps of a rollback

A rollback selects batches of the instance, marking those that are not up for
recovery yet, and then recovers them one by one. Selecting touches the instance's
batches only (`along_selectBatches`), recovering one touches that one only
(`along_rollbackBatch`), and a rollback without failure leaves every batch it was
given recovered (`along_rollbackBatches`).
-/

namespace SafeFsOps

open Program

variable {φ ω α β : Type} {T : Transaction φ ω} {h : LeaseHolder} {A : Sample ω → World φ → Prop}

/-- What marking a batch and recovering it may set. -/
def rollbackPhases : List BatchPhase := .recoveryDesired :: attemptPhases

/-- The batch is recovered. -/
def IsRecovered (id : String) (w : World φ) : Prop :=
  ∃ row, w.journal.batchRow id = some row ∧ row.phase = .recoverySucceeded

instance (id : String) (w : World φ) : Decidable (IsRecovered id w) :=
  match h : w.journal.batchRow id with
  | none => isFalse fun ⟨row, hrow, _⟩ => by
    rw [h] at hrow
    cases hrow
  | some row => decidable_of_iff (row.phase = .recoverySucceeded)
    ⟨fun hphase => ⟨row, h, hphase⟩, fun ⟨row', hrow, hphase⟩ => by
      rw [h] at hrow
      cases hrow
      exact hphase⟩

/-- A batch stays recovered while others are touched. -/
theorem IsRecovered.other {id : String} {S : String → Prop} {P : List BatchPhase} {w w' : World φ}
    (hr : IsRecovered id w) (ht : Touches S P w w') (hid : ¬ S id) : IsRecovered id w' := by
  obtain ⟨row, hrow, hphase⟩ := hr
  exact ⟨row, (ht.journal.other id hid).trans hrow, hphase⟩

/-- A batch stays recovered while no phase is set. -/
theorem IsRecovered.still {id : String} {S : String → Prop} {w w' : World φ} (hr : IsRecovered id w)
    (ht : Moves S [] w.journal w'.journal) : IsRecovered id w' := by
  obtain ⟨row, hrow, hphase⟩ := hr
  obtain ⟨row', hrow', -, hphase'⟩ := ht.row id row hrow
  refine ⟨row', hrow', ?_⟩
  rcases hphase' with hsame | hmem
  · rw [hsame, hphase]
  · cases hmem

/-! ## What is read first -/

section Reads

variable {S : String → Prop} {P : List BatchPhase} {C : Coordinator φ ω}

theorem touch_isUnsupportedBatch (h : LeaseHolder) (batch : BatchRow Payload) :
    AllTouch S P (isUnsupportedBatch C batch) := by
  have hrecursive : ∀ checkpoints own, AllQuiet (JournalWrite.On S P) h.lease
      (hasRecursiveMkdirProof batch checkpoints own : Op φ ω Bool) := fun _ _ =>
    quiet_ite (quiet_pure _) (quiet_ite (quiet_pure _) (quiet_bind (quiet_databaseRead _) fun _ => quiet_pure _))
  have hrename : ∀ checkpoints, AllQuiet (JournalWrite.On S P) h.lease (hasRenameProof batch checkpoints : Op φ ω Bool) :=
    fun _ => quiet_ite (quiet_pure _) (quiet_bind (quiet_databaseRead _) fun _ => quiet_pure _)
  have hcapture : ∀ checkpoints, AllQuiet (JournalWrite.On S P) h.lease (hasCaptureProof C batch checkpoints) := fun _ =>
    quiet_ite (quiet_pure _) <| quiet_bind (quiet_databaseRead _) fun _ => quiet_ite (quiet_pure _) <|
      quiet_bind (quiet_databaseRead _) fun _ => quiet_bind (quiet_databaseRead _) fun _ =>
        quiet_bind (quiet_capturedDirectoryPlans _) fun _ => quiet_pure _
  have hfile : ∀ checkpoints, AllQuiet (JournalWrite.On S P) h.lease (hasFileBackupProof batch checkpoints : Op φ ω Bool) := by
    refine fun _ => quiet_bind ?_ fun _ => quiet_pure _
    unfold latestFailurePayload
    split
    · exact quiet_pure _
    · exact quiet_bind (quiet_databaseRead _) fun _ => quiet_pure _
  have hsupports : AllQuiet (JournalWrite.On S P) h.lease (supportsAutomaticRollback C batch) := by
    unfold supportsAutomaticRollback
    split
    · exact quiet_pure _
    · refine quiet_bind (quiet_databaseRead _) fun checkpoints => ?_
      split
      · exact hrecursive _ _
      · exact quiet_pure _
      · exact hrename _
      · exact hcapture _
      · exact hfile _
  unfold isUnsupportedBatch
  split
  · exact trivial
  · exact trivial
  · exact trivial
  · exact trivial
  · exact (quiet_bind hsupports fun _ => quiet_pure _).touch

end Reads

/-! ## Which errors a recovery raises -/

/-- No step fails on its own account with the error of an artifact cleanup. -/
def NoCleanupFault (A : Sample ω → World φ → Prop) : Prop := ∀ i w, A i w → ∀ m, i.fault ≠ some (.artifactCleanup m)

/-- Not the error of an artifact cleanup. -/
def NotCleanup (e : OperationError) : Prop := ∀ m, e ≠ .artifactCleanup m

theorem raises_notCleanup {e : OperationError} (he : NotCleanup e) : RaisesOnly A NotCleanup (.raise e : Op φ ω α) := he

theorem NoCleanupFault.fault (hA : NoCleanupFault A) (i : Sample ω) (w : World φ) (e : OperationError) (hi : A i w)
    (hf : i.fault = some e) : NotCleanup e := fun m he => hA i w hi m (he ▸ hf)

theorem raises_journalWrite (hA : NoCleanupFault A)
    {write : JournalDb Payload → WriteContext → Except JournalError (α × JournalDb Payload)} :
    RaisesOnly A NotCleanup (journalWrite h write : Op φ ω α) := by
  refine raises_transaction hA.fault fun i w e _ he m => ?_
  split at he
  · cases he
  · cases he
    exact OperationError.noConfusion

theorem raises_databaseRead (hA : NoCleanupFault A) {read : Sample ω → World φ → Except OperationError α}
    (hread : ∀ i w e, read i w = .error e → NotCleanup e) : RaisesOnly A NotCleanup (databaseRead read) :=
  raises_read hA.fault hread

/-- An error of the journal, as a method raises it. -/
theorem notCleanup_journal {x : Except JournalError α} {e : OperationError} (h : x.mapError .journal = .error e) :
    NotCleanup e := by
  cases x with
  | error e' =>
    cases h
    exact fun m => OperationError.noConfusion
  | ok a => cases h

theorem raises_requireCurrent (hA : NoCleanupFault A) : RaisesOnly A NotCleanup (requireCurrent h : Op φ ω Unit) :=
  raises_databaseRead hA fun _ _ _ he => notCleanup_journal he

theorem raises_getBatch (hA : NoCleanupFault A) (id : String) :
    RaisesOnly A NotCleanup (getBatch id : Op φ ω (Option (BatchRow Payload))) :=
  raises_databaseRead hA fun _ _ _ he => by cases he

/-- A recovery raises its own errors, not those of a cleanup. -/
theorem raises_recoverBatch (hA : NoCleanupFault A) (id : String) (recover : RecoveryContext → Op φ ω Unit) :
    RaisesOnly A NotCleanup (recoverBatch h id recover) := by
  have hfinish : ∀ (ctx : RecoveryContext) (attempt : String) (result : Except OperationError Unit),
      RaisesOnly A NotCleanup (finishRecovery h ctx id attempt result : Op φ ω _) := by
    intro ctx attempt result
    cases result with
    | error e =>
      refine raises_bind (fun _ => raises_notCleanup fun m => ?_) (raises_outcome _)
      exact OperationError.noConfusion
    | ok _ =>
      refine raises_bind (fun record => ?_) (raises_journalWrite hA)
      refine raises_bind (fun updated => ?_) (raises_getBatch hA id)
      cases updated with
      | some row => exact trivial
      | none => exact fun m => OperationError.noConfusion
  have hattempt : ∀ attempt : String, RaisesOnly A NotCleanup (runAttempt h id attempt recover) := by
    intro attempt
    refine raises_bind (fun ctx => ?_) (raises_databaseRead hA fun _ _ _ he => notCleanup_journal he)
    refine raises_bind (fun _ => ?_) (raises_databaseRead hA fun _ _ _ he => notCleanup_journal he)
    exact raises_bind (fun result => hfinish ctx attempt result) (raises_outcome _)
  refine raises_bind (fun entry => ?_) (raises_call fun _ _ _ _ he => by cases he)
  refine raises_bind (fun _ => ?_) (raises_requireCurrent hA)
  refine raises_bind (fun found => ?_) (raises_getBatch hA id)
  cases found with
  | none => exact fun m => OperationError.noConfusion
  | some batch =>
    dsimp only
    split
    · exact fun m => OperationError.noConfusion
    · refine raises_bind (fun started => hattempt _) (raises_onRaise (fun e he => ?_) (raises_journalWrite hA))
      unfold startRecoveryRaised
      split
      · exact fun m => OperationError.noConfusion
      · refine raises_bind (fun _ => raises_notCleanup fun m => ?_) (raises_getBatch hA _)
        exact OperationError.noConfusion
      · exact he

/-! ## One batch -/

/-- An outcome without failure; where a cleanup may fail on its own account, without debt either. -/
def CleanOutcome (A : Sample ω → World φ → Prop) (out : RollbackOutcome) : Prop :=
  out.failures = [] ∧ (NoCleanupFault A ∨ out.debts = [])

/-- The recovery of a batch and its cleanup: where it does not raise, or only the
cleanup does, the batch is recovered. -/
theorem along_rollbackSupported (batch : BatchRow Payload) (w : World φ) :
    Along A (Touches (fun id => id = batch.batchId) attemptPhases)
      (fun r w' => Touches (fun id => id = batch.batchId) attemptPhases w w' ∧
        (r = .ok () ∨ NoCleanupFault A ∧ (∃ m, r = .error (.artifactCleanup m)) → IsRecovered batch.batchId w'))
      (rollbackSupported T h batch) w := by
  have hrecover : ∀ ctx : RecoveryContext, ctx.batch.batchId = batch.batchId →
      AllTouch (fun id => id = batch.batchId) attemptPhases (runRecoveryActions T.workspace.coordinator h ctx) :=
    fun ctx hctx => (quiet_runRecoveryActions hctx).touch
  have hcleanup : ∀ row : BatchRow Payload, row.batchId = batch.batchId →
      AllTouch (fun id => id = batch.batchId) [] (cleanupRecoveredArtifacts T h.lease row) := by
    intro row hrow
    refine eachStep_bind (fun debts => ?_) (touch_cleanupArtifactsForBatches _ _ _ fun b hb => ?_)
    · split <;> exact trivial
    · rw [List.mem_singleton.1 hb, hrow]
  have hraises : ∀ hA : NoCleanupFault A, Along A (Touches (fun id => id = batch.batchId) attemptPhases)
      (fun r w' => AttemptOutcome batch.batchId w r w' ∧ ∀ e, r = .error e → NotCleanup e)
      (recoverBatch h batch.batchId (runRecoveryActions T.workspace.coordinator h)) w :=
    fun hA => along_raises (raises_recoverBatch hA _ _) (along_recoverBatch hrecover w)
  -- what `recover_batch` raises is never the error of a cleanup, so that error means the batch was recovered
  have hbatch : Along A (Touches (fun id => id = batch.batchId) attemptPhases)
      (fun r w' => AttemptOutcome batch.batchId w r w' ∧ (NoCleanupFault A → ∀ e, r = .error e → NotCleanup e))
      (recoverBatch h batch.batchId (runRecoveryActions T.workspace.coordinator h)) w := by
    by_cases hA : NoCleanupFault A
    · exact along_mono (fun _ _ h => h) (fun _ _ h => ⟨h.1, fun _ => h.2⟩) (hraises hA)
    · exact along_mono (fun _ _ h => h) (fun _ _ h => ⟨h, fun h => absurd h hA⟩) (along_recoverBatch hrecover w)
  refine along_seq hbatch (fun row w₁ h₁ => ?_) fun e w₁ h₁ => ⟨h₁.1.1, fun hr => ?_⟩
  · obtain ⟨⟨ht, hrec⟩, -⟩ := h₁
    obtain ⟨hid, hphase, hrow⟩ := hrec row rfl
    refine along_mono (fun _ _ hs => hs.mono (fun _ hid => hid) fun _ hp => by cases hp) (fun r w₂ h₂ => ?_)
      (along_touch (hcleanup row hid) w₁)
    refine ⟨ht.trans (h₂.mono (fun _ hid => hid) fun _ hp => by cases hp), fun _ => ?_⟩
    exact IsRecovered.still ⟨row, hrow, hphase⟩ h₂.journal
  · rcases hr with hr | ⟨hA, m, hr⟩
    · cases hr
    · exact absurd (Except.error.inj hr) (h₁.2 hA e rfl m)

/-- **One batch of a rollback.** No other batch is touched, and a clean outcome
means that this one is recovered. -/
theorem along_rollbackBatch (batch : BatchRow Payload) (w : World φ) :
    Along A (Touches (fun id => id = batch.batchId) attemptPhases)
      (fun r w' => Touches (fun id => id = batch.batchId) attemptPhases w w' ∧
        ∀ out, r = .ok out → CleanOutcome A out → IsRecovered batch.batchId w')
      (rollbackBatch T h batch) w := by
  refine along_touch_seq (touch_isUnsupportedBatch h batch) (fun unsupported w₁ h₁ => ?_)
    fun e w₁ h₁ => ⟨h₁, fun out hr => by cases hr⟩
  split
  · refine ⟨h₁, fun out hr hclean => ?_⟩
    cases hr
    cases hclean.1
  · refine along_outcome_seq (along_rollbackSupported batch w₁) fun r w₂ h₂ => ?_
    refine ⟨h₁.trans h₂.1, fun out hr hclean => ?_⟩
    cases hr
    cases r with
    | ok u => exact h₂.2 (Or.inl rfl)
    | error e =>
      cases e with
      | artifactCleanup m =>
        rcases hclean.2 with hA | hdebts
        · exact h₂.2 (Or.inr ⟨hA, m, rfl⟩)
        · cases hdebts
      | _ => cases hclean.1

/-! ## All batches -/

/-- What is said of one batch stays true while others are touched. -/
def StableBatch (P : List BatchPhase) (G : BatchRow Payload → World φ → Prop) : Prop :=
  ∀ (S : String → Prop) (b : BatchRow Payload) (w w' : World φ), Touches S P w w' → ¬ S b.batchId → G b w → G b w'

/-- Each round of a loop over distinct batches touches its own batch: what the
rounds come to, one by one, holds of all of them at the end. -/
theorem along_mapEach_touch {P : List BatchPhase} {f : BatchRow Payload → Op φ ω α}
    {J : BatchRow Payload → World φ → Prop} {G : BatchRow Payload → α → World φ → Prop}
    (hPre : StableBatch P J) (hG : ∀ a, StableBatch P fun b w => G b a w)
    (hf : ∀ b w, J b w → Along A (Touches (fun id => id = b.batchId) P)
      (fun r w' => Touches (fun id => id = b.batchId) P w w' ∧ ∀ a, r = .ok a → G b a w') (f b) w)
    (batches : List (BatchRow Payload)) :
    ∀ w, (batches.map BatchRow.batchId).Nodup → (∀ b ∈ batches, J b w) →
      Along A (Touches (fun id => id ∈ batches.map BatchRow.batchId) P)
        (fun r w' => Touches (fun id => id ∈ batches.map BatchRow.batchId) P w w' ∧
          ∀ as, r = .ok as → List.Forall₂ (fun b a => G b a w') batches as) (.mapEach batches f) w := by
  induction batches with
  | nil =>
    intro w _ _
    refine ⟨Touches.refl, fun as has => ?_⟩
    cases has
    exact List.Forall₂.nil
  | cons b rest ih =>
    intro w hids hpre
    rw [List.map_cons, List.nodup_cons] at hids
    have hhead : ∀ {w₁ w₂ : World φ}, Touches (fun id => id = b.batchId) P w₁ w₂ →
        Touches (fun id => id ∈ (b :: rest).map BatchRow.batchId) P w₁ w₂ :=
      fun ht => ht.mono (fun id (hid : id = b.batchId) => by rw [hid]; exact List.mem_cons_self) fun _ hp => hp
    have htail : ∀ {w₁ w₂ : World φ}, Touches (fun id => id ∈ rest.map BatchRow.batchId) P w₁ w₂ →
        Touches (fun id => id ∈ (b :: rest).map BatchRow.batchId) P w₁ w₂ :=
      fun ht => ht.mono (fun id hid => List.mem_cons_of_mem _ hid) fun _ hp => hp
    have hother : ∀ b' ∈ rest, b'.batchId ≠ b.batchId :=
      fun b' hb' heq => hids.1 (heq ▸ List.mem_map.2 ⟨b', hb', rfl⟩)
    refine along_bind (along_mono (fun _ _ ht => hhead ht) (fun r w₁ h₁ => ?_)
      (hf b w (hpre b List.mem_cons_self)))
    cases r with
    | error e => exact ⟨hhead h₁.1, fun as has => by cases has⟩
    | ok a =>
      have hrest := ih w₁ hids.2 fun b' hb' =>
        hPre _ b' w w₁ h₁.1 (hother b' hb') (hpre b' (List.mem_cons_of_mem _ hb'))
      refine along_bind (along_mono (fun _ _ ht => htail ht) (fun r w₂ h₂ => ?_) hrest)
      cases r with
      | error e => exact ⟨(hhead h₁.1).trans (htail h₂.1), fun as has => by cases has⟩
      | ok as =>
        refine ⟨(hhead h₁.1).trans (htail h₂.1), fun as' has' => ?_⟩
        cases has'
        exact List.Forall₂.cons (hG a _ b w₁ w₂ h₂.1 hids.1 (h₁.2 a rfl)) (h₂.2 as rfl)

/-- Each member of a list has its partner in a list it is paired off with. -/
theorem partner_of_mem {γ δ : Type} {r : γ → δ → Prop} {xs : List γ} {ys : List δ} (hxy : List.Forall₂ r xs ys) {x : γ}
    (hx : x ∈ xs) : ∃ y ∈ ys, r x y := by
  induction hxy with
  | nil => cases hx
  | @cons x' y' xs' ys' hr _ ih =>
    rcases List.mem_cons.1 hx with rfl | hx
    · exact ⟨y', List.mem_cons_self, hr⟩
    · obtain ⟨y, hy, hry⟩ := ih hx
      exact ⟨y, List.mem_cons_of_mem _ hy, hry⟩

/-- **A rollback without failure leaves every batch it was given recovered.** -/
theorem along_rollbackBatches {batches : List (BatchRow Payload)} (hids : (batches.map BatchRow.batchId).Nodup)
    (w : World φ) :
    Along A (Touches (fun id => id ∈ batches.map BatchRow.batchId) attemptPhases)
      (fun r w' => Touches (fun id => id ∈ batches.map BatchRow.batchId) attemptPhases w w' ∧
        ∀ out, r = .ok out → CleanOutcome A out → ∀ b ∈ batches, IsRecovered b.batchId w')
      (rollbackBatches T h batches) w := by
  have hloop := along_mapEach_touch (A := A) (P := attemptPhases) (J := fun _ _ => True)
    (G := fun b out w' => CleanOutcome A out → IsRecovered b.batchId w') (fun _ _ _ _ _ _ _ => trivial)
    (fun out S b w w' ht hb hG hout => (hG hout).other ht hb)
    (fun b w _ => along_rollbackBatch (T := T) (h := h) b w) batches w hids fun _ _ => trivial
  refine along_bind (along_mono (fun _ _ h => h) (fun r w' hr => ?_) hloop)
  cases r with
  | error e => exact ⟨hr.1, fun out h => by cases h⟩
  | ok outs =>
    refine ⟨hr.1, fun out hout hclean b hb => ?_⟩
    cases hout
    obtain ⟨o, ho, hrec⟩ := partner_of_mem (hr.2 outs rfl) hb
    refine hrec ⟨List.flatMap_eq_nil_iff.1 hclean.1 o ho, hclean.2.imp_right fun hnil => ?_⟩
    exact List.flatMap_eq_nil_iff.1 hnil o ho

/-! ## Selecting -/

/-- The batches of the instance. -/
def ownBatches (T : Transaction φ ω) (db : JournalDb Payload) : List (BatchRow Payload) :=
  (listBatchRows db (some T.runId)).filter (belongsTo T)

theorem mem_listBatchRows {db : JournalDb Payload} {runId : Option String} {b : BatchRow Payload} :
    b ∈ listBatchRows db runId ↔ b ∈ db.batches ∧ runId.all (· = b.runId) = true := by
  rw [listBatchRows, (List.perm_insertionSort _ _).mem_iff, List.mem_filter]

theorem listBatchRows_nodup {db : JournalDb Payload} (hdb : DistinctBatches db) (runId : Option String) :
    ((listBatchRows db runId).map BatchRow.batchId).Nodup := by
  refine ((List.perm_insertionSort _ _).map _).nodup_iff.2 ?_
  exact hdb.sublist (List.filter_sublist.map _)

theorem mem_ownBatches {db : JournalDb Payload} {b : BatchRow Payload} :
    b ∈ ownBatches T db ↔ b ∈ db.batches ∧ belongsTo T b = true := by
  rw [ownBatches, List.mem_filter, mem_listBatchRows, and_assoc]
  refine and_congr_right fun _ => ⟨fun h => h.2, fun h => ⟨?_, h⟩⟩
  have hrun : b.runId = T.runId := by
    simp only [belongsTo, decide_eq_true_eq] at h
    exact h.1
  simp [hrun]

theorem ownBatches_nodup {db : JournalDb Payload} (hdb : DistinctBatches db) :
    ((ownBatches T db).map BatchRow.batchId).Nodup :=
  (listBatchRows_nodup hdb _).sublist (List.filter_sublist.map _)

/-- What a selection makes of one batch: it puts it up for recovery if it is wanted, else leaves it. -/
def Selected (wanted : BatchRow Payload → Bool) (b : BatchRow Payload) (o : Option (BatchRow Payload)) (w' : World φ) : Prop :=
  (wanted b = true ∧ ∃ b', o = some b' ∧ b'.created = b.created) ∨
    wanted b = false ∧ o = none ∧ w'.journal.batchRow b.batchId = some b

/-- Each step of the program touches the batch only, and what it answers is so made of it. -/
def AlongSelected (A : Sample ω → World φ → Prop) (wanted : BatchRow Payload → Bool) (b : BatchRow Payload)
    (p : Op φ ω (Option (BatchRow Payload))) (w : World φ) : Prop :=
  Along A (Touches (fun id => id = b.batchId) [.recoveryDesired])
    (fun r w' => Touches (fun id => id = b.batchId) [.recoveryDesired] w w' ∧ ∀ o, r = .ok o → Selected wanted b o w') p w

/-- A selection that takes up the batches that are wanted. -/
def Selects (A : Sample ω → World φ → Prop) (wanted : BatchRow Payload → Bool)
    (select : BatchRow Payload → Op φ ω (Option (BatchRow Payload))) : Prop :=
  ∀ b w, w.journal.batchRow b.batchId = some b → AlongSelected A wanted b (select b) w

/-- The order depends on the columns a batch was created with. -/
theorem newestFirst_created {l l' : List (BatchRow Payload)} (h : l.map BatchRow.created = l'.map BatchRow.created) :
    (newestFirst l).map BatchRow.created = (newestFirst l').map BatchRow.created := by
  have hsort : ∀ l : List (BatchRow Payload), (newestFirst l).map BatchRow.created =
      (l.map BatchRow.created).insertionSort fun a b => b.storageOrder ≤ a.storageOrder :=
    fun l => List.map_insertionSort _ _ _ _ fun _ _ _ _ => Iff.rfl
  rw [hsort, hsort, h]

/-- The batches that were put up are those that were wanted, in the order of the list. -/
theorem selected_created {wanted : BatchRow Payload → Bool} {w : World φ} {batches : List (BatchRow Payload)}
    {os : List (Option (BatchRow Payload))}
    (h : List.Forall₂ (fun b o => Selected wanted b o w) batches os) :
    os.reduceOption.map BatchRow.created = (batches.filter wanted).map BatchRow.created := by
  induction h with
  | nil => rfl
  | @cons b o batches os hbo _ ih =>
    rcases hbo with ⟨hwanted, b', rfl, hcreated⟩ | ⟨hwanted, rfl, -⟩
    · rw [List.reduceOption_cons_of_some, List.filter_cons, if_pos hwanted, List.map_cons, List.map_cons, hcreated, ih]
    · rw [List.reduceOption_cons_of_none, List.filter_cons, if_neg (by simp [hwanted]), ih]

/-- **Selecting.** The batches of the instance that are wanted come out, newest
first; the others are as they were. -/
theorem along_selectBatches {wanted : BatchRow Payload → Bool}
    {select : BatchRow Payload → Op φ ω (Option (BatchRow Payload))} (hselect : Selects A wanted select) {w : World φ}
    (hw : DistinctBatches w.journal) :
    Along A (Touches (fun id => id ∈ (ownBatches T w.journal).map BatchRow.batchId) [.recoveryDesired])
      (fun r w' => Touches (fun id => id ∈ (ownBatches T w.journal).map BatchRow.batchId) [.recoveryDesired] w w' ∧
        ∀ rows, r = .ok rows →
          rows.map BatchRow.created =
            (newestFirst ((ownBatches T w.journal).filter wanted)).map BatchRow.created ∧
          ∀ b ∈ ownBatches T w.journal, wanted b = false → w'.journal.batchRow b.batchId = some b)
      (selectBatches T select) w := by
  set own := ownBatches T w.journal with hown
  have hids : (own.map BatchRow.batchId).Nodup := ownBatches_nodup hw
  -- the list is read first, then every batch of it is looked at in turn
  have hread : Along A (Touches (fun id => id ∈ own.map BatchRow.batchId) [.recoveryDesired])
      (fun r w' => w' = w ∧ ∀ batches, r = .ok batches → batches = own) (listOwnBatches T) w := by
    refine along_bind (along_databaseRead Touches.refl (fun _ e _ _ => ?_) fun i _ _ => ?_)
    · exact ⟨rfl, fun batches h => by cases h⟩
    · refine ⟨rfl, fun batches h => ?_⟩
      cases h
      exact hown.symm
  refine along_seq hread (fun batches w' h => ?_) fun e w' h => ?_
  · obtain ⟨rfl, hbatches⟩ := h
    rw [hbatches batches rfl]
    have hloop := along_mapEach_touch (A := A) (P := [.recoveryDesired]) (f := select)
      (J := fun b w => w.journal.batchRow b.batchId = some b)
      (G := fun b o w' => Selected wanted b o w')
      (fun S b w₁ w₂ ht hb hrow => (ht.journal.other _ hb).trans hrow)
      (fun o S b w₁ w₂ ht hb hG => hG.imp_right fun ⟨hn, ho, hrow⟩ => ⟨hn, ho, (ht.journal.other _ hb).trans hrow⟩)
      (fun b w₁ hrow => hselect b w₁ hrow) own w' hids
      fun b hb => hw.row_of_mem (mem_ownBatches.1 (hown ▸ hb)).1
    refine along_bind (along_mono (fun _ _ h => h) (fun r w₂ hr => ?_) hloop)
    cases r with
    | error e => exact ⟨hr.1, fun rows h => by cases h⟩
    | ok os =>
      refine ⟨hr.1, fun rows hrows => ?_⟩
      cases hrows
      refine ⟨newestFirst_created (selected_created (hr.2 os rfl)), fun b hb hn => ?_⟩
      obtain ⟨o, -, ⟨hwanted, -⟩ | ⟨-, -, hrow⟩⟩ := partner_of_mem (hr.2 os rfl) hb
      · rw [hn] at hwanted
        cases hwanted
      · exact hrow
  · obtain ⟨rfl, -⟩ := h
    exact ⟨Touches.refl, fun rows hr => by cases hr⟩

/-! ## The two selections -/

/-- A batch that is read back after a write of it. -/
theorem along_markThenRead {b : BatchRow Payload} {w : World φ} (hrow : w.journal.batchRow b.batchId = some b)
    {mark : Op φ ω (RecoveryRow Payload)} (hmark : AllTouch (fun id => id = b.batchId) [.recoveryDesired] mark) :
    Along A (Touches (fun id => id = b.batchId) [.recoveryDesired])
      (fun r w' => Touches (fun id => id = b.batchId) [.recoveryDesired] w w' ∧
        ∀ b', r = .ok b' → b'.created = b.created)
      (mark >>= fun _ => readMarked b.batchId) w := by
  refine along_touch_seq hmark (fun _ w₁ h₁ => ?_) fun e w₁ h₁ => ⟨h₁, fun b' hr => by cases hr⟩
  obtain ⟨b₁, hb₁, hcreated, -⟩ := h₁.journal.row b.batchId b hrow
  refine along_bind (along_databaseRead Touches.refl (fun _ e _ _ => ?_) fun i _ _ => ?_)
  · exact ⟨h₁, fun b' hr => by cases hr⟩
  · dsimp only
    rw [hb₁]
    refine ⟨h₁, fun b' hr => ?_⟩
    cases hr
    exact hcreated

theorem along_markRollback {b : BatchRow Payload} {w : World φ} (hrow : w.journal.batchRow b.batchId = some b) :
    Along A (Touches (fun id => id = b.batchId) [.recoveryDesired])
      (fun r w' => Touches (fun id => id = b.batchId) [.recoveryDesired] w w' ∧
        ∀ b', r = .ok b' → b'.created = b.created) (markRollback T h b) w :=
  along_markThenRead hrow (quiet_recordRecoveryDesiredStep
    (fun _ => ⟨⟨b.batchId, rfl, rfl⟩, fun _ hp => hp⟩) _ _).touch

theorem along_markInterrupted {b : BatchRow Payload} {w : World φ} (hrow : w.journal.batchRow b.batchId = some b) :
    Along A (Touches (fun id => id = b.batchId) [.recoveryDesired])
      (fun r w' => Touches (fun id => id = b.batchId) [.recoveryDesired] w w' ∧
        ∀ b', r = .ok b' → b'.created = b.created) (markInterrupted T h b) w :=
  along_markThenRead hrow (quiet_recordInterruptedStep
    (fun _ _ => ⟨⟨b.batchId, rfl, rfl⟩, fun _ hp => hp⟩) _ _ _).touch

/-- The phases that the pending rollback of a transaction takes up. -/
def pendingPhase : BatchPhase → Bool
  | .recoveryDesired | .failed | .recoveryFailed => true
  | _ => false

/-- The phases that the rollback of a body that raised takes up. -/
def eligiblePhase : BatchPhase → Bool
  | .recoveryDesired | .attempting | .recoveryFailed | .failed | .succeeded => true
  | .planned | .recovering | .recoverySucceeded => false

/-- What the pending rollback of a transaction that ends takes up. -/
def rollsBackPending (b : BatchRow Payload) : Bool := !isReadOnlyBatch b && pendingPhase b.phase

/-- What the rollback of a body that raised takes up. -/
def rollsBackEligible (b : BatchRow Payload) : Bool := !isReadOnlyBatch b && eligiblePhase b.phase

section Selections

variable {wanted : BatchRow Payload → Bool} {b : BatchRow Payload} {w : World φ}

theorem along_taken (hwanted : wanted b = true) : AlongSelected A wanted b (.ret (some b)) w := by
  refine ⟨Touches.refl, fun o ho => Or.inl ⟨hwanted, b, ?_, rfl⟩⟩
  cases ho
  rfl

theorem along_left (hwanted : wanted b = false) (hrow : w.journal.batchRow b.batchId = some b) :
    AlongSelected A wanted b (.ret none) w := by
  refine ⟨Touches.refl, fun o ho => Or.inr ⟨hwanted, ?_, hrow⟩⟩
  cases ho
  rfl

theorem along_marked {mark : Op φ ω (BatchRow Payload)} (hwanted : wanted b = true)
    (hmark : Along A (Touches (fun id => id = b.batchId) [.recoveryDesired])
      (fun r w' => Touches (fun id => id = b.batchId) [.recoveryDesired] w w' ∧
        ∀ b', r = .ok b' → b'.created = b.created) mark w) : AlongSelected A wanted b (some <$> mark) w := by
  refine along_seq hmark (fun b' w' h => ⟨h.1, fun o ho => ?_⟩) fun e w' h => ⟨h.1, fun o ho => by cases ho⟩
  cases ho
  exact Or.inl ⟨hwanted, b', rfl, h.2 b' rfl⟩

end Selections

theorem selects_pendingBatch : Selects A rollsBackPending (pendingBatch T h) := by
  intro b w hrow
  unfold pendingBatch
  cases hread : isReadOnlyBatch b with
  | true => exact along_left (by simp [rollsBackPending, hread]) hrow
  | false =>
    have hwanted : rollsBackPending b = pendingPhase b.phase := by simp [rollsBackPending, hread]
    rw [if_neg Bool.false_ne_true]
    cases hphase : b.phase with
    | recoveryDesired => exact along_taken (by rw [hwanted, hphase]; rfl)
    | failed | recoveryFailed => exact along_marked (by rw [hwanted, hphase]; rfl) (along_markRollback hrow)
    | _ => exact along_left (by rw [hwanted, hphase]; rfl) hrow

theorem selects_eligibleBatch : Selects A rollsBackEligible (eligibleBatch T h) := by
  intro b w hrow
  unfold eligibleBatch
  cases hread : isReadOnlyBatch b with
  | true => exact along_left (by simp [rollsBackEligible, hread]) hrow
  | false =>
    have hwanted : rollsBackEligible b = eligiblePhase b.phase := by simp [rollsBackEligible, hread]
    rw [if_neg Bool.false_ne_true]
    cases hphase : b.phase with
    | recoveryDesired => exact along_taken (by rw [hwanted, hphase]; rfl)
    | attempting => exact along_marked (by rw [hwanted, hphase]; rfl) (along_markInterrupted hrow)
    | recoveryFailed | failed | succeeded =>
      exact along_marked (by rw [hwanted, hphase]; rfl) (along_markRollback hrow)
    | planned | recovering | recoverySucceeded => exact along_left (by rw [hwanted, hphase]; rfl) hrow

/-! ## Selecting and rolling back -/

/-- What a rollback leaves: the batches that were wanted are recovered, the others as they were. -/
def RolledBack (T : Transaction φ ω) (wanted : BatchRow Payload → Bool) (w w' : World φ) : Prop :=
  ∀ b ∈ ownBatches T w.journal, if wanted b then IsRecovered b.batchId w'
    else w'.journal.batchRow b.batchId = some b

theorem created_batchIds {l l' : List (BatchRow Payload)} (h : l.map BatchRow.created = l'.map BatchRow.created) :
    l.map BatchRow.batchId = l'.map BatchRow.batchId := by
  have hids : ∀ l : List (BatchRow Payload), (l.map BatchRow.created).map BatchRow.batchId = l.map BatchRow.batchId := by
    intro l
    rw [List.map_map]
    rfl
  rw [← hids l, ← hids l', h]

/-- **A rollback without failure.** Every batch of the instance that was wanted is
recovered, every other is as it was. -/
theorem along_selectThenRollback {wanted : BatchRow Payload → Bool}
    {select : BatchRow Payload → Op φ ω (Option (BatchRow Payload))} (hselect : Selects A wanted select) {w : World φ}
    (hw : DistinctBatches w.journal) :
    Along A (Touches (fun _ => True) rollbackPhases)
      (fun r w' => Touches (fun _ => True) rollbackPhases w w' ∧
        ∀ out, r = .ok out → CleanOutcome A out → RolledBack T wanted w w')
      (selectBatches T select >>= rollbackBatches T h) w := by
  -- both loops move phases that a rollback may move
  have hsel : ∀ {S : String → Prop} {w₁ w₂ : World φ}, Touches S [.recoveryDesired] w₁ w₂ →
      Touches (fun _ => True) rollbackPhases w₁ w₂ :=
    fun ht => ht.mono (fun _ _ => trivial) fun p hp => List.mem_cons.2 (Or.inl (List.mem_singleton.1 hp))
  have hback : ∀ {S : String → Prop} {w₁ w₂ : World φ}, Touches S attemptPhases w₁ w₂ →
      Touches (fun _ => True) rollbackPhases w₁ w₂ :=
    fun ht => ht.mono (fun _ _ => trivial) fun p hp => List.mem_cons_of_mem _ hp
  refine along_bind (along_mono (fun _ _ ht => hsel ht) (fun r w₁ h₁ => ?_)
    (along_selectBatches (T := T) hselect hw))
  cases r with
  | error e => exact ⟨hsel h₁.1, fun out hr => by cases hr⟩
  | ok rows =>
    obtain ⟨htouch, hrows⟩ := h₁
    obtain ⟨hcreated, hleft⟩ := hrows rows rfl
    have hperm : (newestFirst ((ownBatches T w.journal).filter wanted)).Perm
        ((ownBatches T w.journal).filter wanted) := List.perm_insertionSort _ _
    -- what was selected are the wanted batches, newest first
    have hids : rows.map BatchRow.batchId =
        (newestFirst ((ownBatches T w.journal).filter wanted)).map BatchRow.batchId :=
      created_batchIds hcreated
    have hmem : ∀ id, id ∈ rows.map BatchRow.batchId ↔
        ∃ b ∈ ownBatches T w.journal, wanted b = true ∧ b.batchId = id := by
      intro id
      rw [hids, (hperm.map _).mem_iff]
      simp only [List.mem_map, List.mem_filter, and_assoc]
    have hnodup : (rows.map BatchRow.batchId).Nodup := by
      rw [hids, (hperm.map _).nodup_iff]
      exact (ownBatches_nodup hw).sublist (List.filter_sublist.map _)
    refine along_mono (fun _ _ ht => hback ht) (fun r w₂ h₂ => ?_) (along_rollbackBatches hnodup w₁)
    refine ⟨(hsel htouch).trans (hback h₂.1), fun out hr hclean b hb => ?_⟩
    split
    · next hwanted =>
      obtain ⟨row, hrow, hid⟩ := List.mem_map.1 ((hmem b.batchId).2 ⟨b, hb, hwanted, rfl⟩)
      exact hid ▸ h₂.2 out hr hclean row hrow
    · next hwanted =>
      -- a batch that was not wanted is not in the second loop either
      have hother : b.batchId ∉ rows.map BatchRow.batchId := by
        intro hin
        obtain ⟨b', hb', hwanted', hid⟩ := (hmem b.batchId).1 hin
        have hrow := hw.row_of_mem (mem_ownBatches.1 hb).1
        rw [← hid, hw.row_of_mem (mem_ownBatches.1 hb').1] at hrow
        cases hrow
        exact hwanted hwanted'
      rw [h₂.1.journal.other _ hother]
      exact hleft b hb (Bool.not_eq_true _ ▸ hwanted)

end SafeFsOps
