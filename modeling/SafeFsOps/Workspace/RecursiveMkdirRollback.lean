import Mathlib.Data.List.Dedup
import SafeFsOps.OperationJournal.FileRollback
import SafeFsOps.Workspace.RecursiveMkdirSteps

/-!
# Undoing a recursive mkdir

When a step fails, its recovery is to remove what the steps before it have created. The
planner (`recursive_mkdir_recovery_planning.py`) has to find that out again: the failed
step's recovery record carries an entry for each step before it, and an entry counts only
if the batch, the operation and the checkpoint it names are in the journal and bear it out.

What may go wrong is the failed step itself. Its failure checkpoint is a look at the path
after the call; a directory there is taken for one that the step has made, and its removal
is planned, whoever made it.

> `recursive_mkdir_iff`: plans are exact, and which failed steps are undone as they should be.
-/

namespace SafeFsOps

/-! ## Entries of the steps before -/

section Entries

variable {steps : List RecursiveMkdirStep} {answered : List (Option JournaledResult)}

/-- An entry before all others goes last, where later ones come first. -/
theorem orderedInsert_earliest {c : CreatedStep} {l : List CreatedStep} (h : ∀ d ∈ l, c.stepIndex < d.stepIndex) :
    l.orderedInsert (fun a b => b.stepIndex ≤ a.stepIndex) c = l ++ [c] := by
  induction l with
  | nil => rfl
  | cons d l ih =>
    have hd := h d List.mem_cons_self
    rw [List.orderedInsert_cons, if_neg (by omega), ih fun d' hd' => h d' (List.mem_cons_of_mem _ hd')]
    rfl

/-- Sorting turns round what rises. -/
theorem insertionSort_rising {created : List CreatedStep} (h : created.Pairwise fun a b => a.stepIndex < b.stepIndex) :
    (created.insertionSort fun a b => b.stepIndex ≤ a.stepIndex) = created.reverse := by
  induction created with
  | nil => rfl
  | cons c created ih =>
    obtain ⟨hc, hrest⟩ := List.pairwise_cons.1 h
    rw [List.insertionSort_cons, ih hrest, List.reverse_cons]
    exact orderedInsert_earliest fun d hd => hc d (List.mem_reverse.1 hd)

theorem pairwise_zipIdx {α : Type} (l : List α) (n : Nat) : (l.zipIdx n).Pairwise fun a b => a.2 < b.2 := by
  have h : ((l.zipIdx n).map Prod.snd).Pairwise (· < ·) := by
    rw [List.zipIdx_map_snd]
    exact List.pairwise_lt_range'
  exact List.pairwise_map.1 h

theorem createdStepMetadata_eq_some {step : RecursiveMkdirStep} {i : Nat} {result : Option JournaledResult}
    {c : CreatedStep} (h : createdStepMetadata step i result = some c) : ∃ made identity, result = some made ∧
      createdDirectoryIdentity step made.afterCheckpoint = some identity ∧ c = {
        stepIndex := i
        stepPath := step.path
        stepResourceKey := step.resourceKey
        ownershipClass := "created_by_transaction"
        createdDirectoryIdentity := identity
        journaledCreationProof := ⟨made.batch.batchId, made.operation.operationId, .makeDirectory,
          made.afterCheckpoint.checkpointId, made.afterCheckpoint.checkpointType, step.path, step.resourceKey⟩
        cleanupPolicy := "owned_empty_directory_safe_ish"
        backendGuarantee := "identity_conditional_remove" } := by
  obtain ⟨made, hmade, h⟩ := Option.bind_eq_some_iff.1 h
  obtain ⟨identity, hidentity, h⟩ := Option.bind_eq_some_iff.1 h
  cases h
  exact ⟨made, identity, hmade, hidentity, rfl⟩

/-- The entries are numbered in the order of the steps. -/
theorem priorCreatedSteps_rising :
    (priorCreatedSteps steps answered).Pairwise fun a b => a.stepIndex < b.stepIndex := by
  refine List.pairwise_filterMap.2 ((pairwise_zipIdx _ 1).imp ?_)
  intro a b hlt c hc d hd
  obtain ⟨_, _, -, -, rfl⟩ := createdStepMetadata_eq_some hc
  obtain ⟨_, _, -, -, rfl⟩ := createdStepMetadata_eq_some hd
  exact hlt

/-- An entry is of a step that was answered. -/
theorem mem_priorCreatedSteps {c : CreatedStep} (h : c ∈ priorCreatedSteps steps answered) :
    ∃ i step result, steps[i]? = some step ∧ answered[i]? = some result ∧
      createdStepMetadata step (i + 1) result = some c := by
  obtain ⟨⟨⟨step, result⟩, n⟩, hmem, hc⟩ := List.mem_filterMap.1 h
  obtain ⟨hle, hget⟩ := List.mem_zipIdx_iff_le_and_getElem?_sub.1 hmem
  obtain ⟨hstep, hresult⟩ := List.getElem?_zip_eq_some.1 hget
  refine ⟨n - 1, step, result, hstep, hresult, ?_⟩
  have hn : n - 1 + 1 = n := by omega
  rw [hn]
  exact hc

theorem length_priorCreatedSteps_le : (priorCreatedSteps steps answered).length ≤ answered.length := by
  refine (List.length_filterMap_le _ _).trans ?_
  rw [List.length_zipIdx, List.length_zip]
  exact Nat.min_le_right _ _

/-- Where every step has an entry, the entries are of the steps. -/
theorem map_stepPath_priorCreatedSteps (hlen : answered.length ≤ steps.length)
    (hall : (priorCreatedSteps steps answered).length = answered.length) :
    (priorCreatedSteps steps answered).map CreatedStep.stepPath =
      (steps.take answered.length).map RecursiveMkdirStep.path := by
  have hzip : ((steps.zip answered).zipIdx 1).length = answered.length := by
    rw [List.length_zipIdx, List.length_zip, Nat.min_eq_right hlen]
  have hsome := List.filterMap_length_eq_length.1 (hall.trans hzip.symm)
  have hpath : ∀ s ∈ (steps.zip answered).zipIdx 1,
      (createdStepMetadata s.1.1 s.2 s.1.2).map CreatedStep.stepPath = some s.1.1.path := by
    intro s hs
    obtain ⟨c, hc⟩ := Option.isSome_iff_exists.1 (hsome s hs)
    obtain ⟨_, _, -, -, rfl⟩ := createdStepMetadata_eq_some hc
    rw [hc]
    rfl
  have hfst : (steps.zip answered).map Prod.fst = steps.take answered.length := by
    rw [List.zip_eq_zip_take_min, Nat.min_eq_right hlen, List.take_length]
    exact List.map_fst_zip (by rw [List.length_take]; exact Nat.min_le_left _ _)
  calc (priorCreatedSteps steps answered).map CreatedStep.stepPath
      = ((steps.zip answered).zipIdx 1).map fun s => s.1.1.path := by
        rw [priorCreatedSteps, List.map_filterMap, List.filterMap_congr hpath]
        rw [List.filterMap_eq_map']
    _ = ((steps.zip answered).map Prod.fst).map RecursiveMkdirStep.path := by
        rw [← List.zipIdx_map_fst 1 (steps.zip answered), List.map_map, List.map_map]
        simp [Function.comp_def]
    _ = (steps.take answered.length).map RecursiveMkdirStep.path := by rw [hfst]

end Entries

/-! ## What the journal holds -/

/-- The row is in its table, and no other is under its id. -/
def IsRow {ρ : Type} (id : ρ → String) (rows : List ρ) (r : ρ) : Prop := r ∈ rows ∧ ∀ r' ∈ rows, id r' = id r → r' = r

/-- What a step intends. -/
def stepIntent (plan : RecursiveMkdirPlan) (requestedResourceKey : String) (step : RecursiveMkdirStep) (stepIndex : Nat)
    (prior : List CreatedStep) : Intent :=
  .makeDirectory step.path step.resourceKey false false
    (some (stepMetadata plan requestedResourceKey step stepIndex prior))

/-- The records of a step that was made: its batch, of the same caller as the failed one, its operation
and the checkpoint after it. -/
structure StepJournaled (db : JournalDb Payload) (failed : BatchRow Payload) (plan : RecursiveMkdirPlan)
    (requestedResourceKey : String) (step : RecursiveMkdirStep) (stepIndex : Nat) (prior : List CreatedStep)
    (made : JournaledResult) : Prop where
  batch : ∃ row, db.batchRow made.batch.batchId = some row ∧
    row.payload = .intent (stepIntent plan requestedResourceKey step stepIndex prior) ∧ row.owner = failed.owner ∧
    row.runId = failed.runId ∧ row.operationRunId = failed.operationRunId ∧
    row.operationPhaseId = failed.operationPhaseId
  operationRow : IsRow OperationRow.operationId db.operations made.operation
  operation : made.operation.batchId = made.batch.batchId ∧
    made.operation.operationType = OperationType.makeDirectory.text ∧
    made.operation.resourceKey = some step.resourceKey ∧
    made.operation.payload = .intent (stepIntent plan requestedResourceKey step stepIndex prior)
  checkpointRow : IsRow CheckpointRow.checkpointId db.checkpoints made.afterCheckpoint
  checkpoint : made.afterCheckpoint.batchId = made.batch.batchId ∧
    made.afterCheckpoint.operationId = some made.operation.operationId ∧
    made.afterCheckpoint.checkpointType = "after" ∧ made.afterCheckpoint.resourceKey = step.resourceKey

/-- The journal when a step has failed: the steps before it were answered and are journaled, its own batch
says what it intended, and where its recovery records say anything of a recursive mkdir, they say that. -/
structure StepFailed (db : JournalDb Payload) (ctx : RecoveryContext) (plan : RecursiveMkdirPlan)
    (requestedResourceKey : String) (step : RecursiveMkdirStep) (answered : List (Option JournaledResult)) : Prop where
  context : readRecoveryContext db ctx.batch.batchId = .ok ctx
  next : plan.steps[answered.length]? = some step
  intent : ctx.batch.payload = .intent (stepIntent plan requestedResourceKey step (answered.length + 1)
    (priorCreatedSteps plan.steps answered))
  records : ∀ r ∈ ctx.recoveryRecords, ∀ m, r.payload.recursive? = some m →
    m = stepMetadata plan requestedResourceKey step (answered.length + 1) (priorCreatedSteps plan.steps answered)
  journaled : ∀ i s made, plan.steps[i]? = some s → answered[i]? = some (some made) →
    StepJournaled db ctx.batch plan requestedResourceKey s (i + 1) (priorCreatedSteps plan.steps (answered.take i)) made

section Journal

variable {db : JournalDb Payload} {ctx : RecoveryContext} {plan : RecursiveMkdirPlan} {requested : String}
  {step : RecursiveMkdirStep} {answered : List (Option JournaledResult)}

/-- What is alone under its key is found. -/
theorem find?_alone {ρ : Type} (key : ρ → String) {k : String} {listed : List ρ} {r : ρ} (hr : r ∈ listed)
    (hkey : key r = k) (halone : ∀ r' ∈ listed, key r' = k → r' = r) :
    (listed.find? fun r' => key r' = k) = some r := by
  have hsome : (listed.find? fun r' => key r' = k).isSome = true := by
    rw [List.find?_isSome]
    exact ⟨r, hr, decide_eq_true hkey⟩
  obtain ⟨r', hr'⟩ := Option.isSome_iff_exists.1 hsome
  have hk : key r' = k := by simpa using List.find?_some hr'
  rw [hr', halone r' (List.mem_of_find?_eq_some hr') hk]

theorem readBatchRecords_key {b : String} {records : BatchRecords} (h : readBatchRecords db b = some records) :
    records.batch.batchId = b := by
  obtain ⟨row, hrow, rfl⟩ := Option.map_eq_some_iff.1 h
  exact findRow_key hrow

/-- What a context is read from. -/
theorem readRecoveryContext_records {b : String} (h : readRecoveryContext db b = .ok ctx) :
    readBatchRecords db b = some ctx.toBatchRecords ∧
      ctx.proofContexts = (proofBatchIds ctx.recoveryRecords b).filterMap (readBatchRecords db) := by
  unfold readRecoveryContext at h
  split at h
  · cases h
  · next records hrecords =>
    simp only [bind_eq_ok, pure_eq_ok] at h
    obtain ⟨_, -, rfl⟩ := h
    exact ⟨hrecords, rfl⟩

/-- The records of a batch that a recovery record names are at hand. -/
theorem proofContextForBatch_eq {b id : String} {records : BatchRecords} (h : readRecoveryContext db b = .ok ctx)
    (hb : ctx.batch.batchId = b) (hid : id ∈ proofBatchIds ctx.recoveryRecords b ∨ id = b)
    (hrecords : readBatchRecords db id = some records) : proofContextForBatch ctx id = some records := by
  obtain ⟨hown, hproofs⟩ := readRecoveryContext_records h
  unfold proofContextForBatch
  by_cases hself : id = ctx.batch.batchId
  · rw [if_pos hself]
    rw [hself, hb, hown] at hrecords
    exact hrecords
  · rw [if_neg hself, hproofs]
    have hmem : id ∈ proofBatchIds ctx.recoveryRecords b := hid.resolve_right fun h => hself (h.trans hb.symm)
    refine find?_alone (fun p : BatchRecords => p.batch.batchId) (List.mem_filterMap.2 ⟨id, hmem, hrecords⟩)
      (readBatchRecords_key hrecords) ?_
    intro other hother hsame
    obtain ⟨id', -, hid'⟩ := List.mem_filterMap.1 hother
    obtain rfl : id' = id := (readBatchRecords_key hid').symm.trans hsame
    exact Option.some.inj (hid'.symm.trans hrecords)

theorem createdDirectoryIdentity_eq_some {after : CheckpointRow Payload} {identity : DirectoryIdentityPayload}
    (h : createdDirectoryIdentity step after = some identity) : ∃ s, after.payload.snapshot? = some s ∧
      s.path = step.path ∧ directoryIdentityOf s = some identity.identity ∧ identity.path = step.path ∧
      identity.resourceKey = step.resourceKey := by
  obtain ⟨s, hs, h⟩ := Option.bind_eq_some_iff.1 h
  obtain ⟨_, hpath, h⟩ := Option.bind_eq_some_iff.1 h
  obtain ⟨i, hi, h⟩ := Option.bind_eq_some_iff.1 h
  cases h
  exact ⟨s, hs, (Option.guard_eq_some' _).1 hpath, hi, rfl, rfl⟩

/-- A checkpoint that is a snapshot has the path of the snapshot. -/
theorem path?_of_snapshot {p : Payload} {s : ResourceSnapshot} (h : p.snapshot? = some s) : p.path? = some s.path := by
  cases p with
  | snapshot _ _ =>
    cases h
    rfl
  | _ => cases h

/-- The entry of a journaled step is borne out by the rows it names. -/
theorem creationRecordsMatch_journaled {failed : BatchRow Payload} {stepIndex : Nat} {prior : List CreatedStep}
    {made : JournaledResult} {identity : DirectoryIdentityPayload}
    (h : StepJournaled db failed plan requested step stepIndex prior made)
    (hidentity : createdDirectoryIdentity step made.afterCheckpoint = some identity) :
    creationRecordsMatch ⟨made.batch.batchId, made.operation.operationId, .makeDirectory,
      made.afterCheckpoint.checkpointId, made.afterCheckpoint.checkpointType, step.path, step.resourceKey⟩ step.path
      step.resourceKey identity.identity made.operation made.afterCheckpoint = true := by
  obtain ⟨s, hs, hpath, hi, -, -⟩ := createdDirectoryIdentity_eq_some hidentity
  obtain ⟨hobatch, htype, hkey, hpayload⟩ := h.operation
  obtain ⟨hcbatch, hcoperation, -, hckey⟩ := h.checkpoint
  have hcpath : made.afterCheckpoint.payload.path? = some step.path := by rw [path?_of_snapshot hs, hpath]
  simp only [creationRecordsMatch, decide_eq_true_eq]
  refine ⟨hobatch, hcbatch, htype, hkey, ?_, Or.inr hcoperation, trivial, hckey, hcpath, ?_⟩
  · rw [hpayload]
    simp [Payload.intent?, stepIntent, Intent.path?, Intent.resourceKey?]
  · rw [hs]
    exact hi

/-- **A journaled step can be undone**: its entry is borne out. -/
theorem priorStepRemoval_eq (h : StepFailed db ctx plan requested step answered)
    (hrecorded : ∃ r ∈ ctx.recoveryRecords, r.payload.recursive?.isSome = true) {c : CreatedStep}
    (hc : c ∈ priorCreatedSteps plan.steps answered) :
    priorStepRemoval ctx c = some ⟨c.stepPath, c.stepResourceKey, c.ownershipClass, c.createdDirectoryIdentity,
      c.journaledCreationProof, c.cleanupPolicy, c.backendGuarantee, c.stepIndex⟩ := by
  obtain ⟨r, hr, hsome⟩ := hrecorded
  obtain ⟨m, hm⟩ := Option.isSome_iff_exists.1 hsome
  obtain ⟨i, s, result, hs, hresult, hmeta⟩ := mem_priorCreatedSteps hc
  obtain ⟨made, identity, rfl, hidentity, rfl⟩ := createdStepMetadata_eq_some hmeta
  have hjournaled := h.journaled i s made hs hresult
  obtain ⟨row, hrow, hpayload, howner, hrun, hoperationRun, hphase⟩ := hjournaled.batch
  obtain ⟨-, -, -, -, hipath, hikey⟩ := createdDirectoryIdentity_eq_some hidentity
  -- the step's batch is among those whose records the proof reads
  have hnamed : made.batch.batchId ∈ proofBatchIds ctx.recoveryRecords ctx.batch.batchId ∨
      made.batch.batchId = ctx.batch.batchId := by
    by_cases hself : made.batch.batchId = ctx.batch.batchId
    · exact Or.inr hself
    · refine Or.inl (List.mem_dedup.2 (List.mem_filter.2 ⟨List.mem_flatMap.2 ⟨r, hr, ?_⟩, by simpa using hself⟩))
      rw [hm, h.records r hr m hm]
      exact List.mem_map.2 ⟨_, hc, rfl⟩
  -- and its records are the ones the step wrote
  have hrecords : readBatchRecords db made.batch.batchId =
      some ⟨row, db.listOperations made.batch.batchId, db.listCheckpoints made.batch.batchId⟩ := by
    rw [readBatchRecords, hrow, Option.map_some]
  have hoperation : ((db.listOperations made.batch.batchId).find? fun o =>
      o.operationId = made.operation.operationId) = some made.operation := find?_alone OperationRow.operationId
    (mem_listRows.2 ⟨hjournaled.operationRow.1, by simpa using hjournaled.operation.1⟩) rfl
    fun o ho => hjournaled.operationRow.2 o (mem_listRows.1 ho).1
  have hcheckpoint : ((db.listCheckpoints made.batch.batchId).find? fun c =>
      c.checkpointId = made.afterCheckpoint.checkpointId) = some made.afterCheckpoint :=
    find?_alone CheckpointRow.checkpointId
      (mem_listRows.2 ⟨hjournaled.checkpointRow.1, by simpa using hjournaled.checkpoint.1⟩) rfl
      fun c hc => hjournaled.checkpointRow.2 c (mem_listRows.1 hc).1
  -- of the same transaction and request
  have hlineage : proofBatchMatchesLineage ctx.batch row = true := by
    simp [proofBatchMatchesLineage, howner, hrun, hoperationRun, hphase, hpayload, h.intent, sameRecursiveBatchIntent,
      stepIntent, stepMetadata]
  have hproof : creationProofMatches ⟨made.batch.batchId, made.operation.operationId, .makeDirectory,
      made.afterCheckpoint.checkpointId, made.afterCheckpoint.checkpointType, s.path, s.resourceKey⟩ s.path
      s.resourceKey identity.identity ctx = true := by
    have htype : made.afterCheckpoint.checkpointType ∈ ["after", "failure"] := by
      rw [hjournaled.checkpoint.2.2.1]
      exact List.mem_cons_self
    simp only [creationProofMatches, proofContextForBatch_eq h.context rfl hnamed hrecords, hlineage, hoperation,
      hcheckpoint, creationRecordsMatch_journaled hjournaled hidentity, htype, decide_true, Bool.and_true]
  rw [priorStepRemoval, if_pos ⟨rfl, rfl, rfl, hipath, hikey, hproof⟩]

end Journal

/-! ## What is planned for the failed step -/

/-- The directory an action removes. -/
def removedDirectory (p : ActionPlan) : Option Path :=
  match p.payload with
  | .removeCreatedDirectory r => if p.actionType = removeCreatedDirectoryAction then some r.path else none
  | _ => none

/-- The actions remove these directories, in this order, and do nothing else. -/
def Removes (plans : List ActionPlan) (paths : List Path) : Prop := plans.map removedDirectory = paths.map some

/-- A single action asks for manual intervention. -/
def AsksOnce (plans : List ActionPlan) : Prop := ∃ p, plans = [p] ∧ p.actionType = manualInterventionRequired

/-- The first `made` steps of the plan are removed, deepest first, and they are none that was there before;
or all is left to a single manual action. -/
def UndoesSteps (inspect : Path → PathSafety) (plan : RecursiveMkdirPlan) (made : Nat) (plans : List ActionPlan) :
    Prop :=
  Removes plans (plan.paths.take made).reverse ∧
      (∀ p ∈ plans.filterMap removedDirectory, (inspect p).pathExists = false) ∨
    AsksOnce plans

/-- A look at the path before the call that shows nothing. -/
def sightsNothing (step : RecursiveMkdirStep) (c : CheckpointRow Payload) : Bool :=
  c.checkpointType = "before" ∧ c.resourceKey = step.resourceKey ∧ c.payload.path? = some step.path ∧
    (c.payload.snapshot?.any fun s => s.pathExists = false) = true

/-- The operation that makes the directory. -/
def makesDirectory (step : RecursiveMkdirStep) (o : OperationRow Payload) : Bool :=
  o.operationType = OperationType.makeDirectory.text ∧ o.resourceKey = some step.resourceKey ∧
    (o.payload.intent?.any fun i => i.path? = some step.path ∧ i.resourceKey? = some step.resourceKey) = true

/-- A look at the path after the call, or at the failure, that shows a directory. -/
def sightsDirectory (step : RecursiveMkdirStep) (c : CheckpointRow Payload) : Bool :=
  c.checkpointType ∈ ["after", "failure"] ∧ c.resourceKey = step.resourceKey ∧ c.payload.path? = some step.path ∧
    (c.payload.snapshot?.any fun s => s.fileType = .directory ∧ s.pathExists = true) = true

/-- By the records of a failed step nothing was at its path before, and a directory at the failure. -/
structure CreationSeen (ctx : RecoveryContext) (step : RecursiveMkdirStep) : Prop where
  before : ∃ c ∈ ctx.checkpoints, sightsNothing step c = true
  operation : ∃ o ∈ ctx.operations, makesDirectory step o = true
  sighted : ∃ c, ctx.checkpoints.reverse.find? (sightsDirectory step) = some c ∧
    (c.payload.snapshot?.bind directoryIdentityOf).isSome = true

/-- Some recovery record of the batch says which step it was. -/
def StepRecorded (ctx : RecoveryContext) : Prop := ∃ r ∈ ctx.recoveryRecords, r.payload.recursive?.isSome = true

/-- The failed steps that are undone as they should be. Of a step that is on record, its own directory must
not have been seen, unless a step before it has no entry, and so all is left to intervention. Of a step
that is not, there must be nothing to undo. -/
def Undoable (ctx : RecoveryContext) (plan : RecursiveMkdirPlan) (step : RecursiveMkdirStep)
    (answered : List (Option JournaledResult)) : Prop :=
  (StepRecorded ctx ∧ (CreationSeen ctx step → (priorCreatedSteps plan.steps answered).length < answered.length)) ∨
    (¬ StepRecorded ctx ∧ answered = [] ∧ ¬ CreationSeen ctx step)

section Planned

variable {db : JournalDb Payload} {ctx : RecoveryContext} {plan : RecursiveMkdirPlan} {requested : String}
  {step : RecursiveMkdirStep} {answered : List (Option JournaledResult)}

/-- A directory that was seen is planned to be removed. -/
theorem directMkdirCleanupPlan_spec (h : StepFailed db ctx plan requested step answered) :
    (CreationSeen ctx step ∧ ∃ p, directMkdirCleanupPlan ctx = some p ∧ removedDirectory p = some step.path) ∨
      (¬ CreationSeen ctx step ∧ directMkdirCleanupPlan ctx = none) := by
  have hplan : directMkdirCleanupPlan ctx = do
      guard (ctx.checkpoints.any (sightsNothing step))
      let operation ← ctx.operations.find? (makesDirectory step)
      let checkpoint ← ctx.checkpoints.reverse.find? (sightsDirectory step)
      let identity ← checkpoint.payload.snapshot?.bind directoryIdentityOf
      return ⟨"recursive-mkdir-cleanup:self:" ++ step.resourceKey, removeCreatedDirectoryAction, ctx.batch.resourceKey,
        .removeCreatedDirectory
          { path := step.path
            stepResourceKey := step.resourceKey
            ownershipClass := "created_by_transaction"
            createdDirectoryIdentity := ⟨step.path, step.resourceKey, identity⟩
            journaledCreationProof := ⟨ctx.batch.batchId, operation.operationId, .makeDirectory,
              checkpoint.checkpointId, checkpoint.checkpointType, step.path, step.resourceKey⟩
            cleanupPolicy := "owned_empty_directory_safe_ish"
            backendGuarantee := "identity_conditional_remove"
            stepIndex := answered.length + 1 }⟩ := by
    rw [directMkdirCleanupPlan, h.intent]
    rfl
  rw [hplan]
  by_cases hseen : CreationSeen ctx step
  · refine Or.inl ⟨hseen, ?_⟩
    obtain ⟨c, hc, hidentity⟩ := hseen.sighted
    obtain ⟨identity, hidentity⟩ := Option.isSome_iff_exists.1 hidentity
    obtain ⟨before, hbefore, hmissing⟩ := hseen.before
    obtain ⟨operation, hoperation, hmakes⟩ := hseen.operation
    have hguard : ctx.checkpoints.any (sightsNothing step) = true := List.any_eq_true.2 ⟨before, hbefore, hmissing⟩
    have hfind := List.find?_isSome.2 ⟨operation, hoperation, hmakes⟩
    obtain ⟨found, hfound⟩ := Option.isSome_iff_exists.1 hfind
    simp only [hguard, hfound, hc, hidentity, guard, if_true, Option.bind_eq_bind, Option.bind_some]
    exact ⟨_, rfl, rfl⟩
  · refine Or.inr ⟨hseen, ?_⟩
    -- a plan would say that all three were found
    refine Option.eq_none_iff_forall_ne_some.2 fun p hp => hseen ?_
    obtain ⟨_, hguard, hp⟩ := Option.bind_eq_some_iff.1 hp
    obtain ⟨operation, hoperation, hp⟩ := Option.bind_eq_some_iff.1 hp
    obtain ⟨c, hc, hp⟩ := Option.bind_eq_some_iff.1 hp
    obtain ⟨identity, hidentity, -⟩ := Option.bind_eq_some_iff.1 hp
    obtain ⟨before, hbefore, hmissing⟩ := List.any_eq_true.1 ((Option.guard_eq_some' _).1 hguard)
    exact ⟨⟨before, hbefore, hmissing⟩, ⟨operation, List.mem_of_find?_eq_some hoperation, List.find?_some hoperation⟩,
      ⟨c, hc, by rw [hidentity]; rfl⟩⟩

/-- The record of the step is the one that is found. -/
theorem recursiveFailure_eq (h : StepFailed db ctx plan requested step answered) (hrecorded : StepRecorded ctx) :
    ctx.recursiveFailure = some (stepMetadata plan requested step (answered.length + 1)
      (priorCreatedSteps plan.steps answered)) := by
  obtain ⟨r, hr, hsome⟩ := hrecorded
  have hfound : ctx.recursiveFailure.isSome = true := by
    rw [RecoveryContext.recursiveFailure, List.findSome?_isSome_iff]
    exact ⟨r, List.mem_reverse.2 hr, hsome⟩
  obtain ⟨m, hm⟩ := Option.isSome_iff_exists.1 hfound
  obtain ⟨r', hr', hm'⟩ := List.exists_of_findSome?_eq_some hm
  rw [hm, h.records r' (List.mem_reverse.1 hr') m hm']

theorem recursiveFailure_eq_none (hrecorded : ¬ StepRecorded ctx) : ctx.recursiveFailure = none := by
  rw [RecoveryContext.recursiveFailure, List.findSome?_eq_none_iff]
  intro r hr
  exact Option.not_isSome_iff_eq_none.1 fun hsome => hrecorded ⟨r, List.mem_reverse.1 hr, hsome⟩

theorem path_mem_take {i k : Nat} {s : RecursiveMkdirStep} (hs : plan.steps[i]? = some s) (hi : i < k) :
    s.path ∈ plan.paths.take k := by
  refine List.mem_of_getElem? (i := i) ?_
  rw [List.getElem?_take_of_lt hi, RecursiveMkdirPlan.paths, List.getElem?_map, hs, Option.map_some]

/-- The failed step comes after all that were answered. -/
theorem path_not_mem_take (h : StepFailed db ctx plan requested step answered) (hdistinct : plan.paths.Nodup) :
    step.path ∉ plan.paths.take answered.length := by
  intro hmem
  have hdrop : step.path ∈ plan.paths.drop answered.length := by
    refine List.mem_of_getElem? (i := 0) ?_
    rw [List.getElem?_drop, Nat.add_zero, RecursiveMkdirPlan.paths, List.getElem?_map, h.next, Option.map_some]
  exact List.disjoint_take_drop hdistinct le_rfl hmem hdrop

/-- The steps before the failed one are planned to be removed, the last one first. -/
theorem priorStepPlans_spec (h : StepFailed db ctx plan requested step answered) (hrecorded : StepRecorded ctx)
    (hdistinct : plan.paths.Nodup) :
    (priorStepPlans ctx (stepMetadata plan requested step (answered.length + 1)
        (priorCreatedSteps plan.steps answered))).map removedDirectory =
      ((priorCreatedSteps plan.steps answered).map CreatedStep.stepPath).reverse.map some := by
  let removal (c : CreatedStep) : CreatedDirectoryRemoval := ⟨c.stepPath, c.stepResourceKey, c.ownershipClass,
    c.createdDirectoryIdentity, c.journaledCreationProof, c.cleanupPolicy, c.backendGuarantee, c.stepIndex⟩
  have hremovals : (priorCreatedSteps plan.steps answered).reverse.filterMap (priorStepRemoval ctx) =
      (priorCreatedSteps plan.steps answered).reverse.map removal := by
    rw [← List.filterMap_eq_map]
    exact List.filterMap_congr fun c hc => priorStepRemoval_eq h hrecorded (List.mem_reverse.1 hc)
  have hothers : ∀ r ∈ (priorCreatedSteps plan.steps answered).reverse.map removal,
      decide (r.path ≠ step.path) = true := by
    intro r hr
    obtain ⟨c, hc, rfl⟩ := List.mem_map.1 hr
    obtain ⟨i, s, result, hs, hresult, hmeta⟩ := mem_priorCreatedSteps (List.mem_reverse.1 hc)
    obtain ⟨_, _, -, -, rfl⟩ := createdStepMetadata_eq_some hmeta
    have hi : i < answered.length := (List.getElem?_eq_some_iff.1 hresult).1
    exact decide_eq_true fun hsame => path_not_mem_take h hdistinct (hsame ▸ path_mem_take hs hi)
  show List.map removedDirectory (List.map _ ((((priorCreatedSteps plan.steps answered).insertionSort
    fun a b => b.stepIndex ≤ a.stepIndex).filterMap (priorStepRemoval ctx)).filter fun r => r.path ≠ step.path)) = _
  rw [insertionSort_rising priorCreatedSteps_rising, hremovals, List.filter_eq_self.2 hothers, List.map_map,
    List.map_map, ← List.map_reverse, List.map_map]
  rfl

theorem length_answered_lt (h : StepFailed db ctx plan requested step answered) : answered.length < plan.steps.length :=
  (List.getElem?_eq_some_iff.1 h.next).1

/-- Removals ask for nothing. -/
theorem not_asksOnce {plans : List ActionPlan} {p : ActionPlan} (hp : p ∈ plans)
    (hremoves : (removedDirectory p).isSome = true) : ¬ AsksOnce plans := by
  intro h
  obtain ⟨q, rfl, hq⟩ := h
  obtain rfl := List.mem_singleton.1 hp
  unfold removedDirectory at hremoves
  split at hremoves
  · rw [hq, if_neg (by decide)] at hremoves
    cases hremoves
  · cases hremoves

theorem Removes.filterMap_eq {plans : List ActionPlan} {paths : List Path} (h : Removes plans paths) :
    plans.filterMap removedDirectory = paths := by
  calc plans.filterMap removedDirectory
      = (plans.map removedDirectory).filterMap id := by
        rw [List.filterMap_map]
        rfl
    _ = (paths.map some).filterMap id := by rw [h]
    _ = paths := by
        rw [List.filterMap_map]
        exact List.filterMap_some

/-- Removals of planned steps are of what was not there. -/
theorem Removes.missing {inspect : Path → PathSafety} {target : Path} {plans : List ActionPlan} {k : Nat}
    (h : Removes plans (plan.paths.take k).reverse) (hexact : ExactPlan inspect target plan) :
    ∀ p ∈ plans.filterMap removedDirectory, (inspect p).pathExists = false := by
  intro p hp
  rw [h.filterMap_eq, List.mem_reverse] at hp
  have hmissing := (hexact.exactly p).1 (List.mem_of_mem_take hp)
  exact hmissing.2 p List.prefix_rfl hmissing.1

/-- A step that is on record is undone as it should be unless a directory was seen that would be removed
besides. -/
theorem undoesSteps_recorded {inspect : Path → PathSafety} {target : Path}
    (h : StepFailed db ctx plan requested step answered) (hrecorded : StepRecorded ctx)
    (hexact : ExactPlan inspect target plan) :
    UndoesSteps inspect plan answered.length (recursiveMkdirRecoveryActionPlans ctx) ↔
      (CreationSeen ctx step → (priorCreatedSteps plan.steps answered).length < answered.length) := by
  have hprior := priorStepPlans_spec h hrecorded hexact.distinct
  have hlength : (priorStepPlans ctx (stepMetadata plan requested step (answered.length + 1)
      (priorCreatedSteps plan.steps answered))).length = (priorCreatedSteps plan.steps answered).length := by
    have hlen := congrArg List.length hprior
    rwa [List.length_map, List.length_map, List.length_reverse, List.length_map] at hlen
  rw [recursiveMkdirRecoveryActionPlans, recursiveFailure_eq h hrecorded]
  dsimp only
  rw [hlength, show (stepMetadata plan requested step (answered.length + 1)
    (priorCreatedSteps plan.steps answered)).stepIndex - 1 = answered.length from Nat.add_sub_cancel _ _]
  by_cases hmissing : (priorCreatedSteps plan.steps answered).length < answered.length
  · -- an entry is missing, and all is left to intervention
    rw [if_pos hmissing]
    exact ⟨fun _ _ => hmissing, fun _ => Or.inr ⟨_, rfl, rfl⟩⟩
  · rw [if_neg hmissing]
    have hall : (priorCreatedSteps plan.steps answered).length = answered.length :=
      Nat.le_antisymm length_priorCreatedSteps_le (Nat.le_of_not_lt hmissing)
    rw [map_stepPath_priorCreatedSteps (length_answered_lt h).le hall, List.map_take] at hprior
    rcases directMkdirCleanupPlan_spec h with ⟨hseen, p, hp, hpath⟩ | ⟨hseen, hnone⟩
    · refine ⟨fun hundoes => ?_, fun hseen' => absurd (hseen' hseen) hmissing⟩
      rw [hp, Option.toList_some, List.singleton_append] at hundoes
      rcases hundoes with ⟨hremoves, -⟩ | hasks
      · -- there is one removal too many
        have hlen := congrArg List.length hremoves
        have hle := length_answered_lt h
        simp only [List.length_map, List.length_cons, List.length_reverse, List.length_take,
          RecursiveMkdirPlan.paths, hlength, hall] at hlen
        omega
      · exact absurd hasks (not_asksOnce List.mem_cons_self (by rw [hpath]; rfl))
    · rw [hnone, Option.toList_none, List.nil_append]
      exact ⟨fun _ hseen' => absurd hseen' hseen, fun _ => Or.inl ⟨hprior, Removes.missing hprior hexact⟩⟩

/-- A step that is not on record is undone as it should be where there is nothing to undo. -/
theorem undoesSteps_unrecorded {inspect : Path → PathSafety} {target : Path}
    (h : StepFailed db ctx plan requested step answered) (hrecorded : ¬ StepRecorded ctx)
    (hexact : ExactPlan inspect target plan) :
    UndoesSteps inspect plan answered.length (recursiveMkdirRecoveryActionPlans ctx) ↔
      answered = [] ∧ ¬ CreationSeen ctx step := by
  rw [recursiveMkdirRecoveryActionPlans, recursiveFailure_eq_none hrecorded]
  dsimp only
  have hlt := length_answered_lt h
  rcases directMkdirCleanupPlan_spec h with ⟨hseen, p, hp, hpath⟩ | ⟨hseen, hnone⟩
  · refine ⟨fun hundoes => ?_, fun hnothing => absurd hseen hnothing.2⟩
    rw [hp, Option.toList_some] at hundoes
    rcases hundoes with ⟨hremoves, -⟩ | hasks
    · -- only the failed step's own directory would be removed
      have hself := hremoves.filterMap_eq
      rw [List.filterMap_cons_some hpath, List.filterMap_nil] at hself
      have hmem : step.path ∈ plan.paths.take answered.length := by
        rw [← List.mem_reverse, ← hself]
        exact List.mem_singleton_self _
      exact absurd hmem (path_not_mem_take h hexact.distinct)
    · exact absurd hasks (not_asksOnce (List.mem_singleton_self p) (by rw [hpath]; rfl))
  · rw [hnone, Option.toList_none]
    constructor
    · intro hundoes
      rcases hundoes with ⟨hremoves, -⟩ | ⟨p, hplans, -⟩
      · have hlen := congrArg List.length hremoves
        simp only [List.map_nil, List.length_nil, List.length_map, List.length_reverse, List.length_take,
          RecursiveMkdirPlan.paths] at hlen
        exact ⟨List.eq_nil_of_length_eq_zero (by omega), hseen⟩
      · cases hplans
    · rintro ⟨rfl, -⟩
      exact Or.inl ⟨rfl, fun p hp => absurd hp List.not_mem_nil⟩

end Planned

/-! ## The claim -/

/-- **Planning and undoing a recursive mkdir.** The walk ends and a plan is exact, whatever is there; and a failed
step is undone by its plan exactly where it is `Undoable`. -/
theorem recursive_mkdir_iff (inspect : Path → PathSafety) (target : Path) (fuel : Nat) (hfuel : target.length < fuel) :
    (∀ parents existOk boundary, ∃ r, planDirectoryCreation inspect fuel target parents existOk boundary = some r) ∧
    (∀ existing existOk, existing <+: target → target ≠ existing → (inspect existing).isPlainDirectory = true →
      (∀ q, existing <+: q → q ≠ existing → q <+: target → (inspect q).pathExists = false) →
      ∃ plan, planDirectoryCreation inspect fuel target true existOk none = some (.ok plan)) ∧
    (∀ parents existOk boundary plan,
      planDirectoryCreation inspect fuel target parents existOk boundary = some (.ok plan) →
      ExactPlan inspect target plan ∧
        ((∀ p, (inspect p).pathExists = true → (inspect (parentPath p)).pathExists = true) →
          ∀ p, p ∈ plan.paths ↔ p <+: target ∧ (inspect p).pathExists = false)) ∧
    ∀ existOk plan, planDirectoryCreation inspect fuel target true existOk none = some (.ok plan) →
      ∀ db ctx requested step answered, StepFailed db ctx plan requested step answered →
        (UndoesSteps inspect plan answered.length (recursiveMkdirRecoveryActionPlans ctx) ↔
          Undoable ctx plan step answered) := by
  refine ⟨fun parents existOk boundary => planDirectoryCreation_ends hfuel, ?_, ?_, ?_⟩
  · intro existing existOk habove hne hexisting hmissing
    exact planDirectoryCreation_made hfuel habove hne hexisting hmissing
  · intro parents existOk boundary plan hplan
    have hexact := planDirectoryCreation_exact hplan
    exact ⟨hexact, hexact.mem_iff⟩
  · intro existOk plan hplan db ctx requested step answered h
    have hexact := planDirectoryCreation_exact hplan
    by_cases hrecorded : StepRecorded ctx
    · rw [undoesSteps_recorded h hrecorded hexact]
      exact ⟨fun hu => Or.inl ⟨hrecorded, hu⟩, fun hu => hu.elim And.right fun hno => absurd hrecorded hno.1⟩
    · rw [undoesSteps_unrecorded h hrecorded hexact]
      exact ⟨fun hu => Or.inr ⟨hrecorded, hu⟩, fun hu => hu.elim (fun hyes => absurd hyes.1 hrecorded) And.right⟩

/-! ## A step that fails, run -/

/-- What happens at a call that makes a directory. -/
private inductive Meanwhile where
  | nothing | refused | madeByOther

private def forenoon : DateTime := .soon 100

/-- Directories only; a directory is told by the number of its ancestors. -/
private def directories : FilesystemOps (List Path) Meanwhile :=
  { FilesystemOps.inert with
    snapshot := fun _ d p => .ok (if p = [] ∨ d.contains p
      then ⟨p, true, .directory, none, none, none, none, some 1, some p.length, none⟩ else .missing p)
    makeDirectory := fun o d p _ _ => match o with
      | .nothing => if d.contains p then (.error (.fileExists p), d) else (.ok (), p :: d)
      | .refused => (.error (.osError "no space left"), d)
      | .madeByOther => (.error (.fileExists p), p :: d)
    inspectPath := fun _ d p => .ok (if p = [] ∨ d.contains p then ⟨true, .directory, false⟩ else ⟨false, .missing, false⟩) }

/-- A transaction on the directory `/a/b`. -/
private def nested : Transaction (List Path) Meanwhile where
  workspace := ⟨{ (.inert : Coordinator (List Path) Meanwhile) with ops := directories }, "owner", "lease", 1000, none⟩
  name := "tx"
  resources := ⟨[⟨"directory:/a/b", "directory", none⟩], by decide⟩
  runId := "run"
  rollback := .automatic
  now := some forenoon
  instanceId := "i"

/-- A disk with nothing but its root. -/
private def onlyRoot (p : Path) : PathSafety := if p = [] then ⟨true, .directory, false⟩ else ⟨false, .missing, false⟩

private def twoSteps : RecursiveMkdirPlan :=
  ⟨["a", "b"], true, true, none, false, [plannedStep ["a"], plannedStep ["a", "b"]]⟩

private def nestedCall : RecursiveMkdirCall := ⟨"directory:/a/b", "key", ⟨none, none⟩, none, id⟩

/-- The recursive mkdir on a new database and disk; the second directory meets with `what`. -/
private def nestedRun (what : Meanwhile) :=
  (enterTransaction nested >>= fun s => executeSteps nested twoSteps nestedCall twoSteps.steps s []).exec
    (World.init [])
    ((List.range 60).map fun n => ⟨forenoon, toString n ++ "h", toString n, none, if n < 20 then .nothing else what⟩)

private def nestedJournal (what : Meanwhile) : JournalDb Payload := (nestedRun what).2.journal

/-- What the run has answered before its second step, and the context its recovery would read. -/
private def atFailure (what : Meanwhile) : Option (JournaledResult × RecoveryContext) := do
  let (result, _) ← (nestedRun what).1
  let (_, answered, raised) ← result.toOption
  guard (answered.length = 1 ∧ raised.isSome)
  let made ← answered.head?.join
  let ctx ← (readRecoveryContext (nestedJournal what) "22").toOption
  return (made, ctx)

/-- The records are those of a step that was made and of one that failed. -/
private def recordsBoth (db : JournalDb Payload) (made : JournaledResult) (ctx : RecoveryContext) : Bool :=
  let step := plannedStep ["a"]
  let first : Payload := .intent (stepIntent twoSteps "directory:/a/b" step 1 [])
  let metadata := stepMetadata twoSteps "directory:/a/b" (plannedStep ["a", "b"]) 2
    (priorCreatedSteps twoSteps.steps [some made])
  ctx.batch.batchId = "22" ∧
  ctx.batch.payload = .intent (stepIntent twoSteps "directory:/a/b" (plannedStep ["a", "b"]) 2
    (priorCreatedSteps twoSteps.steps [some made])) ∧
  (∀ r ∈ ctx.recoveryRecords, r.payload.recursive? = some metadata) ∧ ctx.recoveryRecords ≠ [] ∧
  (priorCreatedSteps twoSteps.steps [some made]).length = 1 ∧
  ((db.batchRow made.batch.batchId).any fun row => row.payload = first ∧ row.owner = ctx.batch.owner ∧
    row.runId = ctx.batch.runId ∧ row.operationRunId = ctx.batch.operationRunId ∧
    row.operationPhaseId = ctx.batch.operationPhaseId) = true ∧
  made.operation ∈ db.operations ∧
  (∀ o ∈ db.operations, o.operationId = made.operation.operationId → o = made.operation) ∧
  (made.operation.batchId = made.batch.batchId ∧ made.operation.operationType = "make_directory" ∧
    made.operation.resourceKey = some step.resourceKey ∧ made.operation.payload = first) ∧
  made.afterCheckpoint ∈ db.checkpoints ∧
  (∀ c ∈ db.checkpoints, c.checkpointId = made.afterCheckpoint.checkpointId → c = made.afterCheckpoint) ∧
  (made.afterCheckpoint.batchId = made.batch.batchId ∧
    made.afterCheckpoint.operationId = some made.operation.operationId ∧
    made.afterCheckpoint.checkpointType = "after" ∧ made.afterCheckpoint.resourceKey = step.resourceKey)

private theorem stepFailed_of_records {db : JournalDb Payload} {made : JournaledResult} {ctx : RecoveryContext}
    (hctx : readRecoveryContext db "22" = .ok ctx) (h : recordsBoth db made ctx = true) :
    StepFailed db ctx twoSteps "directory:/a/b" (plannedStep ["a", "b"]) [some made] ∧ StepRecorded ctx ∧
      (priorCreatedSteps twoSteps.steps [some made]).length = 1 := by
  simp only [recordsBoth, decide_eq_true_eq] at h
  obtain ⟨hid, hintent, hrecords, hne, hlen, hrow, ho, hoalone, hoperation, hc, hcalone, hcheckpoint⟩ := h
  obtain ⟨row, hrow, hrest⟩ := (Option.any_eq_true _ _).1 hrow
  refine ⟨⟨by rw [hid]; exact hctx, rfl, hintent, ?_, ?_⟩, ?_, hlen⟩
  · intro r hr m hm
    exact Option.some.inj (hm.symm.trans (hrecords r hr))
  · intro i s made' hs hmade'
    cases i with
    | succ i => simp at hmade'
    | zero =>
      cases hs
      cases hmade'
      exact ⟨⟨row, hrow, of_decide_eq_true hrest⟩, ⟨ho, hoalone⟩, hoperation, ⟨hc, hcalone⟩, hcheckpoint⟩
  · obtain ⟨r, hr⟩ := List.exists_mem_of_ne_nil _ hne
    exact ⟨r, hr, by rw [hrecords r hr]; rfl⟩

private theorem atFailure_spec {what : Meanwhile} {made : JournaledResult} {ctx : RecoveryContext}
    (h : atFailure what = some (made, ctx)) : readRecoveryContext (nestedJournal what) "22" = .ok ctx := by
  simp only [atFailure, Option.bind_eq_bind, Option.bind_eq_some_iff] at h
  obtain ⟨_, -, _, -, _, -, _, -, ctx', hctx', h⟩ := h
  obtain rfl : ctx' = ctx := congrArg Prod.snd (Option.some.inj h)
  cases hread : readRecoveryContext (nestedJournal what) "22" with
  | error e =>
    rw [hread] at hctx'
    cases hctx'
  | ok ctx'' =>
    rw [hread] at hctx'
    exact congrArg Except.ok (Option.some.inj hctx')

private theorem nested_planned : planDirectoryCreation onlyRoot 3 ["a", "b"] true true none = some (.ok twoSteps) := by
  decide +kernel

/-- Another process makes the second directory between the look before and the call. The call fails, and the
recovery would remove that directory too. -/
theorem recursive_mkdir_foreign_directory :
    planDirectoryCreation onlyRoot 3 ["a", "b"] true true none = some (.ok twoSteps) ∧
    ∃ made ctx, atFailure .madeByOther = some (made, ctx) ∧
      StepFailed (nestedJournal .madeByOther) ctx twoSteps "directory:/a/b" (plannedStep ["a", "b"]) [some made] ∧
      (recursiveMkdirRecoveryActionPlans ctx).map removedDirectory = [some ["a", "b"], some ["a"]] ∧
      ¬ UndoesSteps onlyRoot twoSteps 1 (recursiveMkdirRecoveryActionPlans ctx) := by
  refine ⟨nested_planned, ?_⟩
  have hrun : (atFailure .madeByOther).any (fun r => recordsBoth (nestedJournal .madeByOther) r.1 r.2 ∧
      (recursiveMkdirRecoveryActionPlans r.2).map removedDirectory = [some ["a", "b"], some ["a"]]) = true := by
    decide +kernel
  obtain ⟨⟨made, ctx⟩, hfailure, hrecords⟩ := (Option.any_eq_true _ _).1 hrun
  obtain ⟨hrecords, hplans⟩ := of_decide_eq_true hrecords
  refine ⟨made, ctx, hfailure, (stepFailed_of_records (atFailure_spec hfailure) hrecords).1, hplans, ?_⟩
  rintro (⟨hremoves, -⟩ | ⟨p, hp, -⟩)
  · have hlen := congrArg List.length (hplans.symm.trans hremoves)
    exact absurd hlen (by decide)
  · have hlen := congrArg List.length hplans
    rw [hp] at hlen
    cases hlen

/-- The call fails and makes nothing: the first directory is removed, and no other. -/
theorem recursive_mkdir_undone : ∃ made ctx, atFailure .refused = some (made, ctx) ∧
    UndoesSteps onlyRoot twoSteps 1 (recursiveMkdirRecoveryActionPlans ctx) := by
  have hrun : (atFailure .refused).any (fun r => recordsBoth (nestedJournal .refused) r.1 r.2 ∧
      r.2.checkpoints.find? (sightsDirectory (plannedStep ["a", "b"])) = none) = true := by
    decide +kernel
  obtain ⟨⟨made, ctx⟩, hfailure, hrecords⟩ := (Option.any_eq_true _ _).1 hrun
  obtain ⟨hrecords, hunseen⟩ := of_decide_eq_true hrecords
  obtain ⟨hfailed, hrecorded, -⟩ := stepFailed_of_records (atFailure_spec hfailure) hrecords
  refine ⟨made, ctx, hfailure, ?_⟩
  refine ((recursive_mkdir_iff onlyRoot ["a", "b"] 3 (by decide)).2.2.2 true twoSteps nested_planned _ _ _ _ _
    hfailed).2 (Or.inl ⟨hrecorded, fun hseen => ?_⟩)
  obtain ⟨c, hc, -⟩ := hseen.sighted
  exact absurd (List.find?_some hc)
    (List.find?_eq_none.1 hunseen c (List.mem_reverse.1 (List.mem_of_find?_eq_some hc)))

end SafeFsOps
