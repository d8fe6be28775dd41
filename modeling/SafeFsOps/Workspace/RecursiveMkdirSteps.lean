import SafeFsOps.RecursiveMkdir
import SafeFsOps.Workspace.Transaction

/-!
# A recursive mkdir, step by step

`workspace_recursive_mkdir.py`: the directories of a plan are made one after the other,
each in a batch of its own. Every batch carries what the steps before it have created and
where that is on record, so that whoever undoes a failed step can undo those as well.

A step needs what `make_directory` answers, which the mutations of a transaction forget.
`makeDirectoryResult` is `make_directory` with its answer:

> `makeDirectory_eq`: without the answer it is the mutation.
-/

namespace SafeFsOps

open Program

variable {φ ω : Type}

/-! ## The answer of a mutation -/

/-- `JournaledFilesystemResult` of a mutation that was made. -/
structure JournaledResult where
  batch : BatchRow Payload
  operation : OperationRow Payload
  afterCheckpoint : CheckpointRow Payload

/-- `finishFileMutation` with the rows it has written. -/
def finishFileMutationResult (C : Coordinator φ ω) (c : Caller) (batchId operationId : String) (m : FileMutation φ ω)
    (before : ResourceSnapshot) (recovery : RecoveryDetails) : Op φ ω (BatchRow Payload × CheckpointRow Payload) := do
  let failed (after : Option ResourceSnapshot) (stage : String) :=
    recordPostMutationFailure C c batchId m.path m.resourceKey before after recovery stage
  let after ← recordAndRaise (fsRead fun o fs => C.ops.snapshot o fs m.path) (failed none "after_snapshot")
  let checkpoint ← recordAndRaise
    (recordCheckpointStep c batchId m.resourceKey "after" (.snapshot after none) (some operationId))
    (failed (some after) "after_checkpoint")
  let batch ← recordAndRaise
    (markSucceededStep c batchId (.succeeded operationId m.resourceKey (some after) none none))
    (failed (some after) "mark_succeeded")
  return (batch, checkpoint)

/-- `startedFileMutation` with the rows it has written. -/
def startedFileMutationResult (C : Coordinator φ ω) (c : Caller) (m : FileMutation φ ω)
    (batchId operationId : String) : Op φ ω (BatchRow Payload × CheckpointRow Payload) := do
  let before ← recordAndRaise (fsRead fun o fs => C.ops.snapshot o fs m.path)
    (recordBeforeSnapshotFailure c batchId m.path m.resourceKey m.recovery)
  let recovery ← recordAndRaise
    (maintainOperationLease C c.toLeaseHolder (prepareMutationCheckpoints C c batchId operationId m before))
    (recordMutationFailure C c batchId m.path m.resourceKey before m.recovery (some "prepare_checkpoints"))
  recordAndRaise (requireAuthority c m.resourceKey)
    (recordMutationFailure C c batchId m.path m.resourceKey before recovery none)
  (maintainOperationLease C c.toLeaseHolder (invoke c m.mutate)).onRaise fun e => do
    recordMutationFailure C c batchId m.path m.resourceKey before recovery none e
    .raise (mutationRaises batchId e)
  finishFileMutationResult C c batchId operationId m before recovery

/-- `_run_file_mutation`: no answer where an earlier call has finished the batch. -/
def runFileMutationResult (C : Coordinator φ ω) (c : Caller) (m : FileMutation φ ω) :
    Op φ ω (Option JournaledResult) := do
  preflight C m.preflightOperation
  requireAuthority c m.resourceKey
  let opened ← openBatch c m.intent m.operationType m.resourceKey "start a file mutation"
  match opened with
  | none => return none
  | some (batch, operation) => do
    let (succeeded, checkpoint) ← startedFileMutationResult C c m batch.batchId operation.operationId
    return some ⟨succeeded, operation, checkpoint⟩

/-- What `make_directory` runs for a step. -/
def stepMutation (C : Coordinator φ ω) (path : Path) (resourceKey : String) (parents existOk : Bool)
    (recursive : Option RecursiveMkdirStepMetadata) : FileMutation φ ω where
  path := path
  resourceKey := resourceKey
  operationType := .makeDirectory
  preflightOperation := some "make_directory"
  intent := .makeDirectory path resourceKey parents existOk recursive
  recovery := { RecoveryDetails.empty with desired := some ⟨true, .directory, none, none⟩, recursive := recursive }
  mutate := fun o fs => C.ops.makeDirectory o fs path parents existOk

/-- `make_directory`, with its answer. -/
def makeDirectoryResult (C : Coordinator φ ω) (c : Caller) (path : Path) (resourceKey : String)
    (parents existOk : Bool) (recursive : Option RecursiveMkdirStepMetadata) : Op φ ω (Option JournaledResult) := do
  .ofExcept (requireMatchingDirectoryResourceKey path resourceKey)
  if parents then .raise (.notImplemented
    "journaled make_directory(..., parents=True) is deferred until ancestor journaling exists")
  else runFileMutationResult C c (stepMutation C path resourceKey parents existOk recursive)

/-- Do something, and forget what it answers. -/
def forgetting {α : Type} (p : Op φ ω α) : Op φ ω Unit := p >>= fun _ => .ret ()

section Forgetting

variable {C : Coordinator φ ω} {c : Caller} {α β : Type}

theorem forgetting_bind (p : Op φ ω α) (f : α → Op φ ω β) : forgetting (p >>= f) = p >>= fun a => forgetting (f a) :=
  bind_assoc p

theorem startedFileMutation_eq (m : FileMutation φ ω) (batchId operationId : String) :
    startedFileMutation C c m batchId operationId =
      forgetting (startedFileMutationResult C c m batchId operationId) := by
  simp only [startedFileMutation, startedFileMutationResult, finishFileMutation, finishMutation, finishFileMutationResult,
    forgetting_bind]
  rfl

theorem runFileMutation_eq (m : FileMutation φ ω) :
    runFileMutation C c m = forgetting (runFileMutationResult C c m) := by
  simp only [runFileMutation, runFileMutationResult, forgetting_bind]
  congr 1
  funext _
  congr 1
  funext _
  congr 1
  funext opened
  cases opened with
  | none => rfl
  | some opened =>
    show startedFileMutation C c m opened.1.batchId opened.2.operationId = _
    rw [startedFileMutation_eq]
    exact (forgetting_bind (startedFileMutationResult C c m opened.1.batchId opened.2.operationId) fun rows =>
      .ret (some (JournaledResult.mk rows.1 opened.2 rows.2))).symm

/-- **`make_directory` is the same with and without its answer.** -/
theorem makeDirectory_eq (path : Path) (resourceKey : String) (parents existOk : Bool)
    (recursive : Option RecursiveMkdirStepMetadata) :
    makeDirectory C c path resourceKey parents existOk recursive =
      forgetting (makeDirectoryResult C c path resourceKey parents existOk recursive) := by
  simp only [makeDirectory, makeDirectoryResult, forgetting_bind]
  congr 1
  funext _
  cases parents with
  | true => rfl
  | false => exact runFileMutation_eq _

end Forgetting

/-! ## What a step carries about the steps before it -/

/-- `_created_directory_identity`. -/
def createdDirectoryIdentity (step : RecursiveMkdirStep) (after : CheckpointRow Payload) :
    Option DirectoryIdentityPayload := do
  let snapshot ← after.payload.snapshot?
  guard (snapshot.path = step.path)
  let identity ← directoryIdentityOf snapshot
  return ⟨step.path, step.resourceKey, identity⟩

/-- `_created_step_recovery_metadata`, of a step whose operation is `make_directory`. -/
def createdStepMetadata (step : RecursiveMkdirStep) (stepIndex : Nat) (result : Option JournaledResult) :
    Option CreatedStep := do
  let result ← result
  let identity ← createdDirectoryIdentity step result.afterCheckpoint
  return {
    stepIndex := stepIndex
    stepPath := step.path
    stepResourceKey := step.resourceKey
    ownershipClass := "created_by_transaction"
    createdDirectoryIdentity := identity
    journaledCreationProof := ⟨result.batch.batchId, result.operation.operationId, .makeDirectory,
      result.afterCheckpoint.checkpointId, result.afterCheckpoint.checkpointType, step.path, step.resourceKey⟩
    cleanupPolicy := "owned_empty_directory_safe_ish"
    backendGuarantee := "identity_conditional_remove" }

/-- `prior_created_steps` after the steps that have been answered, which are counted from 1. -/
def priorCreatedSteps (steps : List RecursiveMkdirStep) (answered : List (Option JournaledResult)) : List CreatedStep :=
  ((steps.zip answered).zipIdx 1).filterMap fun s => createdStepMetadata s.1.1 s.2 s.1.2

/-- `_step_metadata`. -/
def stepMetadata (plan : RecursiveMkdirPlan) (requestedResourceKey : String) (step : RecursiveMkdirStep)
    (stepIndex : Nat) (prior : List CreatedStep) : RecursiveMkdirStepMetadata where
  planTarget := plan.target
  requestedResourceKey := requestedResourceKey
  stepIndex := stepIndex
  stepCount := plan.steps.length
  stepPath := step.path
  stepResourceKey := step.resourceKey
  priorCreatedSteps := prior

/-! ## The loop -/

/-- The arguments of a recursive mkdir; the last stands for the start of the SHA-256 of a key. -/
structure RecursiveMkdirCall where
  requestedResourceKey : String
  idempotencyKey : String
  links : OperationLinks
  now : Option DateTime
  resourceDigest : String → String

/-- `_step_idempotency_key`. -/
def stepIdempotencyKey (call : RecursiveMkdirCall) (step : RecursiveMkdirStep) (stepIndex stepCount : Nat) : String :=
  call.idempotencyKey ++ ":recursive:" ++ toString stepIndex ++ "-of-" ++ toString stepCount ++ ":" ++
    call.resourceDigest step.resourceKey

/-- The paths `_require_runtime_safe_descent` looks at: up from the step, the root left out. -/
def descentPaths (plan : RecursiveMkdirPlan) (step : RecursiveMkdirStep) : List Path :=
  let upwards := step.path.inits.tail.reverse
  match plan.rootBoundary with
  | none => upwards
  | some boundary => upwards.takeWhile (· ≠ boundary) ++ upwards.filter (· = boundary)

/-- `_require_runtime_safe_descent`. -/
def requireRuntimeSafeDescent (C : Coordinator φ ω) (plan : RecursiveMkdirPlan) (step : RecursiveMkdirStep) :
    Op φ ω Unit :=
  .forEach (descentPaths plan step) fun current => do
    let safety ← fsRead fun o fs => C.ops.inspectPath o fs current
    if safety.pathExists = false then .ret ()
    else do
      let role := if current = step.path then "step target" else "ancestor"
      let safety ← fsRead fun o fs => C.ops.inspectPath o fs current
      .ofExcept ((requireSafeExistingDirectory safety current role "recursive mkdir runtime").mapError .filesystem)

/-- A turn of the loop in `execute_transaction_recursive_mkdir`. -/
def executeStep (T : Transaction φ ω) (plan : RecursiveMkdirPlan) (call : RecursiveMkdirCall) (s : TransactionState)
    (step : RecursiveMkdirStep) (answered : List (Option JournaledResult)) :
    Op φ ω (TransactionState × Except OperationError (Option JournaledResult)) := do
  let stepIndex := answered.length + 1
  let safe ← (requireRuntimeSafeDescent T.workspace.coordinator plan step).outcome
  match safe with
  | .error e => return (s, .error e)
  | .ok _ => do
    let metadata := stepMetadata plan call.requestedResourceKey step stepIndex (priorCreatedSteps plan.steps answered)
    let claimed ← (claimDirectoryResource T s step.resourceKey call.now).outcome
    match claimed with
    | .error e => return (s, .error e)
    | .ok s => do
      let key := stepIdempotencyKey call step stepIndex plan.steps.length
      let result ← (makeDirectoryResult T.workspace.coordinator (T.caller s key call.links call.now) step.path
        step.resourceKey false false (some metadata)).outcome
      return (s, result)

/-- The loop in `execute_transaction_recursive_mkdir`: the answers so far, and what a step has raised. -/
def executeSteps (T : Transaction φ ω) (plan : RecursiveMkdirPlan) (call : RecursiveMkdirCall) :
    List RecursiveMkdirStep → TransactionState → List (Option JournaledResult) →
      Op φ ω (TransactionState × List (Option JournaledResult) × Option OperationError)
  | [], s, answered => return (s, answered, none)
  | next :: rest, s, answered => do
    let (s, result) ← executeStep T plan call s next answered
    match result with
    | .error e => return (s, answered, some e)
    | .ok result => executeSteps T plan call rest s (answered ++ [result])

end SafeFsOps
