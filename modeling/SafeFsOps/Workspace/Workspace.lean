import SafeFsOps.OperationJournal.OperationRuns
import SafeFsOps.OperationJournal.RecoveryRunner

/-!
# Workspaces

`workspace.py`: a workspace is a coordinator with an owner, a lease name and a
lease lifetime. Here are the steps that a workspace takes by itself, on leases,
claims and the list of batches, and the notes it leaves on operation runs.
-/

namespace SafeFsOps

/-- `SafeWorkspace`. -/
structure Workspace (φ ω : Type) where
  coordinator : Coordinator φ ω
  owner : String
  leaseName : String
  leaseTtl : Int
  backupArtifactCleanupOperation : Option (ω → φ → Path → Except FilesystemError Unit × φ)

variable {φ ω : Type}

/-! ## Leases -/

/-- `lease_store.acquire(workspace.lease_name, …)`. -/
def acquireLease (W : Workspace φ ω) (now : Option DateTime) : Op φ ω LeaseRecord :=
  transaction fun i w =>
    match acquire w.journal.leases W.leaseName W.owner W.leaseTtl none i.generated (now.getD i.now) with
    | .ok (lease, leases) => .ok (lease, { w with journal := { w.journal with leases := leases } })
    | .error e => .error (leaseErrorRaised e)

/-- `lease_store.is_current`. -/
def isCurrent (h : LeaseHolder) : Op φ ω Bool :=
  databaseRead fun i w => .ok (leaseIsCurrent w.journal.leases h.lease (h.operationTime i))

/-- `lease_store.heartbeat(lease, ttl=workspace.lease_ttl, …)`. -/
def heartbeatLease (W : Workspace φ ω) (h : LeaseHolder) : Op φ ω (Option LeaseRecord) :=
  transaction fun i w =>
    match heartbeat w.journal.leases h.lease W.leaseTtl (h.operationTime i) with
    | .ok (lease, leases) => .ok (lease, { w with journal := { w.journal with leases := leases } })
    | .error e => .error (leaseErrorRaised e)

/-- `lease_store.release`. -/
def releaseHeldLease (h : LeaseHolder) : Op φ ω Bool :=
  transaction fun i w =>
    let (released, leases) := releaseLease w.journal.leases h.lease i.generated (h.operationTime i)
    .ok (released, { w with journal := { w.journal with leases := leases } })

/-- The error of a lease that somebody else holds. -/
def leaseIsHeld (W : Workspace φ ω) (lease : LeaseRecord) : String :=
  "workspace lease " ++ pyRepr W.leaseName ++ " is held by " ++ pyRepr lease.owner

/-! ## Claims -/

/-- `claim_store.list_claims(owner=owner)`. -/
def listOwnedClaims (owner : String) : Op φ ω (List ClaimRecord) :=
  databaseRead fun _ w => .ok (listClaims w.claims (some owner))

/-- A write of the claim store. -/
def claimWrite {α : Type} (h : LeaseHolder)
    (write : LeaseTable → ClaimTable → DateTime → Except ClaimError (α × ClaimTable)) : Op φ ω α :=
  transaction fun i w =>
    match write w.journal.leases w.claims (h.operationTime i) with
    | .ok (a, claims) => .ok (a, { w with claims := claims })
    | .error e => .error (.claim e)

/-- `claim_store.release`. -/
def releaseClaimStep (h : LeaseHolder) (owner : String) (scope : Option String) (expected : ClaimRecord) :
    Op φ ω Bool :=
  claimWrite h fun leases t now =>
    releaseClaim leases t expected.resourceKey h.lease owner scope (some expected) now

/-- `claim_store.release_if_owner_scope_matches`. -/
def releaseIfOwnerScopeMatchesStep (h : LeaseHolder) (owner : String) (scope : Option String)
    (expected : ClaimRecord) : Op φ ω Bool :=
  claimWrite h fun leases t now =>
    releaseIfOwnerScopeMatches leases t expected.resourceKey h.lease owner scope (some expected) now

/-! ## Batches -/

/-- `ORDER BY created_at, batch_id`. -/
def createdBefore (a b : BatchRow Payload) : Bool :=
  a.createdAt.isoformat < b.createdAt.isoformat ∨
    a.createdAt.isoformat = b.createdAt.isoformat ∧ a.batchId ≤ b.batchId

/-- `list_batches`. -/
def listBatchRows (db : JournalDb Payload) (runId : Option String) : List (BatchRow Payload) :=
  (db.batches.filter fun b => runId.all (· = b.runId)).insertionSort fun a b => createdBefore a b = true

/-- `list_batches`. -/
def listBatches (runId : Option String) : Op φ ω (List (BatchRow Payload)) :=
  databaseRead fun _ w => .ok (listBatchRows w.journal runId)

/-- `batches.sort(key=…, reverse=True)`: row ids are unique, and decide. -/
def newestFirst (batches : List (BatchRow Payload)) : List (BatchRow Payload) :=
  batches.insertionSort fun a b => b.storageOrder ≤ a.storageOrder

/-- `list_checkpoints`. -/
def listCheckpointsOf (batchId : String) : Op φ ω (List (CheckpointRow Payload)) :=
  databaseRead fun _ w => .ok (w.journal.listCheckpoints batchId)

/-! ## Notes on operation runs -/

/-- `get_operation_run` -/
def getOperationRun (operationRunId : String) : Op φ ω (Option (OperationRunRow Payload)) :=
  databaseRead fun _ w => .ok (w.journal.operationRunRow operationRunId)

/-- `get_operation_phase` -/
def getOperationPhase (operationPhaseId : String) : Op φ ω (Option (OperationPhaseRow Payload)) :=
  databaseRead fun _ w => .ok (w.journal.operationPhaseRow operationPhaseId)

/-- Whether a run or a phase is still to be noted. -/
def isOpenStatus (status : Option String) : Bool := status = some "active" ∨ status = some "succeeded"

/-- The note on the operation phase of a recovered batch. -/
def recordPhaseDiagnostic (h : LeaseHolder) : Option String → Op φ ω Unit
  | none => .ret ()
  | some id => do
    let phase ← getOperationPhase id
    if isOpenStatus (phase.map OperationPhaseRow.status) then
      journalWrite h (fun db ctx => recordOperationPhaseTerminalDiagnostic db id "finalization_failed" ctx) >>=
        fun _ => .ret ()
    else .ret ()

/-- The note on the operation run of a recovered batch. -/
def recordRunDiagnostic (h : LeaseHolder) : Option String → Op φ ω Unit
  | none => .ret ()
  | some id => do
    let run ← getOperationRun id
    if isOpenStatus (run.map OperationRunRow.status) then
      journalWrite h (fun db ctx => recordOperationRunTerminalDiagnostic db id "finalization_failed" ctx) >>=
        fun _ => .ret ()
    else .ret ()

/-- `_record_recovered_batch_operation_terminal_diagnostics`. -/
def recordTerminalDiagnostics (h : LeaseHolder) (batch : BatchRow Payload) : Op φ ω Unit := do
  recordPhaseDiagnostic h batch.operationPhaseId
  recordRunDiagnostic h batch.operationRunId

end SafeFsOps
