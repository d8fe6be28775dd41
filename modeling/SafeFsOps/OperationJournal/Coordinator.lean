import SafeFsOps.Programs
import SafeFsOps.OperationJournal.Calls
import SafeFsOps.OperationJournal.Payloads
import SafeFsOps.WorkspaceState.Claims

/-!
# The journaled filesystem coordinator

`operation_journal/filesystem.py` and `filesystem_support.py`: a coordinator
joins one database (leases, claims, journal) with one disk. Its methods are
programs whose steps are single transactions and single filesystem calls, so a
crash or another process can come between any two of them.

The filesystem operations are the coordinator's own parameters, as in the source,
which takes them as callables; nothing is assumed of what they do to the disk.
-/

namespace SafeFsOps

/-- What `os.lstat` tells about an entry. -/
structure FileStat where
  fileType : FileType
  permissions : Nat
  size : Nat
  mtimeNs : Nat
  ctimeNs : Nat
  identity : DirectoryIdentity
deriving DecidableEq

/-- `PathSafety`, without its Windows part. -/
structure PathSafety where
  pathExists : Bool
  fileType : FileType
  isMount : Bool
deriving DecidableEq

/-- An ordinary directory: `is_dir`, no symlink, no mount point. -/
def PathSafety.isPlainDirectory (s : PathSafety) : Bool :=
  s.pathExists ∧ s.fileType = .directory ∧ s.isMount = false

/-- A `TreeBackupOperation` at work: one system call after the other, each of which
may put an object into the store, until it has its backup. -/
inductive TreeBackupRun (φ ω : Type) where
  | finished (backup : TreeBackup)
  | raised (e : FilesystemError)
  | call (act : ω → φ → Except FilesystemError (Option PutResult) × φ)
      (next : Option PutResult → TreeBackupRun φ ω)

/-- The filesystem operations a coordinator and its recovery work with, on disks
`φ`; `ω` is what the operating system contributes to one call. -/
structure FilesystemOps (φ ω : Type) where
  snapshot : ω → φ → Path → Except FilesystemError ResourceSnapshot
  lstat : ω → φ → Path → Except FilesystemError FileStat
  writeBytes : ω → φ → Path → Bytes → Option Nat → Except FilesystemError Unit × φ
  writeText : ω → φ → Path → String → Option String → Except FilesystemError Unit × φ
  deleteFile : ω → φ → Path → Bool → Except FilesystemError Unit × φ
  makeDirectory : ω → φ → Path → Bool → Bool → Except FilesystemError Unit × φ
  renameNoReplace : ω → φ → Path → Path → Except FilesystemError RenameRecord × φ
  captureDirectory : ω → φ → Path → Path → Except FilesystemError CapturedDirectoryRecord × φ
  captureBackup : ω → φ → Path → ResourceSnapshot → Path → Except FilesystemError FileBackup × φ
  directoryCaptureToken : ω → φ → Path → DirectoryIdentity → Bool → Except FilesystemError (Option String) × φ
  inspectPath : ω → φ → Path → Except FilesystemError PathSafety
  listDirectory : ω → φ → Path → Except FilesystemError (List String)
  requireDirectoryCaptureToken : ω → φ → Path → DirectoryIdentity → String → Except FilesystemError Unit
  restoreBackup : ω → φ → FileBackup → Option ResourceSnapshot → Bool →
    Except FilesystemError ResourceSnapshot × φ
  restoreInverseRename : ω → φ → RenameRecord → Except FilesystemError RenameRecord × φ
  restoreCapturedDirectory : ω → φ → CapturedDirectoryRecord → Except FilesystemError DirectoryIdentity × φ
  hashRegularFile : ω → φ → Path → Except FilesystemError (ContentDigest × Nat)
  /-- `_hash_regular_file` of `tree_backup_recovery.py`, which opens whatever is there -/
  hashOpenedFile : ω → φ → Path → Except FilesystemError (ContentDigest × Nat)
  cleanupCapturedDirectory : ω → φ → CapturedDirectoryRecord → Except FilesystemError Unit × φ
  /-- of a root, the paths below it that are wanted, and a store -/
  backupTree : Path → List Path → Path → TreeBackupRun φ ω
  /-- from a store to a destination; the answer is the name of its type -/
  restoreTreeBackup : ω → φ → TreeBackup → Path → Path → ConflictPolicy → Except FilesystemError String × φ
  snapshotBundle : ω → φ → List Path → Bool → HashPolicy → Nat → Except FilesystemError SnapshotBundle
  /-- `None` where the platform has no identity-conditional remover -/
  identityRemoveDirectory : Option (ω → φ → Path → DirectoryIdentity → Except FilesystemError Unit × φ)

/-- What a coordinator's method raises. -/
inductive OperationError where
  | journal (e : JournalError)
  | claim (e : ClaimError)
  | filesystem (e : FilesystemError)
  | missingResourceClaim (message : String)
  | resourceClaimAuthority (message : String)
  | fileResourceKeyMismatch (message : String)
  | directoryResourceKeyMismatch (message : String)
  | treeResourceKeyMismatch (message : String)
  | batchState (message : String)
  | mutation (message batchId : String)
  | valueError (message : String)
  | overflow (message : String)
  | notImplemented (message : String)
  | database (message : String)
  | safeWorkspace (message : String)
  /-- `RecoveryActionSkipped` and `RecoveryActionManualInterventionRequired`, with
  the `reason_code` of their payload -/
  | actionSkipped (message reasonCode : String)
  | actionManual (message reasonCode : String)
  | recovery (message batchId : String)
  /-- `BackupArtifactCleanupError` and its siblings -/
  | artifactCleanup (message : String)
  | workspaceBusy (message : String)
  | claimRelease (message : String)
  /-- what the caller's own code raises inside a transaction -/
  | body (message : String)
deriving DecidableEq

namespace OperationError

/-- `isinstance(exc, LeaseLostError)`. -/
def isLeaseLost : OperationError → Bool
  | journal (.leaseLost _) | claim (.leaseLost _) => true
  | _ => false

/-- `isinstance(exc, BatchStartConflictError)`. -/
def isBatchStartConflict : OperationError → Bool
  | journal (.batchStartConflict _) => true
  | _ => false

/-- `isinstance(exc, UnsupportedFilesystemBackendError)`. -/
def isUnsupportedBackend : OperationError → Bool
  | filesystem (.unsupportedBackend _) => true
  | _ => false

/-- `type(exc).__name__`. -/
def className : OperationError → String
  | journal (.leaseLost _) | claim (.leaseLost _) => "LeaseLostError"
  | journal (.batchNotFound _) => "BatchNotFoundError"
  | journal (.invalidBatchPhaseTransition _) => "InvalidBatchPhaseTransitionError"
  | journal (.journalLeaseMismatch _) => "JournalLeaseMismatchError"
  | journal (.batchIdempotencyMismatch _) => "BatchIdempotencyMismatchError"
  | journal (.recoveryAttemptMismatch _) => "RecoveryAttemptMismatchError"
  | journal (.batchStartConflict _) => "BatchStartConflictError"
  | journal (.valueError _) | claim (.valueError _) | valueError _ => "ValueError"
  | overflow _ => "OverflowError"
  | journal (.recoveryContext _) => "RecoveryContextError"
  | journal (.safeWorkspace _) => "SafeWorkspaceError"
  | journal .integrity => "IntegrityError"
  | claim (.claimConflict ..) => "ClaimConflictError"
  | filesystem e => e.className
  | missingResourceClaim _ => "MissingResourceClaimError"
  | resourceClaimAuthority _ => "ResourceClaimAuthorityError"
  | fileResourceKeyMismatch _ => "FileResourceKeyMismatchError"
  | directoryResourceKeyMismatch _ => "DirectoryResourceKeyMismatchError"
  | treeResourceKeyMismatch _ => "TreeResourceKeyMismatchError"
  | batchState _ => "JournaledFilesystemBatchStateError"
  | mutation .. => "JournaledFilesystemMutationError"
  | notImplemented _ => "NotImplementedError"
  | database _ => "OperationalError"
  | safeWorkspace _ => "SafeWorkspaceError"
  | actionSkipped .. => "RecoveryActionSkipped"
  | actionManual .. => "RecoveryActionManualInterventionRequired"
  | recovery .. => "JournaledFilesystemRecoveryError"
  | artifactCleanup _ => "ArtifactCleanupError"
  | workspaceBusy _ => "SafeWorkspaceBusyError"
  | claimRelease _ => "_ClaimReleaseError"
  | body _ => "Exception"

/-- `str(exc)`. -/
def text : OperationError → String
  | journal (.leaseLost m) | journal (.batchNotFound m) | journal (.invalidBatchPhaseTransition m) => m
  | journal (.journalLeaseMismatch m) | journal (.batchIdempotencyMismatch m) => m
  | journal (.recoveryAttemptMismatch m) | journal (.batchStartConflict m) | journal (.valueError m) => m
  | journal (.recoveryContext m) | journal (.safeWorkspace m) => m
  | journal .integrity => "UNIQUE constraint failed"
  | claim (.leaseLost m) | claim (.claimConflict m _) | claim (.valueError m) => m
  | filesystem e => e.text
  | missingResourceClaim m | resourceClaimAuthority m | fileResourceKeyMismatch m => m
  | directoryResourceKeyMismatch m | treeResourceKeyMismatch m | batchState m | mutation m _ => m
  | valueError m | overflow m | notImplemented m => m
  | database m | safeWorkspace m | actionSkipped m _ | actionManual m _ | recovery m _ => m
  | artifactCleanup m | workspaceBusy m | claimRelease m | body m => m

end OperationError

/-- What the run so far has done on behalf of mutations: batches started, with the
database around the transaction that started them, and filesystem-changing calls
invoked, each under the idempotency key of its caller. -/
inductive MutationEvent where
  | started (idempotencyKey : String) (before after : JournalDb Payload)
  | invoked (idempotencyKey : String)

/-- The key of an event. -/
def MutationEvent.key : MutationEvent → String
  | started k .. | invoked k => k

/-- What is on record of a transaction that is entered: who it is, and its lease. -/
structure LiveTransaction where
  owner : String
  claimScope : String
  runId : String
  lease : LeaseRecord
deriving DecidableEq

/-- What a workspace recovery has found when it listed all batches: their owners and
scopes; and under which lease and for which run it looks for claims without batches. -/
structure RecoveryScan where
  lease : LeaseRecord
  runId : Option String
  ownerScopes : List (String × String)
deriving DecidableEq

/-- A database and a disk, and beside them, for the record only, the mutations run
on them, the transactions entered and not yet closed, and the scans of recoveries. -/
structure World (φ : Type) where
  journal : JournalDb Payload
  claims : ClaimTable
  fs : φ
  history : List MutationEvent
  live : List LiveTransaction
  scans : List RecoveryScan

/-- A new database beside a disk. -/
def World.init {φ : Type} (fs : φ) : World φ := ⟨JournalDb.init Payload, [], fs, [], [], []⟩

/-- The input of one step: its clock sample, the two ids it may draw, an error the
step may fail with on its own account (a locked database, a failed heartbeat),
and what the operating system contributes. -/
structure Sample (ω : Type) where
  now : DateTime
  handoffId : String
  generated : String
  fault : Option OperationError
  os : ω

/-- A coordinator's own parameters. -/
structure Coordinator (φ ω : Type) where
  ops : FilesystemOps φ ω
  preflightOperation : String → Except OperationError Unit
  automaticFileRollback : Bool
  writeBytesMaxBytes : Nat
  writeBytesLargePolicyAllow : Bool
  capturedDirectoryCleanup : CapturedDirectoryCleanup
  heartbeatLeases : Bool
  statePath : Path
  /-- `uuid.uuid5(uuid.NAMESPACE_URL, name).hex` -/
  uuid5 : String → String
  /-- `hashlib.sha256(content).hexdigest()`, as a text -/
  hexdigest : ContentDigest → String

/-- The lease a method works under, and the time it was given, if any. -/
structure LeaseHolder where
  lease : LeaseRecord
  now : Option DateTime

/-- The arguments all mutations have in common. -/
structure Caller extends LeaseHolder where
  owner : String
  runId : String
  idempotencyKey : String
  operationRunId : Option String
  operationPhaseId : Option String
  claimScope : Option String

instance : Coe Caller LeaseHolder := ⟨Caller.toLeaseHolder⟩

/-- A method of a coordinator. -/
abbrev Op (φ ω α : Type) := Program (World φ) (Sample ω) OperationError α

section Steps

variable {φ ω α : Type}

/-- `_operation_time`. -/
def LeaseHolder.operationTime (h : LeaseHolder) (i : Sample ω) : DateTime := h.now.getD i.now

/-- What a write of the holder brings along. -/
def LeaseHolder.context (h : LeaseHolder) (i : Sample ω) : WriteContext :=
  ⟨h.lease, h.operationTime i, i.handoffId, i.generated⟩

/-- A transaction: it commits as a whole, or raises and leaves the world as it was. -/
def transaction (act : Sample ω → World φ → Except OperationError (α × World φ)) : Op φ ω α :=
  .call fun i w =>
    match i.fault with
    | some e => (.error e, w)
    | none =>
      match act i w with
      | .ok (a, w') => (.ok a, w')
      | .error e => (.error e, w)

/-- A write of the journal store. -/
def journalWrite (h : LeaseHolder)
    (write : JournalDb Payload → WriteContext → Except JournalError (α × JournalDb Payload)) : Op φ ω α :=
  transaction fun i w =>
    match write w.journal (h.context i) with
    | .ok (a, db) => .ok (a, { w with journal := db })
    | .error e => .error (.journal e)

/-- A read of the database. -/
def databaseRead (read : Sample ω → World φ → Except OperationError α) : Op φ ω α :=
  transaction fun i w => (read i w).map fun a => (a, w)

/-- A filesystem call that only looks. -/
def fsRead (read : ω → φ → Except FilesystemError α) : Op φ ω α :=
  .call fun i w => ((read i.os w.fs).mapError .filesystem, w)

/-- A filesystem call that may change the disk, also when it fails. -/
def fsCall (act : ω → φ → Except FilesystemError α × φ) : Op φ ω α :=
  .call fun i w => ((act i.os w.fs).1.mapError .filesystem, { w with fs := (act i.os w.fs).2 })

/-- The filesystem-changing call of a mutation. -/
def invoke (c : Caller) (act : ω → φ → Except FilesystemError α × φ) : Op φ ω α :=
  .call fun i w => ((act i.os w.fs).1.mapError .filesystem,
    { w with fs := (act i.os w.fs).2, history := w.history ++ [.invoked c.idempotencyKey] })

/-- `LeaseStore.require_current`. -/
def requireCurrent (h : LeaseHolder) : Op φ ω Unit :=
  databaseRead fun i w =>
    (requireCurrentLease w.journal (h.context i)).mapError .journal

/-- `ClaimStore.get`. -/
def readClaim (resourceKey : String) : Op φ ω (Option ClaimRecord) :=
  databaseRead fun _ w => .ok (getClaim w.claims resourceKey)

/-- `_require_lease_bound_claim_details`. -/
def requireLeaseBoundClaimDetails (resourceKey : String) (claim : ClaimRecord) (lease : LeaseRecord) :
    Except OperationError Unit :=
  let refused (what : String) : OperationError :=
    .resourceClaimAuthority ("resource " ++ pyRepr resourceKey ++ what)
  match claim.details with
  | none => .error (refused " has no lease-bound claim authority")
  | some details => do
    require (details.claimId.any (· ≠ "") = true) (refused " has invalid lease-bound claim identity")
    require (details.leaseFencingToken = some lease.fencingToken)
      (refused " is bound to a different lease fencing token")
    require (details.leaseName = some lease.name ∧ details.leaseOwner = some lease.owner ∧
        details.leaseTokenDigest = some (leaseTokenDigest lease))
      (refused " is bound to a different lease identity")

/-- The checks of `_require_authority` on the claim it has read. -/
def checkClaimAuthority (c : Caller) (resourceKey : String) (claim : Option ClaimRecord) :
    Except OperationError Unit :=
  match claim with
  | none => .error (.missingResourceClaim ("resource " ++ pyRepr resourceKey ++ " is not claimed"))
  | some claim => do
    require (c.lease.owner = c.owner) (.resourceClaimAuthority ("resource " ++ pyRepr resourceKey ++
      " cannot be used by operation owner " ++ pyRepr c.owner ++ " with lease owner " ++ pyRepr c.lease.owner))
    require (claim.owner = c.owner ∧ claim.scope = c.claimScope) (.resourceClaimAuthority
      ("resource " ++ pyRepr resourceKey ++ " is claimed by " ++ pyRepr claim.owner ++ " with a different scope"))
    requireLeaseBoundClaimDetails resourceKey claim c.lease

/-- `_require_authority`: the lease is current, and the claim is the caller's. -/
def requireAuthority (c : Caller) (resourceKey : String) : Op φ ω Unit := do
  requireCurrent c.toLeaseHolder
  let claim ← readClaim resourceKey
  .ofExcept (checkClaimAuthority c resourceKey claim)

/-- The lifetime `maintain_lease` renews a lease by: that of the record. -/
def LeaseRecord.ttl (lease : LeaseRecord) : Int := (lease.expiresAt.micros : Int) - lease.heartbeatAt.micros

/-- What `acquire` and `heartbeat` of the lease store raise. -/
def leaseErrorRaised : LeaseError → OperationError
  | .nonPositiveTtl => .valueError "lease ttl must be positive"
  | .overflow => .overflow "date value out of range"

/-- `_heartbeat_once`. -/
def heartbeatOnce (h : LeaseHolder) : Op φ ω Unit :=
  transaction fun i w =>
    match heartbeat w.journal.leases h.lease h.lease.ttl (h.operationTime i) with
    | .error e => .error (leaseErrorRaised e)
    | .ok (none, _) => .error (.journal (.leaseLost ("lease " ++ pyRepr h.lease.name ++ " is no longer current")))
    | .ok (some _, leases) => .ok ((), { w with journal := { w.journal with leases := leases } })

/-- `raise_if_failed`: what the heartbeat thread has failed with. -/
def raiseIfFailed : Op φ ω Unit := databaseRead fun _ _ => .ok ()

/-- `with maintain_lease(…)`: one heartbeat before the body, and its thread's
failure after a body that did not fail itself. -/
def maintainLease (h : LeaseHolder) (body : Op φ ω α) : Op φ ω α :=
  if h.lease.ttl ≤ 0 then body
  else do
    heartbeatOnce h
    let a ← body
    raiseIfFailed
    return a

/-- `with _maintain_operation_lease(…)`. -/
def maintainOperationLease (C : Coordinator φ ω) (h : LeaseHolder) (body : Op φ ω α) : Op φ ω α :=
  if h.now ≠ none ∨ C.heartbeatLeases = false then body else maintainLease h body

/-- `try: p` with `except LeaseLostError: return lost`, before `next`. -/
def unlessLeaseLost {β : Type} (p : Op φ ω α) (lost next : Op φ ω β) : Op φ ω β :=
  p.outcome >>= fun
    | .ok _ => next
    | .error e => if e.isLeaseLost then lost else .raise e

/-- `except Exception as exc: record(exc); raise`. -/
def recordAndRaise (p : Op φ ω α) (record : OperationError → Op φ ω Unit) : Op φ ω α :=
  p.onRaise fun e => record e >>= fun _ => .raise e

end Steps

/-! ## A disk without calls -/

/-- A disk on which every call fails, for runs that only move the database. -/
def FilesystemOps.inert {φ ω : Type} : FilesystemOps φ ω :=
  let e := FilesystemError.osError "read-only file system"
  { snapshot := fun _ _ _ => .error e
    lstat := fun _ _ _ => .error e
    writeBytes := fun _ d _ _ _ => (.error e, d)
    writeText := fun _ d _ _ _ => (.error e, d)
    deleteFile := fun _ d _ _ => (.error e, d)
    makeDirectory := fun _ d _ _ _ => (.error e, d)
    renameNoReplace := fun _ d _ _ => (.error e, d)
    captureDirectory := fun _ d _ _ => (.error e, d)
    captureBackup := fun _ d _ _ _ => (.error e, d)
    directoryCaptureToken := fun _ d _ _ _ => (.error e, d)
    inspectPath := fun _ _ _ => .error e
    listDirectory := fun _ _ _ => .error e
    requireDirectoryCaptureToken := fun _ _ _ _ _ => .error e
    restoreBackup := fun _ d _ _ _ => (.error e, d)
    restoreInverseRename := fun _ d _ => (.error e, d)
    restoreCapturedDirectory := fun _ d _ => (.error e, d)
    hashRegularFile := fun _ _ _ => .error e
    hashOpenedFile := fun _ _ _ => .error e
    cleanupCapturedDirectory := fun _ d _ => (.error e, d)
    backupTree := fun _ _ _ => .raised e
    restoreTreeBackup := fun _ d _ _ _ _ => (.error e, d)
    snapshotBundle := fun _ _ _ _ _ _ => .error e
    identityRemoveDirectory := none }

/-- A coordinator over it, which keeps no lease alive. -/
def Coordinator.inert {φ ω : Type} : Coordinator φ ω where
  ops := .inert
  preflightOperation := fun _ => .ok ()
  automaticFileRollback := true
  writeBytesMaxBytes := 67108864
  writeBytesLargePolicyAllow := false
  capturedDirectoryCleanup := .automatic
  heartbeatLeases := false
  statePath := ["state.db"]
  uuid5 := id
  hexdigest := fun _ => ""

end SafeFsOps
