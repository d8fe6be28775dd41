import SafeFsOps.OperationJournal.ActionRuns
import SafeFsOps.OperationJournal.TreeBackupRecovery

/-!
# Removing a created directory

`recursive_mkdir_recovery_actions.py`: the handler of the actions `remove_created_directory`
and `remove_empty_directory`. Its payload says which directory was made and which records
prove that; the handler looks the proof up among the records of the batch and of the
batches its recovery records name, looks at the directory, asks for its authority, and only
then calls the remover.

- `journaledCreationProofMatches`: `_journaled_creation_proof_matches_action`.
- `RemovalProven`: what that comes to, in terms of what the journal holds.
- `RemovalAuthorised`: all that is known where the remover is called.

> `removal_by_proof`: a run of the action changes the disk in that call alone. Where the call
> is not made, the action is recorded as failed, skipped or left to intervention, unless it had
> ended before or the run raises because the journal is not its own to write any more.
-/

namespace SafeFsOps.StoredRecovery

open TreeBackups (Mapping getItem truthy)

/-- `FileType`, as it is written. -/
def FileType.text : FileType → String
  | .missing => "missing"
  | .file => "file"
  | .directory => "directory"
  | .symlink => "symlink"
  | .other => "other"

/-! ## Resource keys -/

/-- What a process makes of paths that are not absolute. -/
structure ProcessPaths where
  cwd : PosixPath
  /-- `os.path.expanduser` of a part that starts with a tilde; none where no home is known -/
  home : String → Option PosixPath

/-- One part of `os.path.normpath`, on an absolute path. -/
def normStep (parts : List String) (part : String) : List String :=
  if part = ".." then parts.dropLast else parts ++ [part]

theorem mem_foldl_normStep {p : String} : ∀ (parts acc : List String), p ∈ parts.foldl normStep acc → p ∈ acc ∨ p ∈ parts
  | [], acc, h => Or.inl h
  | part :: parts, acc, h => by
    rcases mem_foldl_normStep parts (normStep acc part) h with hacc | hmem
    · unfold normStep at hacc
      split at hacc
      · exact Or.inl (List.dropLast_subset _ hacc)
      · rcases List.mem_append.1 hacc with hacc | hpart
        · exact Or.inl hacc
        · exact Or.inr (List.mem_cons.2 (Or.inl (List.mem_singleton.1 hpart)))
    · exact Or.inr (List.mem_cons_of_mem _ hmem)

/-- `os.path.abspath`. -/
def abspath (cwd path : PosixPath) : PosixPath where
  root := if path.root = .relative then cwd.root else path.root
  parts := ((if path.root = .relative then cwd.parts else []) ++ path.parts).foldl normStep []
  ok := by
    intro part hpart
    rcases mem_foldl_normStep _ _ hpart with hnil | hmem
    · cases hnil
    · rcases List.mem_append.1 hmem with hmem | hmem
      · split at hmem
        · exact cwd.ok part hmem
        · cases hmem
      · exact path.ok part hmem

/-- One path below another. -/
def joinPath (front rest : PosixPath) : PosixPath where
  root := front.root
  parts := front.parts ++ rest.parts.tail
  ok := by
    intro part hpart
    rcases List.mem_append.1 hpart with hpart | hpart
    · exact front.ok part hpart
    · exact rest.ok part (List.mem_of_mem_tail hpart)

/-- `path.expanduser()`. -/
def expandUser (P : ProcessPaths) (path : PosixPath) : Except RecoveryError PosixPath :=
  match path.root, path.parts.head? with
  | .relative, some part =>
    if part.startsWith "~" then
      match P.home part with
      | some home => .ok (joinPath home path)
      | none => .error (.other "RuntimeError" "Could not determine home directory.")
    else .ok path
  | _, _ => .ok path

/-- `directory_resource_key`. -/
def directoryResourceKey (P : ProcessPaths) (path : PosixPath) : Except RecoveryError String :=
  (expandUser P path).map fun path => "directory:" ++ (abspath P.cwd path).text

/-! ## The proof -/

/-- A directory by the numbers of a payload. -/
structure StoredIdentity where
  device : Int
  inode : Int
deriving DecidableEq

/-- The numbers a directory has. -/
def storedIdentity (d : DirectoryIdentity) : StoredIdentity := ⟨d.device, d.inode⟩

/-- `_directory_identity_from_payload`. -/
def directoryIdentityFromPayload (value : Mapping) : Option StoredIdentity :=
  match Json.get value "path", Json.get value "file_type", Json.get value "resource_key" with
  | .null, _, _ | _, _, .null => none
  | _, .str "directory", _ =>
    match asInt (Json.get value "device"), asInt (Json.get value "inode") with
    | some device, some inode => some ⟨device, inode⟩
    | _, _ => none
  | _, _, _ => none

section Proof

variable (V : StoredValues)

/-- `_payload_identity_matches_action`. -/
def payloadIdentityMatchesAction (value : Mapping) (path : PosixPath) (resourceKey : String) : Bool :=
  V.pathOf (Json.get value "path") = path ∧ V.textOf (Json.get value "resource_key") = resourceKey

/-- What one key of `_same_recursive_batch_intent` asks for. -/
def sameIntentValue (failed proof : Mapping) (key : String) (required : Bool) : Bool :=
  match Json.get failed key, Json.get proof key with
  | .null, _ | _, .null => required = false
  | v, w => V.textOf v = V.textOf w

/-- `_same_recursive_batch_intent`; the payload of one batch has one value under the key. -/
def sameRecursiveBatchIntent (failed proof : BatchRow Mapping) : Bool :=
  match Json.get failed.payload "recursive_mkdir", Json.get proof.payload "recursive_mkdir" with
  | .obj f, .obj p =>
    V.optionalStr (Json.get failed.payload "operation") = V.optionalStr (Json.get proof.payload "operation") ∧
      sameIntentValue V f p "requested_resource_key" true = true ∧ sameIntentValue V f p "plan_target" true = true ∧
        sameIntentValue V f p "step_count" false = true
  | v, w => proof.batchId = failed.batchId ∨ V.isSame v w = true

/-- `_proof_batch_matches_recursive_lineage`. -/
def proofBatchMatchesRecursiveLineage (failed proof : BatchRow Mapping) : Bool :=
  proof.owner = failed.owner ∧ proof.runId = failed.runId ∧ failed.operationRunId = proof.operationRunId ∧
    failed.operationPhaseId = proof.operationPhaseId ∧ sameRecursiveBatchIntent V failed proof = true

/-- `_proof_context_for_batch`. -/
def proofContextForBatch (ctx : StoredContext) (batchId : String) : Option StoredBatch :=
  if batchId = ctx.batch.batchId then some ctx.toStoredBatch
  else ctx.proofContexts.find? fun b => b.batch.batchId = batchId

/-- `_payload_matches_action_path_and_resource_key`. -/
def payloadMatchesAction (value : Mapping) (path : PosixPath) (resourceKey : String) : Bool :=
  (match Json.get value "path" with
    | .null => true
    | v => V.pathOf v = path) &&
  (match Json.get value "resource_key" with
    | .null => true
    | v => V.textOf v = resourceKey)

/-- `_checkpoint_payload_matches_owned_directory_identity`. -/
def checkpointMatchesIdentity (payload identity : Mapping) : Bool :=
  match asInt (Json.get payload "device"), asInt (Json.get payload "inode") with
  | some device, some inode =>
    V.equalsInt device (Json.get identity "device") ∧ V.equalsInt inode (Json.get identity "inode")
  | _, _ => false

/-- What an operation must be to prove the making of a directory. -/
def operationProves (operation : OperationRow Mapping) (batchId : String) (path : PosixPath) (resourceKey : String) :
    Bool :=
  operation.batchId = batchId ∧ operation.operationType = "make_directory" ∧
    operation.resourceKey = some resourceKey ∧ payloadMatchesAction V operation.payload path resourceKey = true

/-- What a checkpoint of that operation must show. -/
def checkpointProves (checkpoint : CheckpointRow Mapping) (operationId batchId checkpointType : String)
    (path : PosixPath) (resourceKey : String) (identity : Mapping) : Bool :=
  checkpoint.batchId = batchId ∧ checkpoint.operationId ∈ [some operationId, none] ∧
    checkpoint.checkpointType = checkpointType ∧ checkpoint.resourceKey = resourceKey ∧
    V.pathOf (Json.get checkpoint.payload "path") = path ∧
    (match Json.get checkpoint.payload "file_type", Json.get checkpoint.payload "exists" with
      | .str "directory", .bool true => true
      | _, _ => false) = true ∧
    checkpointMatchesIdentity V checkpoint.payload identity = true

/-- `_journaled_creation_proof_matches_action`. -/
def journaledCreationProofMatches (value : Mapping) (path : PosixPath) (resourceKey : String) (identity : Mapping)
    (ctx : StoredContext) : Bool :=
  if payloadIdentityMatchesAction V value path resourceKey = false then false
  else if V.optionalStr (Json.get value "operation_type") ≠ some "make_directory" then false
  else
    match V.optionalStr (Json.get value "checkpoint_type"), V.optionalStr (Json.get value "batch_id"),
      V.optionalStr (Json.get value "operation_id"), V.optionalStr (Json.get value "checkpoint_id") with
    | some checkpointType, some batchId, some operationId, some checkpointId =>
      if checkpointType ≠ "after" ∧ checkpointType ≠ "failure" then false
      else
        match proofContextForBatch ctx batchId with
        | none => false
        | some proof =>
          if proofBatchMatchesRecursiveLineage V ctx.batch proof.batch = false then false
          else
            match proof.operations.find? (fun o => o.operationId = operationId),
              proof.checkpoints.find? (fun c => c.checkpointId = checkpointId) with
            | some operation, some checkpoint =>
              operationProves V operation batchId path resourceKey &&
                checkpointProves V checkpoint operation.operationId batchId checkpointType path resourceKey identity
            | _, _ => false
    | _, _, _, _ => false

end Proof

/-! ## The handler -/

/-- What the handler asks of a disk. -/
structure DirectoryOps (φ ω : Type) where
  inspectPath : φ → PosixPath → PathSafety
  /-- `DirectoryIdentity.from_stat(path.stat())`; none for `FileNotFoundError` -/
  stat : φ → PosixPath → Option DirectoryIdentity
  /-- `path.iterdir()` -/
  listDirectory : φ → PosixPath → Option (List String)
  /-- `None` where there is no identity-conditional remover -/
  identityRemoveDirectory : Option (ω → φ → PosixPath → StoredIdentity → Except RecoveryError Unit × φ)

/-- The handler's parameters. -/
structure RemovalHandler (φ ω : Type) where
  values : StoredValues
  paths : ProcessPaths
  ops : DirectoryOps φ ω

/-- A refusal of the handler. -/
def cleanupRefused (path : PosixPath) (what : String) (detail : Mapping) : RecoveryError :=
  .manual ("directory cleanup refused because " ++ what ++ ": " ++ path.text) (("path", .str path.text) :: detail)

/-- The `reason_code` of a refusal. -/
def reasonCode (code : String) : Mapping := [("reason_code", .str code)]

/-- The path is gone already. -/
def cleanupSkipped (path : PosixPath) : RecoveryError :=
  .skipped ("directory cleanup skipped because path is already absent: " ++ path.text) [("path", .str path.text)]

/-- The mapping under a key. -/
def mappingUnder (payload : Mapping) (key : String) (error : RecoveryError) : Except RecoveryError Mapping :=
  match Json.get payload key with
  | .obj ms => .ok ms
  | _ => .error error

/-- A payload that passed all checks but those of the disk. -/
structure RemovalRequest where
  path : PosixPath
  resourceKey : String
  identity : Mapping
  cleanupPolicy : String
  backendGuarantee : String

section Handler

variable {φ ω : Type} (D : RemovalHandler φ ω)

/-- `payload["path"]`, as a path. -/
def actionPath (payload : Mapping) : Except RecoveryError PosixPath :=
  match getItem payload "path" with
  | .ok v => .ok (D.values.pathOf v)
  | .error key => .error (.other "KeyError" (pyRepr key))

/-- `payload.get("step_resource_key") or directory_resource_key(path)`. -/
def expectedResourceKey (payload : Mapping) (path : PosixPath) : Except RecoveryError String :=
  if truthy (Json.get payload "step_resource_key") then .ok (D.values.textOf (Json.get payload "step_resource_key"))
  else directoryResourceKey D.paths path

/-- The checks of the payload, in their order. -/
def checkRemovalPayload (ctx : StoredContext) (payload : Mapping) : Except RecoveryError RemovalRequest := do
  let path ← actionPath D payload
  let resourceKey ← expectedResourceKey D payload path
  require (D.values.optionalStr (Json.get payload "ownership_class") = some "created_by_transaction")
    (cleanupRefused path "ownership proof is missing" (reasonCode "missing_ownership_proof"))
  let identity ← mappingUnder payload "created_directory_identity"
    (cleanupRefused path "ownership proof is invalid" (reasonCode "invalid_ownership_proof"))
  let proof ← mappingUnder payload "journaled_creation_proof"
    (cleanupRefused path "journaled ownership proof is missing" (reasonCode "missing_journaled_creation_proof"))
  require (D.values.optionalStr (Json.get payload "cleanup_policy") = some "owned_empty_directory_safe_ish")
    (cleanupRefused path "cleanup policy is missing or unsupported" (reasonCode "missing_cleanup_policy"))
  require (D.values.optionalStr (Json.get payload "backend_guarantee") = some "identity_conditional_remove")
    (cleanupRefused path "backend guarantee is missing or unsupported" (reasonCode "missing_backend_guarantee"))
  let keyOfPath ← directoryResourceKey D.paths path
  require (resourceKey = keyOfPath)
    (cleanupRefused path "resource key did not match path" [("expected_resource_key", .str resourceKey)])
  require (payloadIdentityMatchesAction D.values identity path resourceKey = true)
    (cleanupRefused path "ownership proof did not match action path" (reasonCode "ownership_proof_path_mismatch"))
  require (journaledCreationProofMatches D.values proof path resourceKey identity ctx = true)
    (cleanupRefused path "journaled ownership proof did not match action path"
      (reasonCode "journaled_creation_proof_mismatch"))
  return ⟨path, resourceKey, identity, "owned_empty_directory_safe_ish", "identity_conditional_remove"⟩

/-- What the handler makes of an error of the removal. -/
def removalRaises (path : PosixPath) (e : RecoveryError) : RecoveryError :=
  match e with
  | .unsupportedMutation detail =>
    cleanupRefused path "identity-conditional directory removal is unsupported"
      [("reason_code", .str "identity_safe_remove_directory_unsupported"), ("detail", .str detail)]
  | e => e

/-- The call of the remover, right after the check of the authority. -/
def removeWithAuthority (ctx : StoredContext) (action : RecoveryActionRow Mapping) (path : PosixPath)
    (expected : StoredIdentity) (remove : ω → φ → PosixPath → StoredIdentity → Except RecoveryError Unit × φ) :
    StoredOp φ ω Unit :=
  (do
    requireRecoveryActionAuthority ctx action
    diskCall (.removeDirectory path) fun o fs => remove o fs path expected).onRaise
      fun e => .raise (removalRaises path e)

/-- What is done about a directory of that identity. -/
def removeOwnedDirectory (ctx : StoredContext) (action : RecoveryActionRow Mapping) (path : PosixPath)
    (expected : StoredIdentity) : StoredOp φ ω Unit := do
  let found ← diskRead fun fs => .ok (D.ops.stat fs path)
  match found with
  | none => .raise (cleanupSkipped path)
  | some current =>
    if storedIdentity current ≠ expected then .raise (cleanupRefused path "directory identity changed"
      [("reason_code", .str "created_directory_identity_mismatch"), ("expected_device", .int expected.device),
        ("expected_inode", .int expected.inode), ("current_device", .int current.device),
        ("current_inode", .int current.inode)])
    else do
      let entries ← diskRead fun fs =>
        match D.ops.listDirectory fs path with
        | some entries => .ok entries
        | none => .error (.fileNotFound path)
      if entries ≠ [] then .raise (cleanupRefused path "directory is not empty" (reasonCode "directory_not_empty"))
      else
        match D.ops.identityRemoveDirectory with
        | none => .raise (cleanupRefused path "no identity-conditional directory remover is available"
            (reasonCode "identity_safe_remove_directory_unavailable"))
        | some remove => removeWithAuthority ctx action path expected remove

/-- What the handler returns. -/
def removalResult (r : RemovalRequest) : Mapping :=
  [("path", .str r.path.text), ("step_resource_key", .str r.resourceKey), ("removed", .bool true),
    ("cleanup_policy", .str r.cleanupPolicy), ("backend_guarantee", .str r.backendGuarantee),
    ("effective_backend_guarantee", .str r.backendGuarantee)]

/-- `remove_created_directory_recovery_action`. -/
def removeCreatedDirectoryRecoveryAction : Handler φ ω := fun ctx action => do
  let r ← .ofExcept (checkRemovalPayload D ctx action.payload)
  let safety ← diskRead fun fs => .ok (D.ops.inspectPath fs r.path)
  if safety.pathExists = false then .raise (cleanupSkipped r.path)
  else if safety.isPlainDirectory = false then
    .raise (.manual ("directory cleanup refused because path is unsafe: " ++ r.path.text)
      [("path", .str r.path.text), ("file_type", .str (FileType.text safety.fileType))])
  else
    match directoryIdentityFromPayload r.identity with
    | none => .raise (cleanupRefused r.path "ownership proof is invalid" (reasonCode "invalid_ownership_proof"))
    | some expected => do
      removeOwnedDirectory D ctx action r.path expected
      return removalResult r

/-- `_recovery_action_handlers`, of which two are this handler. -/
def withRemovalHandlers (others : String → Option (Handler φ ω)) (actionType : String) : Option (Handler φ ω) :=
  if actionType = "remove_created_directory" ∨ actionType = "remove_empty_directory" then
    some (removeCreatedDirectoryRecoveryAction D)
  else others actionType

end Handler

/-! ## What the checks come to -/

section Checks

variable {V : StoredValues}

/-- The journal proves that a directory was made: it holds an operation that made it and a checkpoint of what was
seen afterwards, both of one batch, which is the failed batch or one of the same lineage. -/
def RemovalProven (V : StoredValues) (batchId : String) (db : JournalDb Mapping) (path : PosixPath) (resourceKey : String)
    (made : StoredIdentity) : Prop :=
  ∃ failed proof operation checkpoint, db.batchRow batchId = some failed ∧ db.batchRow proof.batchId = some proof ∧
    proofBatchMatchesRecursiveLineage V failed proof = true ∧
    operation ∈ db.operations ∧ operationProves V operation proof.batchId path resourceKey = true ∧
    checkpoint ∈ db.checkpoints ∧ checkpoint.batchId = proof.batchId ∧
    checkpoint.operationId ∈ [some operation.operationId, none] ∧ checkpoint.checkpointType ∈ ["after", "failure"] ∧
    checkpoint.resourceKey = resourceKey ∧ V.pathOf (Json.get checkpoint.payload "path") = path ∧
    Json.get checkpoint.payload "file_type" = .str "directory" ∧ Json.get checkpoint.payload "exists" = .bool true ∧
    asInt (Json.get checkpoint.payload "device") = some made.device ∧
    asInt (Json.get checkpoint.payload "inode") = some made.inode

/-- An integer equals another one, whatever floats do. -/
theorem equalsInt_asInt {n m : Int} {v : Json} (h : V.equalsInt n v = true) (hm : asInt v = some m) : n = m := by
  cases v with
  | float x => cases hm
  | null => cases hm
  | str s => cases hm
  | arr items => cases hm
  | obj ms => cases hm
  | int k => exact (Option.some.inj (hm.symm.trans (of_decide_eq_true h))).symm
  | bool b => exact (Option.some.inj (hm.symm.trans (of_decide_eq_true h))).symm

/-- The numbers of an identity payload. -/
theorem directoryIdentityFromPayload_eq {value : Mapping} {made : StoredIdentity}
    (h : directoryIdentityFromPayload value = some made) :
    asInt (Json.get value "device") = some made.device ∧ asInt (Json.get value "inode") = some made.inode := by
  unfold directoryIdentityFromPayload at h
  split at h
  · cases h
  · cases h
  · split at h
    · next device inode hdevice hinode =>
      obtain rfl := Option.some.inj h
      exact ⟨hdevice, hinode⟩
    · cases h
  · cases h

/-- The lineage of batches is a matter of what they were created with. -/
theorem lineage_created {failed failed' proof proof' : BatchRow Mapping} (hf : failed'.created = failed.created)
    (hp : proof'.created = proof.created) :
    proofBatchMatchesRecursiveLineage V failed' proof' = proofBatchMatchesRecursiveLineage V failed proof := by
  show proofBatchMatchesRecursiveLineage V failed'.created proof'.created = _
  rw [hf, hp]
  rfl

/-- A proof that matches is one the journal holds. -/
theorem removalProven_of_matches {value identity : Mapping} {path : PosixPath} {key : String} {ctx : StoredContext}
    {db : JournalDb Mapping} {made : StoredIdentity} (hctx : ctx.HeldBy db)
    (h : journaledCreationProofMatches V value path key identity ctx = true)
    (hmade : directoryIdentityFromPayload identity = some made) :
    RemovalProven V ctx.batch.batchId db path key made := by
  obtain ⟨hdevice, hinode⟩ := directoryIdentityFromPayload_eq hmade
  unfold journaledCreationProofMatches at h
  by_cases hmatches : payloadIdentityMatchesAction V value path key = false
  · rw [if_pos hmatches] at h
    cases h
  rw [if_neg hmatches] at h
  by_cases htype : V.optionalStr (Json.get value "operation_type") ≠ some "make_directory"
  · rw [if_pos htype] at h
    cases h
  rw [if_neg htype] at h
  split at h
  · next checkpointType batchId operationId checkpointId _ _ _ _ =>
    by_cases hcheckpoint : checkpointType ≠ "after" ∧ checkpointType ≠ "failure"
    · rw [if_pos hcheckpoint] at h
      cases h
    rw [if_neg hcheckpoint] at h
    split at h
    · cases h
    · next b hb =>
      by_cases hlineage : proofBatchMatchesRecursiveLineage V ctx.batch b.batch = false
      · rw [if_pos hlineage] at h
        cases h
      rw [if_neg hlineage] at h
      split at h
      · next operation checkpoint hoperation hcheckpointRow =>
        obtain ⟨hof, hshows⟩ := Bool.and_eq_true_iff.1 h
        -- the batch the proof is in is the failed one or one of those read with it
        have hheld : b.HeldBy db ∧ b.batch.batchId = batchId := by
          unfold proofContextForBatch at hb
          split at hb
          · next hown =>
            obtain rfl := Option.some.inj hb
            exact ⟨hctx.own, hown.symm⟩
          · exact ⟨hctx.proofs b (List.mem_of_find?_eq_some hb), by simpa using List.find?_some hb⟩
        obtain ⟨hheld, rfl⟩ := hheld
        obtain ⟨failed, hfailed, hfc⟩ := hctx.own.row
        obtain ⟨proof, hproof, hpc⟩ := hheld.row
        have hid : proof.batchId = b.batch.batchId := findRow_key hproof
        obtain ⟨hcbatch, hcoperation, hctype, hckey, hcpath, hckind, hcidentity⟩ := of_decide_eq_true hshows
        refine ⟨failed, proof, operation, checkpoint, hfailed, by rw [hid]; exact hproof, ?_,
          hheld.operations _ (List.mem_of_find?_eq_some hoperation), by rw [hid]; exact hof,
          hheld.checkpoints _ (List.mem_of_find?_eq_some hcheckpointRow), hcbatch.trans hid.symm, hcoperation, ?_, hckey,
          hcpath, ?_⟩
        · rw [lineage_created hfc hpc]
          exact Bool.not_eq_false _ ▸ hlineage
        · rw [hctype]
          by_cases hafter : checkpointType = "after"
          · rw [hafter]
            exact List.mem_cons_self
          · have hfailure : checkpointType = "failure" := not_not.1 fun hne => hcheckpoint ⟨hafter, hne⟩
            rw [hfailure]
            exact List.mem_cons_of_mem _ List.mem_cons_self
        · split at hckind
          · next hkind hexists =>
            refine ⟨hkind, hexists, ?_⟩
            unfold checkpointMatchesIdentity at hcidentity
            split at hcidentity
            · next device inode hd hi =>
              obtain ⟨hdev, hino⟩ := of_decide_eq_true hcidentity
              rw [hd, hi, equalsInt_asInt hdev hdevice, equalsInt_asInt hino hinode]
              exact ⟨rfl, rfl⟩
            · cases hcidentity
          · cases hckind
      · cases h
  · cases h

end Checks

/-! ## The one call that changes the disk -/

section Removal

open Program

variable {φ ω : Type} {D : RemovalHandler φ ω} {T : DateTime → Prop} {ctx : StoredContext}
  {action source : RecoveryActionRow Mapping} {h : LeaseHolder} {w : StoredWorld φ}

/-- All that is known where the remover is called for a directory, by the record that planned the action. -/
structure RemovalAuthorised (D : RemovalHandler φ ω) (T : DateTime → Prop) (ctx : StoredContext)
    (source : RecoveryActionRow Mapping) (w : StoredWorld φ) (path : PosixPath) (made : StoredIdentity) : Prop where
  /-- the action is for this path, -/
  named : actionPath D source.payload = .ok path
  /-- and the journal proves that the directory was made under the key of the path; -/
  proven : ∃ resourceKey, directoryResourceKey D.paths path = .ok resourceKey ∧
    RemovalProven D.values ctx.batch.batchId w.journal path resourceKey made
  /-- there is a directory, neither linked to nor mounted, -/
  directory : (D.ops.inspectPath w.fs path).isPlainDirectory = true
  /-- with the numbers that were recorded, -/
  identity : ∃ current, D.ops.stat w.fs path = some current ∧ storedIdentity current = made
  /-- and nothing in it; -/
  empty : D.ops.listDirectory w.fs path = some []
  /-- and the authority of the recovery was found current, with nothing done since. -/
  authority : ∃ authority, ctx.recoveryAuthority = some authority ∧
    some authority.recoveryAttemptId = ctx.recoveryAttemptId ∧ AuthorityCurrent T authority source.actionId w.journal

/-- A step of a run of the action: it changes nothing but the journal, or it is the call of the remover. -/
def RemovalStep (D : RemovalHandler φ ω) (T : DateTime → Prop) (ctx : StoredContext)
    (action : RecoveryActionRow Mapping) (w w' : StoredWorld φ) : Prop :=
  Quiet w w' ∨ w'.journal = w.journal ∧ ∃ source path made, source.actionId = action.actionId ∧
    w'.calls = w.calls ++ [.removeDirectory path] ∧ RemovalAuthorised D T ctx source w path made

theorem RemovalStep.calls {w w' : StoredWorld φ} (hs : RemovalStep D T ctx action w w') : Calls w w' := by
  rcases hs with hq | ⟨-, source, path, made, -, hcalls, -⟩
  · exact hq.calls_none
  · exact ⟨[.removeDirectory path], hcalls, fun hnone => by cases hnone⟩

/-- An error is a way to end without a call. -/
theorem uncalled_error {α : Type} {calls : List DiskCall} {e : RecoveryError} :
    Uncalled (fun _ => True) calls (.error e : Except RecoveryError α) w := fun _ => ⟨e, rfl, trivial⟩

/-- After a call there is nothing left to show. -/
theorem uncalled_called {α : Type} {calls : List DiskCall} {call : DiskCall} {r : Except RecoveryError α}
    (hcalls : w.calls = calls ++ [call]) : Uncalled (fun _ => True) calls r w := by
  intro hsame
  have hlength : (calls ++ [call]).length = calls.length := congrArg List.length (hcalls.symm.trans hsame)
  rw [List.length_append, List.length_singleton] at hlength
  omega

/-- What is left after the checks of the payload and of the kind of the entry. -/
theorem along_removeOwnedDirectory {r : RemovalRequest} {made : StoredIdentity} (hid : source.actionId = action.actionId)
    (hctx : ctx.HeldBy w.journal) (hcheck : checkRemovalPayload D ctx source.payload = .ok r)
    (hdirectory : (D.ops.inspectPath w.fs r.path).isPlainDirectory = true)
    (hmade : directoryIdentityFromPayload r.identity = some made) :
    Along (ClockShows T) (RemovalStep D T ctx action) (Uncalled (fun _ => True) w.calls)
      (removeOwnedDirectory D ctx source r.path made) w := by
  have hR : ∀ w w', Quiet w w' → RemovalStep D T ctx action w w' := fun _ _ hq => Or.inl hq
  refine along_bind (along_diskRead hR ?_ fun _ _ => uncalled_error)
  cases hstat : D.ops.stat w.fs r.path with
  | none => exact uncalled_error
  | some current =>
    show Along _ _ _ (if _ then _ else _) w
    by_cases hidentity : storedIdentity current ≠ made
    · rw [if_pos hidentity]
      exact uncalled_error
    rw [if_neg hidentity]
    refine along_bind (along_diskRead hR ?_ fun _ _ => uncalled_error)
    cases hlist : D.ops.listDirectory w.fs r.path with
    | none => exact uncalled_error
    | some entries =>
      show Along _ _ _ (if _ then _ else _) w
      by_cases hempty : entries ≠ []
      · rw [if_pos hempty]
        exact uncalled_error
      rw [if_neg hempty]
      obtain rfl : entries = [] := not_not.1 hempty
      cases D.ops.identityRemoveDirectory with
      | none => exact uncalled_error
      | some remove =>
        refine along_onRaise (along_bind (along_requireRecoveryActionAuthority hR ?_ fun _ _ => uncalled_error))
        intro authority hauthority hattempt _ hcurrent
        refine along_call fun i _ => ⟨Or.inr ⟨rfl, source, r.path, made, hid, rfl, ?_⟩, ?_⟩
        · simp only [checkRemovalPayload, bind_eq_ok, require_eq_ok, pure_eq_ok] at hcheck
          obtain ⟨path, hpath, key, -, _, -, identity, -, proof, -, _, -, _, -, key', hkey, _, rfl, _, -, _, hproof,
            rfl⟩ := hcheck
          exact ⟨hpath, ⟨key, hkey, removalProven_of_matches hctx hproof hmade⟩, hdirectory,
            ⟨current, hstat, not_not.1 hidentity⟩, hlist, authority, hauthority, hattempt, hcurrent⟩
        · cases (remove i.os w.fs r.path made).1 with
          | ok _ => exact uncalled_called rfl
          | error e => exact uncalled_called rfl

/-- The handler calls the remover only where all of that is known. -/
theorem along_removeCreatedDirectory (hid : source.actionId = action.actionId) (hctx : ctx.HeldBy w.journal) :
    Along (ClockShows T) (RemovalStep D T ctx action) (Uncalled (fun _ => True) w.calls)
      (removeCreatedDirectoryRecoveryAction D ctx source) w := by
  have hR : ∀ w w', Quiet w w' → RemovalStep D T ctx action w w' := fun _ _ hq => Or.inl hq
  refine along_ofExcept_seq (fun _ _ => uncalled_error) fun r hcheck => ?_
  refine along_bind (along_diskRead hR ?_ fun _ _ => uncalled_error)
  show Along _ _ _ (if _ then _ else _) w
  by_cases habsent : (D.ops.inspectPath w.fs r.path).pathExists = false
  · rw [if_pos habsent]
    exact uncalled_error
  rw [if_neg habsent]
  by_cases hunsafe : (D.ops.inspectPath w.fs r.path).isPlainDirectory = false
  · rw [if_pos hunsafe]
    exact uncalled_error
  rw [if_neg hunsafe]
  cases hmade : directoryIdentityFromPayload r.identity with
  | none => exact uncalled_error
  | some made =>
    refine along_seq (along_removeOwnedDirectory hid hctx hcheck (by simpa using hunsafe) hmade) ?_ ?_
    · intro _ w' hcalled hsame
      obtain ⟨e, he, -⟩ := hcalled hsame
      cases he
    · exact fun _ _ _ => uncalled_error

/-- The types of the actions this handler is for. -/
def IsRemoval (actionType : String) : Prop :=
  actionType = "remove_created_directory" ∨ actionType = "remove_empty_directory"

/-- The journal holds what the context was read from, and the action is one to remove a created directory.
Then whatever else the journal holds, whatever is in the payload of the action and on the disk, and wherever the
run stops: each of its steps leaves the disk alone or calls the remover where the journal proves the making of
that very directory, the directory is there with its recorded numbers and is empty, and the authority was just
found current. A run that finishes without that call has left the disk as it was, and the action ended failed,
skipped or manual, unless it had ended before or the call was refused. -/
theorem removal_by_proof (D : RemovalHandler φ ω) (others : String → Option (Handler φ ω)) (heartbeatLeases : Bool)
    (h : LeaseHolder) (T : DateTime → Prop) (ctx : StoredContext) (action : RecoveryActionRow Mapping)
    (w : StoredWorld φ) (hctx : ctx.HeldBy w.journal) (htype : OfType IsRemoval ctx action w.journal) :
    Along (ClockShows T) (RemovalStep D T ctx action)
      (fun r w' => w'.calls = w.calls → w'.fs = w.fs ∧ Conclusion (fun _ => True) ctx action r w')
      (runRecoveryAction ⟨withRemovalHandlers D others, heartbeatLeases⟩ h ctx action) w := by
  refine along_runRecoveryAction (fun _ _ hq => Or.inl hq) (fun _ _ hs => hs.calls) (fun _ _ => trivial) ?_ htype
  intro type handler hP hfound source w' hid hquiet
  have hhandler : handler = removeCreatedDirectoryRecoveryAction D := by
    have hof : withRemovalHandlers D others type = some (removeCreatedDirectoryRecoveryAction D) := if_pos hP
    exact Option.some.inj (hfound.symm.trans hof)
  rw [hhandler, ← hquiet.calls]
  exact along_removeCreatedDirectory hid (hctx.kept hquiet.journal)

end Removal

/-! ## Removed, and left attempting -/

private def opening : DateTime := .soon 5
private def closing : DateTime := .soon 100
private def frontDesk : LeaseHolder := ⟨leaseFromRow "lease" ⟨"a", "t", 1, opening, opening, closing⟩ true true, none⟩

private def dirPath : PosixPath := .ofText "/d"

/-- What was seen of the directory, under the names the payloads have for it. -/
private def seenDirectory : Mapping :=
  [("device", .int 1), ("exists", .bool true), ("file_type", .str "directory"), ("inode", .int 2),
    ("path", .str "/d"), ("resource_key", .str "directory:/d")]

/-- The payload of the action. -/
private def removalPayload : Mapping :=
  [("backend_guarantee", .str "identity_conditional_remove"), ("cleanup_policy", .str "owned_empty_directory_safe_ish"),
    ("created_directory_identity", .obj seenDirectory),
    ("journaled_creation_proof", .obj [("batch_id", .str "batch"), ("checkpoint_id", .str "seen"),
      ("checkpoint_type", .str "after"), ("operation_id", .str "made"), ("operation_type", .str "make_directory"),
      ("path", .str "/d"), ("resource_key", .str "directory:/d")]),
    ("ownership_class", .str "created_by_transaction"), ("path", .str "/d"), ("step_resource_key", .str "directory:/d")]

private def plannedRemoval : RecoveryActionRow Mapping :=
  { actionRecordId := "row", actionId := "clear", recoveryAttemptId := "attempt", batchId := "batch", sequence := 4,
    actionType := "remove_created_directory", status := .planned, resourceKey := none, reason := none,
    payload := removalPayload, createdAt := opening }

private def recoveringBatch : BatchRow Mapping :=
  { storageOrder := 1, batchId := "batch", idempotencyKey := "key", leaseName := "lease", leaseOwner := some "a",
    leaseFencingToken := 1, leaseTokenDigest := none, owner := "a", runId := "run", operationRunId := none,
    operationPhaseId := none, resourceKey := none, claimOwner := none, claimScope := none, phase := .recovering,
    payload := [], statusMessage := none, statusPayload := [], createdAt := opening, updatedAt := opening }

/-- A batch that made a directory is recovering, and the removal of the directory is planned. -/
private def deskBook : JournalDb Mapping :=
  { JournalDb.init Mapping with
    leases := LeaseTable.empty.set "lease" ⟨"a", "t", 1, opening, opening, closing⟩
    batches := [recoveringBatch]
    operations := [⟨"made", "batch", 1, "make_directory", some "directory:/d", [("path", .str "/d")], opening⟩]
    checkpoints := [⟨"seen", "batch", 2, some "made", "directory:/d", "after", seenDirectory, opening⟩]
    recoveries := [⟨"attempt", "batch", 3, .recovering, none, [], opening⟩]
    recoveryActions := [plannedRemoval] }

private def plainValues : StoredValues where
  str := fun _ => "None"
  int := fun _ => .error "invalid literal"
  identical := fun _ _ => false
  equalsFloat := fun _ _ => false

/-- A disk with the directory on it, or without. -/
private def oneDirectory : RemovalHandler Bool Unit where
  values := plainValues
  paths := ⟨.ofText "/", fun _ => none⟩
  ops :=
    { inspectPath := fun fs _ => if fs then ⟨true, .directory, false⟩ else ⟨false, .missing, false⟩
      stat := fun fs _ => if fs then some ⟨1, 2⟩ else none
      listDirectory := fun fs _ => if fs then some [] else none
      identityRemoveDirectory := some fun _ _ _ _ => (.ok (), false) }

private def atDesk : StoredWorld Bool := ⟨deskBook, true, []⟩

/-- What is read of the batch, with the authority of the attempt. -/
private def deskContext : StoredContext :=
  { (readRecoveryContext plainValues deskBook "batch").toOption.get (by decide +kernel) with
    recoveryAuthority := some ⟨frontDesk, "batch", "attempt"⟩ }

private def clearing : StoredOp Bool Unit (RecoveryActionRow Mapping) :=
  runRecoveryAction ⟨withRemovalHandlers oneDirectory fun _ => none, false⟩ frontDesk deskContext plannedRemoval

/-- Steps at a time, that would draw the same id. -/
private def chimes (n : Nat) (t : DateTime) (id : String) : List (StoredInput Unit) :=
  List.replicate n ⟨t, "drawn", id, none, false, ()⟩

private theorem eq_ok_get {ε α : Type} : ∀ (x : Except ε α) (h : x.toOption.isSome = true), x = .ok (x.toOption.get h)
  | .ok _, _ => rfl

private theorem deskContext_heldBy : deskContext.HeldBy deskBook := by
  have hheld := readRecoveryContext_heldBy (eq_ok_get (readRecoveryContext plainValues deskBook "batch") (by decide +kernel))
  exact ⟨hheld.own, hheld.proofs⟩

private theorem plannedRemoval_type : OfType IsRemoval deskContext plannedRemoval deskBook := by
  refine ⟨Or.inl rfl, fun row hrow _ _ => ?_⟩
  have hrow : row = plannedRemoval := List.mem_singleton.1 hrow
  rw [hrow]
  exact Or.inl rfl

/-- Under a current lease the directory is removed, in the one call that was authorised. -/
theorem removal_by_proof_removed :
    let run := clearing.exec atDesk (chimes 3 opening "first" ++ chimes 27 opening "second")
    (run.2.calls = [.removeDirectory dirPath] ∧ run.2.fs = false) ∧
      Program.Along (ClockShows fun t => t = opening) (RemovalStep oneDirectory (fun t => t = opening) deskContext plannedRemoval)
        (fun r w' => w'.calls = [] → w'.fs = true ∧ Conclusion (fun _ => True) deskContext plannedRemoval r w')
        clearing atDesk :=
  ⟨by decide +kernel, removal_by_proof oneDirectory (fun _ => none) false frontDesk (fun t => t = opening) deskContext
    plannedRemoval atDesk deskContext_heldBy plannedRemoval_type⟩

/-- An action need not end without the call: where the lease runs out after it was marked, it stays attempting. -/
theorem removal_stays_attempting : ¬ ∀ (D : RemovalHandler Bool Unit) (h : LeaseHolder) (ctx : StoredContext)
    (action : RecoveryActionRow Mapping) (w : StoredWorld Bool) (inputs rest : List (StoredInput Unit))
    (r : Except RecoveryError (RecoveryActionRow Mapping)) (w' : StoredWorld Bool), ctx.HeldBy w.journal →
    OfType IsRemoval ctx action w.journal →
    (runRecoveryAction ⟨withRemovalHandlers D fun _ => none, false⟩ h ctx action).exec w inputs = (some (r, rest), w') →
    w'.calls = w.calls → ∃ row ∈ w'.journal.recoveryActions, row.actionId = action.actionId ∧
      row.status ∈ [RecoveryActionStatus.failed, .skipped, .manualInterventionRequired] := by
  intro hends
  -- the mark is written in time, the check before the handler comes too late
  let inputs := chimes 3 opening "first" ++ chimes 1 closing "second"
  have hsome : (clearing.exec atDesk inputs).1.isSome = true := by decide +kernel
  have hstatuses : (clearing.exec atDesk inputs).2.journal.recoveryActions.map RecoveryActionRow.status =
      [.planned, .attempting] := by decide +kernel
  obtain ⟨⟨r, rest⟩, hrun⟩ := Option.isSome_iff_exists.1 hsome
  obtain ⟨row, hrow, -, hstatus⟩ := hends oneDirectory frontDesk deskContext plannedRemoval atDesk inputs rest r
    (clearing.exec atDesk inputs).2 deskContext_heldBy plannedRemoval_type (Prod.ext hrun rfl) (by decide +kernel)
  have hmem : row.status ∈ (clearing.exec atDesk inputs).2.journal.recoveryActions.map RecoveryActionRow.status :=
    List.mem_map_of_mem hrow
  rw [hstatuses] at hmem
  rcases List.mem_cons.1 hmem with h | h
  · rw [h] at hstatus
    exact absurd hstatus (by decide)
  · rw [List.mem_singleton.1 h] at hstatus
    exact absurd hstatus (by decide)

end SafeFsOps.StoredRecovery
