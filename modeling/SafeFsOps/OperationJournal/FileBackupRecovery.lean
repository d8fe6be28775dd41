import SafeFsOps.OperationJournal.FrozenPayloads
import SafeFsOps.PythonText

/-!
# File backups in checkpoints

`prepare_mutation_checkpoints` of `operation_journal/filesystem_mutation_checkpoints.py`
writes down what a file was before a mutation and where its content was put by;
`_file_backup_from_payload` of `recovery_runner.py` reads it back, after it was stored,
frozen, copied into a recovery action, stored and frozen again.

The content of a backup is not in its payload, only the path of it. That the payload is
enough comes from the checkpoints: one is written only if what was captured looks as it was
planned, and a planned backup has its content in a file.

> `file_backup_round_trip`: what the checkpoints wrote is read back as it was.
-/

namespace SafeFsOps.FileBackups

open TreeBackups

/-! ## The record -/

structure FileBackupFields where
  path : PosixPath
  existed : Bool
  fileType : String
  contentBytes : Option (List UInt8)
  contentPath : Option PosixPath
  contentHash : Option String
  size : Option Int
  permissions : Option Int
  snapshot : TreeBackups.ResourceSnapshot
  contentAddress : Option TreeBackups.ContentRef

namespace FileBackupFields

/-- The content sources that are there. -/
def contentSourceCount (b : FileBackupFields) : Nat :=
  b.contentBytes.isSome.toNat + b.contentPath.isSome.toNat + b.contentAddress.isSome.toNat

/-- The checks of a content address. -/
def checkContentAddress (b : FileBackupFields) : Option TreeBackups.ContentRef → Except String Unit
  | none => .ok ()
  | some ref => do
    require (ref.1.algo = "sha256") "file backup content address must use sha256"
    require (some ref.1.digest = b.contentHash) "file backup content address digest must match content_hash"
    require (some ref.1.size = b.size) "file backup content address size must match backup size"

/-- The checks of the backup of a file. -/
def checkFile (b : FileBackupFields) : Except String Unit := do
  require (b.permissions ≠ none) "file backups must store permissions"
  require (b.contentSourceCount = 1) "file backups must store exactly one content source"
  require (b.contentHash ≠ none ∧ b.size ≠ none) "file backups must store content_hash and size"
  b.checkContentAddress b.contentAddress

/-- The checks of the backup of a file that is not there. -/
def checkMissing (b : FileBackupFields) : Except String Unit :=
  require (b.contentSourceCount = 0 ∧ b.contentHash = none ∧ b.size = none ∧ b.permissions = none)
    "missing backups cannot store file content or file metadata"

/-- `FileBackup.__post_init__`. -/
def postInit (b : FileBackupFields) : Except String Unit := do
  require (b.fileType = "missing" ∨ b.fileType = "file") ("unsupported backup file_type: " ++ b.fileType)
  require (b.existed = decide (b.fileType = "file")) "existed must agree with file_type"
  require (b.snapshot.path = b.path) "snapshot.path must match backup path"
  require (b.snapshot.fileType = b.fileType) "snapshot.file_type must match backup file_type"
  require (b.snapshot.pathExists = b.existed) "snapshot.exists must match backup existed flag"
  if b.fileType = "missing" then b.checkMissing else b.checkFile

end FileBackupFields

/-- `FileBackup`. -/
abbrev FileBackup : Type := Admitted FileBackupFields.postInit

/-- `FileType`. -/
def fileTypes : List String := ["missing", "file", "directory", "symlink", "other"]

/-- A snapshot whose file type is one of the five, as its annotation says. -/
structure TypedSnapshot where
  snapshot : TreeBackups.ResourceSnapshot
  typed : snapshot.fileType ∈ fileTypes

/-! ## Checkpoints -/

/-- A path or `None`. -/
def pathValue (path : Option PosixPath) : Json := textValue (path.map PosixPath.text)

/-- `captured_backup_payload`. -/
def capturedBackupPayload (b : FileBackupFields) : Mapping :=
  [("path", .str b.path.text), ("existed", .bool b.existed), ("file_type", .str b.fileType),
    ("content_path", pathValue b.contentPath), ("content_hash", textValue b.contentHash), ("size", intValue b.size),
    ("permissions", intValue b.permissions), ("snapshot", .obj (snapshotPayload b.snapshot))]

/-- What `lstat` says of a path. -/
structure Lstat where
  isRegular : Bool
  size : Int
  mtimeNs : Int
  permissions : Int

/-- `_validated_backup_permissions`, with what `lstat` says if it does. -/
def validatedBackupPermissions (path : PosixPath) (before : TreeBackups.ResourceSnapshot) (lstat : Option Lstat) :
    Except String Int := do
  require (before.fileType = "file" ∧ before.pathExists = true)
    "backup rollback proof can only be planned for missing or regular file snapshots"
  match lstat with
  | none =>
    .error ("backup rollback proof refused because file metadata could not be captured: " ++ path.text)
  | some stat =>
    require (stat.isRegular = true) ("backup rollback proof refused for non-regular file: " ++ path.text)
    require (some stat.size = before.size ∧ some stat.mtimeNs = before.mtimeNs)
      ("backup rollback proof refused because file changed before backup planning: " ++ path.text)
    return stat.permissions

/-- The backup of `planned_backup_payload`. -/
def plannedBackup (path : PosixPath) (before : TreeBackups.ResourceSnapshot) (contentPath : PosixPath) (lstat : Option Lstat) :
    Except String FileBackup :=
  if before.fileType = "missing" then
    construct FileBackupFields.postInit
      { path := path, existed := false, fileType := "missing", contentBytes := none, contentPath := none,
        contentHash := none, size := none, permissions := none, snapshot := before, contentAddress := none }
  else do
    let permissions ← validatedBackupPermissions path before lstat
    construct FileBackupFields.postInit
      { path := path, existed := true, fileType := "file", contentBytes := none, contentPath := some contentPath,
        contentHash := before.contentHash, size := before.size, permissions := some permissions, snapshot := before,
        contentAddress := none }

/-- `planned_backup_payload`. -/
def plannedBackupPayload (path : PosixPath) (before : TreeBackups.ResourceSnapshot) (contentPath : PosixPath)
    (lstat : Option Lstat) : Except String Mapping :=
  (plannedBackup path before contentPath lstat).map fun b => capturedBackupPayload b.1

/-- `expected_after_checkpoint_payload`: the `desired` part of a recovery payload, for this path. -/
def expectedAfterCheckpointPayload (path : PosixPath) (recoveryPayload : Mapping) : Mapping :=
  let desired := match Json.get recoveryPayload "desired" with
    | .obj ms => ms
    | _ => []
  if "path" ∈ desired.map Prod.fst then
    desired.map fun m => if m.1 = "path" then ("path", .str path.text) else m
  else desired ++ [("path", .str path.text)]

/-- What `prepare_mutation_checkpoints` works on. -/
structure Preparation where
  operationType : String
  captureFileRollbackProof : Bool
  path : PosixPath
  contentPath : PosixPath
  before : TreeBackups.ResourceSnapshot
  recoveryPayload : Mapping
  lstat : Option Lstat

/-- The checkpoints `prepare_mutation_checkpoints` records, type and payload, and what it raises.
`captured` is what capturing the backup answers. -/
def prepareMutationCheckpoints (p : Preparation) (captured : Except String FileBackup) :
    List (String × Mapping) × Option String :=
  let before := [("before", snapshotPayload p.before)]
  if p.operationType ∉ ["write_bytes", "write_text", "delete_file"] ∨ p.captureFileRollbackProof = false then
    (before, none)
  else
    match plannedBackupPayload p.path p.before p.contentPath p.lstat with
    | .error e => (before, some e)
    | .ok payload =>
      let intent := before ++ [("backup_artifact_intent", payload)]
      match captured with
      | .error e => (intent, some e)
      | .ok backup =>
        -- two dicts of these are equal exactly if they are stored as one text
        if payloadText (capturedBackupPayload backup.1) ≠ payloadText payload then
          (intent, some ("backup rollback proof changed during capture: " ++ p.path.text))
        else
          (intent ++ [("backup", payload),
            ("expected_after", expectedAfterCheckpointPayload p.path p.recoveryPayload)], none)

/-- The members of a dict with some set. -/
def updated (payload : Mapping) (key : String) (v : Json) : Mapping :=
  payload.map fun m => if m.1 = key then (key, v) else m

/-- `make_directory_after_checkpoint_payload`. -/
def makeDirectoryAfterCheckpointPayload (s : TreeBackups.ResourceSnapshot) (payload : Mapping) : Mapping :=
  if s.pathExists = false ∨ s.fileType ≠ "directory" then payload
  else if s.device = none ∨ s.inode = none then payload
  else updated (updated payload "device" (intValue s.device)) "inode" (intValue s.inode)

/-- The payload of `record_after_mutation_checkpoint`. -/
def afterCheckpointPayload (operationType : String) (s : TreeBackups.ResourceSnapshot) : Mapping :=
  if operationType = "make_directory" then makeDirectoryAfterCheckpointPayload s (snapshotPayload s)
  else snapshotPayload s

/-! ## Recovery -/

/-- `type(value).__name__`, of a value of a frozen payload. -/
def typeName : Json → String
  | .null => "NoneType"
  | .bool _ => "bool"
  | .int _ => "int"
  | .float _ => "float"
  | .str _ => "str"
  | .arr _ => "tuple"
  | .obj _ => "mappingproxy"

/-- `_path_from_payload_value`. -/
def pathFromPayloadValue (V : PythonValues) : Json → Except String PosixPath
  | .null => .error "recovery action payload must include a path"
  | v => .ok (.ofText (V.textOf v))

/-- `_path_from_optional_payload_value`. -/
def pathFromOptionalPayloadValue (V : PythonValues) : Json → Option PosixPath
  | .null => none
  | v => some (.ofText (V.textOf v))

/-- `_bool_from_payload_value`. -/
def boolFromPayloadValue (v : Json) (default : Option Bool) : Except String Bool :=
  match v, default with
  | .null, some b => .ok b
  | .null, none => .error "boolean payload value is required"
  | .bool b, _ => .ok b
  | v, _ => .error ("boolean payload value must be a bool, not " ++ typeName v)

/-- `_backup_file_type_from_payload_value`. -/
def backupFileTypeFromPayloadValue (V : PythonValues) (v : Json) : Except String String := do
  require (V.textOf v ∈ ["missing", "file"]) ("unsupported backup file_type: " ++ pyRepr (V.textOf v))
  return V.textOf v

/-- `_file_type_from_payload_value`. -/
def fileTypeFromPayloadValue (V : PythonValues) (v : Json) : Except String String := do
  require (V.textOf v ∈ fileTypes) ("unsupported snapshot file_type: " ++ pyRepr (V.textOf v))
  return V.textOf v

/-- `_optional_int_value`. -/
def optionalIntValue (V : PythonValues) : Json → Except String (Option Int)
  | .null => .ok none
  | .bool _ => .error "integer payload value must not be a boolean"
  | .int n => .ok (some n)
  | .str s => (V.int s).map some
  | v => .error ("integer payload value must be int or str, not " ++ typeName v)

/-- `_resource_snapshot_from_payload` of a mapping. -/
def snapshotOfMapping (V : PythonValues) (payload : Mapping) : Except String TreeBackups.ResourceSnapshot := do
  let path ← pathFromPayloadValue V (Json.get payload "path")
  let pathExists ← boolFromPayloadValue (Json.get payload "exists") none
  let fileType ← fileTypeFromPayloadValue V (Json.get payload "file_type")
  let size ← optionalIntValue V (Json.get payload "size")
  let mtimeNs ← optionalIntValue V (Json.get payload "mtime_ns")
  let device ← optionalIntValue V (Json.get payload "device")
  let inode ← optionalIntValue V (Json.get payload "inode")
  let ctimeNs ← optionalIntValue V (Json.get payload "ctime_ns")
  return {
    path := path
    pathExists := pathExists
    fileType := fileType
    contentHash := optionalStr V (Json.get payload "content_hash")
    size := size
    mtimeNs := mtimeNs
    symlinkTarget := optionalStr V (Json.get payload "symlink_target")
    device := device
    inode := inode
    ctimeNs := ctimeNs }

/-- `_resource_snapshot_from_payload`. -/
def resourceSnapshotFromPayload (V : PythonValues) : Json → Except String (Option TreeBackups.ResourceSnapshot)
  | .null => .ok none
  | .obj payload => (snapshotOfMapping V payload).map some
  | _ => .error "recovery action payload snapshot must be a mapping"

/-- What `_file_backup_from_payload` passes to the constructor. -/
def fileBackupFieldsFromPayload (V : PythonValues) (payload : Mapping) : Except String FileBackupFields :=
  match Json.get payload "snapshot" with
  | .obj snapshotPayload => do
    let snapshot ← snapshotOfMapping V snapshotPayload
    let path ← pathFromPayloadValue V (Json.get payload "path")
    let existed ← boolFromPayloadValue (Json.get payload "existed") none
    let fileType ← backupFileTypeFromPayloadValue V (Json.get payload "file_type")
    let size ← optionalIntValue V (Json.get payload "size")
    let permissions ← optionalIntValue V (Json.get payload "permissions")
    return {
      path := path
      existed := existed
      fileType := fileType
      contentBytes := none
      contentPath := pathFromOptionalPayloadValue V (Json.get payload "content_path")
      contentHash := optionalStr V (Json.get payload "content_hash")
      size := size
      permissions := permissions
      snapshot := snapshot
      contentAddress := none }
  | _ => .error "recovery action payload must include a backup.snapshot mapping"

/-- `_file_backup_from_payload`. -/
def fileBackupFromPayload (V : PythonValues) (payload : Mapping) : Except String FileBackup :=
  match Json.get payload "backup" with
  | .obj backupPayload => do
    let fields ← fileBackupFieldsFromPayload V backupPayload
    construct FileBackupFields.postInit fields
  | _ => .error "recovery action payload must include a backup mapping"

/-- `_mapping_payload_copy`. -/
def mappingPayloadCopy : PyValue → Except String PyValue
  | .dict members => .ok (.dict members)
  | .mappingProxy members => .ok (.dict members)
  | _ => .error "recovery payload must be a mapping"

/-- The stored payload of the restore action planned on a stored backup checkpoint and the stored
snapshot of what is expected now: `_file_recovery_action_plan`, and `_jsonable_mapping` of its caller. -/
def plannedRestore (path : PosixPath) (backup expectedCurrent : String) : Except String String := do
  let backup ← PyValue.frozenPayload backup
  let expectedCurrent ← PyValue.frozenPayload expectedCurrent
  let backup ← mappingPayloadCopy backup
  let expectedCurrent ← mappingPayloadCopy expectedCurrent
  PyValue.payloadToJson (PyValue.jsonableValue (.dict [("path", .str path.text), ("backup", backup),
    ("expected_current", expectedCurrent), ("allow_overwrite", .bool false)]))

/-- What `_restore_backup_recovery_action` passes to `restore_backup`. -/
structure RestoreArguments where
  backup : FileBackup
  expectedCurrent : Option TreeBackups.ResourceSnapshot
  allowOverwrite : Bool

/-- The arguments of the restore, of the stored payload of an action. -/
def restoreArguments (V : PythonValues) (text : String) : Except String RestoreArguments := do
  let payload ← frozenPayload text
  let backup ← fileBackupFromPayload V payload
  let expectedCurrent ← resourceSnapshotFromPayload V (Json.get payload "expected_current")
  let allowOverwrite ← boolFromPayloadValue (Json.get payload "allow_overwrite") (some false)
  return ⟨backup, expectedCurrent, allowOverwrite⟩

/-- The snapshot of a stored payload. -/
def storedSnapshot (V : PythonValues) (text : String) : Except String (Option TreeBackups.ResourceSnapshot) := do
  let payload ← frozenPayload text
  resourceSnapshotFromPayload V (.obj payload)

/-! ## Reading a field of a stored payload -/

section Fields

variable (V : PythonValues) {payload : Mapping} (h : (payload.map Prod.fst).Nodup) (key : String)

include h

theorem pathFromPayloadValue_stored {path : PosixPath} (hv : Json.get payload key = .str path.text) :
    pathFromPayloadValue V (Json.get (Json.stored payload) key) = .ok path := by
  rw [Json.get_stored h, hv]
  exact congrArg Except.ok (PosixPath.ofText_text path)

theorem pathFromOptionalPayloadValue_stored {path : Option PosixPath} (hv : Json.get payload key = pathValue path) :
    pathFromOptionalPayloadValue V (Json.get (Json.stored payload) key) = path := by
  rw [Json.get_stored h, hv, pathValue, sorted_textValue]
  cases path with
  | none => rfl
  | some path => exact congrArg some (PosixPath.ofText_text path)

theorem boolFromPayloadValue_stored {b : Bool} (hv : Json.get payload key = .bool b) (default : Option Bool) :
    boolFromPayloadValue (Json.get (Json.stored payload) key) default = .ok b := by
  rw [boolean_stored h key hv]
  rfl

theorem optionalIntValue_stored {n : Option Int} (hv : Json.get payload key = intValue n) :
    optionalIntValue V (Json.get (Json.stored payload) key) = .ok n := by
  rw [Json.get_stored h, hv, sorted_intValue]
  cases n <;> rfl

theorem fileTypeFromPayloadValue_stored {s : String} (hv : Json.get payload key = .str s) (hs : s ∈ fileTypes) :
    fileTypeFromPayloadValue V (Json.get (Json.stored payload) key) = .ok s := by
  rw [Json.get_stored h, hv]
  simp only [fileTypeFromPayloadValue, bind_eq_ok, require_eq_ok, pure_eq_ok]
  exact ⟨(), hs, rfl⟩

theorem backupFileTypeFromPayloadValue_stored {s : String} (hv : Json.get payload key = .str s)
    (hs : s ∈ ["missing", "file"]) :
    backupFileTypeFromPayloadValue V (Json.get (Json.stored payload) key) = .ok s := by
  rw [Json.get_stored h, hv]
  simp only [backupFileTypeFromPayloadValue, bind_eq_ok, require_eq_ok, pure_eq_ok]
  exact ⟨(), hs, rfl⟩

end Fields

/-! ## Snapshots -/

section Snapshots

variable (V : PythonValues)

/-- A stored snapshot is read. -/
theorem snapshotOfMapping_stored {s : TreeBackups.ResourceSnapshot} (hs : s.fileType ∈ fileTypes) :
    snapshotOfMapping V (Json.stored (snapshotPayload s)) = .ok s := by
  have h := snapshotPayload_keys s
  simp only [snapshotOfMapping, bind_eq_ok, pure_eq_ok]
  refine ⟨s.path, pathFromPayloadValue_stored V h "path" rfl, s.pathExists, boolFromPayloadValue_stored h "exists" rfl none,
    s.fileType, fileTypeFromPayloadValue_stored V h "file_type" rfl hs, s.size, optionalIntValue_stored V h "size" rfl,
    s.mtimeNs, optionalIntValue_stored V h "mtime_ns" rfl, s.device, optionalIntValue_stored V h "device" rfl,
    s.inode, optionalIntValue_stored V h "inode" rfl, s.ctimeNs, optionalIntValue_stored V h "ctime_ns" rfl, ?_⟩
  rw [optionalStr_stored V h "content_hash" s.contentHash rfl, optionalStr_stored V h "symlink_target" s.symlinkTarget rfl]

/-- The identity of a directory is in its snapshot already. -/
theorem afterCheckpointPayload_eq (operationType : String) (s : TreeBackups.ResourceSnapshot) :
    afterCheckpointPayload operationType s = snapshotPayload s := by
  unfold afterCheckpointPayload makeDirectoryAfterCheckpointPayload
  split
  · split
    · rfl
    · split
      · rfl
      · rfl
  · rfl

end Snapshots

/-! ## Backups -/

section Backups

variable (V : PythonValues)

theorem capturedBackupPayload_keys (b : FileBackupFields) : ((capturedBackupPayload b).map Prod.fst).Nodup := by
  show ["path", "existed", "file_type", "content_path", "content_hash", "size", "permissions", "snapshot"].Nodup
  decide

/-- What the constructor has checked. -/
structure FileBackupFields.Valid (b : FileBackupFields) : Prop where
  fileType : b.fileType ∈ ["missing", "file"]
  snapshotType : b.snapshot.fileType ∈ fileTypes
  sources : b.contentSourceCount = if b.fileType = "missing" then 0 else 1

theorem FileBackupFields.valid (b : FileBackup) : b.1.Valid := by
  have hok := b.2
  simp only [FileBackupFields.postInit, bind_eq_ok, require_eq_ok] at hok
  obtain ⟨_, htype, _, -, _, -, _, hsnapshot, _, -, hcontent⟩ := hok
  have hmem : b.1.fileType ∈ ["missing", "file"] := by simpa using htype
  have hsub : b.1.snapshot.fileType ∈ fileTypes := by
    rw [hsnapshot]
    rcases htype with h | h <;> rw [h] <;> decide
  refine ⟨hmem, hsub, ?_⟩
  by_cases hmissing : b.1.fileType = "missing"
  · rw [if_pos hmissing] at hcontent ⊢
    simp only [FileBackupFields.checkMissing, require_eq_ok] at hcontent
    exact hcontent.1
  · rw [if_neg hmissing] at hcontent ⊢
    simp only [FileBackupFields.checkFile, bind_eq_ok, require_eq_ok] at hcontent
    obtain ⟨_, -, _, hcount, -⟩ := hcontent
    exact hcount

/-- A backup without the content that is no path. -/
def FileBackupFields.withoutContent (b : FileBackupFields) : FileBackupFields :=
  { b with contentBytes := none, contentAddress := none }

/-- Everything but that content is read. -/
theorem fileBackupFieldsFromPayload_stored {b : FileBackupFields} (hb : b.Valid) :
    fileBackupFieldsFromPayload V (Json.stored (capturedBackupPayload b)) = .ok b.withoutContent := by
  have h := capturedBackupPayload_keys b
  have hsnapshot : Json.get (Json.stored (capturedBackupPayload b)) "snapshot" =
      .obj (Json.stored (snapshotPayload b.snapshot)) := object_stored h "snapshot" rfl
  simp only [fileBackupFieldsFromPayload, hsnapshot, bind_eq_ok, pure_eq_ok]
  refine ⟨b.snapshot, snapshotOfMapping_stored V hb.snapshotType, b.path, pathFromPayloadValue_stored V h "path" rfl,
    b.existed, boolFromPayloadValue_stored h "existed" rfl none, b.fileType,
    backupFileTypeFromPayloadValue_stored V h "file_type" rfl hb.fileType, b.size,
    optionalIntValue_stored V h "size" rfl, b.permissions, optionalIntValue_stored V h "permissions" rfl, ?_⟩
  rw [optionalStr_stored V h "content_hash" b.contentHash rfl,
    pathFromOptionalPayloadValue_stored V h "content_path" rfl]
  rfl

/-- A backup whose content is in a file, or that has none. -/
def PathBacked (b : FileBackupFields) : Prop := b.withoutContent = b

theorem plannedBackup_pathBacked {path contentPath : PosixPath} {before : TreeBackups.ResourceSnapshot} {lstat : Option Lstat}
    {b : FileBackup} (h : plannedBackup path before contentPath lstat = .ok b) : PathBacked b.1 := by
  have hval (x : FileBackupFields) (hx : construct FileBackupFields.postInit x = .ok b) : b.1 = x := by
    unfold construct at hx
    split at hx
    · cases hx
      rfl
    · cases hx
  unfold plannedBackup at h
  split at h
  · rw [hval _ h]
    rfl
  · simp only [bind_eq_ok] at h
    obtain ⟨permissions, -, h⟩ := h
    rw [hval _ h]
    rfl

/-- What has the payload of a backup whose content is in a file is that backup. -/
theorem eq_of_payloadText {b c : FileBackup} (hc : PathBacked c.1)
    (h : payloadText (capturedBackupPayload b.1) = payloadText (capturedBackupPayload c.1)) : b = c := by
  have hb := FileBackupFields.valid b
  have hread : ∀ d : FileBackup, frozenPayload (payloadText (capturedBackupPayload d.1)) =
      .ok (Json.stored (capturedBackupPayload d.1)) := fun d => frozenPayload_payloadText _
  have hstored : Json.stored (capturedBackupPayload b.1) = Json.stored (capturedBackupPayload c.1) := by
    have heq := hread b
    rw [h, hread c] at heq
    exact (Except.ok.inj heq).symm
  -- so they agree in all that is read
  have hfields : b.1.withoutContent = c.1 := by
    have heq := fileBackupFieldsFromPayload_stored ⟨fun _ => "", fun _ => .error ""⟩ hb
    rw [hstored, fileBackupFieldsFromPayload_stored _ (FileBackupFields.valid c)] at heq
    rw [← Except.ok.inj heq]
    exact hc
  -- and in how many sources they have, so in having none but the path
  have hnone : b.1.contentBytes = none ∧ b.1.contentAddress = none := by
    have hsources : b.1.contentSourceCount = c.1.contentSourceCount := by
      rw [hb.sources, (FileBackupFields.valid c).sources, ← hfields]
      rfl
    have hcount : c.1.contentSourceCount = b.1.contentPath.isSome.toNat := by
      rw [← hfields]
      simp [FileBackupFields.contentSourceCount, FileBackupFields.withoutContent]
    rw [hcount] at hsources
    unfold FileBackupFields.contentSourceCount at hsources
    cases hbytes : b.1.contentBytes <;> cases haddress : b.1.contentAddress <;>
      simp [hbytes, haddress] at hsources ⊢
    omega
  apply Subtype.ext
  rw [← hfields]
  unfold FileBackupFields.withoutContent
  rw [← hnone.1, ← hnone.2]

/-- How far `prepare_mutation_checkpoints` comes. -/
theorem prepare_cases (p : Preparation) (captured : Except String FileBackup) :
    (prepareMutationCheckpoints p captured).1 = [("before", snapshotPayload p.before)] ∨
    ∃ c, plannedBackup p.path p.before p.contentPath p.lstat = .ok c ∧
      ((prepareMutationCheckpoints p captured).1 =
        [("before", snapshotPayload p.before), ("backup_artifact_intent", capturedBackupPayload c.1)] ∨
      ∃ b, captured = .ok b ∧ payloadText (capturedBackupPayload b.1) = payloadText (capturedBackupPayload c.1) ∧
        (prepareMutationCheckpoints p captured).1 =
          [("before", snapshotPayload p.before), ("backup_artifact_intent", capturedBackupPayload c.1),
            ("backup", capturedBackupPayload c.1),
            ("expected_after", expectedAfterCheckpointPayload p.path p.recoveryPayload)]) := by
  simp only [prepareMutationCheckpoints]
  split
  · exact Or.inl rfl
  · split
    · exact Or.inl rfl
    · next payload hplanned =>
      obtain ⟨c, hc, rfl⟩ := map_eq_ok.1 hplanned
      refine Or.inr ⟨c, hc, ?_⟩
      split
      · exact Or.inl rfl
      · next b =>
        split
        · exact Or.inl rfl
        · next hsame => exact Or.inr ⟨b, rfl, not_not.1 hsame, rfl⟩

/-- The backup of a checkpoint that was written is the one that was planned. -/
theorem backup_of_checkpoint {p : Preparation} {b : FileBackup} {payload : Mapping}
    (h : ("backup", payload) ∈ (prepareMutationCheckpoints p (.ok b)).1) :
    payload = capturedBackupPayload b.1 ∧ PathBacked b.1 := by
  rcases prepare_cases p (.ok b) with hend | ⟨c, hc, hend | ⟨b', hb', hsame, hend⟩⟩
  · simp [hend] at h
  · simp [hend] at h
  · have hpayload : payload = capturedBackupPayload c.1 := by simpa [hend] using h
    have hbc : b = c := by
      rw [Except.ok.inj hb']
      exact eq_of_payloadText (plannedBackup_pathBacked hc) hsame
    rw [hpayload, hbc]
    exact ⟨rfl, plannedBackup_pathBacked hc⟩

/-- The payload of an intent is that of the backup that is planned. -/
theorem planned_of_intent {p : Preparation} {captured : Except String FileBackup} {payload : Mapping}
    (h : ("backup_artifact_intent", payload) ∈ (prepareMutationCheckpoints p captured).1) :
    ∃ c, plannedBackup p.path p.before p.contentPath p.lstat = .ok c ∧ payload = capturedBackupPayload c.1 := by
  rcases prepare_cases p captured with hend | ⟨c, hc, hend | ⟨b, -, -, hend⟩⟩
  · simp [hend] at h
  · exact ⟨c, hc, by simpa [hend] using h⟩
  · exact ⟨c, hc, by simpa [hend] using h⟩

/-- The restore planned on a stored backup and a stored snapshot. -/
theorem plannedRestore_stored (path : PosixPath) (backup current : Mapping) :
    plannedRestore path (payloadText backup) (payloadText current) = .ok (payloadText
      [("path", .str path.text), ("backup", .obj (Json.stored backup)), ("expected_current", .obj (Json.stored current)),
        ("allow_overwrite", .bool false)]) := by
  have hcopy (ms : Mapping) : mappingPayloadCopy (PyValue.freezeJson (PyValue.ofJson (.obj ms))) =
      .ok (.dict (PyValue.freezeMembers (PyValue.ofMembers ms))) := rfl
  have hencoded (ms : Mapping) : PyValue.encodedMembers (PyValue.jsonableMembers (PyValue.freezeMembers
      (PyValue.ofMembers ms))) = .ok ms := PyValue.encodedMembers_jsonableMembers ms
  simp only [plannedRestore, PyValue.frozenPayload_payloadText, bind_eq_ok, Except.ok.injEq, exists_eq_left', hcopy]
  simp only [PyValue.payloadToJson, PyValue.jsonableValue, PyValue.jsonableMembers, PyValue.encoded,
    PyValue.encodedMembers, hencoded]
  rfl

theorem restorePayload_keys (path : PosixPath) (backup current : Mapping) :
    (([("path", .str path.text), ("backup", .obj backup), ("expected_current", .obj current),
      ("allow_overwrite", .bool false)] : Mapping).map Prod.fst).Nodup := by
  show ["path", "backup", "expected_current", "allow_overwrite"].Nodup
  decide

/-- A restore is read as it was planned. -/
theorem restore_round_trip (path : PosixPath) {b : FileBackup} (hb : PathBacked b.1) (current : TypedSnapshot) :
    ∃ text, plannedRestore path (payloadText (capturedBackupPayload b.1)) (payloadText (snapshotPayload current.snapshot)) =
      .ok text ∧ restoreArguments V text = .ok ⟨b, some current.snapshot, false⟩ := by
  refine ⟨_, plannedRestore_stored path _ _, ?_⟩
  have h := restorePayload_keys path (Json.stored (capturedBackupPayload b.1)) (Json.stored (snapshotPayload current.snapshot))
  simp only [restoreArguments, bind_eq_ok, pure_eq_ok]
  refine ⟨_, frozenPayload_payloadText _, b, ?_, some current.snapshot, ?_, false,
    boolFromPayloadValue_stored h "allow_overwrite" rfl _, rfl⟩
  · have hget := object_stored h "backup" rfl
    rw [stored_stored] at hget
    simp only [fileBackupFromPayload, hget, bind_eq_ok]
    refine ⟨_, fileBackupFieldsFromPayload_stored V (FileBackupFields.valid b), ?_⟩
    rw [show b.1.withoutContent = b.1 from hb]
    exact construct_val b
  · have hget := object_stored h "expected_current" rfl
    rw [stored_stored] at hget
    rw [hget, resourceSnapshotFromPayload, snapshotOfMapping_stored V current.typed]
    rfl

theorem storedSnapshot_stored (s : TypedSnapshot) :
    storedSnapshot V (payloadText (snapshotPayload s.snapshot)) = .ok (some s.snapshot) := by
  simp only [storedSnapshot, bind_eq_ok]
  refine ⟨_, frozenPayload_payloadText _, ?_⟩
  rw [resourceSnapshotFromPayload, snapshotOfMapping_stored V s.typed]
  rfl

end Backups

/-- A stored payload is no longer what `json.dumps` takes, not even an empty one. -/
theorem frozen_payload_refused : (PyValue.frozenPayload "{}").bind PyValue.payloadToJson =
    .error "Object of type mappingproxy is not JSON serializable" := by
  have hstored : payloadText [] = "{}" := by decide +kernel
  rw [← hstored, PyValue.frozenPayload_payloadText]
  rfl

/-- Snapshots and file backups come back from the journal as they were: a snapshot from the payload
of a checkpoint before or after a mutation, whatever the mutation; the backup of every backup
checkpoint that is recorded from the restore that is planned on it, with the snapshot that is
expected now, as does the planned one of an intent, and any backup that has its content in a file or
none. A stored payload that is made of plain dicts and lists again is stored as the same text. -/
theorem file_backup_round_trip (V : PythonValues) :
    (∀ (operationType : String) (s : TypedSnapshot),
      storedSnapshot V (payloadText (snapshotPayload s.snapshot)) = .ok (some s.snapshot) ∧
      storedSnapshot V (payloadText (afterCheckpointPayload operationType s.snapshot)) = .ok (some s.snapshot)) ∧
    (∀ (p : Preparation) (b : FileBackup) (payload : Mapping),
      ("backup", payload) ∈ (prepareMutationCheckpoints p (.ok b)).1 →
      ∀ (operationType : String) (current : TypedSnapshot), ∃ text,
        plannedRestore p.path (payloadText payload) (payloadText (afterCheckpointPayload operationType current.snapshot)) =
          .ok text ∧ restoreArguments V text = .ok ⟨b, some current.snapshot, false⟩) ∧
    (∀ (p : Preparation) (captured : Except String FileBackup) (payload : Mapping),
      ("backup_artifact_intent", payload) ∈ (prepareMutationCheckpoints p captured).1 →
      ∃ b, plannedBackup p.path p.before p.contentPath p.lstat = .ok b ∧
        ∀ (operationType : String) (current : TypedSnapshot), ∃ text,
          plannedRestore p.path (payloadText payload)
            (payloadText (afterCheckpointPayload operationType current.snapshot)) = .ok text ∧
          restoreArguments V text = .ok ⟨b, some current.snapshot, false⟩) ∧
    (∀ b : FileBackup, b.1.contentBytes = none → b.1.contentAddress = none →
      ∀ (path : PosixPath) (operationType : String) (current : TypedSnapshot), ∃ text,
        plannedRestore path (payloadText (capturedBackupPayload b.1))
          (payloadText (afterCheckpointPayload operationType current.snapshot)) = .ok text ∧
        restoreArguments V text = .ok ⟨b, some current.snapshot, false⟩) ∧
    (∀ (members : Mapping) (payload : PyValue), PyValue.frozenPayload (payloadText members) = .ok payload →
      PyValue.payloadToJson (PyValue.jsonableValue payload) = .ok (payloadText members)) := by
  refine ⟨?_, ?_, ?_, ?_, fun members payload h => PyValue.payloadToJson_jsonable h⟩
  · intro operationType s
    rw [afterCheckpointPayload_eq]
    exact ⟨storedSnapshot_stored V s, storedSnapshot_stored V s⟩
  · intro p b payload h operationType current
    obtain ⟨rfl, hb⟩ := backup_of_checkpoint h
    rw [afterCheckpointPayload_eq]
    exact restore_round_trip V p.path hb current
  · intro p captured payload h
    obtain ⟨b, hplanned, rfl⟩ := planned_of_intent h
    refine ⟨b, hplanned, fun operationType current => ?_⟩
    rw [afterCheckpointPayload_eq]
    exact restore_round_trip V p.path (plannedBackup_pathBacked hplanned) current
  · intro b hbytes haddress path operationType current
    have hb : PathBacked b.1 := by
      unfold PathBacked FileBackupFields.withoutContent
      rw [← hbytes, ← haddress]
    rw [afterCheckpointPayload_eq]
    exact restore_round_trip V path hb current

end SafeFsOps.FileBackups
