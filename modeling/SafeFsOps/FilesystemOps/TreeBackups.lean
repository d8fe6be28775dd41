import Mathlib
import SafeFsOps.Json
import SafeFsOps.PosixPaths
import SafeFsOps.Tables

/-!
# Tree backups

The records of a tree backup (`filesystem_ops/models.py`) with everything their
constructors admit, and `tree_backup_from_journal_payload` of
`filesystem_ops/tree_backups.py`, which makes one of a stored payload.

A record whose constructor checks its fields is a record of fields with a proof that the
check passes; `construct` is the constructor. What Python makes of values of other types,
`str` of a value that is no text and `int` of a text, is a parameter of the decoders.
-/

namespace SafeFsOps.TreeBackups

/-! ## Constructors that check -/

section Construct

variable {α ε : Type} {postInit : α → Except ε Unit}

/-- A record whose `__post_init__` passed. -/
def Admitted (postInit : α → Except ε Unit) : Type := { a : α // postInit a = .ok () }

/-- A frozen dataclass: its fields, if `__post_init__` passes. -/
def construct (postInit : α → Except ε Unit) (a : α) : Except ε (Admitted postInit) :=
  match h : postInit a with
  | .ok () => .ok ⟨a, h⟩
  | .error e => .error e

/-- The fields of a record make it again. -/
theorem construct_val (x : Admitted postInit) : construct postInit x.1 = .ok x := by
  unfold construct
  split
  · rfl
  · next e h =>
    rw [x.2] at h
    cases h

end Construct

/-! ## The records -/

/-- `ResourceSnapshot`, whose constructor checks nothing. -/
structure ResourceSnapshot where
  path : PosixPath
  pathExists : Bool
  fileType : String
  contentHash : Option String
  size : Option Int
  mtimeNs : Option Int
  symlinkTarget : Option String
  device : Option Int
  inode : Option Int
  ctimeNs : Option Int
deriving DecidableEq

structure ContentRefFields where
  algo : String
  digest : String
  size : Int
  path : PosixPath
deriving DecidableEq

/-- `ContentRef.__post_init__`. -/
def ContentRefFields.postInit (ref : ContentRefFields) : Except String Unit := do
  require (ref.algo = "sha256") ("unsupported content address algorithm: " ++ ref.algo)
  require (ref.digest.length = 64 ∧ ∀ c ∈ ref.digest.toList, c ∈ "0123456789abcdefABCDEF".toList)
    "content digest must be a 64-character SHA-256 hex digest"
  require (ref.digest.toList.map Char.toLower = ref.digest.toList) "content digest must be lowercase"
  require (0 ≤ ref.size) "content size must be non-negative"

/-- `ContentRef`. -/
abbrev ContentRef : Type := Admitted ContentRefFields.postInit

structure TreeBackupEntryFields where
  relativePath : PosixPath
  kind : String
  snapshot : ResourceSnapshot
  contentAddress : Option ContentRef
  contentHash : Option String
  size : Option Int
  permissions : Option Int
  symlinkTarget : Option String

namespace TreeBackupEntryFields

/-- The checks of a file entry. -/
def checkFile (e : TreeBackupEntryFields) : Except String Unit := do
  require (e.snapshot.fileType = "file") "file tree backup entries require a file snapshot"
  match e.contentAddress with
  | none => .error "file tree backup entries require a content address"
  | some ref =>
    require (e.contentHash ≠ none ∧ e.size ≠ none) "file tree backup entries require content_hash and size"
    require (e.permissions ≠ none) "file tree backup entries require permissions"
    require (e.symlinkTarget = none) "file tree backup entries cannot store a symlink target"
    require (e.snapshot.contentHash = e.contentHash) "file tree backup content_hash must match snapshot"
    require (e.snapshot.size = e.size) "file tree backup size must match snapshot"
    require (some ref.1.digest = e.contentHash) "file tree backup content address digest must match content_hash"
    require (some ref.1.size = e.size) "file tree backup content address size must match entry size"

/-- The checks of a symlink entry. -/
def checkSymlink (e : TreeBackupEntryFields) : Except String Unit := do
  require (e.snapshot.fileType = "symlink") "symlink tree backup entries require a symlink snapshot"
  require (e.symlinkTarget ≠ none) "symlink tree backup entries require a symlink target"
  require (e.snapshot.symlinkTarget = e.symlinkTarget) "symlink tree backup target must match snapshot"
  require (e.contentAddress.isNone = true ∧ e.contentHash = none ∧ e.size = none ∧ e.permissions = none)
    "symlink tree backup entries cannot store file content metadata"

/-- `TreeBackupEntry.__post_init__`. -/
def postInit (e : TreeBackupEntryFields) : Except String Unit := do
  require (e.kind = "file" ∨ e.kind = "symlink") ("unsupported tree backup entry kind: " ++ e.kind)
  require (e.relativePath.root = .relative) "tree backup entry paths must be relative"
  require (e.relativePath.parts ≠ [] ∧ ".." ∉ e.relativePath.parts)
    "tree backup entry paths must name an explicit child without '..'"
  if e.kind = "file" then e.checkFile else e.checkSymlink

end TreeBackupEntryFields

/-- `TreeBackupEntry`. -/
abbrev TreeBackupEntry : Type := Admitted TreeBackupEntryFields.postInit

/-- `_is_path_prefix`. -/
def isPathPrefix (front path : PosixPath) : Bool :=
  front.parts.length < path.parts.length && path.parts.take front.parts.length = front.parts

structure TreeBackupFields where
  root : PosixPath
  entries : List TreeBackupEntry

/-- The paths of the entries are apart; which of several conflicting paths is named is up
to the order of a set. -/
def checkPaths : List PosixPath → List TreeBackupEntry → Except String Unit
  | _, [] => .ok ()
  | seen, e :: es => do
    let path := e.1.relativePath
    require (path ∉ seen) ("duplicate tree backup entry path: " ++ path.text)
    match seen.find? fun existing => isPathPrefix existing path || isPathPrefix path existing with
    | some existing =>
      .error ("tree backup entry path " ++ path.text ++ " conflicts with prefix path " ++ existing.text)
    | none => checkPaths (seen ++ [path]) es

/-- `TreeBackup.__post_init__`. -/
def TreeBackupFields.postInit (backup : TreeBackupFields) : Except String Unit := do
  require (backup.root.isAbsolute = true) "tree backup root must be absolute"
  checkPaths [] backup.entries

/-- `TreeBackup`. -/
abbrev TreeBackup : Type := Admitted TreeBackupFields.postInit

/-! ## Reading payloads -/

/-- A mapping of a stored payload. -/
abbrev Mapping := List (String × Json)

/-- What Python makes of values of other types. -/
structure PythonValues where
  /-- `str(value)`, for a value that is no text -/
  str : Json → String
  /-- `int(text)`, or the text of its `ValueError` -/
  int : String → Except String Int

/-- `str(value)`. -/
def PythonValues.textOf (V : PythonValues) : Json → String
  | .str s => s
  | v => V.str v

/-- `_optional_mapping`. -/
def optionalMapping (v : Json) (label : String) : Except String (Option Mapping) :=
  match v with
  | .null => .ok none
  | .obj ms => .ok (some ms)
  | _ => .error (label ++ " must be a mapping")

/-- `_required_mapping`. -/
def requiredMapping (v : Json) (label : String) : Except String Mapping := do
  match ← optionalMapping v label with
  | some ms => return ms
  | none => .error (label ++ " must be a mapping")

/-- `_required_value`. -/
def requiredValue (payload : Mapping) (key label : String) : Except String Json :=
  match Json.get payload key with
  | .null => .error (label ++ " is missing '" ++ key ++ "'")
  | v => .ok v

/-- `_required_sequence`. -/
def requiredSequence (payload : Mapping) (key label : String) : Except String (List Json) := do
  match ← requiredValue payload key label with
  | .arr items => return items
  | _ => .error (label ++ " '" ++ key ++ "' must be a sequence")

/-- `_required_int`. -/
def requiredInt (V : PythonValues) (v : Json) (label : String) : Except String Int :=
  match v with
  | .bool _ => .error (label ++ " must not be a boolean")
  | .int n => .ok n
  | .str s => V.int s
  | _ => .error (label ++ " must be an int or string")

/-- `_required_bool`. -/
def requiredBool (v : Json) (label : String) : Except String Bool :=
  match v with
  | .bool b => .ok b
  | _ => .error (label ++ " must be a bool")

/-- `_optional_str`; the recovery's `_optional_str_from_payload` is the same function. -/
def optionalStr (V : PythonValues) (v : Json) : Option String :=
  match v with
  | .null => none
  | v => some (V.textOf v)

/-- `_optional_int`. -/
def optionalInt (V : PythonValues) (v : Json) : Except String (Option Int) :=
  match v with
  | .null => .ok none
  | v => (requiredInt V v "integer payload value").map some

/-! ## `tree_backup_from_journal_payload` -/

/-- `_tree_backup_payload_source`. -/
def treeBackupPayloadSource (payload : Mapping) : Except String Mapping := do
  match ← optionalMapping (Json.get payload "tree_backup") "tree backup 'tree_backup' payload" with
  | some nested => return nested
  | none =>
    match ← optionalMapping (Json.get payload "backup") "tree backup 'backup' payload" with
    | some nested => return nested
    | none => return payload

/-- `_tree_backup_root_from_payload`. -/
def treeBackupRootFromPayload (V : PythonValues) (payload : Mapping) : Except String PosixPath :=
  let values := ["root", "root_path", "path", "source_path"].filterMap fun key => optionalStr V (Json.get payload key)
  match values with
  | value :: _ => .ok (.ofText value)
  | [] => .error "tree backup payload is missing a root path"

/-- `_content_ref_from_payload`. -/
def contentRefFromPayload (V : PythonValues) (payload : Mapping) : Except String ContentRef := do
  let digest ← requiredValue payload "digest" "content address payload"
  let size ← requiredInt V (Json.get payload "size") "content address size"
  let path ← requiredValue payload "path" "content address payload"
  construct ContentRefFields.postInit
    { algo := "sha256", digest := V.textOf digest, size := size, path := .ofText (V.textOf path) }

/-- `_resource_snapshot_from_payload`. -/
def resourceSnapshotFromPayload (V : PythonValues) (payload : Mapping) : Except String ResourceSnapshot := do
  let path ← requiredValue payload "path" "resource snapshot payload"
  let pathExists ← requiredBool (Json.get payload "exists") "resource snapshot exists"
  let fileType ← requiredValue payload "file_type" "resource snapshot payload"
  let size ← optionalInt V (Json.get payload "size")
  let mtimeNs ← optionalInt V (Json.get payload "mtime_ns")
  let device ← optionalInt V (Json.get payload "device")
  let inode ← optionalInt V (Json.get payload "inode")
  let ctimeNs ← optionalInt V (Json.get payload "ctime_ns")
  return {
    path := .ofText (V.textOf path)
    pathExists := pathExists
    fileType := V.textOf fileType
    contentHash := optionalStr V (Json.get payload "content_hash")
    size := size
    mtimeNs := mtimeNs
    symlinkTarget := optionalStr V (Json.get payload "symlink_target")
    device := device
    inode := inode
    ctimeNs := ctimeNs }

/-- The content address of an entry, if it has one. -/
def optionalContentRef (V : PythonValues) : Option Mapping → Except String (Option ContentRef)
  | none => .ok none
  | some ms => (contentRefFromPayload V ms).map some

/-- `_tree_backup_entry_from_payload`. -/
def treeBackupEntryFromPayload (V : PythonValues) (payload : Json) : Except String TreeBackupEntry := do
  let entry ← requiredMapping payload "tree backup entry payload"
  let snapshotPayload ← requiredMapping (Json.get entry "snapshot") "tree backup entry snapshot"
  let contentAddress ← optionalMapping (Json.get entry "content_address") "tree backup content address"
  let relativePath ← requiredValue entry "relative_path" "tree backup entry payload"
  let kind ← requiredValue entry "kind" "tree backup entry payload"
  let snapshot ← resourceSnapshotFromPayload V snapshotPayload
  let contentAddress ← optionalContentRef V contentAddress
  let size ← optionalInt V (Json.get entry "size")
  let permissions ← optionalInt V (Json.get entry "permissions")
  construct TreeBackupEntryFields.postInit
    { relativePath := .ofText (V.textOf relativePath)
      kind := V.textOf kind
      snapshot := snapshot
      contentAddress := contentAddress
      contentHash := optionalStr V (Json.get entry "content_hash")
      size := size
      permissions := permissions
      symlinkTarget := optionalStr V (Json.get entry "symlink_target") }

/-- `tree_backup_from_journal_payload`. -/
def treeBackupFromJournalPayload (V : PythonValues) (payload : Mapping) : Except String TreeBackup := do
  let source ← treeBackupPayloadSource payload
  let root ← treeBackupRootFromPayload V source
  let items ← requiredSequence source "entries" "tree backup payload"
  let entries ← items.mapM (treeBackupEntryFromPayload V)
  construct TreeBackupFields.postInit { root := root, entries := entries }

end SafeFsOps.TreeBackups
