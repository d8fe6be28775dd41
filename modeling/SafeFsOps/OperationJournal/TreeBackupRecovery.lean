import SafeFsOps.FilesystemOps.TreeBackups

/-!
# Tree backups in checkpoints

`operation_journal/tree_backup_recovery.py`: `tree_backup_checkpoint_payload`, which
writes a tree backup down, and `tree_backup_from_payload`, the recovery's own decoder,
which falls back to a conversion value by value. Between them a payload is stored:
`_payload_to_json` makes a text of it and `_frozen_payload` of `journal_payloads.py` reads
that back, with tuples for lists and read-only mappings for dicts, which both decoders
take alike.

> `tree_backup_round_trip`: each of the two decoders gives back every backup.
-/

namespace SafeFsOps.TreeBackups

/-! ## The encoder -/

/-- A text or `None`. -/
def textValue : Option String → Json
  | none => .null
  | some s => .str s

/-- An integer or `None`. -/
def intValue : Option Int → Json
  | none => .null
  | some n => .int n

/-- The fields of a snapshot. -/
def snapshotPayload (s : ResourceSnapshot) : Mapping :=
  [("path", .str s.path.text), ("exists", .bool s.pathExists), ("file_type", .str s.fileType),
    ("content_hash", textValue s.contentHash), ("size", intValue s.size), ("mtime_ns", intValue s.mtimeNs),
    ("symlink_target", textValue s.symlinkTarget), ("device", intValue s.device), ("inode", intValue s.inode),
    ("ctime_ns", intValue s.ctimeNs)]

/-- `_content_ref_payload`. -/
def contentRefPayload (ref : ContentRef) : Mapping :=
  [("algo", .str ref.1.algo), ("digest", .str ref.1.digest), ("size", .int ref.1.size), ("path", .str ref.1.path.text)]

/-- A content address or `None`. -/
def contentRefValue : Option ContentRef → Json
  | none => .null
  | some ref => .obj (contentRefPayload ref)

/-- The fields of an entry. -/
def entryPayload (e : TreeBackupEntry) : Mapping :=
  [("relative_path", .str e.1.relativePath.text), ("kind", .str e.1.kind), ("snapshot", .obj (snapshotPayload e.1.snapshot)),
    ("content_address", contentRefValue e.1.contentAddress), ("content_hash", textValue e.1.contentHash),
    ("size", intValue e.1.size), ("permissions", intValue e.1.permissions),
    ("symlink_target", textValue e.1.symlinkTarget)]

/-- The store path of a payload, where one is given. -/
def storePathMember : Option String → Mapping
  | none => []
  | some storePath => [("store_path", .str storePath)]

/-- `tree_backup_checkpoint_payload` of a `TreeBackup`. -/
def treeBackupCheckpointPayload (backup : TreeBackup) (storePath : Option String) : Mapping :=
  [("root", .str backup.1.root.text), ("entries", .arr (backup.1.entries.map fun e => .obj (entryPayload e))),
    ("format", .str "safe_fs_ops.tree_backup.v1")] ++ storePathMember storePath

/-! ## Storing -/

/-- `_payload_to_json`. -/
def payloadText (payload : Mapping) : String := String.ofList (Json.obj payload).dumps

/-- `_frozen_payload`. -/
def frozenPayload (text : String) : Except String Mapping :=
  match Json.loads text.toList with
  | some (.obj ms) => .ok ms
  | some _ => .error "stored payload must be a JSON object"
  | none => .error "stored payload is no JSON text"

/-- A stored payload comes back with its members sorted. -/
theorem frozenPayload_payloadText (payload : Mapping) :
    frozenPayload (payloadText payload) = .ok (Json.stored payload) := by
  have hread : Json.loads (payloadText payload).toList = some (.obj (Json.stored payload)) := by
    rw [payloadText, String.toList_ofList, Json.loads_dumps]
    rfl
  rw [frozenPayload, hread]

/-! ## The decoder of the recovery -/

/-- `payload[key]`, or `KeyError`. -/
def getItem (payload : Mapping) (key : String) : Except String Json :=
  if key ∈ payload.map Prod.fst then .ok (Json.get payload key) else .error key

/-- `_bool_from_required_payload`. -/
def boolFromRequiredPayload (v : Json) : Except String Bool :=
  match v with
  | .bool b => .ok b
  | _ => .error "boolean payload value must be a bool"

/-- `_int_from_payload`. -/
def intFromPayload (V : PythonValues) (v : Json) : Except String Int :=
  match v with
  | .bool _ => .error "integer payload value must not be a boolean"
  | .int n => .ok n
  | .str s => V.int s
  | _ => .error "integer payload value must be int or str"

/-- `_optional_int_from_payload`. -/
def optionalIntFromPayload (V : PythonValues) (v : Json) : Except String (Option Int) :=
  match v with
  | .null => .ok none
  | v => (intFromPayload V v).map some

/-- `_content_ref_from_payload`. -/
def knownContentRefFromPayload (V : PythonValues) (payload : Mapping) : Except String ContentRef := do
  let digest ← getItem payload "digest"
  let size ← intFromPayload V (← getItem payload "size")
  let path ← getItem payload "path"
  construct ContentRefFields.postInit
    { algo := "sha256", digest := V.textOf digest, size := size, path := .ofText (V.textOf path) }

/-- `_optional_content_ref_from_payload`. -/
def optionalContentRefFromPayload (V : PythonValues) (v : Json) : Except String (Option ContentRef) :=
  match v with
  | .null => .ok none
  | .obj ms => (knownContentRefFromPayload V ms).map some
  | _ => .error "content address payload must be a mapping"

/-- `_resource_snapshot_from_payload`. -/
def knownResourceSnapshotFromPayload (V : PythonValues) (payload : Mapping) : Except String ResourceSnapshot := do
  let path ← getItem payload "path"
  let pathExists ← boolFromRequiredPayload (Json.get payload "exists")
  let fileType ← getItem payload "file_type"
  let size ← optionalIntFromPayload V (Json.get payload "size")
  let mtimeNs ← optionalIntFromPayload V (Json.get payload "mtime_ns")
  let device ← optionalIntFromPayload V (Json.get payload "device")
  let inode ← optionalIntFromPayload V (Json.get payload "inode")
  let ctimeNs ← optionalIntFromPayload V (Json.get payload "ctime_ns")
  return {
    path := .ofText (V.textOf path)
    pathExists := pathExists
    fileType := V.textOf fileType
    contentHash := optionalStr V (Json.get payload "content_hash")
    size := size
    mtimeNs := mtimeNs
    symlinkTarget := optionalStr V (Json.get payload "symlink_target")
    device := device
    inode := inode
    ctimeNs := ctimeNs }

/-- `_known_tree_backup_entry_from_payload`. -/
def knownTreeBackupEntryFromPayload (V : PythonValues) (payload : Json) : Except String TreeBackupEntry := do
  match payload with
  | .obj entry =>
    match Json.get entry "snapshot" with
    | .obj snapshotPayload =>
      let relativePath ← getItem entry "relative_path"
      let kind ← getItem entry "kind"
      let snapshot ← knownResourceSnapshotFromPayload V snapshotPayload
      let contentAddress ← optionalContentRefFromPayload V (Json.get entry "content_address")
      let size ← optionalIntFromPayload V (Json.get entry "size")
      let permissions ← optionalIntFromPayload V (Json.get entry "permissions")
      construct TreeBackupEntryFields.postInit
        { relativePath := .ofText (V.textOf relativePath)
          kind := V.textOf kind
          snapshot := snapshot
          contentAddress := contentAddress
          contentHash := optionalStr V (Json.get entry "content_hash")
          size := size
          permissions := permissions
          symlinkTarget := optionalStr V (Json.get entry "symlink_target") }
    | _ => .error "tree backup entry payload must include a snapshot mapping"
  | _ => .error "tree backup entry payload must be a mapping"

/-- `bool(value)`. -/
def truthy : Json → Bool
  | .null => false
  | .bool b => b
  | .int n => n ≠ 0
  | .float x => x.text ∉ ["0.0".toList, "-0.0".toList]
  | .str s => s ≠ ""
  | .arr items => items.isEmpty = false
  | .obj members => members.isEmpty = false

/-- `payload.get(key) or payload.get(other)`. -/
def getOr (payload : Mapping) (key other : String) : Json :=
  if truthy (Json.get payload key) then Json.get payload key else Json.get payload other

/-- `_known_tree_backup_from_payload`. -/
def knownTreeBackupFromPayload (V : PythonValues) (payload : Mapping) : Option TreeBackup :=
  match getOr payload "root" "root_path", Json.get payload "entries" with
  | .null, _ => none
  | root, .arr items =>
    let backup := (items.mapM (knownTreeBackupEntryFromPayload V)).bind fun entries =>
      construct TreeBackupFields.postInit { root := .ofText (V.textOf root), entries := entries }
    backup.toOption
  | _, _ => none

/-- `_looks_like_known_tree_backup_payload`. -/
def looksLikeKnownTreeBackupPayload (payload : Mapping) : Bool :=
  ("root" ∈ payload.map Prod.fst || "root_path" ∈ payload.map Prod.fst) && "entries" ∈ payload.map Prod.fst

/-- What a value is converted to where no tree backup is recognised. -/
inductive Converted where
  | plain (v : Json)
  | path (p : PosixPath)
  | contentRef (ref : ContentRef)
  | items (vs : List Converted)
  | members (ms : List (String × Converted))

/-- `_looks_like_content_ref`. -/
def looksLikeContentRef (V : PythonValues) (ms : Mapping) : Bool :=
  ["digest", "size", "path"].all (· ∈ ms.map Prod.fst) &&
    ("algo" ∉ ms.map Prod.fst || V.textOf (Json.get ms "algo") = "sha256")

/-- `_looks_like_path_key`. -/
def looksLikePathKey (key : String) : Bool :=
  key ∈ ["path", "root_path", "source_path", "store_path"] || key.endsWith "_path"

/-- What stands under a key that names a path becomes one, unless it is `None`. -/
def convertLeaf (V : PythonValues) (key : Option String) (v : Json) : Converted :=
  match key, v with
  | none, v => .plain v
  | some _, .null => .plain .null
  | some key, v => if looksLikePathKey key then .path (.ofText (V.textOf v)) else .plain v

mutual

/-- `_tree_backup_value_from_payload`. -/
def treeBackupValueFromPayload (V : PythonValues) (key : Option String) : Json → Except String Converted
  | .obj ms =>
    if looksLikeContentRef V ms then (knownContentRefFromPayload V ms).map .contentRef
    else (convertMembers V ms).map .members
  | .arr vs => (convertItems V vs).map .items
  | .null => .ok (convertLeaf V key .null)
  | .bool b => .ok (convertLeaf V key (.bool b))
  | .int n => .ok (convertLeaf V key (.int n))
  | .float x => .ok (convertLeaf V key (.float x))
  | .str s => .ok (convertLeaf V key (.str s))

def convertItems (V : PythonValues) : List Json → Except String (List Converted)
  | [] => .ok []
  | v :: vs => do
    let v ← treeBackupValueFromPayload V none v
    let vs ← convertItems V vs
    return v :: vs

def convertMembers (V : PythonValues) : List (String × Json) → Except String (List (String × Converted))
  | [] => .ok []
  | (k, v) :: ms => do
    let v ← treeBackupValueFromPayload V (some k) v
    let ms ← convertMembers V ms
    return (k, v) :: ms

end

/-- What `tree_backup_from_payload` raises. -/
inductive DecodeError where
  | valueError (message : String)
  | attributeError

/-- What `tree_backup_from_payload` answers with. -/
inductive DecodedTreeBackup where
  | known (backup : TreeBackup)
  | converted (v : Converted)

/-- `TreeBackup(**mapping)` on converted values: other arguments than its two are a `TypeError`, on
which the mapping itself is the answer, and a converted root is no path. -/
def backupOfConverted : Converted → Except DecodeError DecodedTreeBackup
  | .members ms =>
    if ms.map Prod.fst ∈ [["entries", "root"], ["root", "entries"]] then .error .attributeError
    else .ok (.converted (.members ms))
  | v => .ok (.converted v)

/-- `tree_backup_from_payload`. -/
def treeBackupFromPayload (V : PythonValues) (payload : Mapping) (requireKnownBackup : Bool) :
    Except DecodeError DecodedTreeBackup :=
  let source := match Json.get payload "backup" with
    | .obj ms => ms
    | _ => payload
  match knownTreeBackupFromPayload V source with
  | some backup => .ok (.known backup)
  | none =>
    if requireKnownBackup && looksLikeKnownTreeBackupPayload source then
      .error (.valueError "malformed tree backup payload")
    else
      match treeBackupValueFromPayload V none (.obj source) with
      | .ok v => backupOfConverted v
      | .error message => .error (.valueError message)

/-! ## Reading a field of a stored payload -/

section Fields

variable (V : PythonValues) {payload : Mapping} (h : (payload.map Prod.fst).Nodup) (key : String)

theorem sorted_textValue (s : Option String) : (textValue s).sorted = textValue s := by cases s <;> rfl

theorem sorted_intValue (n : Option Int) : (intValue n).sorted = intValue n := by cases n <;> rfl

include h

/-- A value that is there. -/
theorem requiredValue_stored {v : Json} (hv : Json.get payload key = v) (hnull : v.sorted ≠ .null) (label : String) :
    requiredValue (Json.stored payload) key label = .ok v.sorted := by
  rw [requiredValue, Json.get_stored h, hv]
  split
  · next heq => exact absurd heq hnull
  · rfl

theorem requiredValue_text {s : String} (hv : Json.get payload key = .str s) (label : String) :
    requiredValue (Json.stored payload) key label = .ok (.str s) :=
  requiredValue_stored h key hv (by intro heq; cases heq) label

theorem getItem_stored {v : Json} (hv : Json.get payload key = v) (hnull : v ≠ .null) :
    getItem (Json.stored payload) key = .ok v.sorted := by
  have hkey : key ∈ payload.map Prod.fst := by
    by_contra hnot
    rw [Json.get_of_not_mem hnot] at hv
    exact hnull hv.symm
  rw [getItem, if_pos (Json.mem_keys_stored.2 hkey), Json.get_stored h, hv]

theorem getItem_text {s : String} (hv : Json.get payload key = .str s) :
    getItem (Json.stored payload) key = .ok (.str s) :=
  getItem_stored h key hv (by intro heq; cases heq)

theorem optionalStr_stored (s : Option String) (hv : Json.get payload key = textValue s) :
    optionalStr V (Json.get (Json.stored payload) key) = s := by
  rw [Json.get_stored h, hv, sorted_textValue]
  cases s <;> rfl

theorem optionalInt_stored (n : Option Int) (hv : Json.get payload key = intValue n) :
    optionalInt V (Json.get (Json.stored payload) key) = .ok n := by
  rw [Json.get_stored h, hv, sorted_intValue]
  cases n <;> rfl

theorem optionalIntFromPayload_stored (n : Option Int) (hv : Json.get payload key = intValue n) :
    optionalIntFromPayload V (Json.get (Json.stored payload) key) = .ok n := by
  rw [Json.get_stored h, hv, sorted_intValue]
  cases n <;> rfl

theorem boolean_stored {b : Bool} (hv : Json.get payload key = .bool b) :
    Json.get (Json.stored payload) key = .bool b := by
  rw [Json.get_stored h, hv]
  rfl

theorem integer_stored {n : Int} (hv : Json.get payload key = .int n) :
    Json.get (Json.stored payload) key = .int n := by
  rw [Json.get_stored h, hv]
  rfl

/-- A mapping is stored as a mapping. -/
theorem object_stored {ms : Mapping} (hv : Json.get payload key = .obj ms) :
    Json.get (Json.stored payload) key = .obj (Json.stored ms) := by
  rw [Json.get_stored h, hv]
  rfl

end Fields

/-! ## Round trips, record by record -/

section RoundTrip

variable (V : PythonValues)

theorem snapshotPayload_keys (s : ResourceSnapshot) : ((snapshotPayload s).map Prod.fst).Nodup := by
  show ["path", "exists", "file_type", "content_hash", "size", "mtime_ns", "symlink_target", "device", "inode",
    "ctime_ns"].Nodup
  decide

/-- What both decoders make of the texts of a stored snapshot. -/
theorem snapshot_fields (s : ResourceSnapshot) :
    ({ path := .ofText (V.textOf (.str s.path.text))
       pathExists := s.pathExists
       fileType := V.textOf (.str s.fileType)
       contentHash := optionalStr V (Json.get (Json.stored (snapshotPayload s)) "content_hash")
       size := s.size
       mtimeNs := s.mtimeNs
       symlinkTarget := optionalStr V (Json.get (Json.stored (snapshotPayload s)) "symlink_target")
       device := s.device
       inode := s.inode
       ctimeNs := s.ctimeNs } : ResourceSnapshot) = s := by
  rw [optionalStr_stored V (snapshotPayload_keys s) "content_hash" s.contentHash rfl,
    optionalStr_stored V (snapshotPayload_keys s) "symlink_target" s.symlinkTarget rfl]
  show { s with path := .ofText s.path.text } = s
  rw [PosixPath.ofText_text]

/-- A stored snapshot is read by `tree_backup_from_journal_payload`, -/
theorem resourceSnapshotFromPayload_stored (s : ResourceSnapshot) :
    resourceSnapshotFromPayload V (Json.stored (snapshotPayload s)) = .ok s := by
  have h := snapshotPayload_keys s
  simp only [resourceSnapshotFromPayload, bind_eq_ok, pure_eq_ok]
  refine ⟨_, requiredValue_text h "path" rfl _, s.pathExists, ?_, _, requiredValue_text h "file_type" rfl _,
    s.size, optionalInt_stored V h "size" _ rfl, s.mtimeNs, optionalInt_stored V h "mtime_ns" _ rfl,
    s.device, optionalInt_stored V h "device" _ rfl, s.inode, optionalInt_stored V h "inode" _ rfl,
    s.ctimeNs, optionalInt_stored V h "ctime_ns" _ rfl, snapshot_fields V s⟩
  rw [boolean_stored h "exists" rfl]
  rfl

/-- and by the recovery. -/
theorem knownResourceSnapshotFromPayload_stored (s : ResourceSnapshot) :
    knownResourceSnapshotFromPayload V (Json.stored (snapshotPayload s)) = .ok s := by
  have h := snapshotPayload_keys s
  simp only [knownResourceSnapshotFromPayload, bind_eq_ok, pure_eq_ok]
  refine ⟨_, getItem_text h "path" rfl, s.pathExists, ?_, _, getItem_text h "file_type" rfl,
    s.size, optionalIntFromPayload_stored V h "size" _ rfl, s.mtimeNs, optionalIntFromPayload_stored V h "mtime_ns" _ rfl,
    s.device, optionalIntFromPayload_stored V h "device" _ rfl, s.inode, optionalIntFromPayload_stored V h "inode" _ rfl,
    s.ctimeNs, optionalIntFromPayload_stored V h "ctime_ns" _ rfl, snapshot_fields V s⟩
  rw [boolean_stored h "exists" rfl]
  rfl

theorem contentRefPayload_keys (ref : ContentRef) : ((contentRefPayload ref).map Prod.fst).Nodup := by
  show ["algo", "digest", "size", "path"].Nodup
  decide

/-- The one algorithm there is. -/
theorem contentRef_algo (ref : ContentRef) : ref.1.algo = "sha256" := by
  have hok := ref.2
  simp only [ContentRefFields.postInit, bind_eq_ok, require_eq_ok] at hok
  exact hok.choose_spec.1

/-- The fields a decoder passes on are those of the reference. -/
theorem construct_contentRef (ref : ContentRef) :
    construct ContentRefFields.postInit
      { algo := "sha256", digest := V.textOf (.str ref.1.digest), size := ref.1.size,
        path := .ofText (V.textOf (.str ref.1.path.text)) } = .ok ref := by
  have hfields : { ref.1 with algo := "sha256", path := .ofText ref.1.path.text } = ref.1 := by
    rw [PosixPath.ofText_text, ← contentRef_algo ref]
  show construct ContentRefFields.postInit { ref.1 with algo := "sha256", path := .ofText ref.1.path.text } = _
  rw [hfields]
  exact construct_val ref

theorem contentRefFromPayload_stored (ref : ContentRef) :
    contentRefFromPayload V (Json.stored (contentRefPayload ref)) = .ok ref := by
  have h := contentRefPayload_keys ref
  simp only [contentRefFromPayload, bind_eq_ok]
  refine ⟨_, requiredValue_text h "digest" rfl _, ref.1.size, ?_, _, requiredValue_text h "path" rfl _,
    construct_contentRef V ref⟩
  rw [integer_stored h "size" rfl]
  rfl

theorem knownContentRefFromPayload_stored (ref : ContentRef) :
    knownContentRefFromPayload V (Json.stored (contentRefPayload ref)) = .ok ref := by
  have h := contentRefPayload_keys ref
  simp only [knownContentRefFromPayload, bind_eq_ok]
  exact ⟨_, getItem_text h "digest" rfl, _, getItem_stored h "size" rfl (by intro heq; cases heq), ref.1.size, rfl, _,
    getItem_text h "path" rfl, construct_contentRef V ref⟩

theorem entryPayload_keys (e : TreeBackupEntry) : ((entryPayload e).map Prod.fst).Nodup := by
  show ["relative_path", "kind", "snapshot", "content_address", "content_hash", "size", "permissions",
    "symlink_target"].Nodup
  decide

/-- The fields a decoder passes on are those of the entry. -/
theorem construct_treeBackupEntry (e : TreeBackupEntry) :
    construct TreeBackupEntryFields.postInit
      { relativePath := .ofText (V.textOf (.str e.1.relativePath.text))
        kind := V.textOf (.str e.1.kind)
        snapshot := e.1.snapshot
        contentAddress := e.1.contentAddress
        contentHash := optionalStr V (Json.get (Json.stored (entryPayload e)) "content_hash")
        size := e.1.size
        permissions := e.1.permissions
        symlinkTarget := optionalStr V (Json.get (Json.stored (entryPayload e)) "symlink_target") } = .ok e := by
  rw [optionalStr_stored V (entryPayload_keys e) "content_hash" e.1.contentHash rfl,
    optionalStr_stored V (entryPayload_keys e) "symlink_target" e.1.symlinkTarget rfl]
  show construct TreeBackupEntryFields.postInit { e.1 with relativePath := .ofText e.1.relativePath.text } = _
  rw [PosixPath.ofText_text]
  exact construct_val e

/-- A stored entry is read by `tree_backup_from_journal_payload`, -/
theorem treeBackupEntryFromPayload_stored (e : TreeBackupEntry) :
    treeBackupEntryFromPayload V (.obj (Json.stored (entryPayload e))) = .ok e := by
  have h := entryPayload_keys e
  simp only [treeBackupEntryFromPayload, bind_eq_ok]
  refine ⟨_, rfl, Json.stored (snapshotPayload e.1.snapshot), ?_, e.1.contentAddress.map fun ref =>
    Json.stored (contentRefPayload ref), ?_, _, requiredValue_text h "relative_path" rfl _, _,
    requiredValue_text h "kind" rfl _, _, resourceSnapshotFromPayload_stored V _, e.1.contentAddress, ?_, e.1.size,
    optionalInt_stored V h "size" _ rfl, e.1.permissions, optionalInt_stored V h "permissions" _ rfl,
    construct_treeBackupEntry V e⟩
  · rw [object_stored h "snapshot" rfl]
    rfl
  · have haddress : Json.get (entryPayload e) "content_address" = contentRefValue e.1.contentAddress := rfl
    rw [Json.get_stored h, haddress]
    cases e.1.contentAddress <;> rfl
  · cases e.1.contentAddress with
    | none => rfl
    | some ref =>
      show (contentRefFromPayload V (Json.stored (contentRefPayload ref))).map some = _
      rw [contentRefFromPayload_stored]
      rfl

/-- and by the recovery. -/
theorem knownTreeBackupEntryFromPayload_stored (e : TreeBackupEntry) :
    knownTreeBackupEntryFromPayload V (.obj (Json.stored (entryPayload e))) = .ok e := by
  have h := entryPayload_keys e
  simp only [knownTreeBackupEntryFromPayload]
  rw [object_stored h "snapshot" rfl]
  simp only [bind_eq_ok]
  refine ⟨_, getItem_text h "relative_path" rfl, _, getItem_text h "kind" rfl, _,
    knownResourceSnapshotFromPayload_stored V _, e.1.contentAddress, ?_, e.1.size,
    optionalIntFromPayload_stored V h "size" _ rfl, e.1.permissions,
    optionalIntFromPayload_stored V h "permissions" _ rfl, construct_treeBackupEntry V e⟩
  have haddress : Json.get (entryPayload e) "content_address" = contentRefValue e.1.contentAddress := rfl
  rw [Json.get_stored h, haddress]
  cases e.1.contentAddress with
  | none => rfl
  | some ref =>
    show (knownContentRefFromPayload V (Json.stored (contentRefPayload ref))).map some = _
    rw [knownContentRefFromPayload_stored]
    rfl

theorem treeBackupCheckpointPayload_keys (backup : TreeBackup) (storePath : Option String) :
    ((treeBackupCheckpointPayload backup storePath).map Prod.fst).Nodup := by
  cases storePath
  · show ["root", "entries", "format"].Nodup
    decide
  · show ["root", "entries", "format", "store_path"].Nodup
    decide

/-- Neither decoder finds a backup nested in the payload. -/
theorem nested_absent (backup : TreeBackup) (storePath : Option String) {key : String}
    (hkey : key ∉ ["root", "entries", "format", "store_path"]) :
    Json.get (Json.stored (treeBackupCheckpointPayload backup storePath)) key = .null := by
  refine Json.get_of_not_mem fun hmem => hkey ?_
  rw [Json.mem_keys_stored] at hmem
  cases storePath
  · exact List.mem_append_left ["store_path"] hmem
  · exact hmem

/-- The entries as they are stored. -/
theorem entries_stored (backup : TreeBackup) (storePath : Option String) :
    Json.get (Json.stored (treeBackupCheckpointPayload backup storePath)) "entries" =
      .arr (backup.1.entries.map fun e => .obj (Json.stored (entryPayload e))) := by
  have hentries : Json.get (treeBackupCheckpointPayload backup storePath) "entries" =
      .arr (backup.1.entries.map fun e => .obj (entryPayload e)) := rfl
  rw [Json.get_stored (treeBackupCheckpointPayload_keys backup storePath), hentries, Json.sorted, Json.sortedItems_eq,
    List.map_map]
  rfl

theorem root_stored (backup : TreeBackup) (storePath : Option String) :
    Json.get (Json.stored (treeBackupCheckpointPayload backup storePath)) "root" = .str backup.1.root.text := by
  have hroot : Json.get (treeBackupCheckpointPayload backup storePath) "root" = .str backup.1.root.text := rfl
  rw [Json.get_stored (treeBackupCheckpointPayload_keys backup storePath), hroot]
  rfl

/-- What reads each item back reads the list back. -/
theorem mapM_items {α β : Type} {encode : α → β} {decode : β → Except String α}
    (h : ∀ a, decode (encode a) = .ok a) : ∀ as : List α, (as.map encode).mapM decode = .ok as
  | [] => rfl
  | a :: as => by
    rw [List.map_cons, List.mapM_cons, h a, mapM_items h as]
    rfl

/-- The text of an absolute path says so. -/
theorem truthy_root (backup : TreeBackup) : truthy (.str backup.1.root.text) = true := by
  have hok := backup.2
  simp only [TreeBackupFields.postInit, bind_eq_ok, require_eq_ok] at hok
  have habsolute : backup.1.root.root ≠ .relative := of_decide_eq_true hok.choose_spec.1
  refine decide_eq_true fun hempty => ?_
  have hchars : backup.1.root.chars = [] := by
    rw [← String.toList_ofList (l := backup.1.root.chars)]
    exact congrArg String.toList hempty
  rw [PosixPath.chars, if_neg fun h => habsolute h.1] at hchars
  cases hroot : backup.1.root.root with
  | relative => exact habsolute hroot
  | slash =>
    rw [hroot] at hchars
    cases hchars
  | doubleSlash =>
    rw [hroot] at hchars
    cases hchars

theorem construct_treeBackup (backup : TreeBackup) :
    construct TreeBackupFields.postInit
      { root := .ofText backup.1.root.text, entries := backup.1.entries } = .ok backup := by
  rw [PosixPath.ofText_text]
  exact construct_val backup

/-- The decoder of the filesystem operations. -/
theorem treeBackupFromJournalPayload_stored (backup : TreeBackup) (storePath : Option String) :
    treeBackupFromJournalPayload V (Json.stored (treeBackupCheckpointPayload backup storePath)) = .ok backup := by
  simp only [treeBackupFromJournalPayload, bind_eq_ok]
  refine ⟨Json.stored (treeBackupCheckpointPayload backup storePath), ?_, backup.1.root, ?_, _, ?_, backup.1.entries,
    mapM_items (treeBackupEntryFromPayload_stored V) backup.1.entries, construct_val backup⟩
  · rw [treeBackupPayloadSource, nested_absent backup storePath (by decide), nested_absent backup storePath (by decide)]
    rfl
  · have hroot : optionalStr V (.str backup.1.root.text) = some backup.1.root.text := rfl
    rw [treeBackupRootFromPayload, List.filterMap_cons_some (by rw [root_stored]; exact hroot)]
    show Except.ok (PosixPath.ofText backup.1.root.text) = _
    rw [PosixPath.ofText_text]
  · rw [requiredSequence, requiredValue, entries_stored]
    rfl

/-- The decoder of the recovery. -/
theorem treeBackupFromPayload_stored (backup : TreeBackup) (storePath : Option String) (requireKnownBackup : Bool) :
    treeBackupFromPayload V (Json.stored (treeBackupCheckpointPayload backup storePath)) requireKnownBackup =
      .ok (.known backup) := by
  have hknown : knownTreeBackupFromPayload V (Json.stored (treeBackupCheckpointPayload backup storePath)) =
      some backup := by
    rw [knownTreeBackupFromPayload, getOr, root_stored, truthy_root, entries_stored]
    show ((((backup.1.entries.map fun e => Json.obj (Json.stored (entryPayload e))).mapM
      (knownTreeBackupEntryFromPayload V)).bind fun entries => construct TreeBackupFields.postInit
        { root := .ofText backup.1.root.text, entries := entries }).toOption) = _
    rw [mapM_items (knownTreeBackupEntryFromPayload_stored V)]
    show (construct TreeBackupFields.postInit
      { root := .ofText backup.1.root.text, entries := backup.1.entries }).toOption = _
    rw [construct_treeBackup]
    rfl
  simp only [treeBackupFromPayload, nested_absent backup storePath (show "backup" ∉ _ by decide), hknown]

end RoundTrip

/-- A tree backup, whatever its constructors admitted, comes back from a checkpoint: it is encoded with or
without a store path, stored as JSON text, read and frozen, and each of the two decoders, the second
with any setting of `require_known_backup`, makes the same backup of what was stored. -/
theorem tree_backup_round_trip (V : PythonValues) (backup : TreeBackup) (storePath : Option String) :
    ∃ payload, frozenPayload (payloadText (treeBackupCheckpointPayload backup storePath)) = .ok payload ∧
      treeBackupFromJournalPayload V payload = .ok backup ∧
      ∀ requireKnownBackup, treeBackupFromPayload V payload requireKnownBackup = .ok (.known backup) :=
  ⟨_, frozenPayload_payloadText _, treeBackupFromJournalPayload_stored V backup storePath,
    treeBackupFromPayload_stored V backup storePath⟩

end SafeFsOps.TreeBackups
