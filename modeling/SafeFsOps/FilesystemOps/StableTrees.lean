import Mathlib
import SafeFsOps.FilesystemOps.Disk

/-!
# Stable trees

A directory tree nobody changes while it is looked at, on POSIX or on Windows, and what
`inspect_path`, `snapshot_resource` and `snapshot_resource_windows` see of it. A path is
not followed here: what is behind a symlink or a junction has no path of its own.

A junction is a directory of Windows that leads elsewhere. Python does not take it for a
symlink, so `exists` and `is_dir` answer for the place it leads to.
-/

namespace SafeFsOps.Bundles

/-- `os.name`. -/
inductive Platform where
  | posix | windows
deriving DecidableEq

/-- An absolute path without dots: its anchor (`/`, `//`, a drive or a share), and the
parts below it, on Windows in the case they are compared in. -/
structure LocalPath where
  anchor : String
  parts : List String
deriving DecidableEq

namespace LocalPath

/-- `path / name`. -/
def child (p : LocalPath) (name : String) : LocalPath := { p with parts := p.parts ++ [name] }

/-- `str(path)`. -/
def text (platform : Platform) (p : LocalPath) : String :=
  p.anchor ++ (if platform = .windows then "\\" else "/").intercalate p.parts

/-- `path.parent`. -/
def parent (p : LocalPath) : LocalPath := { p with parts := p.parts.dropLast }

/-- The path and everything above it, from the anchor down. -/
def fromAnchor (p : LocalPath) : List LocalPath := p.parts.inits.map fun parts => { p with parts := parts }

@[simp] theorem child_parts (p : LocalPath) (name : String) : (p.child name).parts = p.parts ++ [name] := rfl

theorem parent_child (p : LocalPath) (name : String) : (p.child name).parent = p := by
  unfold parent child
  rw [List.dropLast_concat]

theorem fromAnchor_child (p : LocalPath) (name : String) :
    (p.child name).fromAnchor = p.fromAnchor ++ [p.child name] := by
  simp [fromAnchor, child, List.inits_append]

end LocalPath

/-- What is at a path: the inode, its device, whether `Path.is_mount` says so of it, whether
it may be opened, and for a reparse point what is found where it leads. -/
structure TreeNode extends Inode where
  device : Nat
  isMount : Bool
  mayOpen : Bool
  reparse : Option FileType
deriving DecidableEq

namespace TreeNode

/-- The type of what is there itself. -/
def fileType (n : TreeNode) : FileType := n.node.fileType

/-- A directory that leads nowhere else. -/
def isRealDirectory (n : TreeNode) : Bool := n.fileType = .directory ∧ n.reparse = none

/-- A directory that is neither a mount point nor a reparse point. -/
def isPlainDirectory (n : TreeNode) : Bool := n.isRealDirectory ∧ n.isMount = false

/-- A junction to nowhere. -/
def isDangling (n : TreeNode) : Bool := n.fileType ≠ .symlink ∧ n.reparse = some .missing

end TreeNode

/-- A tree that stays as it is. There are reparse points on Windows only. -/
structure StableTree (platform : Platform) where
  nodeAt : LocalPath → Option TreeNode
  names : LocalPath → List String
  depth : Nat
  mem_names : ∀ p name, name ∈ names p ↔ (nodeAt (p.child name)).isSome
  inside : ∀ p name, (nodeAt (p.child name)).isSome → ∃ n, nodeAt p = some n ∧ n.isRealDirectory = true
  bounded : ∀ p, (nodeAt p).isSome → p.parts.length ≤ depth
  reparsed : platform = .posix → ∀ p n, nodeAt p = some n → n.reparse = none

namespace StableTree

variable {platform : Platform} (tree : StableTree platform)

/-- What is at the path, if it has a property. -/
def is (property : TreeNode → Bool) (p : LocalPath) : Bool := (tree.nodeAt p).any property

/-- How many directories are below a path, this one counted, if there are `levels` levels. -/
def weight : Nat → LocalPath → Nat
  | 0, _ => 1
  | levels + 1, p => 1 + ((tree.names p).map fun name => weight levels (p.child name)).sum

theorem weight_pos (levels : Nat) (p : LocalPath) : 0 < tree.weight levels p := by
  cases levels with
  | zero => exact Nat.one_pos
  | succ levels =>
    rw [weight]
    omega

end StableTree

/-! ## What is seen -/

/-- `PathSafety`. -/
structure PathSafety where
  path : LocalPath
  pathExists : Bool
  fileType : FileType
  isMount : Bool
  isWindowsReparsePoint : Bool
deriving DecidableEq

/-- `ResourceSnapshot`. -/
structure ResourceSnapshot where
  path : LocalPath
  pathExists : Bool
  fileType : FileType
  contentHash : Option ContentDigest
  size : Option Nat
  mtimeNs : Option Nat
  symlinkTarget : Option String
  device : Option Nat
  inode : Option Nat
  ctimeNs : Option Nat
deriving DecidableEq

/-- The snapshot of a path nothing is at. -/
def ResourceSnapshot.missing (path : LocalPath) : ResourceSnapshot :=
  ⟨path, false, .missing, none, none, none, none, none, none, none⟩

section Seen

variable {platform : Platform} (tree : StableTree platform)

/-- `_file_type`. -/
def seenType (p : LocalPath) : FileType :=
  match tree.nodeAt p with
  | none => .missing
  | some n => if n.fileType = .symlink then .symlink else n.reparse.getD n.fileType

/-- `inspect_path`. -/
def inspectPath (p : LocalPath) : PathSafety where
  path := p
  pathExists := seenType tree p ≠ .missing
  fileType := seenType tree p
  isMount := tree.is TreeNode.isMount p
  isWindowsReparsePoint :=
    -- of what does not exist it is not asked
    if seenType tree p = .missing then false
    else platform = .windows && tree.is (fun n => n.reparse.isSome) p

/-- `_open_directory_anchor` and `_open_child_directory`. -/
def openDirectoryAt (p : LocalPath) : Except FilesystemError Unit :=
  if tree.is (fun n => n.fileType = .directory && n.mayOpen) p then .ok ()
  else .error (refused "snapshot"
    (if p.parts = [] then "because directory could not be opened safely"
      else if seenType tree p = .symlink ∨ (inspectPath tree p).isWindowsReparsePoint = true then
        "because parent path redirects elsewhere"
      else if seenType tree p ≠ .missing ∧ seenType tree p ≠ .directory then
        "because parent path is not a directory"
      else "because directory could not be opened safely") (p.text platform))

/-- What a snapshot of an inode shows. -/
def TreeNode.snapshot (n : TreeNode) (p : LocalPath) (fileType : FileType) (ctimeNs : Option Nat) :
    ResourceSnapshot where
  path := p
  pathExists := true
  fileType := fileType
  contentHash := n.node.contentHash
  size := some n.node.size
  mtimeNs := some n.mtimeNs
  symlinkTarget := n.node.symlinkTarget
  device := some n.device
  inode := some n.number
  ctimeNs := ctimeNs

/-- A file that may not be opened is not hashed. -/
def requireOpens (n : TreeNode) (p : LocalPath) (what : String) : Except FilesystemError Unit :=
  require (n.fileType = .file → n.mayOpen = true) (refused "snapshot" what (p.text platform))

/-- `snapshot_resource`: the parents are opened one by one, and the last part is looked up in
the last of them. -/
def snapshotResourcePosix (p : LocalPath) : Except FilesystemError ResourceSnapshot := do
  p.parent.fromAnchor.forM (openDirectoryAt tree)
  -- the anchor has no name, and nothing is found under the empty one
  match if p.parts = [] then none else tree.nodeAt p with
  | none => return .missing p
  | some n =>
    @requireOpens platform n p "because classified file could not be opened safely"
    return n.snapshot p n.fileType (some n.ctimeNs)

/-- `_ensure_safe_snapshot_path`: one part of it. -/
def refuseRedirecting (p : LocalPath) : Except FilesystemError Unit :=
  require ((inspectPath tree p).fileType ≠ .symlink ∧ (inspectPath tree p).isWindowsReparsePoint = false)
    (refused "snapshot" "because path redirects elsewhere" (p.text platform))

/-- `snapshot_resource_windows`. -/
def snapshotResourceWindows (p : LocalPath) : Except FilesystemError ResourceSnapshot := do
  p.fromAnchor.reverse.forM (refuseRedirecting tree)
  match tree.nodeAt p with
  | none => return .missing p
  | some n =>
    @requireOpens platform n p "because classified file could not be read safely"
    return { n.snapshot p (if n.fileType = .symlink then .other else n.fileType) none with symlinkTarget := none }

/-- `_platform_snapshot_resource`. -/
def platformSnapshotResource (p : LocalPath) : Except FilesystemError ResourceSnapshot :=
  if platform = .windows then snapshotResourceWindows tree p else snapshotResourcePosix tree p

/-- `path.iterdir()`. -/
def iterdir (p : LocalPath) : Except FilesystemError (List LocalPath) :=
  if tree.is (fun n => n.isRealDirectory && n.mayOpen) p then .ok ((tree.names p).map p.child)
  else .error (.osError (p.text platform))

end Seen

end SafeFsOps.Bundles
