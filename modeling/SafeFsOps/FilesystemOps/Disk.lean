import Mathlib.Data.List.AList
import Mathlib.Data.List.Infix
import SafeFsOps.FilesystemOps.Records
import SafeFsOps.Programs
import SafeFsOps.Tables

/-!
# The disk

What `filesystem_ops` works on, without its Windows part: one filesystem, and the
system calls on it. A name leads to an inode; an inode has a number that no other
inode has while it is there, so a file that was replaced can be told from one that
was not.

An operation is a program of system calls. What the operating system contributes
to a call, and whether the call fails on its own account, is the call's input; a
process killed inside an operation is an operation whose inputs end.

- `paths.py` and `snapshots.py`: the checks of a path, and what is seen there.
- `SameOrOther`: what is at a path was there before, or is another inode.
-/

namespace SafeFsOps

/-! ## Inodes -/

/-- What an inode is, with what is in it. -/
inductive Node where
  | file (content : Bytes)
  | directory (size : Nat)
  | symlink (target : String)
  | other (size : Nat)
deriving DecidableEq

namespace Node

/-- `_file_type_from_stat`. -/
def fileType : Node → FileType
  | file _ => .file
  | directory _ => .directory
  | symlink _ => .symlink
  | other _ => .other

/-- `st_size`. -/
def size : Node → Nat
  | file content => content.length
  | directory n | other n => n
  | symlink target => target.utf8ByteSize

/-- The content hash of a regular file. -/
def contentHash : Node → Option ContentDigest
  | file content => some (contentDigest content)
  | _ => none

/-- `os.readlink`. -/
def symlinkTarget : Node → Option String
  | symlink target => some target
  | _ => none

end Node

structure Inode where
  number : Nat
  node : Node
  permissions : Nat
  mtimeNs : Nat
  ctimeNs : Nat
deriving DecidableEq

/-- A filesystem, and the umask of the process that works on it. -/
structure Disk where
  device : Nat
  umask : Nat
  entries : AList fun _ : Path => Inode

namespace Disk

/-- What a path leads to; the last part of it is not followed. -/
def lookup (d : Disk) (path : Path) : Option Inode := d.entries.lookup path

/-- Whether an inode of that number is there. -/
def uses (d : Disk) (number : Nat) : Bool := d.entries.entries.any fun e => e.2.number = number

/-- Put an inode under a path. -/
def put (d : Disk) (path : Path) (inode : Inode) : Disk := { d with entries := d.entries.insert path inode }

/-- Take a name away. -/
def remove (d : Disk) (path : Path) : Disk := { d with entries := d.entries.erase path }

/-- Change the inode under a path. -/
def modify (d : Disk) (path : Path) (f : Inode → Inode) : Disk :=
  match d.lookup path with
  | some inode => d.put path (f inode)
  | none => d

/-- The file type under a path. -/
def typeAt (d : Disk) (path : Path) : FileType := ((d.lookup path).map fun i => i.node.fileType).getD .missing

/-- A directory; the root always is one. -/
def isDirectory (d : Disk) (path : Path) : Bool := path = [] ∨ d.typeAt path = .directory

variable {d : Disk} {p q : Path} {i : Inode} {n : Nat}

@[simp] theorem lookup_put : (d.put p i).lookup p = some i := AList.lookup_insert _

theorem lookup_put_ne (h : q ≠ p) : (d.put p i).lookup q = d.lookup q := AList.lookup_insert_ne h

@[simp] theorem lookup_remove : (d.remove p).lookup p = none := AList.lookup_erase _ _

theorem lookup_remove_ne (h : q ≠ p) : (d.remove p).lookup q = d.lookup q := AList.lookup_erase_ne h

theorem lookup_modify (f : Inode → Inode) : (d.modify p f).lookup p = (d.lookup p).map f := by
  unfold modify
  split
  · next inode h => rw [lookup_put, h, Option.map_some]
  · next h => rw [h, Option.map_none]

theorem lookup_modify_ne {f : Inode → Inode} (h : q ≠ p) : (d.modify p f).lookup q = d.lookup q := by
  unfold modify
  split
  · exact lookup_put_ne h
  · rfl

theorem uses_of_lookup (h : d.lookup p = some i) : d.uses i.number = true := by
  refine List.any_eq_true.2 ⟨⟨p, i⟩, AList.mem_lookup_iff.1 h, ?_⟩
  exact decide_eq_true rfl

theorem number_ne (hn : d.uses n = false) (h : d.lookup p = some i) : i.number ≠ n := by
  rintro rfl
  rw [uses_of_lookup h] at hn
  cases hn

end Disk

/-! ## System calls -/

/-- What the operating system contributes to one system call: a failure, the number
of a new inode, a random name, the time, and how much of a failed write was written. -/
structure OsAnswer where
  fault : Option FilesystemError
  number : Nat
  token : String
  time : Nat
  written : Nat

/-- An operation on the disk. -/
abbrev Sys (α : Type) := Program Disk OsAnswer FilesystemError α

variable {α : Type}

/-- System calls that look. -/
def look (read : Disk → Except FilesystemError α) : Sys α :=
  .call fun i d =>
    match i.fault with
    | some e => (.error e, d)
    | none => (read d, d)

/-- A system call that changes the disk, or fails and does not. -/
def change (act : OsAnswer → Disk → Except FilesystemError (α × Disk)) : Sys α :=
  .call fun i d =>
    match i.fault with
    | some e => (.error e, d)
    | none =>
      match act i d with
      | .ok (a, d') => (.ok a, d')
      | .error e => (.error e, d)

/-- An operation as its caller meets it: what it comes to, and the disk it leaves. -/
def Sys.run (p : Sys α) (answers : List OsAnswer) (d : Disk) : Except FilesystemError α × Disk :=
  match p.exec d answers with
  | (some (r, _), d') => (r, d')
  | (none, d') => (.error (.osError "killed"), d')

/-- `os.fsync`, which changes nothing that can be seen. -/
def fsync : Sys Unit := look fun _ => .ok ()

/-- A new inode under a new name, of a number that is not in use. -/
def Disk.create (d : Disk) (i : OsAnswer) (path : Path) (node : Node) (mode : Nat) : Except FilesystemError Disk :=
  if d.uses i.number then .error (.osError "no inode")
  else .ok (d.put path ⟨i.number, node, mode - (mode &&& d.umask), i.time, i.time⟩)

/-! ## Paths -/

/-- The directories above a path, from the top; the root is none of them. -/
def ancestors (path : Path) : List Path := (parentPath path).inits.tail

/-- Why an operation refuses what it is shown. -/
def refused (operation what shown : String) : FilesystemError :=
  .unsafePath (operation ++ " refused " ++ what ++ ": " ++ shown)

/-- `ensure_safe_parent_chain`: no directory above the path redirects, from the bottom. -/
def ensureSafeParentChain (operation : String) (d : Disk) (path : Path) : Except FilesystemError Unit :=
  match (ancestors path).reverse.find? fun p => d.typeAt p ≠ .missing ∧ d.typeAt p ≠ .directory with
  | none => .ok ()
  | some p => .error (refused operation (if d.typeAt p = .symlink then "because parent path redirects elsewhere"
      else "because parent path is not a directory") (pathText p))

/-- `_raise_if_redirecting` and the check for a regular file. -/
def requireRegular (operation : String) (d : Disk) (path : Path) (shown : String) : Except FilesystemError Unit :=
  match d.typeAt path with
  | .missing | .file => .ok ()
  | .symlink => .error (refused operation "for symlink path" shown)
  | _ => .error (refused operation "for non-regular file" shown)

/-- `ensure_safe_write_path`. -/
def ensureSafeWritePath (operation : String) (d : Disk) (path : Path) : Except FilesystemError Unit := do
  ensureSafeParentChain operation d path
  requireRegular operation d path (pathText path)

/-- `ensure_safe_delete_path`. -/
def ensureSafeDeletePath (operation : String) (missingOk : Bool) (d : Disk) (path : Path) :
    Except FilesystemError Unit := do
  ensureSafeParentChain operation d path
  require (d.typeAt path = .missing → missingOk = true) (.fileNotFound path)
  requireRegular operation d path (pathText path)

/-- `_open_existing_directory_descriptor_relative` and `_open_parent_directory_descriptor_relative`:
every part of the path is opened without following it. The descriptor is the number of
the directory. -/
def openDirectory (operation what : String) (d : Disk) (path : Path) : Except FilesystemError (Option Nat) :=
  match path.inits.tail.find? fun p => d.isDirectory p = false with
  | none => .ok ((d.lookup path).map Inode.number)
  | some p => .error (refused operation (match d.typeAt p with
      | .symlink => "because parent path redirects elsewhere"
      | .missing => "because directory could not be opened safely"
      | _ => "because " ++ what ++ " is not a directory") (pathText p))

/-! ## Snapshots -/

/-- What a snapshot of the path shows. -/
def Disk.snapshotAt (d : Disk) (path : Path) : ResourceSnapshot :=
  match d.lookup path with
  | none => .missing path
  | some i =>
    { path := path
      pathExists := true
      fileType := i.node.fileType
      contentHash := i.node.contentHash
      size := some i.node.size
      mtimeNs := some i.mtimeNs
      symlinkTarget := i.node.symlinkTarget
      device := some d.device
      inode := some i.number
      ctimeNs := some i.ctimeNs }

/-- `snapshot_resource`; nobody else is at work while it looks. -/
def snapshotResource (path : Path) : Sys ResourceSnapshot :=
  look fun d => do
    let _ ← openDirectory "snapshot" "parent path" d (parentPath path)
    return d.snapshotAt path

/-- What is at the path is what was there, or another inode, or nothing. -/
def SameOrOther (d₀ d : Disk) (path : Path) : Prop :=
  d.lookup path = d₀.lookup path ∨ (d.lookup path).map Inode.number ≠ (d₀.lookup path).map Inode.number

/-- So a change shows in the snapshot. -/
theorem SameOrOther.eq_of_inode {d₀ d : Disk} {path : Path} (h : SameOrOther d₀ d path)
    (hinode : (d.snapshotAt path).inode = (d₀.snapshotAt path).inode) : d.lookup path = d₀.lookup path := by
  have hnumber : ∀ e : Disk, (e.snapshotAt path).inode = (e.lookup path).map Inode.number := by
    intro e
    unfold Disk.snapshotAt
    cases e.lookup path <;> rfl
  rw [hnumber, hnumber] at hinode
  exact h.resolve_right fun hne => hne hinode

end SafeFsOps
