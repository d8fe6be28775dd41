import Mathlib.Data.List.AList
import SafeFsOps.FilesystemOps.Records
import SafeFsOps.Interference
import SafeFsOps.PosixPaths

/-!
# Files, names and descriptors

The filesystem as several processes meet it at once. A directory is a file that holds
names, a name leads to a file, and a file is known by its device and its number; an open
descriptor is a file that was reached once, by whatever names. Between two system calls
anything may have been renamed, so what a path leads to is a question to be asked again
each time.

A path is walked part by part, and a symlink on the way is put in place of what it is
called; the last part is only followed where the call says so. The calls that take a
directory and a name (`openat` and its like) walk nothing.

> `resolve_child`: below a directory a path leads where the name in that directory leads.
-/

namespace SafeFsOps.Descriptors

open Program

/-! ## Files -/

/-- `(st_dev, st_ino)`. -/
structure FileId where
  device : Nat
  inode : Nat
deriving DecidableEq

/-- What a file is, with what is in it. -/
inductive Node where
  | file (content : Bytes)
  | directory (parent : FileId) (entries : AList fun _ : String => FileId)
  | symlink (target : String)
  | other

/-- `_file_type_from_stat`. -/
def Node.fileType : Node → FileType
  | file _ => .file
  | directory _ _ => .directory
  | symlink _ => .symlink
  | other => .other

/-- Where a name leads in what is a directory; nothing has the empty name. -/
def Node.entry : Node → String → Option FileId
  | directory _ entries, name => if name = "" then none else entries.lookup name
  | _, _ => none

structure Inode where
  node : Node
  permissions : Nat
  /-- `st_size` of what has no content. -/
  extent : Nat
  mtimeNs : Nat
  ctimeNs : Nat

/-- `st_size`. -/
def Inode.size (i : Inode) : Nat :=
  match i.node with
  | .file content => content.length
  | .symlink target => target.utf8ByteSize
  | _ => i.extent

/-- The files there are, by number, and the umask of the processes that work on them. -/
structure Filesystem where
  inodes : FileId → Option Inode
  root : FileId
  umask : Nat

/-- `os.stat_result`. -/
structure Stat where
  id : FileId
  fileType : FileType
  permissions : Nat
  size : Nat
  mtimeNs : Nat
  ctimeNs : Nat
deriving DecidableEq

def Inode.stat (i : Inode) (id : FileId) : Stat :=
  { id := id
    fileType := i.node.fileType
    permissions := i.permissions
    size := i.size
    mtimeNs := i.mtimeNs
    ctimeNs := i.ctimeNs }

namespace Filesystem

variable {fs : Filesystem} {d e id : FileId} {n m : String}

def node (fs : Filesystem) (id : FileId) : Option Node := (fs.inodes id).map Inode.node

def isDirectory (fs : Filesystem) (id : FileId) : Bool := (fs.node id).any fun n => n.fileType = .directory

/-- What is in a regular file. -/
def content (fs : Filesystem) (id : FileId) : Option Bytes :=
  match fs.node id with
  | some (.file bytes) => some bytes
  | _ => none

def linkTarget (fs : Filesystem) (id : FileId) : Option String :=
  match fs.node id with
  | some (.symlink target) => some target
  | _ => none

def stat (fs : Filesystem) (id : FileId) : Option Stat := (fs.inodes id).map fun i => i.stat id

/-- Where a name in a directory leads. -/
def entry (fs : Filesystem) (d : FileId) (name : String) : Option FileId := (fs.node d).bind fun n => n.entry name

/-! ## Paths -/

/-- One part of a path. -/
def enter (fs : Filesystem) (d : FileId) (name : String) : Except FilesystemError FileId :=
  match fs.node d with
  | some (.directory parent _) =>
    if name = ".." then .ok parent
    else
      match fs.entry d name with
      | some id => .ok id
      | none => .error (.fileNotFound [name])
  | _ => .error (.osError "Not a directory")

/-- The parts of a path up to the first symlink that is followed, which is left to `redirect`. -/
def walkTo (fs : Filesystem) (follow : Bool)
    (redirect : FileId → PosixPath → List String → Except FilesystemError FileId) :
    FileId → List String → Except FilesystemError FileId
  | d, [] => .ok d
  | d, name :: rest =>
    match fs.enter d name with
    | .error e => .error e
    | .ok next =>
      match fs.linkTarget next with
      | none => fs.walkTo follow redirect next rest
      | some target => if rest = [] ∧ follow = false then .ok next else redirect d (.ofText target) rest

/-- Where a path leads from a directory, with so many symlinks on the way. -/
def walk (fs : Filesystem) (follow : Bool) : Nat → FileId → List String → Except FilesystemError FileId
  | 0 => fs.walkTo follow fun _ _ _ => .error (.osError "Too many levels of symbolic links")
  | links + 1 => fs.walkTo follow fun d target rest =>
    fs.walk follow links (if target.isAbsolute then fs.root else d) (target.parts ++ rest)

/-- Where an absolute path leads. -/
def resolve (fs : Filesystem) (follow : Bool) (path : Path) : Except FilesystemError FileId :=
  fs.walk follow 40 fs.root path

/-- What is at the end of a path. -/
def statPath (fs : Filesystem) (follow : Bool) (path : Path) : Except FilesystemError Stat := do
  let id ← fs.resolve follow path
  (fs.stat id).elim (.error (.fileNotFound path)) .ok

theorem resolve_nil {follow : Bool} : fs.resolve follow [] = .ok fs.root := rfl

theorem isDirectory_iff : fs.isDirectory id = true ↔ ∃ parent entries, fs.node id = some (.directory parent entries) := by
  unfold isDirectory
  cases fs.node id with
  | none => simp
  | some node => cases node <;> simp [Node.fileType]

theorem isDirectory_of_entry (h : fs.entry d n = some id) : fs.isDirectory d = true := by
  obtain ⟨node, hnode, hentry⟩ := Option.bind_eq_some_iff.1 h
  cases node with
  | directory parent entries => exact isDirectory_iff.2 ⟨parent, entries, hnode⟩
  | file | symlink | other => cases hentry

theorem linkTarget_of_directory (h : fs.isDirectory id = true) : fs.linkTarget id = none := by
  obtain ⟨parent, entries, hnode⟩ := isDirectory_iff.1 h
  rw [linkTarget, hnode]

theorem walkTo_child {redirect redirect' : FileId → PosixPath → List String → Except FilesystemError FileId}
    (hd : fs.isDirectory d = true)
    (hredirect : ∀ e target rest, redirect e target rest = .ok d → redirect' e target (rest ++ [n]) = fs.enter d n) :
    ∀ {parts : List String} {e : FileId}, fs.walkTo false redirect e parts = .ok d →
      fs.walkTo false redirect' e (parts ++ [n]) = fs.enter d n
  | [], e, h => by
    cases h
    rw [List.nil_append, walkTo]
    cases fs.enter d n with
    | error e => rfl
    | ok next =>
      dsimp only
      cases fs.linkTarget next with
      | none => rfl
      | some target => exact if_pos ⟨rfl, rfl⟩
  | name :: rest, e, h => by
    rw [walkTo] at h
    rw [List.cons_append, walkTo]
    cases henter : fs.enter e name with
    | error err =>
      rw [henter] at h
      cases h
    | ok next =>
      rw [henter] at h
      dsimp only at h ⊢
      cases hlink : fs.linkTarget next with
      | none =>
        rw [hlink] at h
        exact walkTo_child hd hredirect h
      | some target =>
        rw [hlink] at h
        dsimp only at h ⊢
        split at h
        · -- a symlink that is not followed is no directory
          cases h
          rw [linkTarget_of_directory hd] at hlink
          cases hlink
        · rw [if_neg (by simp)]
          exact hredirect _ _ _ h

/-- A path that leads to a directory, one part longer. -/
theorem walk_child (hd : fs.isDirectory d = true) : ∀ {links : Nat} {parts : List String} {e : FileId},
    fs.walk false links e parts = .ok d → fs.walk false links e (parts ++ [n]) = fs.enter d n
  | 0, _, _, h => walkTo_child hd (fun _ _ _ h => by cases h) h
  | _ + 1, _, _, h => by
    refine walkTo_child hd (fun e target rest h => ?_) h
    rw [← List.append_assoc]
    exact walk_child hd h

/-- Below a directory a path leads where the name in that directory leads. -/
theorem resolve_child {way : Path} (hway : fs.resolve false way = .ok d) (hd : fs.isDirectory d = true) :
    fs.resolve false (way ++ [n]) = fs.enter d n := walk_child hd hway

theorem enter_eq (hd : fs.isDirectory d = true) (hn : n ≠ "..") :
    fs.enter d n = match fs.entry d n with | some id => .ok id | none => .error (.fileNotFound [n]) := by
  obtain ⟨parent, entries, hnode⟩ := isDirectory_iff.1 hd
  rw [enter, hnode]
  exact if_neg hn

theorem walkTo_concat {redirect redirect' : FileId → PosixPath → List String → Except FilesystemError FileId}
    (hredirect : ∀ e target rest, redirect e target (rest ++ [n]) =
      (redirect' e target rest).bind fun d => fs.enter d n) :
    ∀ {parts : List String} {e : FileId}, fs.walkTo false redirect e (parts ++ [n]) =
      (fs.walkTo true redirect' e parts).bind fun d => fs.enter d n
  | [], e => by
    show fs.walkTo false redirect e [n] = fs.enter e n
    rw [walkTo]
    cases fs.enter e n with
    | error _ => rfl
    | ok next =>
      dsimp only
      cases fs.linkTarget next with
      | none => rfl
      | some target => exact if_pos ⟨rfl, rfl⟩
  | name :: rest, e => by
    rw [List.cons_append, walkTo, walkTo]
    cases fs.enter e name with
    | error _ => rfl
    | ok next =>
      dsimp only
      cases fs.linkTarget next with
      | none => exact walkTo_concat hredirect
      | some target =>
        dsimp only
        rw [if_neg (by simp), if_neg (by simp)]
        exact hredirect e _ rest

theorem walk_concat : ∀ {links : Nat} {parts : List String} {e : FileId},
    fs.walk false links e (parts ++ [n]) = (fs.walk true links e parts).bind fun d => fs.enter d n
  | 0, _, _ => walkTo_concat fun _ _ _ => rfl
  | _ + 1, _, _ => by
    refine walkTo_concat fun e target rest => ?_
    rw [← List.append_assoc]
    exact walk_concat

/-- The last part of a path is a name in the directory that the rest of it leads to, through
whatever symlinks. -/
theorem resolve_concat {way : Path} :
    fs.resolve false (way ++ [n]) = (fs.resolve true way).bind fun d => fs.enter d n := walk_concat

theorem walkTo_follow {redirect redirect' : FileId → PosixPath → List String → Except FilesystemError FileId}
    (hlink : fs.linkTarget d = none) (hredirect : ∀ e target rest, redirect e target rest = .ok d →
      redirect' e target rest = .ok d) :
    ∀ {parts : List String} {e : FileId}, fs.walkTo false redirect e parts = .ok d →
      fs.walkTo true redirect' e parts = .ok d
  | [], _, h => h
  | name :: rest, e, h => by
    rw [walkTo] at h ⊢
    cases henter : fs.enter e name with
    | error _ =>
      rw [henter] at h
      cases h
    | ok next =>
      rw [henter] at h
      dsimp only at h ⊢
      cases htarget : fs.linkTarget next with
      | none =>
        rw [htarget] at h
        exact walkTo_follow hlink hredirect h
      | some target =>
        rw [htarget] at h
        dsimp only at h ⊢
        rw [if_neg (by simp)]
        split at h
        · cases h
          rw [hlink] at htarget
          cases htarget
        · exact hredirect _ _ _ h

theorem walk_follow (hlink : fs.linkTarget d = none) : ∀ {links : Nat} {parts : List String} {e : FileId},
    fs.walk false links e parts = .ok d → fs.walk true links e parts = .ok d
  | 0, _, _, h => walkTo_follow hlink (fun _ _ _ h => by cases h) h
  | _ + 1, _, _, h => walkTo_follow hlink (fun _ _ _ h => walk_follow hlink h) h

/-- Part by part, the way leads down to the directory. -/
inductive Down (fs : Filesystem) : Path → FileId → Prop
  | root (directory : fs.isDirectory fs.root = true) : Down fs [] fs.root
  | child {way : Path} {d next : FileId} {name : String} (above : Down fs way d) (entry : fs.entry d name = some next)
      (directory : fs.isDirectory next = true) : Down fs (way ++ [name]) next

theorem Down.directory {way : Path} (h : fs.Down way d) : fs.isDirectory d = true := by
  cases h with
  | root hd => exact hd
  | child _ _ hd => exact hd

theorem Down.resolve_false {way : Path} (h : fs.Down way d) (hway : ".." ∉ way) : fs.resolve false way = .ok d := by
  induction h with
  | root => rfl
  | @child way d next name above hentry hdirectory ih =>
    rw [List.mem_append, not_or, List.mem_singleton] at hway
    rw [resolve_child (ih hway.1) above.directory, enter_eq above.directory (Ne.symm hway.2), hentry]

/-- A way down is where the path leads. -/
theorem Down.resolve {way : Path} (h : fs.Down way d) (hway : ".." ∉ way) : fs.resolve true way = .ok d :=
  walk_follow (linkTarget_of_directory h.directory) (h.resolve_false hway)

/-! ## Changes -/

/-- Put a file in its place. -/
def put (fs : Filesystem) (id : FileId) (i : Inode) : Filesystem :=
  { fs with inodes := Function.update fs.inodes id (some i) }

/-- Let a name in a directory lead to a file, or nowhere. -/
def setEntry (fs : Filesystem) (d : FileId) (name : String) (leadsTo : Option FileId) (time : Nat) : Filesystem :=
  match fs.inodes d with
  | some ⟨.directory parent entries, permissions, extent, _, _⟩ =>
    fs.put d ⟨.directory parent (match leadsTo with
      | some id => entries.insert name id
      | none => entries.erase name), permissions, extent, time, time⟩
  | _ => fs

/-- A new file under a number that is free. -/
def create (fs : Filesystem) (d : FileId) (name : String) (id : FileId) (node : Node) (mode time : Nat) :
    Except FilesystemError Filesystem :=
  if fs.isDirectory d = false ∨ name = "" then .error (.fileNotFound [name])
  else if (fs.entry d name).isSome then .error (.fileExists [name])
  else if (fs.inodes id).isSome then .error (.osError "No space left on device")
  else .ok ((fs.put id ⟨node, mode - (mode &&& fs.umask), 0, time, time⟩).setEntry d name (some id) time)

/-- `rename`, inside one directory. -/
def rename (fs : Filesystem) (d : FileId) (source target : String) (time : Nat) : Except FilesystemError Filesystem :=
  match fs.entry d source with
  | none => .error (.fileNotFound [source])
  | some id =>
    let moved := (fs.setEntry d source none time).setEntry d target (some id) time
    if target = "" then .error (.fileNotFound [target])
    else
      match fs.node id, fs.entry d target with
      | _, none => .ok moved
      | some (.directory _ _), some old =>
        if old = id then .ok fs
        else
          match fs.node old with
          | some (.directory _ entries) => if entries.keys = [] then .ok moved else .error (.osError "Directory not empty")
          | _ => .error (.osError "Not a directory")
      | _, some old =>
        -- two names of one file are left alone
        if old = id then .ok fs
        else if fs.isDirectory old then .error (.osError "Is a directory")
        else .ok moved

/-- `link`, inside one directory. -/
def link (fs : Filesystem) (d : FileId) (source target : String) (time : Nat) : Except FilesystemError Filesystem := do
  let id ← fs.walk true 40 d [source]
  if fs.isDirectory id then .error (.osError "Operation not permitted")
  else if target = "" then .error (.fileNotFound [target])
  else if (fs.entry d target).isSome then .error (.fileExists [target])
  else .ok (fs.setEntry d target (some id) time)

/-- `unlink`. -/
def unlink (fs : Filesystem) (d : FileId) (name : String) (time : Nat) : Except FilesystemError Filesystem :=
  match fs.entry d name with
  | none => .error (.fileNotFound [name])
  | some id => if fs.isDirectory id then .error (.osError "Is a directory") else .ok (fs.setEntry d name none time)

/-- Write over what is there. -/
def overwrite (content : Bytes) (offset : Nat) (bytes : Bytes) : Bytes :=
  content.take offset ++ List.replicate (offset - content.length) 0 ++ bytes ++ content.drop (offset + bytes.length)

section Changes

variable {fs' : Filesystem} {i : Inode} {leadsTo : Option FileId} {time : Nat}

@[simp] theorem node_put_self : (fs.put id i).node id = some i.node := by
  show (Function.update fs.inodes id (some i) id).map Inode.node = some i.node
  rw [Function.update_self]
  rfl

theorem node_put_ne (h : e ≠ id) : (fs.put id i).node e = fs.node e := by
  show (Function.update fs.inodes id (some i) e).map Inode.node = (fs.inodes e).map Inode.node
  rw [Function.update_of_ne h]

/-- A file put over one with the same names in it, which may be none. -/
theorem entry_put (h : ∀ m, i.node.entry m = fs.entry id m) (e : FileId) (m : String) :
    (fs.put id i).entry e m = fs.entry e m := by
  by_cases he : e = id
  · subst he
    rw [entry, node_put_self]
    exact h m
  · rw [entry, node_put_ne he]
    rfl

/-- A new file takes no name away. -/
theorem entry_put_new (hfree : fs.inodes id = none) (hnew : ∀ m, i.node.entry m = none) (e : FileId) (m : String) :
    (fs.put id i).entry e m = fs.entry e m := by
  refine entry_put (fun m => ?_) e m
  rw [hnew, entry, node, hfree]
  rfl

theorem setEntry_eq (hd : fs.isDirectory d = true) : ∃ parent entries permissions extent,
    fs.node d = some (.directory parent entries) ∧
      fs.setEntry d n leadsTo time = fs.put d ⟨.directory parent (match leadsTo with
        | some id => entries.insert n id
        | none => entries.erase n), permissions, extent, time, time⟩ := by
  obtain ⟨parent, entries, hnode⟩ := isDirectory_iff.1 hd
  obtain ⟨⟨node, permissions, extent, mtimeNs, ctimeNs⟩, hinode, heq⟩ := Option.map_eq_some_iff.1 hnode
  cases heq
  refine ⟨parent, entries, permissions, extent, hnode, ?_⟩
  rw [setEntry, hinode]

theorem entry_setEntry (hd : fs.isDirectory d = true) (hn : n ≠ "") :
    (fs.setEntry d n leadsTo time).entry d n = leadsTo := by
  obtain ⟨parent, entries, permissions, extent, -, heq⟩ := @setEntry_eq _ _ n leadsTo time hd
  rw [heq, entry, node_put_self]
  show (if n = "" then none else _) = leadsTo
  rw [if_neg hn]
  cases leadsTo with
  | none => exact AList.lookup_erase _ _
  | some id => exact AList.lookup_insert _

theorem entry_setEntry_ne (h : ¬(e = d ∧ m = n)) : (fs.setEntry d n leadsTo time).entry e m = fs.entry e m := by
  by_cases hd : fs.isDirectory d = true
  · obtain ⟨parent, entries, permissions, extent, hnode, heq⟩ :=
      @setEntry_eq _ _ n leadsTo time hd
    rw [heq]
    by_cases he : e = d
    · subst he
      have hm : m ≠ n := fun hm => h ⟨rfl, hm⟩
      rw [entry, node_put_self, entry, hnode]
      show (if m = "" then none else _) = if m = "" then none else entries.lookup m
      cases leadsTo with
      | none => rw [AList.lookup_erase_ne hm]
      | some id => rw [AList.lookup_insert_ne hm]
    · rw [entry, node_put_ne he]
      rfl
  · rw [setEntry]
    split
    · next parent entries _ _ _ _ hinode =>
      refine absurd (isDirectory_iff.2 ⟨parent, entries, ?_⟩) hd
      rw [node, hinode]
      rfl
    · rfl

theorem isDirectory_setEntry : (fs.setEntry d n leadsTo time).isDirectory e = fs.isDirectory e := by
  by_cases hd : fs.isDirectory d = true
  · obtain ⟨parent, entries, permissions, extent, hnode, heq⟩ :=
      @setEntry_eq _ _ n leadsTo time hd
    rw [heq]
    by_cases he : e = d
    · subst he
      rw [hd, isDirectory, node_put_self]
      rfl
    · rw [isDirectory, node_put_ne he]
      rfl
  · rw [setEntry]
    split
    · next parent entries _ _ _ _ hinode =>
      refine absurd (isDirectory_iff.2 ⟨parent, entries, ?_⟩) hd
      rw [node, hinode]
      rfl
    · rfl

/-- What a call that makes a file does: the name was free, and leads to the new file. -/
theorem create_ok {new : Node} {mode : Nat} (hnew : ∀ m, new.entry m = none)
    (h : fs.create d n id new mode time = .ok fs') :
    fs.isDirectory d = true ∧ fs.entry d n = none ∧ fs.inodes id = none ∧ fs'.entry d n = some id ∧
      ∀ e m, ¬(e = d ∧ m = n) → fs'.entry e m = fs.entry e m := by
  unfold create at h
  split at h
  · cases h
  next hdir =>
  obtain ⟨hd, hn⟩ := not_or.1 hdir
  rw [Bool.not_eq_false] at hd
  split at h
  · cases h
  next hentry =>
  rw [Option.not_isSome_iff_eq_none] at hentry
  split at h
  · cases h
  next hfree =>
  rw [Option.not_isSome_iff_eq_none] at hfree
  cases h
  have hne : d ≠ id := by
    rintro rfl
    rw [isDirectory, node, hfree] at hd
    cases hd
  have hd' : (fs.put id ⟨new, mode - (mode &&& fs.umask), 0, time, time⟩).isDirectory d = true := by
    rw [isDirectory, node_put_ne hne]
    exact hd
  refine ⟨hd, hentry, hfree, entry_setEntry hd' hn, fun e m hem => ?_⟩
  rw [entry_setEntry_ne hem, entry_put_new hfree hnew]

/-- What `unlink` does: the name leads nowhere any more. -/
theorem unlink_ok (h : fs.unlink d n time = .ok fs') :
    (∃ id, fs.entry d n = some id ∧ fs.isDirectory id = false) ∧ fs'.entry d n = none ∧
      ∀ e m, ¬(e = d ∧ m = n) → fs'.entry e m = fs.entry e m := by
  unfold unlink at h
  split at h
  · cases h
  next id hentry =>
  split at h
  · cases h
  next hid =>
  cases h
  have hn : n ≠ "" := by
    rintro rfl
    obtain ⟨node, -, hnode⟩ := Option.bind_eq_some_iff.1 hentry
    cases node <;> cases hnode
  refine ⟨⟨id, hentry, by simpa using hid⟩, entry_setEntry (isDirectory_of_entry hentry) hn, fun e m hem => ?_⟩
  exact entry_setEntry_ne hem

/-- What `rename` does: the other name leads where the first one led, or nothing has changed. -/
theorem rename_ok (h : fs.rename d n m time = .ok fs') : ∃ id, fs.entry d n = some id ∧ fs'.entry d m = some id ∧
    ∀ e k, ¬(e = d ∧ (k = n ∨ k = m)) → fs'.entry e k = fs.entry e k := by
  unfold rename at h
  split at h
  · cases h
  next id hentry =>
  dsimp only at h
  split at h
  · cases h
  next hm =>
  have hd := isDirectory_of_entry hentry
  have hmoved : ((fs.setEntry d n none time).setEntry d m (some id) time).entry d m = some id ∧
      ∀ e k, ¬(e = d ∧ (k = n ∨ k = m)) →
        ((fs.setEntry d n none time).setEntry d m (some id) time).entry e k = fs.entry e k := by
    refine ⟨entry_setEntry (isDirectory_setEntry.trans hd) hm, fun e k hek => ?_⟩
    rw [entry_setEntry_ne fun hem => hek ⟨hem.1, Or.inr hem.2⟩, entry_setEntry_ne fun hen => hek ⟨hen.1, Or.inl hen.2⟩]
  have hsame : ∀ old, fs.entry d m = some old → old = id →
      fs.entry d m = some id ∧ ∀ e k, ¬(e = d ∧ (k = n ∨ k = m)) → fs.entry e k = fs.entry e k :=
    fun old hold heq => ⟨heq ▸ hold, fun _ _ _ => rfl⟩
  refine ⟨id, hentry, ?_⟩
  split at h
  · cases h
    exact hmoved
  · next old _ hold =>
    split at h
    · next heq =>
      cases h
      exact hsame old hold heq
    · split at h
      · split at h
        · cases h
          exact hmoved
        · cases h
      · cases h
  · next old hold _ =>
    split at h
    · next heq =>
      cases h
      exact hsame old hold heq
    · split at h
      · cases h
      · cases h
        exact hmoved

/-! What becomes of the files themselves. -/

theorem content_of_inodes (h : fs'.inodes id = fs.inodes id) : fs'.content id = fs.content id := by
  rw [content, content, node, node, h]

theorem isDirectory_of_inodes (h : fs'.inodes id = fs.inodes id) : fs'.isDirectory id = fs.isDirectory id := by
  rw [isDirectory, isDirectory, node, node, h]

theorem content_of_directory (h : fs.isDirectory id = true) : fs.content id = none := by
  obtain ⟨parent, entries, hnode⟩ := isDirectory_iff.1 h
  rw [content, hnode]

theorem node_of_content {bytes : Bytes} (h : fs.content id = some bytes) : fs.node id = some (.file bytes) := by
  unfold content at h
  split at h
  · next hnode =>
    cases h
    exact hnode
  · cases h

theorem isDirectory_of_content (h : (fs.content id).isSome) : fs.isDirectory id = false := by
  rw [← Bool.not_eq_true]
  intro hd
  rw [content_of_directory hd] at h
  cases h

theorem inodes_of_content (h : (fs.content id).isSome) : (fs.inodes id).isSome := by
  obtain ⟨bytes, hbytes⟩ := Option.isSome_iff_exists.1 h
  obtain ⟨inode, hinode, -⟩ := Option.map_eq_some_iff.1 (node_of_content hbytes)
  rw [hinode]
  rfl

theorem isDirectory_of_none (h : fs.inodes id = none) : fs.isDirectory id = false := by
  rw [isDirectory, node, h]
  rfl

@[simp] theorem root_setEntry : (fs.setEntry d n leadsTo time).root = fs.root := by
  rw [setEntry]
  split <;> rfl

/-- Only directories have names in them. -/
theorem inodes_setEntry (he : fs.isDirectory e = false) : (fs.setEntry d n leadsTo time).inodes e = fs.inodes e := by
  rw [setEntry]
  split
  · next parent entries _ _ _ _ hinode =>
    have hne : e ≠ d := by
      rintro rfl
      rw [isDirectory, node, hinode] at he
      cases he
    exact Function.update_of_ne hne _ _
  · rfl

theorem content_setEntry : (fs.setEntry d n leadsTo time).content e = fs.content e := by
  cases he : fs.isDirectory e with
  | true => rw [content_of_directory he, content_of_directory (isDirectory_setEntry.trans he)]
  | false => exact content_of_inodes (inodes_setEntry he)

/-- What is made, and what is left alone. -/
theorem create_made {new : Node} {mode : Nat} (h : fs.create d n id new mode time = .ok fs') :
    fs'.root = fs.root ∧ fs'.node id = some new ∧ (∀ e, e ≠ id → fs'.isDirectory e = fs.isDirectory e) ∧
      ∀ e, e ≠ id → fs.isDirectory e = false → fs'.inodes e = fs.inodes e := by
  unfold create at h
  split at h
  · cases h
  next hdir =>
  obtain ⟨hd, -⟩ := not_or.1 hdir
  rw [Bool.not_eq_false] at hd
  split at h
  · cases h
  split at h
  · cases h
  next hfree =>
  rw [Option.not_isSome_iff_eq_none] at hfree
  cases h
  have hput : ∀ (i : Inode) e, e ≠ id → (fs.put id i).isDirectory e = fs.isDirectory e := by
    intro i e he
    rw [isDirectory, isDirectory, node_put_ne he]
  have hne : id ≠ d := by
    rintro rfl
    rw [isDirectory_of_none hfree] at hd
    cases hd
  refine ⟨root_setEntry, ?_, fun e he => isDirectory_setEntry.trans (hput _ e he), fun e he hfile => ?_⟩
  · rw [setEntry]
    split
    · rw [node_put_ne hne, node_put_self]
    · exact node_put_self
  · rw [inodes_setEntry ((hput _ e he).trans hfile)]
    exact Function.update_of_ne he _ _

/-- A file's second name is a change of that name alone. -/
theorem link_eq {bytes : Bytes} (hentry : fs.entry d n = some id) (hn : n ≠ "..") (hfile : fs.content id = some bytes)
    (h : fs.link d n m time = .ok fs') : fs.entry d m = none ∧ m ≠ "" ∧ fs' = fs.setEntry d m (some id) time := by
  have hlink : fs.linkTarget id = none := by rw [linkTarget, node_of_content hfile]
  have hwalk : fs.walk true 40 d [n] = .ok id := by
    show fs.walkTo true _ d [n] = _
    rw [walkTo, enter_eq (isDirectory_of_entry hentry) hn, hentry]
    dsimp only
    rw [hlink]
    rfl
  unfold link at h
  rw [hwalk] at h
  dsimp only [Bind.bind, Except.bind] at h
  split at h
  · cases h
  split at h
  · cases h
  next hm =>
  split at h
  · cases h
  next hfree =>
  cases h
  exact ⟨Option.not_isSome_iff_eq_none.1 hfree, hm, rfl⟩

/-- A file that is renamed loses the one name and gets the other. -/
theorem rename_eq (hentry : fs.entry d n = some id) (hfile : fs.isDirectory id = false) (hne : fs.entry d m ≠ some id)
    (h : fs.rename d n m time = .ok fs') : m ≠ "" ∧ (∀ old, fs.entry d m = some old → fs.isDirectory old = false) ∧
      fs' = (fs.setEntry d n none time).setEntry d m (some id) time := by
  unfold rename at h
  rw [hentry] at h
  dsimp only at h
  split at h
  · cases h
  next hm =>
  refine ⟨hm, ?_⟩
  split at h
  · next hnone =>
    cases h
    exact ⟨fun old hold => (by rw [hnone] at hold; cases hold), rfl⟩
  · next hnode _ =>
    rw [isDirectory, hnode] at hfile
    cases hfile
  · next old hold _ =>
    split at h
    · next heq => exact absurd (heq ▸ hold) hne
    · split at h
      · cases h
      · next hdir =>
        cases h
        refine ⟨fun old' hold' => ?_, rfl⟩
        rw [hold] at hold'
        cases hold'
        simpa using hdir

/-- Directories stay what they are, and where they are. -/
structure KeepsDirectories (fs fs' : Filesystem) : Prop where
  root : fs'.root = fs.root
  directory : ∀ d, fs.isDirectory d = true → fs'.isDirectory d = true
  entry : ∀ d n id, fs.entry d n = some id → fs.isDirectory id = true → fs'.entry d n = some id

theorem KeepsDirectories.refl : KeepsDirectories fs fs := ⟨rfl, fun _ hd => hd, fun _ _ _ hentry _ => hentry⟩

theorem KeepsDirectories.trans {fs'' : Filesystem} (h : KeepsDirectories fs fs') (h' : KeepsDirectories fs' fs'') :
    KeepsDirectories fs fs'' where
  root := h'.root.trans h.root
  directory d hd := h'.directory d (h.directory d hd)
  entry d n id hentry hid := h'.entry d n id (h.entry d n id hentry hid) (h.directory id hid)

/-- A way down stays one. -/
theorem Down.later {way : Path} (hd : fs.Down way d) (h : KeepsDirectories fs fs') : fs'.Down way d := by
  induction hd with
  | root hdirectory => exact h.root ▸ .root (h.root ▸ h.directory _ hdirectory)
  | child _ hentry hdirectory ih => exact .child ih (h.entry _ _ _ hentry hdirectory) (h.directory _ hdirectory)

/-- A name that leads to no directory may change. -/
theorem keepsDirectories_setEntry (hold : ∀ old, fs.entry d n = some old → fs.isDirectory old = false) :
    KeepsDirectories fs (fs.setEntry d n leadsTo time) where
  root := root_setEntry
  directory _ he := isDirectory_setEntry.trans he
  entry e m id hentry hid := by
    have hem : ¬(e = d ∧ m = n) := by
      rintro ⟨rfl, rfl⟩
      rw [hold id hentry] at hid
      cases hid
    rw [entry_setEntry_ne hem]
    exact hentry

end Changes

end Filesystem

/-! ## System calls -/

/-- What the operating system contributes to one call: a failure, the number of a new file,
a random name, the time, and how much of a read or a write is done at once. -/
structure Answer where
  fault : Option String
  unlinkFault : Option String
  fdopenFault : Option String
  id : FileId
  token : String
  time : Nat
  count : Nat

/-- An operation on files. -/
abbrev Sys (α : Type) := Program Filesystem Answer FilesystemError α

variable {α : Type}

/-- A call that looks. -/
def look (read : Filesystem → Except FilesystemError α) : Sys α :=
  .call fun i fs =>
    match i.fault with
    | some message => (.error (.osError message), fs)
    | none => (read fs, fs)

/-- A call that changes files, or fails and does not. -/
def changeUnless (fault : Answer → Option String)
    (act : Answer → Filesystem → Except FilesystemError (α × Filesystem)) : Sys α :=
  .call fun i fs =>
    match fault i with
    | some message => (.error (.osError message), fs)
    | none =>
      match act i fs with
      | .ok (a, fs') => (.ok a, fs')
      | .error e => (.error e, fs)

def change (act : Answer → Filesystem → Except FilesystemError (α × Filesystem)) : Sys α :=
  changeUnless Answer.fault act

/-- `isinstance(exc, OSError)`. -/
def isOsError : FilesystemError → Bool
  | .fileNotFound _ | .fileExists _ | .osError _ => true
  | _ => false

/-- `os.fstat`. -/
def fstat (id : FileId) : Sys Stat := look fun fs => (fs.stat id).elim (.error (.osError "Stale file handle")) .ok

/-- `os.stat(name, dir_fd=d, follow_symlinks=False)`. -/
def statAt (d : FileId) (name : String) : Sys Stat :=
  look fun fs => ((fs.entry d name).bind fs.stat).elim (.error (.fileNotFound [name])) .ok

/-- `os.stat(path)`; the last part is followed where it says so. -/
def statPath (follow : Bool) (path : Path) : Sys Stat := look fun fs => fs.statPath follow path

/-- `os.open("/", O_DIRECTORY | O_NOFOLLOW)`. -/
def openRoot : Sys FileId := look fun fs =>
  if fs.isDirectory fs.root then .ok fs.root else .error (.osError "Not a directory")

/-- `os.open(name, O_DIRECTORY | O_NOFOLLOW, dir_fd=d)`. -/
def openDirectoryAt (d : FileId) (name : String) : Sys FileId := look fun fs =>
  match fs.entry d name with
  | none => .error (.fileNotFound [name])
  | some id => if fs.isDirectory id then .ok id else .error (.osError "Not a directory")

/-- `os.open(name, O_NOFOLLOW, dir_fd=d)`. -/
def openFileAt (d : FileId) (name : String) : Sys FileId := look fun fs =>
  match fs.entry d name with
  | none => .error (.fileNotFound [name])
  | some id =>
    if (fs.linkTarget id).isSome then .error (.osError "Too many levels of symbolic links") else .ok id

/-- `path.open("rb")`. -/
def openPath (path : Path) : Sys FileId := look fun fs => do
  let id ← fs.resolve true path
  if fs.isDirectory id then .error (.osError "Is a directory") else .ok id

/-- `os.readlink(name, dir_fd=d)`. -/
def readlinkAt (d : FileId) (name : String) : Sys String := look fun fs =>
  match fs.entry d name with
  | none => .error (.fileNotFound [name])
  | some id => (fs.linkTarget id).elim (.error (.osError "Invalid argument")) .ok

/-- `os.close`, which changes nothing that can be seen. -/
def close : Sys Unit := look fun _ => .ok ()

/-- `os.fsync`. -/
def fsync : Sys Unit := look fun _ => .ok ()

/-- `os.fdopen`. -/
def fdopen : Sys Unit := changeUnless Answer.fdopenFault fun _ fs => .ok ((), fs)

/-- `os.mkdir(name, dir_fd=d)`. -/
def mkdirAt (d : FileId) (name : String) : Sys Unit := change fun i fs => do
  return ((), ← fs.create d name i.id (.directory d ∅) 0o777 i.time)

/-- `os.open(name, O_CREAT | O_EXCL, 0o600, dir_fd=d)`. -/
def createAt (d : FileId) (name : String) : Sys FileId := change fun i fs => do
  return (i.id, ← fs.create d name i.id (.file []) 0o600 i.time)

/-- `os.unlink(name, dir_fd=d)`. -/
def unlinkAt (d : FileId) (name : String) : Sys Unit :=
  changeUnless Answer.unlinkFault fun i fs => do return ((), ← fs.unlink d name i.time)

/-- `os.replace(source, target, src_dir_fd=d, dst_dir_fd=d)`. -/
def replaceAt (d : FileId) (source target : String) : Sys Unit :=
  change fun i fs => do return ((), ← fs.rename d source target i.time)

/-- `os.link(source, target, src_dir_fd=d, dst_dir_fd=d)`. -/
def linkAt (d : FileId) (source target : String) : Sys Unit :=
  change fun i fs => do return ((), ← fs.link d source target i.time)

/-- `os.fchmod`. -/
def fchmod (id : FileId) (mode : Nat) : Sys Unit := change fun i fs =>
  match fs.inodes id with
  | some inode => .ok ((), fs.put id { inode with permissions := mode, ctimeNs := i.time })
  | none => .error (.osError "Stale file handle")

/-- `os.utime(fd, ns=(mtime_ns, mtime_ns))`. -/
def futime (id : FileId) (mtimeNs : Nat) : Sys Unit := change fun i fs =>
  match fs.inodes id with
  | some inode => .ok ((), fs.put id { inode with mtimeNs := mtimeNs, ctimeNs := i.time })
  | none => .error (.osError "Stale file handle")

/-- One `write`, of as much as it takes: at least a byte. -/
def writeAt (id : FileId) (offset : Nat) (bytes : Bytes) : Sys Nat := change fun i fs =>
  match fs.inodes id with
  | some ⟨.file content, permissions, extent, _, _⟩ =>
    let written := bytes.take (max 1 i.count)
    .ok (written.length,
      fs.put id ⟨.file (Filesystem.overwrite content offset written), permissions, extent, i.time, i.time⟩)
  | _ => .error (.osError "Bad file descriptor")

/-- `handle.write(content)` and `handle.flush()`, in as many writes as it takes. -/
def writeAll (id : FileId) : Nat → Nat → Bytes → Sys Unit
  | 0, _, _ => ret ()
  | fuel + 1, offset, bytes =>
    if bytes = [] then ret ()
    else (writeAt id offset bytes).bind fun n => writeAll id fuel (offset + n) (bytes.drop n)

/-- One `read`, of as much as it gives: at least a byte, unless the end is reached. -/
def readAt (id : FileId) (offset : Nat) : Sys Bytes :=
  .call fun i fs =>
    match i.fault, fs.content id with
    | some message, _ => (.error (.osError message), fs)
    | none, some content => (.ok ((content.drop offset).take (max 1 i.count)), fs)
    | none, none => (.error (.osError "Bad file descriptor"), fs)

/-- How many reads a loop goes through at most. A loop that would go on beyond them is one
whose next read fails, which any read may. -/
def rounds : Sys Nat := .call fun i fs => (.ok i.count, fs)

/-- What is read from there on to the end. -/
def readFrom (id : FileId) : Nat → Nat → Sys Bytes
  | 0, _ => raise (.osError "Interrupted system call")
  | fuel + 1, offset =>
    (readAt id offset).bind fun chunk =>
      if chunk = [] then ret []
      else (readFrom id fuel (offset + chunk.length)).bind fun rest => ret (chunk ++ rest)

/-- `handle.read()`. -/
def readToEnd (id : FileId) : Sys Bytes := rounds.bind fun fuel => readFrom id fuel 0

end SafeFsOps.Descriptors
