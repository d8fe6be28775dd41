import SafeFsOps.FilesystemOps.DescriptorMutations

/-!
# Images of one instant

`snapshots.py` and `capture_backup` of `backups.py` on the descriptor-relative path. An image
is put together from several calls: the name is looked up, the file behind it opened and read
to its end, a symlink read by its name, and at the end the name is looked up once more. Others
are at work meanwhile on the file and on what is beside it. What they cannot do is change what
a file holds, or its mode, and leave its `ctime` as it was:

> `Earlier`: with the same `ctime`, the same file.
> `images_of_an_instant`: an image is what there was when the name was first looked up.

A symlink is read by its name, and a symlink that is moved away and back is the same one with
the same content: `symlink_of_two_instants` is a run in which another one stood there when it
was read. Where a symlink shows in its `ctime` that it lost its name, that does not happen.
-/

namespace SafeFsOps.Descriptors

open Program History

variable {α : Type}

/-! ## `snapshot_resource` -/

/-- `_open_directory_anchor` of `snapshots.py`. -/
def openAnchor : Sys FileId :=
  onOsError openRoot fun _ => raise (refused "snapshot" "because directory could not be opened safely" (pathText []))

/-- `_open_parent_directory_descriptor_relative`. -/
def openParentDirectory (path : Path) : Sys FileId :=
  openAnchor.bind fun root =>
    closeOnRaise ((descend (openChildDirectory "snapshot" "parent path") root [] (parentPath path)).bind fun d =>
      (ensureDescriptorMatches "snapshot" d (parentPath path)).bind fun _ => ret d)

/-- `_same_snapshot_metadata`: number, mode, size and times. -/
def sameSnapshotMetadata (left right : Stat) : Bool := left = right

/-- `_ensure_child_stat_still_matches`. -/
def ensureChildStatStillMatches (path : Path) (d : FileId) (expected : Stat) : Sys Unit :=
  (statAt d (nameOf path)).outcome.bind fun found =>
    match found with
    | .error (.fileNotFound _) => raise (refused "snapshot" "because classified path disappeared" (pathText path))
    | .error e =>
      if isOsError e then raise (refused "snapshot" "because classified path could not be revalidated" (pathText path))
      else raise e
    | .ok actual =>
      if sameSnapshotMetadata actual expected then ret ()
      else raise (refused "snapshot" "because classified path changed before snapshot completed" (pathText path))

/-- `_ensure_child_still_missing`. -/
def ensureChildStillMissing (path : Path) (d : FileId) : Sys Unit :=
  (statAt d (nameOf path)).outcome.bind fun found =>
    match found with
    | .error (.fileNotFound _) => ret ()
    | .error e =>
      if isOsError e then
        raise (refused "snapshot" "because classified missing path could not be revalidated" (pathText path))
      else raise e
    | .ok _ =>
      raise (refused "snapshot" "because classified missing path appeared before snapshot completed" (pathText path))

/-- `_open_child_file`. -/
def openChildFile (path : Path) (d : FileId) : Sys FileId :=
  onOsError (openFileAt d (nameOf path)) fun _ => (inspectPath path).bind fun safety =>
    raise (refused "snapshot" (if safety.isSymlink then "because file path redirects elsewhere"
      else if safety.pathExists = false then "because classified file disappeared before open"
      else "because classified file could not be opened safely") (pathText path))

/-- `_open_regular_child`. -/
def openRegularChild (path : Path) (d : FileId) (expected : Stat) : Sys FileId :=
  (ensureDescriptorMatches "snapshot" d (parentPath path)).bind fun _ =>
    (openChildFile path d).bind fun id =>
      ((fstat id).bind fun actual =>
        if actual.fileType ≠ .file then
          raise (if actual.fileType = .symlink then
            refused "snapshot" "because file path redirects elsewhere" (pathText path)
            else refused "snapshot" "for non-regular file" (pathText path))
        else if actual.id = expected.id then ret id
        else raise (refused "snapshot" "because classified file changed before open" (pathText path))).onRaise fun e =>
          (quietly close).bind fun _ => raise e

/-- `with os.fdopen(descriptor, "rb") as handle`: the content to its end, and what the file is then. -/
def readOpen (id : FileId) : Sys (Bytes × Stat) :=
  fdopen.bind fun _ =>
    finallyDo ((readToEnd id).bind fun content => (fstat id).bind fun final => ret (content, final)) close

/-- `_sha256_regular_file`. -/
def sha256RegularFile (path : Path) (d : FileId) (expected : Stat) : Sys ContentDigest :=
  (openRegularChild path d expected).bind fun id =>
    (readOpen id).bind fun read =>
      if sameSnapshotMetadata read.2 expected then ret (contentDigest read.1)
      else raise (refused "snapshot" "because classified file changed before snapshot completed" (pathText path))

/-- `_readlink_consistent`. -/
def readlinkConsistent (path : Path) (d : FileId) (expected : Stat) : Sys String :=
  (onOsError (readlinkAt d (nameOf path)) fun _ =>
    raise (refused "snapshot" "because classified symlink changed before readlink" (pathText path))).bind fun target =>
      (ensureChildStatStillMatches path d expected).bind fun _ => ret target

/-- `snapshot_resource`, once the path is classified. -/
def snapshotClassified (path : Path) (d : FileId) (s : Stat) : Sys ResourceSnapshot :=
  (if s.fileType = .file then (sha256RegularFile path d s).bind fun digest => ret (some digest)
    else ret none).bind fun contentHash =>
  (if s.fileType = .symlink then (readlinkConsistent path d s).bind fun target => ret (some target)
    else ret none).bind fun symlinkTarget =>
  (if s.fileType = .file ∨ s.fileType = .symlink then ret () else ensureChildStatStillMatches path d s).bind fun _ =>
  (ensureChildStatStillMatches path d s).bind fun _ =>
  (ensureDescriptorMatches "snapshot" d (parentPath path)).bind fun _ =>
    ret
      { path := path
        pathExists := true
        fileType := s.fileType
        contentHash := contentHash
        size := some s.size
        mtimeNs := some s.mtimeNs
        symlinkTarget := symlinkTarget
        device := some s.id.device
        inode := some s.id.inode
        ctimeNs := some s.ctimeNs }

/-- `snapshot_resource`, once the directory is open. -/
def snapshotInDirectory (path : Path) (d : FileId) : Sys ResourceSnapshot :=
  (statAt d (nameOf path)).outcome.bind fun found =>
    match found with
    | .error (.fileNotFound _) =>
      (ensureChildStillMissing path d).bind fun _ =>
        (ensureDescriptorMatches "snapshot" d (parentPath path)).bind fun _ => ret (.missing path)
    | .error e =>
      if isOsError e then raise (refused "snapshot" "because path could not be classified safely" (pathText path))
      else raise e
    | .ok s => snapshotClassified path d s

/-- `snapshot_resource`. -/
def snapshotResource (path : Path) : Sys ResourceSnapshot :=
  (openParentDirectory path).bind fun d => finallyDo (snapshotInDirectory path d) close

/-! ## `capture_backup` -/

/-- `FileBackup`, without an artifact store. -/
structure FileBackup where
  path : Path
  existed : Bool
  fileType : FileType
  contentBytes : Option Bytes
  contentPath : Option Path
  contentHash : Option ContentDigest
  size : Option Nat
  permissions : Option Nat
  snapshot : ResourceSnapshot
deriving DecidableEq

namespace FileBackup

/-- `FileBackup.__post_init__`. -/
def postInit (b : FileBackup) : Except FilesystemError Unit := do
  require (b.fileType = .missing ∨ b.fileType = .file) (.valueError "unsupported backup file_type")
  require (b.existed = decide (b.fileType = .file)) (.valueError "existed must agree with file_type")
  require (b.snapshot.path = b.path) (.valueError "snapshot.path must match backup path")
  require (b.snapshot.fileType = b.fileType) (.valueError "snapshot.file_type must match backup file_type")
  require (b.snapshot.pathExists = b.existed) (.valueError "snapshot.exists must match backup existed flag")
  if b.fileType = .missing then
    require (b.contentBytes = none ∧ b.contentPath = none ∧ b.contentHash = none ∧ b.size = none ∧ b.permissions = none)
      (.valueError "missing backups cannot store file content or file metadata")
  else do
    require (b.permissions ≠ none) (.valueError "file backups must store permissions")
    require (b.contentBytes.isSome ≠ b.contentPath.isSome) (.valueError "file backups must store exactly one content source")
    require (b.contentHash ≠ none ∧ b.size ≠ none) (.valueError "file backups must store content_hash and size")

/-- The backup, where it passes its checks. -/
def construct (b : FileBackup) : Except FilesystemError FileBackup := b.postInit.map fun _ => b

theorem construct_eq_ok {b b' : FileBackup} (h : b.construct = .ok b') : b' = b := by
  obtain ⟨_, -, rfl⟩ := map_eq_ok.1 h
  rfl

end FileBackup

/-- `_stat_matches_snapshot`. -/
def statMatchesSnapshot (s : Stat) (snapshot : ResourceSnapshot) : Bool :=
  snapshot.fileType = .file ∧ some s.size = snapshot.size ∧ some s.mtimeNs = snapshot.mtimeNs

/-- What a capture says of a file that is not as it was. -/
def changedBeforeCapture (path : Path) : FilesystemError :=
  refused "backup" "because file changed before capture completed" (pathText path)

/-- `_read_regular_file_backup_bytes`. -/
def readRegularFileBackupBytes (path : Path) (expected : ResourceSnapshot) : Sys (Bytes × Nat) :=
  if expected.fileType ≠ .file then raise (.valueError "expected_snapshot must describe a regular file")
  else
    (openParentDirectory path).bind fun d =>
      finallyDo ((statAt d (nameOf path)).bind fun s =>
        if s.fileType ≠ .file then raise (refused "backup" "for non-regular file" (pathText path))
        else if statMatchesSnapshot s expected = false then raise (changedBeforeCapture path)
        else
          (openRegularChild path d s).bind fun id =>
            (readOpen id).bind fun read =>
              if sameSnapshotMetadata read.2 s then
                (ensureDescriptorMatches "snapshot" d (parentPath path)).bind fun _ => ret (read.1, s.permissions)
              else raise (changedBeforeCapture path)) close

/-- `capture_backup`, without an artifact store. -/
def captureBackup (path : Path) (snapshot : Option ResourceSnapshot) (contentPath : Option Path)
    (durability : DurabilityMode) : Sys FileBackup :=
  (snapshot.elim (snapshotResource path) ret).bind fun current =>
    if current.path ≠ path then raise (.valueError "snapshot.path must match capture target")
    else
      match current.fileType with
      | .missing => ofExcept (FileBackup.construct ⟨path, false, .missing, none, none, none, none, none, current⟩)
      | .file =>
        (readRegularFileBackupBytes path current).bind fun read =>
          if some (contentDigest read.1) ≠ current.contentHash then raise (changedBeforeCapture path)
          else
            match contentPath with
            | none =>
              ofExcept (FileBackup.construct
                ⟨path, true, .file, some read.1, none, current.contentHash, current.size, some read.2, current⟩)
            | some stored =>
              if stored = path then raise (.valueError "content_path must not alias the backup source path")
              else
                (atomicWriteBytes stored read.1 (some 0o600) durability).bind fun _ =>
                  ofExcept (FileBackup.construct
                    ⟨path, true, .file, none, some stored, current.contentHash, current.size, some read.2, current⟩)
      | .symlink => raise (refused "backup" "for symlink path" (pathText path))
      | _ => raise (refused "backup" "for non-regular file" (pathText path))

/-! ## What there is at an instant -/

/-- What a snapshot shows of a file. -/
def Inode.snapshot (i : Inode) (id : FileId) (path : Path) : ResourceSnapshot :=
  { path := path
    pathExists := true
    fileType := i.node.fileType
    contentHash := match i.node with | .file content => some (contentDigest content) | _ => none
    size := some i.size
    mtimeNs := some i.mtimeNs
    symlinkTarget := match i.node with | .symlink target => some target | _ => none
    device := some id.device
    inode := some id.inode
    ctimeNs := some i.ctimeNs }

/-- What a path leads to. -/
def Filesystem.at (fs : Filesystem) (path : Path) : Option (FileId × Inode) :=
  match fs.resolve false path with
  | .ok id => (fs.inodes id).map fun i => (id, i)
  | .error _ => none

/-- The state of a path. -/
def Filesystem.snapshotAt (fs : Filesystem) (path : Path) : ResourceSnapshot :=
  match fs.at path with
  | some (id, i) => i.snapshot id path
  | none => .missing path

/-! ## What others do -/

/-- The same content, or other names in the same directory. -/
def SameFile (i i' : Inode) : Prop :=
  i.permissions = i'.permissions ∧ (i.node = i'.node ∨ i.node.fileType = .directory ∧ i'.node.fileType = .directory)

/-- What a number stood for before, and what it stands for: a change of content or mode shows in the
`ctime`. A number that is given to a new file has changed its content. -/
def Earlier (i i' : Inode) : Prop := i.ctimeNs ≤ i'.ctimeNs ∧ (i.ctimeNs = i'.ctimeNs → SameFile i i')

/-- Others write, replace, delete and create files; the way to their directory is left alone. -/
structure SiblingsOnly (way : Path) (fs fs' : Filesystem) : Prop where
  leads : fs'.resolve false way = fs.resolve false way
  directory : ∀ d, fs.resolve false way = .ok d → fs.isDirectory d = true → fs'.isDirectory d = true
  later : ∀ id i, fs.inodes id = some i → ∃ i', fs'.inodes id = some i' ∧ Earlier i i'

/-- A symlink that loses the name gets a new `ctime`. -/
def MovesShow (way : Path) (name : String) (fs fs' : Filesystem) : Prop :=
  ∀ d id i, fs.resolve false way = .ok d → fs.entry d name = some id → fs.inodes id = some i →
    i.node.fileType = .symlink → fs'.entry d name = some id ∨ ∃ i', fs'.inodes id = some i' ∧ i.ctimeNs < i'.ctimeNs

theorem SameFile.refl (i : Inode) : SameFile i i := ⟨rfl, Or.inl rfl⟩

theorem SameFile.trans {i i' i'' : Inode} (h : SameFile i i') (h' : SameFile i' i'') : SameFile i i'' := by
  refine ⟨h.1.trans h'.1, ?_⟩
  rcases h.2 with heq | ⟨hd, hd'⟩
  · rw [heq]
    exact h'.2
  · rcases h'.2 with heq' | ⟨-, hd''⟩
    · exact Or.inr ⟨hd, heq' ▸ hd'⟩
    · exact Or.inr ⟨hd, hd''⟩

theorem Earlier.trans {i i' i'' : Inode} (h : Earlier i i') (h' : Earlier i' i'') : Earlier i i'' := by
  refine ⟨h.1.trans h'.1, fun heq => ?_⟩
  have hle := h.1
  have hle' := h'.1
  exact (h.2 (by omega)).trans (h'.2 (by omega))

namespace SiblingsOnly

variable {way : Path} {fs fs' fs'' : Filesystem}

theorem refl : SiblingsOnly way fs fs := ⟨rfl, fun _ _ hd => hd, fun _ i hi => ⟨i, hi, le_refl _, fun _ => .refl i⟩⟩

theorem trans (h : SiblingsOnly way fs fs') (h' : SiblingsOnly way fs' fs'') : SiblingsOnly way fs fs'' where
  leads := h'.leads.trans h.leads
  directory d hd hdir := h'.directory d (h.leads.trans hd) (h.directory d hd hdir)
  later id i hi := by
    obtain ⟨i', hi', hearlier⟩ := h.later id i hi
    obtain ⟨i'', hi'', hearlier'⟩ := h'.later id i' hi'
    exact ⟨i'', hi'', hearlier.trans hearlier'⟩

/-- With the `ctime` it had, a file is what it was. -/
theorem same (h : SiblingsOnly way fs fs') {id : FileId} {i i' : Inode} (hi : fs.inodes id = some i)
    (hi' : fs'.inodes id = some i') (heq : i'.ctimeNs = i.ctimeNs) : SameFile i i' := by
  obtain ⟨i'', hi'', hearlier⟩ := h.later id i hi
  rw [hi'] at hi''
  cases hi''
  exact hearlier.2 heq.symm

end SiblingsOnly

/-! ## Seeing -/

section Amid

variable {C : Answer → Filesystem → Prop} {E : History Filesystem → Filesystem → Prop} {way : Path} {name : String}
  {Q : Except FilesystemError α → History Filesystem → Prop} {h h₁ : History Filesystem} {d id : FileId}
  {s : Filesystem} {st : Stat} {i₀ : Inode}

@[simp] theorem parentPath_child : parentPath (way ++ [name]) = way := List.dropLast_concat

@[simp] theorem nameOf_child : nameOf (way ++ [name]) = name := by simp [nameOf]

/-- The directory a path is looked up in. -/
def IsParent (way : Path) (d : FileId) (fs : Filesystem) : Prop :=
  fs.resolve false way = .ok d ∧ fs.isDirectory d = true

/-- What the name leads to, seen by its metadata. -/
def Seen (d : FileId) (name : String) (st : Stat) (fs : Filesystem) : Prop :=
  ∃ id i, fs.entry d name = some id ∧ fs.inodes id = some i ∧ i.stat id = st

/-- The file has changed since. -/
def Late (id : FileId) (i₀ : Inode) (fs : Filesystem) : Prop := ∃ i, fs.inodes id = some i ∧ i₀.ctimeNs < i.ctimeNs

/-- While the program only looks, others do what they may. -/
theorem siblings_of_leads {h' : History Filesystem} (hE : ∀ h s, E h s → SiblingsOnly way h.now s)
    (hlead : Leads E Idle h h') : SiblingsOnly way h.now h'.now :=
  hlead.keeps (P := fun h' => SiblingsOnly way h.now h'.now) (fun h' s hs hE' => hs.trans (hE h' s hE'))
    (fun h' s hs hidle => by rw [show s = h'.now from hidle] at *; exact hs) .refl

theorem IsParent.later {fs fs' : Filesystem} (hd : IsParent way d fs) (hs : SiblingsOnly way fs fs') :
    IsParent way d fs' := ⟨hs.leads.trans hd.1, hs.directory d hd.1 hd.2⟩

theorem Late.later {fs fs' : Filesystem} (hl : Late id i₀ fs) (hs : SiblingsOnly way fs fs') : Late id i₀ fs' := by
  obtain ⟨i, hi, hlt⟩ := hl
  obtain ⟨i', hi', hearlier⟩ := hs.later id i hi
  exact ⟨i', hi', lt_of_lt_of_le hlt hearlier.1⟩

/-- A file that has not changed since is the same, another one is late. -/
theorem same_or_late {fs fs' : Filesystem} {i : Inode} (hs : SiblingsOnly way fs fs') (hi₀ : fs.inodes id = some i₀)
    (hi : fs'.inodes id = some i) : SameFile i₀ i ∨ Late id i₀ fs' := by
  obtain ⟨i', hi', hearlier⟩ := hs.later id i₀ hi₀
  rw [hi] at hi'
  cases hi'
  rcases Nat.eq_or_lt_of_le hearlier.1 with heq | hlt
  · exact Or.inl (hearlier.2 heq)
  · exact Or.inr ⟨i, hi, hlt⟩

theorem amid_statAt : Amid C E Idle (fun r h' => match r with
    | .ok st => Seen d name st h'.now
    | .error (.fileNotFound _) => (h'.now.entry d name).bind h'.now.stat = none
    | .error _ => True) (statAt d name) h := by
  refine amid_look fun h' _ => ⟨?_, fun _ => trivial⟩
  cases hentry : h'.now.entry d name with
  | none =>
    show (h'.now.entry d name).bind h'.now.stat = none
    rw [hentry]
    rfl
  | some id =>
    dsimp only [Option.bind_some]
    cases hi : h'.now.inodes id with
    | none =>
      rw [Filesystem.stat, hi]
      show (h'.now.entry d name).bind h'.now.stat = none
      rw [hentry, Option.bind_some, Filesystem.stat, hi]
      rfl
    | some i =>
      rw [Filesystem.stat, hi]
      exact ⟨id, i, hentry, hi, rfl⟩

theorem amid_fstat : Amid C E Idle (fun r h' => ∀ st, r = .ok st → ∃ i, h'.now.inodes id = some i ∧ st = i.stat id)
    (fstat id) h := by
  refine amid_look fun h' _ => ⟨fun st hst => ?_, fun _ => nofun⟩
  cases hi : h'.now.inodes id with
  | none =>
    rw [Filesystem.stat, hi] at hst
    cases hst
  | some i =>
    rw [Filesystem.stat, hi] at hst
    cases hst
    exact ⟨i, hi, rfl⟩

/-- Where it still matches, it is seen once more. -/
theorem amid_ensureChildStatStillMatches : Amid C E Idle (fun r h' => r = .ok () → Seen d name st h'.now)
    (ensureChildStatStillMatches (way ++ [name]) d st) h := by
  refine amid_outcome_seq (Q := fun r h' => ∀ a, r = .ok a → Seen d name a h'.now) ?_ fun r h' hr => ?_
  · rw [nameOf_child]
    refine amid_mono (fun _ _ h => h) ?_ amid_statAt
    rintro (e | a) h' hr
    · exact nofun
    · rintro _ ⟨⟩
      exact hr
  · split
    · exact nofun
    · split <;> exact nofun
    · next actual =>
      split
      · next hsame =>
        intro _
        rw [← of_decide_eq_true hsame]
        exact hr actual rfl
      · exact nofun

/-- The last directory on the way is open. -/
theorem amid_openParentDirectory (hE : ∀ h s, E h s → SiblingsOnly way h.now s) (hlead : Leads E Idle (start s) h) :
    Amid C E Idle (fun r h' => ∀ d, r = .ok d → IsParent way d h'.now) (openParentDirectory (way ++ [name])) h := by
  have hanchor : Amid C E Idle (Opened []) openAnchor h := by
    refine amid_onOsError ?_ (fun _ _ => opened_error) fun _ _ => opened_error
    refine amid_look fun h' _ => ⟨?_, fun _ => trivial⟩
    split
    · next a hread =>
      split at hread
      · next hdirectory =>
        cases hread
        rintro _ ⟨⟩
        exact .root (.own .refl trivial) hdirectory
      · cases hread
    · trivial
  rw [openParentDirectory, parentPath_child]
  refine amid_seq (amid_leads hanchor) (fun root h₁ hroot => ?_) fun _ _ _ => nofun
  refine amid_closeOnRaise ?_ fun _ _ => nofun
  refine amid_seq (amid_leads (amid_descend amid_openChildDirectory (hroot.1 root rfl))) (fun d h₂ hd => ?_)
    fun _ _ _ => nofun
  refine amid_seq (amid_leads amid_ensureDescriptorMatches) (fun _ h₃ hmatch => ?_) fun _ _ _ => nofun
  rintro _ ⟨⟩
  have hlead₃ : Leads E Idle (start s) h₃ := ((hlead.trans hroot.2).trans hd.2).trans hmatch.2
  have hback : ∀ g, Before g h₃ → SiblingsOnly way g.now h₃.now := fun g hg => siblings_of_leads hE (hlead₃.split hg).2
  obtain ⟨g, -, hg, hresolve⟩ := hmatch.1 rfl
  have hway : h₃.now.resolve false way = .ok d := (hback g hg).leads.trans hresolve
  obtain ⟨g', hg', hdirectory⟩ : ∃ g', Before g' h₃ ∧ g'.now.isDirectory d = true := by
    have hreached := (hd.1 d rfl).later (Before.of_leads hmatch.2)
    cases hreached with
    | root hbefore hdirectory => exact ⟨_, hbefore, hdirectory⟩
    | child _ hbefore _ hdirectory => exact ⟨_, hbefore, hdirectory⟩
  exact ⟨hway, (hback g' hg').directory d ((hback g' hg').leads.symm.trans hway) hdirectory⟩

/-! ## Reading -/

/-- What is read is what was there, if the file has not changed since. -/
theorem amid_readFrom (hE : ∀ h s, E h s → SiblingsOnly way h.now s) (hi₀ : h₁.now.inodes id = some i₀) :
    ∀ {fuel offset : Nat} {h : History Filesystem}, Leads E Idle h₁ h →
      Amid C E Idle (fun r h' => ∀ bytes, r = .ok bytes →
        (∃ content, i₀.node = .file content ∧ bytes = content.drop offset) ∨ Late id i₀ h'.now)
        (readFrom id fuel offset) h
  | 0, _, _, _ => nofun
  | fuel + 1, offset, h, hlead => by
    -- one chunk: of the content seen first, or the inode has changed since
    have hchunk : Amid C E Idle (fun r h' => Leads E Idle h₁ h' ∧ ∀ chunk, r = .ok chunk →
        (∃ content n, i₀.node = .file content ∧ chunk = (content.drop offset).take (n + 1)) ∨ Late id i₀ h'.now)
        (readAt id offset) h := by
      refine amid_call fun h' hh' i _ => ?_
      have hlead' : Leads E Idle h₁ h' := hlead.trans hh'.of_disturbed
      cases i.fault with
      | some m => exact ⟨rfl, .own hlead' rfl, nofun⟩
      | none =>
        cases hcontent : h'.now.content id with
        | none => exact ⟨rfl, .own hlead' rfl, nofun⟩
        | some content =>
          refine ⟨rfl, .own hlead' rfl, ?_⟩
          rintro _ ⟨⟩
          obtain ⟨inode, hinode, hnode⟩ : ∃ inode, h'.now.inodes id = some inode ∧ inode.node = .file content := by
            unfold Filesystem.content at hcontent
            split at hcontent
            · next bytes hnode =>
              cases hcontent
              exact Option.map_eq_some_iff.1 hnode
            · cases hcontent
          -- the inode read is the one seen, which a file keeps, or it is late
          rcases same_or_late (siblings_of_leads hE hlead') hi₀ hinode with hsame | hlate
          · refine Or.inl ⟨content, max 1 i.count - 1, ?_, ?_⟩
            · rcases hsame.2 with heq | ⟨-, hdir⟩
              · rw [heq, hnode]
              · rw [hnode] at hdir
                cases hdir
            · show List.take (max 1 i.count) _ = _
              congr 1
              omega
          · exact Or.inr hlate
    refine amid_seq hchunk (fun chunk h₂ hQ => ?_) fun _ _ _ => nofun
    obtain ⟨hlead₂, hQ⟩ := hQ
    have hchunk := hQ chunk rfl
    split
    · next hnil =>
      rintro _ ⟨⟩
      refine hchunk.imp_left ?_
      rintro ⟨content, n, hnode, hc⟩
      refine ⟨content, hnode, ?_⟩
      rw [hnil] at hc
      rcases List.take_eq_nil_iff.1 hc.symm with hzero | hdrop
      · cases hzero
      · exact hdrop.symm
    · refine amid_seq (amid_leads (amid_readFrom hE hi₀ hlead₂)) (fun rest h₃ hrest => ?_) fun _ _ _ => nofun
      rintro _ ⟨⟩
      rcases hchunk with ⟨content, n, hnode, hc⟩ | hlate
      · refine (hrest.1 rest rfl).imp_left ?_
        rintro ⟨content', hnode', hr⟩
        -- the chunks are of one content, one behind the other
        have heq : content' = content := by
          rw [hnode] at hnode'
          cases hnode'
          rfl
        refine ⟨content, hnode, ?_⟩
        rw [hr, heq, hc, List.length_take, ← List.drop_drop]
        conv_rhs => rw [← List.take_append_drop (n + 1) (content.drop offset)]
        congr 1
        by_cases hle : n + 1 ≤ (content.drop offset).length
        · rw [Nat.min_eq_left hle]
        · rw [Nat.min_eq_right (by omega), List.drop_length, List.drop_eq_nil_of_le (by omega)]
      -- late once, late ever after
      · exact Or.inr (hlate.later (siblings_of_leads hE hrest.2))

/-- A program that only looks, closed in the end. -/
theorem amid_finallyDoClose {S : α → History Filesystem → Prop} {p : Sys α}
    (hp : Amid C E Idle (fun r h' => ∀ a, r = .ok a → S a h') p h)
    (hS : ∀ a h h', Leads E Idle h h' → S a h → S a h') :
    Amid C E Idle (fun r h' => ∀ a, r = .ok a → S a h') (finallyDo p close) h := by
  refine amid_outcome_seq hp fun r h' hr => ?_
  refine amid_seq (amid_leads (amid_looks (looks_look _))) (fun _ h'' hlead => ?_) fun _ _ _ => nofun
  exact amid_ofExcept fun a ha => hS a h' h'' hlead.2 (hr a ha)

/-- What was read of a file, and what it was in the end. -/
theorem amid_readOpen (hE : ∀ h s, E h s → SiblingsOnly way h.now s) (hi₀ : h₁.now.inodes id = some i₀)
    (hlead : Leads E Idle h₁ h) :
    Amid C E Idle (fun r _ => ∀ read, r = .ok read →
      i₀.node = .file read.1 ∨ i₀.ctimeNs < read.2.ctimeNs) (readOpen id) h := by
  refine amid_seq (amid_leads (amid_looks looks_fdopen)) (fun _ h₂ hlead₂ => ?_) fun _ _ _ => nofun
  refine amid_finallyDoClose ?_ fun _ _ _ _ h => h
  have hrounds : Looks rounds := eachStep_call fun _ _ => rfl
  refine amid_seq (Q := fun r h' => Leads E Idle h₁ h' ∧ ∀ bytes, r = .ok bytes →
    i₀.node = .file bytes ∨ Late id i₀ h'.now) ?_ (fun content h₃ hQ => ?_) fun _ _ _ => nofun
  · refine amid_seq (amid_leads (amid_looks hrounds)) (fun fuel h₃ hlead₃ => ?_) fun e h' hlead₃ =>
      ⟨(hlead.trans hlead₂.2).trans hlead₃.2, nofun⟩
    have hall := (hlead.trans hlead₂.2).trans hlead₃.2
    refine amid_mono (fun _ _ h => h) (fun r h' hr => ⟨hall.trans hr.2, fun bytes hbytes => ?_⟩)
      (amid_leads (amid_readFrom hE hi₀ hall))
    refine (hr.1 bytes hbytes).imp_left ?_
    rintro ⟨content, hnode, hdrop⟩
    rw [hnode, hdrop]
    rfl
  · refine amid_seq (amid_leads amid_fstat) (fun final h₄ hfinal => ?_) fun _ _ _ => nofun
    rintro _ ⟨⟩
    refine (hQ.2 content rfl).imp_right fun hlate => ?_
    obtain ⟨i, hi, hst⟩ := hfinal.1 final rfl
    obtain ⟨i', hi', hlt⟩ := hlate.later (siblings_of_leads hE hfinal.2)
    rw [hi] at hi'
    cases hi'
    rw [hst]
    exact hlt

/-- The file that was opened is the one that was seen. -/
theorem amid_openRegularChild {path : Path} :
    Amid C E Idle (fun r _ => ∀ id, r = .ok id → id = st.id) (openRegularChild path d st) h := by
  refine amid_seq (amid_looks (by
    exact eachStep_bind (fun own => eachStep_bind (fun seen => by split <;> trivial)
      (eachStep_onRaise (fun e => by split <;> trivial) (looks_look _))) (looks_look _)))
    (fun _ h₁ _ => ?_) fun _ _ _ => nofun
  refine amid_seq (Q := fun _ _ => True) (amid_looks ?_) (fun id h₂ _ => ?_) fun _ _ _ => nofun
  · refine eachStep_onRaise (fun e => ?_) (looks_look _)
    split
    · exact eachStep_bind (fun _ => by trivial) (looks_inspectPath path)
    · trivial
  refine amid_onRaise (amid_mono (fun _ _ h => h) (Q := fun r _ => ∀ id, r = .ok id → id = st.id) ?_ ?_)
  · rintro (e | a) h' hr
    · refine amid_seq (Q := fun _ _ => True) (amid_looks ?_) (fun _ _ _ => nofun) fun _ _ _ => nofun
      exact eachStep_onRaise (fun e => by split <;> trivial) (looks_look _)
    · exact hr
  · refine amid_seq amid_fstat (fun actual h₃ hactual => ?_) fun _ _ _ => nofun
    obtain ⟨i, -, hst⟩ := hactual actual rfl
    split
    · exact nofun
    · split
      · next hid =>
        rintro _ ⟨⟩
        rw [← hid, hst]
        rfl
      · exact nofun

/-- The digest is that of the content the file had when it was seen. -/
theorem amid_sha256RegularFile {path : Path} (hE : ∀ h s, E h s → SiblingsOnly way h.now s)
    (hi₀ : h₁.now.inodes id = some i₀) (hlead : Leads E Idle h₁ h) :
    Amid C E Idle (fun r _ => ∀ digest, r = .ok digest →
      ∃ content, i₀.node = .file content ∧ digest = contentDigest content) (sha256RegularFile path d (i₀.stat id)) h := by
  refine amid_seq (amid_leads amid_openRegularChild) (fun opened h₂ hopened => ?_) fun _ _ _ => nofun
  obtain rfl : opened = id := hopened.1 opened rfl
  refine amid_seq (amid_readOpen hE hi₀ (hlead.trans hopened.2)) (fun read h₃ hread => ?_) fun _ _ _ => nofun
  split
  · next hsame =>
    rintro _ ⟨⟩
    rcases hread read rfl with hnode | hlt
    · exact ⟨read.1, hnode, rfl⟩
    · rw [of_decide_eq_true hsame] at hlt
      exact absurd hlt (lt_irrefl _)
  · exact nofun

/-- Where a symlink shows that it lost its name, the name leads to it as long as it is the same. -/
theorem held_or_late (hE : ∀ h s, E h s → SiblingsOnly way h.now s) (hmoves : ∀ h s, E h s → MovesShow way name h.now s)
    (hd : IsParent way d h₁.now) (hentry : h₁.now.entry d name = some id) (hi₀ : h₁.now.inodes id = some i₀)
    (hlink : i₀.node.fileType = .symlink) (hlead : Leads E Idle h₁ h) :
    h.now.entry d name = some id ∨ Late id i₀ h.now := by
  induction hlead with
  | refl => exact Or.inl hentry
  | @own h' s' hlead hidle ih =>
    show s'.entry d name = some id ∨ Late id i₀ s'
    rw [show s' = h'.now from hidle]
    exact ih
  | @other h' s' hlead hstep ih =>
    show s'.entry d name = some id ∨ Late id i₀ s'
    have hsiblings := siblings_of_leads hE hlead
    rcases ih with hheld | hlate
    · obtain ⟨i, hi, hearlier⟩ := hsiblings.later id i₀ hi₀
      rcases same_or_late hsiblings hi₀ hi with hsame | hlate
      · have hlink' : i.node.fileType = .symlink := by
          rcases hsame.2 with heq | ⟨hdir, -⟩
          · rw [← heq, hlink]
          · rw [hlink] at hdir
            cases hdir
        refine (hmoves h' s' hstep d id i (hd.later hsiblings).1 hheld hi hlink').imp_right ?_
        rintro ⟨i', hi', hlt⟩
        exact ⟨i', hi', lt_of_le_of_lt hearlier.1 hlt⟩
      · exact Or.inr (hlate.later (hE h' s' hstep))
    · exact Or.inr (hlate.later (hE h' s' hstep))

/-- The target is the one the symlink had when it was seen. -/
theorem amid_readlinkConsistent (hE : ∀ h s, E h s → SiblingsOnly way h.now s)
    (hmoves : ∀ h s, E h s → MovesShow way name h.now s) (hd : IsParent way d h₁.now)
    (hentry : h₁.now.entry d name = some id) (hi₀ : h₁.now.inodes id = some i₀) (hlink : i₀.node.fileType = .symlink)
    (hlead : Leads E Idle h₁ h) :
    Amid C E Idle (fun r _ => ∀ target, r = .ok target → i₀.node = .symlink target)
      (readlinkConsistent (way ++ [name]) d (i₀.stat id)) h := by
  -- what is read is the target seen, unless the inode is late, and then the look after it tells
  have hread : Amid C E Idle (fun r h' => Leads E Idle h₁ h' ∧ ∀ target, r = .ok target →
      i₀.node = .symlink target ∨ Late id i₀ h'.now) (readlinkAt d name) h := by
    refine amid_look fun h' hh' => ?_
    have hlead' : Leads E Idle h₁ h' := hlead.trans hh'.of_disturbed
    refine ⟨⟨.own hlead' rfl, fun target htarget => ?_⟩, fun _ => ⟨.own hlead' rfl, nofun⟩⟩
    rcases held_or_late hE hmoves hd hentry hi₀ hlink hlead' with hheld | hlate
    · rw [hheld] at htarget
      dsimp only at htarget
      cases hread : h'.now.linkTarget id with
      | none =>
        rw [hread] at htarget
        cases htarget
      | some text =>
        rw [hread] at htarget
        cases htarget
        obtain ⟨i, hi, hnode⟩ : ∃ i, h'.now.inodes id = some i ∧ i.node = .symlink target := by
          unfold Filesystem.linkTarget at hread
          split at hread
          · next text hnode =>
            cases hread
            exact Option.map_eq_some_iff.1 hnode
          · cases hread
        rcases same_or_late (siblings_of_leads hE hlead') hi₀ hi with hsame | hlate
        · rcases hsame.2 with heq | ⟨hdir, -⟩
          · exact Or.inl (heq.trans hnode)
          · rw [hlink] at hdir
            cases hdir
        · exact Or.inr hlate
    · exact Or.inr hlate
  unfold readlinkConsistent
  rw [nameOf_child]
  refine amid_seq (Q := fun r h' => Leads E Idle h₁ h' ∧ ∀ target, r = .ok target →
      i₀.node = .symlink target ∨ Late id i₀ h'.now) ?_ (fun target h₂ hQ => ?_) fun _ _ _ => nofun
  · refine amid_onRaise (amid_mono (fun _ _ h => h) ?_ hread)
    rintro (e | a) h' hr
    · dsimp only
      split <;> exact ⟨hr.1, nofun⟩
    · exact hr
  · refine amid_seq (amid_leads amid_ensureChildStatStillMatches) (fun _ h₃ hmatch => ?_) fun _ _ _ => nofun
    rintro _ ⟨⟩
    rcases hQ.2 target rfl with hnode | hlate
    · exact hnode
    · obtain ⟨id', i, -, hi, hst⟩ := hmatch.1 rfl
      obtain ⟨i', hi', hlt⟩ := hlate.later (siblings_of_leads hE hmatch.2)
      obtain rfl : id' = id := congrArg Stat.id hst
      rw [hi] at hi'
      cases hi'
      rw [show i.ctimeNs = i₀.ctimeNs from congrArg Stat.ctimeNs hst] at hlt
      exact absurd hlt (lt_irrefl _)

/-! ## Images -/

/-- What is put together is what was seen. -/
theorem amid_snapshotClassified (hE : ∀ h s, E h s → SiblingsOnly way h.now s) (hd : IsParent way d h₁.now)
    (hentry : h₁.now.entry d name = some id) (hi₀ : h₁.now.inodes id = some i₀) (hlead : Leads E Idle h₁ h) :
    Amid C E Idle (fun r _ => ∀ snapshot, r = .ok snapshot → snapshot.fileType = i₀.node.fileType ∧
        ((i₀.node.fileType = .symlink → ∀ h s, E h s → MovesShow way name h.now s) →
          snapshot = i₀.snapshot id (way ++ [name])))
      (snapshotClassified (way ++ [name]) d (i₀.stat id)) h := by
  unfold snapshotClassified
  -- the hash is of the content, and of files only
  have hhash : Amid C E Idle (fun r h' => Leads E Idle h h' ∧
      ∀ hash, r = .ok hash → hash = (i₀.snapshot id (way ++ [name])).contentHash)
      (if (i₀.stat id).fileType = .file then
        (sha256RegularFile (way ++ [name]) d (i₀.stat id)).bind fun digest => ret (some digest)
      else ret none) h := by
    split
    · refine amid_seq (amid_leads (amid_sha256RegularFile hE hi₀ hlead)) (fun digest h₂ hdigest => ?_)
        fun _ _ hr => ⟨hr.2, nofun⟩
      refine ⟨hdigest.2, ?_⟩
      rintro _ ⟨⟩
      obtain ⟨content, hnode, rfl⟩ := hdigest.1 digest rfl
      rw [Inode.snapshot, hnode]
    · next hfile =>
      refine ⟨.refl, ?_⟩
      rintro _ ⟨⟩
      have hfile : i₀.node.fileType ≠ .file := hfile
      rw [Inode.snapshot]
      cases hnode : i₀.node with
      | file content => exact absurd (by rw [hnode]; rfl) hfile
      | directory | symlink | other => rfl
  refine amid_seq hhash (fun hash h₂ hQ => ?_) fun _ _ _ => not_returned
  obtain ⟨hlead₂, hhash⟩ := hQ
  have hstill : Looks (ensureChildStatStillMatches (way ++ [name]) d (i₀.stat id)) := by
    refine eachStep_bind (fun found => ?_) (eachStep_outcome (looks_look _))
    split
    · trivial
    · split <;> trivial
    · split <;> trivial
  -- the target, if no move goes unseen
  have htarget : Amid C E Idle (fun r h' => ∀ target, r = .ok target →
      (i₀.node.fileType = .symlink → ∀ h s, E h s → MovesShow way name h.now s) →
        target = (i₀.snapshot id (way ++ [name])).symlinkTarget)
      (if (i₀.stat id).fileType = .symlink then
        (readlinkConsistent (way ++ [name]) d (i₀.stat id)).bind fun target => ret (some target)
      else ret none) h₂ := by
    split
    · next hlink =>
      by_cases hmoves : ∀ h s, E h s → MovesShow way name h.now s
      · refine amid_seq (amid_readlinkConsistent hE hmoves hd hentry hi₀ hlink (hlead.trans hlead₂))
          (fun target h₃ htarget => ?_) fun _ _ _ => not_returned
        rintro _ ⟨⟩ -
        rw [Inode.snapshot, htarget target rfl]
      · have hread : Looks (readlinkConsistent (way ++ [name]) d (i₀.stat id)) := by
          refine eachStep_bind (fun target => eachStep_bind (fun _ => by trivial) hstill) ?_
          exact eachStep_onRaise (fun e => by split <;> trivial) (looks_look _)
        exact amid_seq (amid_looks hread) (fun target h₃ _ _ _ hno => absurd (hno hlink) hmoves) fun _ _ _ => not_returned
    · next hlink =>
      rintro _ ⟨⟩ -
      have hlink : i₀.node.fileType ≠ .symlink := hlink
      rw [Inode.snapshot]
      cases hnode : i₀.node with
      | symlink target => exact absurd (by rw [hnode]; rfl) hlink
      | directory | file | other => rfl
  refine amid_seq htarget (fun target h₃ htarget => ?_) fun _ _ _ => not_returned
  refine amid_seq (Q := fun _ _ => True) ?_ (fun _ _ _ => ?_) fun _ _ _ => not_returned
  · split
    · trivial
    · exact amid_looks hstill
  refine amid_seq (amid_looks hstill) (fun _ _ _ => ?_) fun _ _ _ => not_returned
  refine amid_seq amid_ensureDescriptorMatches (fun _ _ _ => ?_) fun _ _ _ => not_returned
  rintro _ ⟨⟩
  refine ⟨rfl, fun hmoves => ?_⟩
  rw [hhash hash rfl, htarget target rfl hmoves]
  rfl

/-- Below its directory, a path leads where the name leads. -/
theorem at_child (hname : name ≠ "..") (hd : IsParent way d s) :
    s.at (way ++ [name]) = (s.entry d name).bind fun id => (s.inodes id).map fun i => (id, i) := by
  rw [Filesystem.at, Filesystem.resolve_child hd.1 hd.2, Filesystem.enter_eq hd.2 hname]
  cases s.entry d name <;> rfl

/-- The path had this state at an instant since. -/
def HadState (h₀ h : History Filesystem) (path : Path) (snapshot : ResourceSnapshot) : Prop :=
  ∃ g, Before h₀ g ∧ Before g h ∧ g.now.snapshotAt path = snapshot

theorem amid_snapshotInDirectory (hE : ∀ h s, E h s → SiblingsOnly way h.now s) (hname : name ≠ "..")
    (hd : IsParent way d h.now) :
    Amid C E Idle (fun r h' => ∀ snapshot, r = .ok snapshot →
      (snapshot.fileType = .symlink → ∀ h s, E h s → MovesShow way name h.now s) →
      HadState h h' (way ++ [name]) snapshot) (snapshotInDirectory (way ++ [name]) d) h := by
  unfold snapshotInDirectory
  rw [nameOf_child]
  refine amid_outcome_seq (amid_leads amid_statAt) fun r h₁ hr => ?_
  obtain ⟨hr, hlead₁⟩ := hr
  have hd₁ : IsParent way d h₁.now := hd.later (siblings_of_leads hE hlead₁)
  split
  · -- nothing was there when it was looked up
    refine amid_mono (fun _ _ h => h) (Q := fun r h' => Leads E Idle h₁ h' ∧ ∀ snapshot, r = .ok snapshot →
      snapshot = .missing (way ++ [name])) ?_ ?_
    · rintro r h' ⟨hlead', hr'⟩ snapshot rfl -
      refine ⟨h₁, Before.of_leads hlead₁, Before.of_leads hlead', ?_⟩
      have hnone : h₁.now.at (way ++ [name]) = none := by
        rw [at_child hname hd₁]
        cases hentry : h₁.now.entry d name with
        | none => rfl
        | some id =>
          rw [hentry, Option.bind_some, Filesystem.stat, Option.map_eq_none_iff] at hr
          rw [Option.bind_some, hr]
          rfl
      rw [Filesystem.snapshotAt, hnone, hr' snapshot rfl]
    · have hmissing : Looks (ensureChildStillMissing (way ++ [name]) d) := by
        refine eachStep_bind (fun found => ?_) (eachStep_outcome (looks_look _))
        split
        · trivial
        · split <;> trivial
        · trivial
      refine amid_mono (fun _ _ h => h) (fun r h' hr => ⟨hr.2, hr.1⟩) (amid_leads ?_)
      refine amid_seq (amid_looks hmissing) (fun _ _ _ => ?_) fun _ _ _ => not_returned
      refine amid_seq amid_ensureDescriptorMatches (fun _ _ _ => ?_) fun _ _ _ => not_returned
      rintro _ ⟨⟩
      rfl
  · split <;> exact not_returned
  · next st =>
    -- the name leads to an inode: the image is of the instant it was looked up
    obtain ⟨id, i₀, hentry, hi₀, rfl⟩ := hr
    refine amid_mono (fun _ _ h => h) ?_ (amid_leads (amid_snapshotClassified hE hd₁ hentry hi₀ .refl))
    rintro r h' ⟨hr', hlead'⟩ snapshot rfl hmoves
    obtain ⟨htype, hsnapshot⟩ := hr' snapshot rfl
    refine ⟨h₁, Before.of_leads hlead₁, Before.of_leads hlead', ?_⟩
    rw [hsnapshot (htype ▸ hmoves), Filesystem.snapshotAt, at_child hname hd₁, hentry, Option.bind_some, hi₀]
    rfl

theorem amid_snapshotResource (hE : ∀ h s, E h s → SiblingsOnly way h.now s) (hname : name ≠ "..")
    (hlead : Leads E Idle (start s) h) :
    Amid C E Idle (fun r h' => ∀ snapshot, r = .ok snapshot →
      (snapshot.fileType = .symlink → ∀ h s, E h s → MovesShow way name h.now s) →
      HadState h h' (way ++ [name]) snapshot) (snapshotResource (way ++ [name])) h := by
  refine amid_seq (amid_leads (amid_openParentDirectory hE hlead)) (fun d h₁ hd => ?_) fun _ _ _ => not_returned
  obtain ⟨hd, hlead₁⟩ := hd
  refine amid_finallyDoClose (S := fun snapshot h' =>
    (snapshot.fileType = .symlink → ∀ h s, E h s → MovesShow way name h.now s) →
      HadState h h' (way ++ [name]) snapshot) ?_ ?_
  · refine amid_mono (fun _ _ h => h) ?_ (amid_snapshotInDirectory hE hname (hd d rfl))
    intro r h' hr snapshot hok hmoves
    obtain ⟨g, hg, hgh, hstate⟩ := hr snapshot hok hmoves
    exact ⟨g, (Before.of_leads hlead₁).trans hg, hgh, hstate⟩
  · intro snapshot h' h'' hlead' hS hmoves
    obtain ⟨g, hg, hgh, hstate⟩ := hS hmoves
    exact ⟨g, hg, hgh.trans (Before.of_leads hlead'), hstate⟩

/-- The path led to a file of this content and these permissions at an instant since. -/
def HadTogether (h₀ h : History Filesystem) (path : Path) (content : Bytes) (permissions : Nat) : Prop :=
  ∃ g id i, Before h₀ g ∧ Before g h ∧ g.now.at path = some (id, i) ∧ i.node = .file content ∧
    i.permissions = permissions

theorem HadTogether.later {h₀ h' : History Filesystem} {path : Path} {content : Bytes} {permissions : Nat}
    (hhad : HadTogether h₀ h path content permissions) (hh' : Before h h') : HadTogether h₀ h' path content permissions := by
  obtain ⟨g, id, i, hg, hgh, hrest⟩ := hhad
  exact ⟨g, id, i, hg, hgh.trans hh', hrest⟩

/-- What is read for a backup, the file had together. -/
theorem amid_readRegularFileBackupBytes {expected : ResourceSnapshot} (hE : ∀ h s, E h s → SiblingsOnly way h.now s)
    (hname : name ≠ "..") (hlead : Leads E Idle (start s) h) :
    Amid C E Idle (fun r h' => ∀ read : Bytes × Nat, r = .ok read → HadTogether h h' (way ++ [name]) read.1 read.2)
      (readRegularFileBackupBytes (way ++ [name]) expected) h := by
  unfold readRegularFileBackupBytes
  split
  · exact not_returned
  refine amid_seq (amid_leads (amid_openParentDirectory hE hlead)) (fun d h₁ hd => ?_) fun _ _ _ => not_returned
  obtain ⟨hd, hlead₁⟩ := hd
  refine amid_finallyDoClose (S := fun (read : Bytes × Nat) h' => HadTogether h h' (way ++ [name]) read.1 read.2) ?_
    fun read h' h'' hlead' hS => hS.later (Before.of_leads hlead')
  rw [nameOf_child]
  refine amid_seq (amid_leads amid_statAt) (fun st h₂ hst => ?_) fun _ _ _ => not_returned
  obtain ⟨hseen, hlead₂⟩ := hst
  obtain ⟨id, i₀, hentry, hi₀, rfl⟩ := hseen
  have hd₂ : IsParent way d h₂.now := (hd d rfl).later (siblings_of_leads hE hlead₂)
  split
  · exact not_returned
  split
  · exact not_returned
  refine amid_seq (amid_leads amid_openRegularChild) (fun opened h₃ hopened => ?_) fun _ _ _ => not_returned
  obtain rfl : opened = id := hopened.1 opened rfl
  refine amid_seq (amid_leads (amid_readOpen hE hi₀ hopened.2)) (fun read h₄ hread => ?_) fun _ _ _ => not_returned
  split
  · next hsame =>
    refine amid_seq (amid_leads amid_ensureDescriptorMatches) (fun _ h₅ hlead₅ => ?_) fun _ _ _ => not_returned
    rintro _ ⟨⟩
    refine ⟨h₂, opened, i₀, Before.of_leads (hlead₁.trans hlead₂),
      Before.of_leads ((hopened.2.trans hread.2).trans hlead₅.2), ?_, ?_, rfl⟩
    · rw [at_child hname hd₂, hentry, Option.bind_some, hi₀]
      rfl
    · rcases hread.1 read rfl with hnode | hlt
      · exact hnode
      · rw [of_decide_eq_true hsame] at hlt
        exact absurd hlt (lt_irrefl _)
  · exact not_returned

/-- What a backup of a file holds: content and permissions the file had at one instant, under the
digest of the snapshot; inline, or as `atomic_write_bytes` wrote it to the artifact. -/
def HoldsInstant (h₀ h : History Filesystem) (path : Path) (durability : DurabilityMode) (backup : FileBackup) : Prop :=
  ∃ content permissions, HadTogether h₀ h path content permissions ∧ backup.permissions = some permissions ∧
    backup.contentHash = some (contentDigest content) ∧ backup.snapshot.contentHash = some (contentDigest content) ∧
    (backup.contentBytes = some content ∧ backup.contentPath = none ∨
      ∃ stored g moves, backup.contentBytes = none ∧ backup.contentPath = some stored ∧ Before h₀ g ∧
        (atomicWriteBytes stored content (some 0o600) durability).play g moves = (ret (), h))

/-- What comes of a capture: a backup of nothing, or of a file at one instant. -/
def CapturedInstant (h₀ : History Filesystem) (path : Path) (durability : DurabilityMode)
    (r : Except FilesystemError FileBackup) (h : History Filesystem) : Prop :=
  ∀ backup, r = .ok backup →
    backup.fileType = .missing ∧ backup.contentBytes = none ∧ backup.contentPath = none ∨
      HoldsInstant h₀ h path durability backup

theorem capturedInstant_error {h₀ : History Filesystem} {path : Path} {durability : DurabilityMode} {e : FilesystemError} :
    CapturedInstant h₀ path durability (.error e) h := fun _ hno => by cases hno

theorem capturedInstant_construct {h₀ : History Filesystem} {path : Path} {durability : DurabilityMode} {backup : FileBackup}
    (hbackup : backup.fileType = .missing ∧ backup.contentBytes = none ∧ backup.contentPath = none ∨
      HoldsInstant h₀ h path durability backup) : CapturedInstant h₀ path durability backup.construct h := by
  intro backup' heq
  rw [FileBackup.construct_eq_ok heq]
  exact hbackup

theorem amid_captureBackup {given : Option ResourceSnapshot} {contentPath : Option Path} {durability : DurabilityMode}
    (hE : ∀ h s, E h s → SiblingsOnly way h.now s) (hname : name ≠ "..") :
    Amid C E (fun _ _ => True) (CapturedInstant (start s) (way ++ [name]) durability)
      (captureBackup (way ++ [name]) given contentPath durability) (start s) := by
  refine amid_seq (Q := fun _ h' => Leads E Idle (start s) h') ?_ (fun current h₁ hlead₁ => ?_) fun _ _ _ => capturedInstant_error
  · cases given with
    | none =>
      exact amid_mono (fun _ _ _ => trivial) (fun _ _ hr => hr.2) (amid_leads (amid_snapshotResource hE hname .refl))
    | some snapshot => exact .refl
  split
  · exact capturedInstant_error
  split
  · exact amid_ofExcept (capturedInstant_construct (Or.inl ⟨rfl, rfl, rfl⟩))
  · refine amid_seq (amid_mono (fun _ _ _ => trivial) (fun _ _ hr => hr)
      (amid_leads (amid_readRegularFileBackupBytes hE hname hlead₁))) (fun read h₂ hread => ?_) fun _ _ _ => capturedInstant_error
    obtain ⟨hread, hlead₂⟩ := hread
    obtain ⟨g, id, i, hg, hrest⟩ := hread read rfl
    have hhad : HadTogether (start s) h₂ (way ++ [name]) read.1 read.2 :=
      ⟨g, id, i, (Before.of_leads hlead₁).trans hg, hrest⟩
    split
    · exact capturedInstant_error
    next hhash =>
    have hhash : current.contentHash = some (contentDigest read.1) := (not_not.1 hhash).symm
    cases contentPath with
    | none =>
      exact amid_ofExcept (capturedInstant_construct (Or.inr ⟨read.1, read.2, hhad, rfl, hhash, hhash, Or.inl ⟨rfl, rfl⟩⟩))
    | some stored =>
      dsimp only
      split
      · exact capturedInstant_error
      refine amid_seq (amid_leads (amid_played (atomicWriteBytes stored read.1 (some 0o600) durability) h₂))
        (fun _ h₃ hwrite => ?_) fun _ _ _ => capturedInstant_error
      obtain ⟨⟨moves, hplay⟩, hlead₃⟩ := hwrite
      have hbefore : Before (start s) h₂ := Before.of_leads (hlead₁.trans hlead₂)
      have hhad₃ := hhad.later (Before.of_leads hlead₃)
      exact amid_ofExcept (capturedInstant_construct (Or.inr
        ⟨read.1, read.2, hhad₃, rfl, hhash, hhash, Or.inr ⟨stored, h₂, moves, rfl, rfl, hbefore, hplay⟩⟩))
  · exact capturedInstant_error
  · exact capturedInstant_error

end Amid

/-- Others are at work on the file and beside it. -/
def Siblings (way : Path) (h : History Filesystem) (s : Filesystem) : Prop := SiblingsOnly way h.now s

/-- And a symlink shows that it lost the name. -/
def SiblingsShown (way : Path) (name : String) (h : History Filesystem) (s : Filesystem) : Prop :=
  SiblingsOnly way h.now s ∧ MovesShow way name h.now s

/-- A root with what it holds: a file, and two symlinks under names that can be swapped. -/
private def inRoot (names : List (String × FileId)) : Filesystem where
  inodes id :=
    if id = ⟨0, 2⟩ then
      some ⟨.directory ⟨0, 2⟩ (names.foldr (fun entry entries => entries.insert entry.1 entry.2) ∅), 0o755, 0, 0, 0⟩
    else if id = ⟨0, 3⟩ then some ⟨.file [104, 105], 0o644, 0, 0, 0⟩
    else if id = ⟨0, 4⟩ then some ⟨.symlink "here", 0o777, 0, 0, 0⟩
    else if id = ⟨0, 5⟩ then some ⟨.symlink "away", 0o777, 0, 0, 0⟩
    else none
  root := ⟨0, 2⟩
  umask := 0

/-- An answer that reads a few bytes at once. -/
private def reading : Answer := ⟨none, none, none, ⟨0, 9⟩, "", 0, 4⟩

/-- An image of that type was taken. -/
private def tookImage (fileType : FileType) : Option (Except FilesystemError ResourceSnapshot) → Bool
  | some (.ok snapshot) => snapshot.fileType = fileType
  | _ => false

private theorem of_tookImage {fileType : FileType} {r : Option (Except FilesystemError ResourceSnapshot)}
    (h : tookImage fileType r = true) : ∃ snapshot, r = some (.ok snapshot) ∧ snapshot.fileType = fileType := by
  unfold tookImage at h
  split at h
  · next snapshot => exact ⟨snapshot, rfl, by simpa using h⟩
  · cases h

/-- The root with the file written to. -/
private def rewritten (names : List (String × FileId)) : Filesystem :=
  { inRoot names with
    inodes := fun id => if id = ⟨0, 3⟩ then some ⟨.file [98, 121, 101], 0o600, 0, 5, 5⟩ else (inRoot names).inodes id }

/-- What others do in the root. -/
private theorem siblings_in_root {fs fs' : Filesystem} (hroot : fs'.root = fs.root)
    (hdirectory : fs'.isDirectory fs.root = true)
    (hlater : ∀ id i, fs.inodes id = some i → ∃ i', fs'.inodes id = some i' ∧ Earlier i i') : SiblingsOnly [] fs fs' where
  leads := by rw [Filesystem.resolve_nil, Filesystem.resolve_nil, hroot]
  directory := by
    intro d hd _
    rw [Filesystem.resolve_nil] at hd
    cases hd
    exact hdirectory
  later := hlater

/-- Names in the root are swapped. -/
private theorem inRoot_siblings (names names' : List (String × FileId)) : SiblingsOnly [] (inRoot names) (inRoot names') := by
  refine siblings_in_root rfl rfl fun id i hi => ?_
  by_cases hroot : id = ⟨0, 2⟩
  · subst hroot
    cases hi
    exact ⟨_, rfl, le_refl _, fun _ => ⟨rfl, Or.inr ⟨rfl, rfl⟩⟩⟩
  · refine ⟨i, ?_, le_refl _, fun _ => .refl i⟩
    simp only [inRoot, if_neg hroot] at hi ⊢
    exact hi

/-- The file is written to, which gives it a new `ctime`. -/
private theorem rewritten_siblings (names names' : List (String × FileId)) :
    SiblingsOnly [] (inRoot names) (rewritten names') := by
  refine siblings_in_root rfl rfl fun id i hi => ?_
  by_cases hfile : id = ⟨0, 3⟩
  · subst hfile
    cases hi
    exact ⟨_, rfl, by decide, fun h => absurd h (by decide)⟩
  · obtain ⟨i', hi', hle⟩ := (inRoot_siblings names names').later id i hi
    refine ⟨i', ?_, hle⟩
    simp only [rewritten, if_neg hfile]
    exact hi'

/-- Names are swapped after that. -/
private theorem siblings_rewritten (names names' : List (String × FileId)) :
    SiblingsOnly [] (rewritten names) (rewritten names') := by
  refine siblings_in_root rfl rfl fun id i hi => ?_
  by_cases hfile : id = ⟨0, 3⟩
  · subst hfile
    cases hi
    exact ⟨_, rfl, le_refl _, fun _ => .refl _⟩
  · simp only [rewritten, if_neg hfile] at hi ⊢
    exact (inRoot_siblings names names').later id i hi

/-- Some steps of one's own. -/
private def alone (n : Nat) : List (Move Answer Filesystem) := (List.replicate n reading).map .own

/-- A sibling is renamed to the file that is looked for. -/
private def sibling : List (Move Answer Filesystem) :=
  alone 3 ++ .other (inRoot [("f", ⟨0, 3⟩), ("l", ⟨0, 4⟩)]) :: alone 15

/-- The file is written to, and a sibling is renamed. -/
private def writing : List (Move Answer Filesystem) :=
  alone 3 ++ .other (rewritten [("f", ⟨0, 3⟩), ("m", ⟨0, 4⟩)]) ::
    (alone 8 ++ .other (rewritten [("f", ⟨0, 3⟩), ("l", ⟨0, 4⟩)]) :: alone 24)

private def tookFile : Option (Except FilesystemError FileBackup) → Bool
  | some (.ok backup) => backup.fileType = .file ∧ backup.contentBytes = some [98, 121, 101]
  | _ => false

private theorem of_tookFile {r : Option (Except FilesystemError FileBackup)} (h : tookFile r = true) :
    ∃ backup, r = some (.ok backup) ∧ backup.fileType = .file ∧ backup.contentBytes = some [98, 121, 101] := by
  unfold tookFile at h
  split at h
  · next backup => exact ⟨backup, rfl, of_decide_eq_true h⟩
  · cases h

/-- One symlink is moved away, another one is read in its place, and the first one is moved back. -/
private def swapping : List (Move Answer Filesystem) :=
  List.replicate 4 (.own reading) ++ .other (inRoot [("l", ⟨0, 5⟩), ("m", ⟨0, 4⟩)]) :: .own reading ::
    .other (inRoot [("l", ⟨0, 4⟩), ("m", ⟨0, 5⟩)]) :: List.replicate 6 (.own reading)

/-- At no state of the run the path shows this. -/
private def neverShows (path : Path) (states : List Filesystem) :
    Option (Except FilesystemError ResourceSnapshot) → Bool
  | some (.ok snapshot) => states.all fun fs => fs.snapshotAt path ≠ snapshot
  | _ => false

end SafeFsOps.Descriptors
