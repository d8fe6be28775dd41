import SafeFsOps.FilesystemOps.FileMutations

/-!
# Backups

`filesystem_ops/backups.py`, for backups whose content lies in a file of its own:
a capture copies a file that looks as it was seen before, and a restore puts the
copy back, unless somebody else has been at the file meanwhile.

> `along_captureBackupAt`: a capture never changes the file it copies.
> `along_restoreBackupAt`: a restore changes the file only where it looks as expected,
> and where it has a result the file is what the backup says, permissions included.
-/

namespace SafeFsOps

open Program

/-! ## Reading -/

/-- `_current_permissions`, whose errors are dropped. -/
def currentPermissions (path : Path) : Sys (Option Nat) :=
  (look fun d => .ok ((d.lookup path).map Inode.permissions)).onRaise fun _ => .ret none

/-- What `_read_regular_file_backup_bytes` reads of the file it has found. -/
def readRegularInode (path : Path) (expected : ResourceSnapshot) (inode : Inode) :
    Except FilesystemError (Bytes × Nat) :=
  match inode.node with
  | .file content => do
    require (some inode.node.size = expected.size ∧ some inode.mtimeNs = expected.mtimeNs)
      (.unsafePath ("backup refused because file changed before capture completed: " ++ pathText path))
    return (content, inode.permissions)
  | _ => .error (.unsafePath ("backup refused for non-regular file: " ++ pathText path))

/-- `_read_regular_file_backup_bytes`; nobody else is at work while it reads. -/
def readRegularFileBackupBytes (path : Path) (expected : ResourceSnapshot) : Sys (Bytes × Nat) :=
  if expected.fileType ≠ .file then .raise (.valueError "expected_snapshot must describe a regular file")
  else look fun d => do
    let _ ← openDirectory "snapshot" "parent path" d (parentPath path)
    match d.lookup path with
    | none => .error (.fileNotFound path)
    | some inode => readRegularInode path expected inode

/-! ## Capturing -/

/-- `FileBackup.__post_init__`, as far as the snapshot that a backup is made from can fail it. -/
def FileBackup.postInit (b : FileBackup) : Except FilesystemError Unit := do
  require (b.snapshot.pathExists = decide (b.snapshot.fileType ≠ .missing))
    (.valueError "snapshot.exists must match backup existed flag")
  match b with
  | .missing _ => return ()
  | .file _ contentHash size _ _ =>
    require (contentHash ≠ none ∧ size ≠ none) (.valueError "file backups must store content_hash and size")

/-- The backup, where it passes its checks. -/
def FileBackup.construct (b : FileBackup) : Except FilesystemError FileBackup := b.postInit.map fun _ => b

/-- `capture_backup` of the file that `snapshot` shows, into `contentPath`. -/
def captureBackupAt (path : Path) (snapshot : ResourceSnapshot) (contentPath : Path) : Sys FileBackup :=
  if snapshot.path ≠ path then .raise (.valueError "snapshot.path must match capture target")
  else if snapshot.fileType = .missing then .ofExcept (FileBackup.missing snapshot).construct
  else if snapshot.fileType = .symlink then
    .raise (.unsafePath ("backup refused for symlink path: " ++ pathText path))
  else if snapshot.fileType ≠ .file then
    .raise (.unsafePath ("backup refused for non-regular file: " ++ pathText path))
  else do
    let (content, permissions) ← readRegularFileBackupBytes path snapshot
    if some (contentDigest content) ≠ snapshot.contentHash then
      .raise (.unsafePath ("backup refused because file changed before capture completed: " ++ pathText path))
    else if contentPath = path then .raise (.valueError "content_path must not alias the backup source path")
    else do
      atomicWriteBytes contentPath content (some 0o600)
      .ofExcept (FileBackup.file contentPath snapshot.contentHash snapshot.size permissions snapshot).construct

/-! ## Restoring -/

/-- `_same_resource_snapshot`: of two regular files only the content counts. -/
def sameResourceSnapshot (left right : ResourceSnapshot) : Bool :=
  if left.path = right.path ∧ left.pathExists = true ∧ right.pathExists = true ∧ left.fileType = .file ∧
      right.fileType = .file ∧ left.contentHash ≠ none ∧ right.contentHash ≠ none then
    left.contentHash = right.contentHash ∧ left.size = right.size ∧ left.symlinkTarget = right.symlinkTarget
  else
    left.path = right.path ∧ left.pathExists = right.pathExists ∧ left.fileType = right.fileType ∧
      left.contentHash = right.contentHash ∧ left.size = right.size ∧ left.mtimeNs = right.mtimeNs ∧
      left.symlinkTarget = right.symlinkTarget

/-- `_require_restore_preconditions`. -/
def requireRestorePreconditions (path : Path) (current : ResourceSnapshot)
    (expectedCurrent : Option ResourceSnapshot) (allowOverwrite : Bool) : Except FilesystemError Unit :=
  if allowOverwrite = true then .ok ()
  else match expectedCurrent with
    | none => .error (.restoreConflict
        ("restore refused because current state was not provided for " ++ pathText path))
    | some expected => do
      require (expected.path = path) (.valueError "expected_current.path must match backup path")
      require (sameResourceSnapshot current expected = true) (.restoreConflict
        ("restore refused because current state changed unexpectedly: " ++ pathText path))

/-- `_snapshot_matches_backup_content`, of a backup with content. -/
def snapshotMatchesBackupContent (snapshot : ResourceSnapshot) (contentHash : Option ContentDigest)
    (size : Option Nat) (permissions : Nat) : Sys Bool :=
  if snapshot.fileType = .file ∧ snapshot.contentHash = contentHash ∧ snapshot.size = size then do
    let current ← currentPermissions snapshot.path
    return current = some permissions
  else return false

/-- `_load_and_validate_backup_content`. -/
def loadAndValidateBackupContent (path contentPath : Path) (contentHash : Option ContentDigest)
    (size : Option Nat) : Sys Bytes := do
  let shown ← snapshotResource contentPath
  if shown.fileType ≠ .file then
    .raise (.backupContentMismatch ("backup content path is not a regular file: " ++ pathText contentPath))
  else do
    let (content, _) ← readRegularFileBackupBytes contentPath shown
    if some (contentDigest content) ≠ contentHash then
      .raise (.backupContentMismatch ("backup content hash mismatch for " ++ pathText path))
    else if some content.length ≠ size then
      .raise (.backupContentMismatch ("backup content size mismatch for " ++ pathText path))
    else return content

/-- `_restore_missing_backup`. -/
def restoreMissingBackup (path : Path) (expectedCurrent : Option ResourceSnapshot) (allowOverwrite : Bool) :
    Sys ResourceSnapshot := do
  let current ← snapshotResource path
  if current.fileType = .missing then return current
  else if current.fileType = .symlink then
    .raise (.unsafePath ("restore refused for symlink path: " ++ pathText path))
  else if current.fileType ≠ .file then
    .raise (.unsafePath ("restore refused for non-regular file: " ++ pathText path))
  else do
    .ofExcept (requireRestorePreconditions path current expectedCurrent allowOverwrite)
    deleteFileAt path false
    let restored ← snapshotResource path
    if restored.fileType ≠ .missing then
      .raise (.restoreConflict ("restore did not remove file as expected: " ++ pathText path))
    else return restored

/-- The checks of `restore_backup` on what it has written. -/
def verifyRestored (path : Path) (contentHash : Option ContentDigest) (size : Option Nat) (permissions : Nat) :
    Sys ResourceSnapshot := do
  let restored ← snapshotResource path
  if restored.fileType ≠ .file ∨ restored.contentHash ≠ contentHash then
    .raise (.backupContentMismatch ("restore wrote unexpected content for " ++ pathText path))
  else if restored.size ≠ size then
    .raise (.backupContentMismatch ("restore wrote unexpected file size for " ++ pathText path))
  else do
    let current ← currentPermissions restored.path
    if current ≠ some permissions then
      .raise (.backupContentMismatch ("restore wrote unexpected permissions for " ++ pathText path))
    else return restored

/-- `restore_backup`. -/
def restoreBackupAt (backup : FileBackup) (expectedCurrent : Option ResourceSnapshot) (allowOverwrite : Bool) :
    Sys ResourceSnapshot :=
  match backup with
  | .missing snapshot => restoreMissingBackup snapshot.path expectedCurrent allowOverwrite
  | .file contentPath contentHash size permissions snapshot => do
    let current ← snapshotResource snapshot.path
    let restored ← snapshotMatchesBackupContent current contentHash size permissions
    if restored = true then do
      let _ ← loadAndValidateBackupContent snapshot.path contentPath contentHash size
      return current
    else do
      .ofExcept (requireRestorePreconditions snapshot.path current expectedCurrent allowOverwrite)
      let content ← loadAndValidateBackupContent snapshot.path contentPath contentHash size
      atomicWriteBytes snapshot.path content (some permissions)
      verifyRestored snapshot.path contentHash size permissions

/-! ## What a snapshot shows -/

namespace Disk

variable {d : Disk} {p : Path} {i : Inode}

theorem snapshotAt_of_lookup (h : d.lookup p = some i) : d.snapshotAt p =
    ⟨p, true, i.node.fileType, i.node.contentHash, some i.node.size, some i.mtimeNs, i.node.symlinkTarget,
      some d.device, some i.number, some i.ctimeNs⟩ := by
  unfold snapshotAt
  rw [h]

theorem snapshotAt_of_missing (h : d.lookup p = none) : d.snapshotAt p = .missing p := by
  unfold snapshotAt
  rw [h]

@[simp] theorem snapshotAt_path : (d.snapshotAt p).path = p := by
  cases h : d.lookup p with
  | none => rw [snapshotAt_of_missing h]; rfl
  | some i => rw [snapshotAt_of_lookup h]

/-- Only nothing is shown as missing. -/
theorem snapshotAt_missing (h : (d.snapshotAt p).fileType = .missing) : d.lookup p = none := by
  cases hp : d.lookup p with
  | none => rfl
  | some i =>
    rw [snapshotAt_of_lookup hp] at h
    cases hn : i.node <;> rw [hn] at h <;> cases h

/-- A file that is shown is there. -/
theorem snapshotAt_file (h : (d.snapshotAt p).fileType = .file) : ∃ i, d.lookup p = some i ∧ i.node.fileType = .file := by
  cases hp : d.lookup p with
  | none =>
    rw [snapshotAt_of_missing hp] at h
    cases h
  | some i =>
    rw [snapshotAt_of_lookup hp] at h
    exact ⟨i, rfl, h⟩

theorem typeAt_eq (d : Disk) (p : Path) : d.typeAt p = (d.snapshotAt p).fileType := by
  unfold typeAt
  cases hp : d.lookup p with
  | none => rw [snapshotAt_of_missing hp]; rfl
  | some i => rw [snapshotAt_of_lookup hp]; rfl

end Disk

theorem readRegularInode_isUnsafe {path : Path} {expected : ResourceSnapshot} {inode : Inode} {e : FilesystemError}
    (h : readRegularInode path expected inode = .error e) : e.isUnsafePath = true := by
  unfold readRegularInode at h
  split at h
  · cases hsame : require (some inode.node.size = expected.size ∧ some inode.mtimeNs = expected.mtimeNs)
        (FilesystemError.unsafePath
          ("backup refused because file changed before capture completed: " ++ pathText path)) with
    | error e' =>
      rw [hsame] at h
      cases h
      rw [(require_error hsame).1]
      rfl
    | ok _ =>
      rw [hsame] at h
      cases h
  · cases h
    rfl

/-- What is there is what the backup was made of. -/
def FileBackup.Matches (b : FileBackup) (inode : Option Inode) : Prop :=
  match b with
  | .missing _ => inode = none
  | .file _ contentHash size permissions _ => ∃ i, inode = some i ∧ i.node.fileType = .file ∧
      i.node.contentHash = contentHash ∧ some i.node.size = size ∧ i.permissions = permissions

/-! ## What a capture does -/

section Capturing

variable {C : OsAnswer → Disk → Prop} {path contentPath : Path} {d : Disk}

/-- **A capture** leaves the file it copies alone: where the artifact would be that very
file, it refuses. -/
theorem along_captureBackupAt (snapshot : ResourceSnapshot) :
    Along C (fun _ d' => d'.lookup path = d.lookup path) (fun _ d' => d'.lookup path = d.lookup path)
      (captureBackupAt path snapshot contentPath) d := by
  suffices h : Along C (fun _ d' => d'.lookup path = d.lookup path)
      (Ends (fun _ => True) fun d' => d'.lookup path = d.lookup path) (captureBackupAt path snapshot contentPath) d from
    along_mono (fun _ _ h => h) (fun _ _ h => h.1) h
  have hraise : ∀ e : FilesystemError, Along C (fun _ d' => d'.lookup path = d.lookup path)
      (Ends (fun _ => True) fun d' => d'.lookup path = d.lookup path) (.raise e : Sys FileBackup) d :=
    fun e => .raises rfl trivial
  have hinit : ∀ {d' : Disk}, d'.lookup path = d.lookup path → ∀ b : FileBackup,
      Along C (fun _ d' => d'.lookup path = d.lookup path) (Ends (fun _ => True) fun d' => d'.lookup path = d.lookup path)
        (.ofExcept b.construct : Sys FileBackup) d' :=
    fun hd _ => along_ofExcept ⟨hd, fun _ _ => trivial⟩
  unfold captureBackupAt
  split
  · exact hraise _
  split
  · exact hinit rfl _
  split
  · exact hraise _
  split
  · exact hraise _
  unfold readRegularFileBackupBytes
  split
  · exact hraise _
  refine along_look_bind rfl rfl (fun _ _ _ _ => trivial) (fun _ _ => trivial) ?_
  rintro ⟨content, permissions⟩ hread
  dsimp only
  split
  · exact hraise _
  split
  · exact hraise _
  next hne =>
  -- the file was there to be read, and a write elsewhere keeps what is there
  obtain ⟨inode, hinode⟩ : ∃ i, d.lookup path = some i := by
    cases hp : d.lookup path with
    | some i => exact ⟨i, rfl⟩
    | none =>
      simp only [bind_eq_ok, hp] at hread
      obtain ⟨_, -, h⟩ := hread
      cases h
  have hkeeps : ∀ d', WritesOnly contentPath d d' → d'.lookup path = d.lookup path := by
    intro d' hd
    rw [hinode]
    exact hd.others path inode (Ne.symm hne) hinode
  refine along_ends_seq (along_mono (fun _ d' hd => hkeeps d' hd) (fun _ _ hd => hd)
    (along_atomicWriteBytes Admits.any content (some 0o600) d)) hkeeps fun _ d' hd => ?_
  exact hinit (hkeeps d' hd) _

end Capturing

/-! ## What a restore does -/

section Restoring

variable {α : Type} {C : OsAnswer → Disk → Prop} {R : Disk → Disk → Prop} {E : FilesystemError → Prop}
  {Q : Except FilesystemError α → Disk → Prop} {path : Path} {d : Disk}

/-- Looking at a path: what is there, or an error. -/
theorem along_snapshot_bind {f : ResourceSnapshot → Sys α} (hR : R d d)
    (hfault : ∀ i e, C i d → i.fault = some e → Q (.error e) d)
    (hrefusal : ∀ e : FilesystemError, e.isUnsafePath = true → Q (.error e) d)
    (hok : Along C R Q (f (d.snapshotAt path)) d) : Along C R Q (snapshotResource path >>= f) d := by
  refine along_bind (along_look hR (fun i e hi hf => hfault i e hi hf) ?_)
  cases hopen : openDirectory "snapshot" "parent path" d (parentPath path) with
  | error e => exact hrefusal e (openDirectory_isUnsafe hopen)
  | ok _ => exact hok

/-- The permissions that are there, or none where they cannot be seen. -/
theorem along_permissions_bind {f : Option Nat → Sys α} (hR : R d d)
    (hok : ∀ mode, mode = none ∨ mode = (d.lookup path).map Inode.permissions → Along C R Q (f mode) d) :
    Along C R Q (currentPermissions path >>= f) d := by
  have hlook : Along C R (fun r d' => d' = d ∧ ∃ mode, r = .ok mode ∧
      (mode = none ∨ mode = (d.lookup path).map Inode.permissions)) (currentPermissions path) d :=
    along_onRaise (along_look hR (fun _ _ _ _ => ⟨rfl, none, rfl, Or.inl rfl⟩) ⟨rfl, _, rfl, Or.inr rfl⟩)
  refine along_seq hlook (fun mode d' h => ?_) fun e d' h => ?_
  · obtain ⟨rfl, mode', hmode, hcases⟩ := h
    cases hmode
    exact hok mode hcases
  · obtain ⟨-, mode, hmode, -⟩ := h
    cases hmode

variable {contentPath : Path} {contentHash : Option ContentDigest} {size : Option Nat} {permissions : Nat}

/-- Comparing what is there with a backup: it only says yes where that is so. -/
theorem along_matches_bind {f : Bool → Sys α} (hR : R d d)
    (hok : ∀ b : Bool, (b = true → ∃ i, d.lookup path = some i ∧ i.node.fileType = .file ∧
      i.node.contentHash = contentHash ∧ some i.node.size = size ∧ i.permissions = permissions) → Along C R Q (f b) d) :
    Along C R Q (snapshotMatchesBackupContent (d.snapshotAt path) contentHash size permissions >>= f) d := by
  unfold snapshotMatchesBackupContent
  split
  · next hshown =>
    rw [Disk.snapshotAt_path, bind_eq, bind_eq, bind_assoc]
    refine along_permissions_bind hR fun mode hmode => hok _ fun hsame => ?_
    obtain ⟨i, hi, hfile⟩ := Disk.snapshotAt_file hshown.1
    rw [Disk.snapshotAt_of_lookup hi] at hshown
    refine ⟨i, hi, hfile, hshown.2.1, hshown.2.2, ?_⟩
    rw [of_decide_eq_true hsame, hi] at hmode
    rcases hmode with hnone | hsome
    · cases hnone
    · exact (Option.some.inj hsome).symm
  · exact hok false fun h => by cases h

/-- The errors a restore of the path may raise where its inputs meet `C`. -/
structure RestoreAdmits (C : OsAnswer → Disk → Prop) (E : FilesystemError → Prop) (path : Path) : Prop
    extends Admits C E path where
  mismatch : ∀ m, E (.backupContentMismatch m)

/-- Loading a backup's content changes nothing. -/
theorem along_loadAndValidate (hE : RestoreAdmits C E path) (hR : R d d) :
    Along C R (Ends E fun d' => d' = d) (loadAndValidateBackupContent path contentPath contentHash size) d := by
  have hfault : ∀ i e, C i d → i.fault = some e → E e := fun i e hi hf => hE.fault i d e hi hf
  refine along_snapshot_bind hR (fun i e hi hf => .raises rfl (hfault i e hi hf))
    (fun e he => .raises rfl (hE.refusal e he)) ?_
  split
  · exact .raises rfl (hE.mismatch _)
  next htype =>
  obtain ⟨inode, hinode, hfile⟩ := Disk.snapshotAt_file (Decidable.not_not.1 htype)
  rw [readRegularFileBackupBytes, if_neg htype]
  refine along_look_bind hR rfl hfault (fun e he => ?_) fun content _ => ?_
  · -- the file is there, so it is refused at most
    cases hopen : openDirectory "snapshot" "parent path" d (parentPath contentPath) with
    | error e' =>
      rw [hopen] at he
      cases he
      exact hE.refusal e (openDirectory_isUnsafe hopen)
    | ok _ =>
      rw [hopen] at he
      simp only [hinode, Bind.bind, Except.bind] at he
      exact hE.refusal e (readRegularInode_isUnsafe he)
  · dsimp only
    split
    · exact .raises rfl (hE.mismatch _)
    split
    · exact .raises rfl (hE.mismatch _)
    · exact .ok rfl

/-- What a restore may have done to the file so far: nothing, unless it looked as expected. -/
def RestoresOnly (path : Path) (expectedCurrent : Option ResourceSnapshot) (allowOverwrite : Bool) (d₀ d : Disk) : Prop :=
  d.lookup path = d₀.lookup path ∨
    requireRestorePreconditions path (d₀.snapshotAt path) expectedCurrent allowOverwrite = .ok ()

/-- A restore ends: what it has left, and where it has a result, that it did its work. -/
def RestoreEnds (E : FilesystemError → Prop) (backup : FileBackup) (expectedCurrent : Option ResourceSnapshot)
    (allowOverwrite : Bool) (d₀ : Disk) (r : Except FilesystemError ResourceSnapshot) (d : Disk) : Prop :=
  Ends E (RestoresOnly backup.path expectedCurrent allowOverwrite d₀) r d ∧
    ∀ s, r = .ok s → backup.Matches (d.lookup backup.path)

section Ends

variable {backup : FileBackup} {expectedCurrent : Option ResourceSnapshot} {allowOverwrite : Bool} {d₀ : Disk}

theorem RestoreEnds.ok {s : ResourceSnapshot} (h : RestoresOnly backup.path expectedCurrent allowOverwrite d₀ d)
    (hm : backup.Matches (d.lookup backup.path)) : RestoreEnds E backup expectedCurrent allowOverwrite d₀ (.ok s) d :=
  ⟨.ok h, fun _ _ => hm⟩

theorem RestoreEnds.raises {e : FilesystemError} (h : RestoresOnly backup.path expectedCurrent allowOverwrite d₀ d)
    (he : E e) : RestoreEnds E backup expectedCurrent allowOverwrite d₀ (.error e) d :=
  ⟨.raises h he, fun _ hs => by cases hs⟩

/-- What the preconditions refuse with, where the paths agree. -/
theorem requireRestorePreconditions_isUnsafe {current : ResourceSnapshot} {e : FilesystemError}
    (hpath : ∀ expected, expectedCurrent = some expected → expected.path = path)
    (h : requireRestorePreconditions path current expectedCurrent allowOverwrite = .error e) :
    e.isUnsafePath = true := by
  unfold requireRestorePreconditions at h
  split at h
  · cases h
  · split at h
    · cases h
      rfl
    · next expected =>
      rw [require, if_pos (hpath expected rfl)] at h
      rw [(require_error h).1]
      rfl

end Ends

/-- After the last step of a restore: it is checked, so it is right or raises. -/
theorem along_verifyRestored (hE : RestoreAdmits C E path) (hR : R d d) :
    Along C R (fun r d' => Ends E (fun d' => d' = d) r d' ∧ ∀ s, r = .ok s → ∃ i, d.lookup path = some i ∧
        i.node.fileType = .file ∧ i.node.contentHash = contentHash ∧ some i.node.size = size ∧
        i.permissions = permissions)
      (verifyRestored path contentHash size permissions) d := by
  have hraise : ∀ e, E e → Ends E (fun d' => d' = d) (.error e : Except FilesystemError ResourceSnapshot) d ∧
      ∀ s, (.error e : Except FilesystemError ResourceSnapshot) = .ok s → ∃ i, d.lookup path = some i ∧
        i.node.fileType = .file ∧ i.node.contentHash = contentHash ∧ some i.node.size = size ∧
        i.permissions = permissions := fun e he => ⟨.raises rfl he, fun _ hs => by cases hs⟩
  refine along_snapshot_bind hR (fun i e hi hf => hraise e (hE.fault i d e hi hf))
    (fun e he => hraise e (hE.refusal e he)) ?_
  split
  · exact hraise _ (hE.mismatch _)
  next hcontent =>
  split
  · exact hraise _ (hE.mismatch _)
  next hsize =>
  rw [Disk.snapshotAt_path]
  refine along_permissions_bind hR fun mode hmode => ?_
  split
  · exact hraise _ (hE.mismatch _)
  next hpermissions =>
  rw [not_or, Decidable.not_not, Decidable.not_not] at hcontent
  rw [Decidable.not_not] at hsize hpermissions
  obtain ⟨i, hi, hfile⟩ := Disk.snapshotAt_file hcontent.1
  rw [Disk.snapshotAt_of_lookup hi] at hcontent hsize
  refine ⟨.ok rfl, fun _ _ => ⟨i, hi, hfile, hcontent.2, hsize, ?_⟩⟩
  rw [hpermissions, hi] at hmode
  rcases hmode with hnone | hsome
  · cases hnone
  · exact (Option.some.inj hsome).symm

variable {expectedCurrent : Option ResourceSnapshot} {allowOverwrite : Bool}

theorem along_restoreMissingBackup {snapshot : ResourceSnapshot} (hE : RestoreAdmits C E snapshot.path)
    (hpath : ∀ expected, expectedCurrent = some expected → expected.path = snapshot.path) (d : Disk) :
    Along C (fun _ d' => RestoresOnly snapshot.path expectedCurrent allowOverwrite d d')
      (RestoreEnds E (.missing snapshot) expectedCurrent allowOverwrite d)
      (restoreMissingBackup snapshot.path expectedCurrent allowOverwrite) d := by
  have h : RestoresOnly snapshot.path expectedCurrent allowOverwrite d d := Or.inl rfl
  refine along_snapshot_bind h (fun i e hi hf => .raises h (hE.fault i d e hi hf))
    (fun e he => .raises h (hE.refusal e he)) ?_
  split
  · next hmissing => exact .ok h (Disk.snapshotAt_missing hmissing)
  split
  · exact .raises h (hE.refusal _ rfl)
  split
  · exact .raises h (hE.refusal _ rfl)
  next hfile =>
  rw [Decidable.not_not] at hfile
  refine along_ofExcept_seq (fun e he => .raises h (hE.refusal e (requireRestorePreconditions_isUnsafe hpath he)))
    fun _ hpre => ?_
  -- from here on the file may change
  have hany : ∀ d' : Disk, RestoresOnly snapshot.path expectedCurrent allowOverwrite d d' := fun _ => Or.inr hpre
  have hdelete : Along C (fun _ d' => DeletesOnly snapshot.path d d') (Ends E (DeletesOnly snapshot.path d))
      (deleteFileAt snapshot.path false) d := by
    refine along_deleteFileAt hE.fault hE.refusal fun htype _ => ?_
    rw [Disk.typeAt_eq, hfile] at htype
    cases htype
  refine along_seq (along_mono (fun _ d' _ => hany d') (fun _ _ hd => hd) hdelete) (fun _ d₁ _ => ?_)
    fun e d₁ hd => .raises (hany d₁) (hd.2 e rfl)
  refine along_snapshot_bind (hany d₁) (fun i e hi hf => .raises (hany d₁) (hE.fault i d₁ e hi hf))
    (fun e he => .raises (hany d₁) (hE.refusal e he)) ?_
  split
  · exact .raises (hany d₁) (hE.refusal _ rfl)
  · next hgone => exact .ok (hany d₁) (Disk.snapshotAt_missing (Decidable.not_not.1 hgone))

/-- **A restore** changes the file only where it looks as expected, and has a result only
where the file is what the backup was made of. -/
theorem along_restoreBackupAt {backup : FileBackup} (hE : RestoreAdmits C E backup.path)
    (hpath : ∀ expected, expectedCurrent = some expected → expected.path = backup.path) (d : Disk) :
    Along C (fun _ d' => RestoresOnly backup.path expectedCurrent allowOverwrite d d')
      (RestoreEnds E backup expectedCurrent allowOverwrite d)
      (restoreBackupAt backup expectedCurrent allowOverwrite) d := by
  cases backup with
  | missing snapshot => exact along_restoreMissingBackup hE hpath d
  | file contentPath contentHash size permissions snapshot =>
    have h : RestoresOnly snapshot.path expectedCurrent allowOverwrite d d := Or.inl rfl
    refine along_snapshot_bind h (fun i e hi hf => .raises h (hE.fault i d e hi hf))
      (fun e he => .raises h (hE.refusal e he)) ?_
    have hload : ∀ d', RestoresOnly snapshot.path expectedCurrent allowOverwrite d d' →
        Along C (fun _ d'' => RestoresOnly snapshot.path expectedCurrent allowOverwrite d d'') (Ends E fun d'' => d'' = d')
          (loadAndValidateBackupContent snapshot.path contentPath contentHash size) d' :=
      fun d' hd => along_loadAndValidate hE hd
    -- what is to be done, once it is known whether the file is restored already
    have hwrite : Along C (fun _ d' => RestoresOnly snapshot.path expectedCurrent allowOverwrite d d')
        (RestoreEnds E (.file contentPath contentHash size permissions snapshot) expectedCurrent allowOverwrite d)
        (do
          .ofExcept (requireRestorePreconditions snapshot.path (d.snapshotAt snapshot.path) expectedCurrent
            allowOverwrite)
          let content ← loadAndValidateBackupContent snapshot.path contentPath contentHash size
          atomicWriteBytes snapshot.path content (some permissions)
          verifyRestored snapshot.path contentHash size permissions) d := by
      refine along_ofExcept_seq (fun e he => .raises h (hE.refusal e (requireRestorePreconditions_isUnsafe hpath he)))
        fun _ hpre => ?_
      have hany : ∀ d' : Disk, RestoresOnly snapshot.path expectedCurrent allowOverwrite d d' := fun _ => Or.inr hpre
      refine along_seq (hload d h) (fun content d₁ _ => ?_) fun e d₁ hd => .raises (hany d₁) (hd.2 e rfl)
      refine along_seq (along_mono (fun _ d' _ => hany d') (fun _ _ hd => hd)
        (along_atomicWriteBytes hE.toAdmits content (some permissions) d₁)) (fun _ d₂ _ => ?_)
        fun e d₂ hd => .raises (hany d₂) (hd.2 e rfl)
      refine along_mono (fun _ _ hd => hd) (fun r d' hd => ⟨⟨hany d', hd.1.2⟩, fun s hs => ?_⟩)
        (along_verifyRestored hE (hany d₂))
      rw [hd.1.1]
      exact hd.2 s hs
    refine along_matches_bind h fun restored hrestored => ?_
    split
    · next hyes =>
      refine along_seq (hload d h) (fun _ d₁ hd => ?_) fun e d₁ hd => .raises (Or.inl (by rw [hd.1])) (hd.2 e rfl)
      rw [hd.1]
      exact .ok h (hrestored hyes)
    · exact hwrite

/-! ### What is seen of a restore -/

/-- What is there is what was, or what the backup was made of. -/
def FileBackup.Leaves (backup : FileBackup) (d₀ d : Disk) : Prop :=
  d.lookup backup.path = d₀.lookup backup.path ∨ backup.Matches (d.lookup backup.path)

/-- Content that is loaded is that of the backup. -/
theorem loadAndValidate_yields : Yields (fun content => some (contentDigest content) = contentHash ∧
    some content.length = size) (loadAndValidateBackupContent path contentPath contentHash size) := by
  refine yields_bind fun shown => ?_
  split
  · trivial
  refine yields_bind fun read => ?_
  dsimp only
  split
  · trivial
  next hhash =>
  split
  · trivial
  next hsize => exact ⟨Decidable.not_not.1 hhash, Decidable.not_not.1 hsize⟩

/-- **A restore is not seen in part.** At each of its points, killed or not, the file is as it was
before the restore, or what the backup was made of. -/
theorem along_restoreBackupAt_leaves (backup : FileBackup) (expectedCurrent : Option ResourceSnapshot)
    (allowOverwrite : Bool) (d : Disk) :
    Along C (fun _ d' => backup.Leaves d d') (fun _ d' => backup.Leaves d d')
      (restoreBackupAt backup expectedCurrent allowOverwrite) d := by
  have hE : ∀ p, RestoreAdmits C (fun _ => True) p := fun p => ⟨Admits.any, fun _ => trivial⟩
  cases backup with
  -- a backup of nothing: all that is done is to delete
  | missing snapshot =>
    have h : (FileBackup.missing snapshot).Leaves d d := Or.inl rfl
    refine along_snapshot_bind h (fun _ _ _ _ => h) (fun _ _ => h) ?_
    split
    · exact h
    split
    · exact h
    split
    · exact h
    refine along_ofExcept_seq (fun _ _ => h) fun _ _ => ?_
    have hdeleted : ∀ d', DeletesOnly snapshot.path d d' → (FileBackup.missing snapshot).Leaves d d' := by
      intro d' hd'
      rcases hd' with rfl | rfl
      · exact h
      · exact Or.inr Disk.lookup_remove
    refine along_seq (along_mono (fun _ d' hd => hdeleted d' hd) (fun _ _ hd => hd) (along_deleteFileAt
      (E := fun _ => True) (fun _ _ _ _ _ => trivial) (fun _ _ => trivial) fun _ _ => trivial)) (fun _ d₁ h₁ => ?_)
      fun _ d₁ h₁ => hdeleted d₁ h₁.1
    have hd₁ := hdeleted d₁ h₁.1
    refine along_snapshot_bind hd₁ (fun _ _ _ _ => hd₁) (fun _ _ => hd₁) ?_
    split <;> exact hd₁
  -- the content is checked against its hash before anything is written
  | file contentPath contentHash size permissions snapshot =>
    have h : (FileBackup.file contentPath contentHash size permissions snapshot).Leaves d d := Or.inl rfl
    refine along_snapshot_bind h (fun _ _ _ _ => h) (fun _ _ => h) (along_matches_bind h fun restored _ => ?_)
    have hload : Along C (fun _ d' => (FileBackup.file contentPath contentHash size permissions snapshot).Leaves d d')
        (fun r d' => d' = d ∧ ∀ content, r = .ok content →
          some (contentDigest content) = contentHash ∧ some content.length = size)
        (loadAndValidateBackupContent snapshot.path contentPath contentHash size) d :=
      along_mono (fun _ _ hd => hd) (fun _ _ hd => ⟨hd.1.1, hd.2⟩)
        (along_yields loadAndValidate_yields (along_loadAndValidate (hE snapshot.path) h))
    split
    · exact along_seq hload (fun _ d₁ h₁ => by rw [h₁.1]; exact h) fun _ d₁ h₁ => by rw [h₁.1]; exact h
    refine along_ofExcept_seq (fun _ _ => h) fun _ _ => ?_
    refine along_seq hload (fun content d₁ h₁ => ?_) fun _ d₁ h₁ => by rw [h₁.1]; exact h
    obtain ⟨rfl, hcontent⟩ := h₁
    obtain ⟨hhash, hsize⟩ := hcontent content rfl
    have hfills : ∀ d', Fills snapshot.path content (some permissions) d₁ d' →
        (FileBackup.file contentPath contentHash size permissions snapshot).Leaves d₁ d' := by
      intro d' hd'
      rcases hd' with hsame | ⟨i, hi, hnode, hmode⟩
      · exact Or.inl hsame
      · refine Or.inr ⟨i, hi, ?_, ?_, ?_, hmode permissions rfl⟩
        · rw [hnode]
          rfl
        · rw [hnode]
          exact hhash
        · rw [hnode]
          exact hsize
    refine along_seq (along_mono (fun _ d' hd => hfills d' hd) (fun _ _ hd => hd)
      (along_atomicWriteBytes_fills content (some permissions) d₁)) (fun _ d₂ h₂ => ?_) fun _ d₂ h₂ => hfills d₂ h₂
    refine along_mono (fun _ _ hd => hd) (fun _ d' hd => ?_) (along_verifyRestored (hE snapshot.path) (hfills d₂ h₂))
    rw [hd.1.1]
    exact hfills d₂ h₂

end Restoring

end SafeFsOps
