import SafeFsOps.FilesystemOps.Backups
import SafeFsOps.OperationJournal.Coordinator

/-!
# A coordinator on a disk

The default operations of a coordinator, as far as files go: those of `filesystem_ops`
on the disk of this development. What the operating system contributes to a call is the
list of its answers to the system calls; where the list ends, the process was killed.

> `Sys.run_holds`, `Sys.run_finishes`: what is known of an operation along its system
> calls holds of the call as a whole.
-/

namespace SafeFsOps

open Program

/-- `os.lstat`. -/
def lstatAt (path : Path) : Sys FileStat :=
  look fun d =>
    match d.lookup path with
    | none => .error (.fileNotFound path)
    | some i => .ok ⟨i.node.fileType, i.permissions, i.node.size, i.mtimeNs, i.ctimeNs, ⟨d.device, i.number⟩⟩

/-- `_hash_regular_file`. -/
def hashRegularFileAt (path : Path) : Sys (ContentDigest × Nat) :=
  look fun d =>
    match (d.lookup path).map Inode.node with
    | none => .error (.fileNotFound path)
    | some (.file content) => .ok (contentDigest content, content.length)
    | some _ => .error (.osError ("backup artifact is not a regular file: " ++ pathText path))

/-- The operations on files are those of `filesystem_ops`, the others are given. -/
def FilesystemOps.onDisk (ops : FilesystemOps Disk (List OsAnswer)) : FilesystemOps Disk (List OsAnswer) :=
  { ops with
    snapshot := fun o d path => ((snapshotResource path).run o d).1
    lstat := fun o d path => ((lstatAt path).run o d).1
    hashRegularFile := fun o d path => ((hashRegularFileAt path).run o d).1
    writeBytes := fun o d path content permissions => (atomicWriteBytes path content permissions).run o d
    writeText := fun o d path content newline => (atomicWriteText path content newline).run o d
    deleteFile := fun o d path missingOk => (deleteFileAt path missingOk).run o d
    captureBackup := fun o d path snapshot contentPath => (captureBackupAt path snapshot contentPath).run o d
    restoreBackup := fun o d backup expected allowOverwrite =>
      (restoreBackupAt backup expected allowOverwrite).run o d }

/-- A coordinator with those operations. -/
def Coordinator.onDisk (C : Coordinator Disk (List OsAnswer)) : Coordinator Disk (List OsAnswer) :=
  { C with ops := C.ops.onDisk }

/-! ## Calls as a whole -/

section Run

variable {α : Type} {C : OsAnswer → Disk → Prop} {R : Disk → Disk → Prop} {Q : Except FilesystemError α → Disk → Prop}
  {p : Sys α} {d : Disk} {answers : List OsAnswer}

/-- The disk a call leaves is the one its last system call left. -/
theorem Sys.run_disk : (p.run answers d).2 = (p.exec d answers).2 := by
  unfold Sys.run
  split <;> next h => rw [h]

/-- What each system call leaves true, the call does, however it ends. -/
theorem Sys.run_holds {I : Disk → Prop} (h : Along C (fun _ d' => I d') Q p d) (hd : I d) (hm : Meets C p d answers) :
    I (p.run answers d).2 := by
  rw [Sys.run_disk]
  exact along_holds h hd answers hm

/-- What a call comes to, unless the process was killed inside it. -/
theorem Sys.run_finishes (h : Along C R Q p d) (hm : Meets C p d answers) :
    Q (p.run answers d).1 (p.run answers d).2 ∨
      (p.exec d answers).1 = none ∧ (p.run answers d).1 = .error (.osError "killed") := by
  unfold Sys.run
  split
  · next r rest d' hrun => exact Or.inl (along_finishes h hm hrun)
  · next d' hrun => exact Or.inr ⟨by rw [hrun], rfl⟩

/-- A call with a result was not killed. -/
theorem Sys.run_ok {a : α} (h : Along (fun _ _ => True) R Q p d) (hrun : (p.run answers d).1 = .ok a) :
    Q (.ok a) (p.run answers d).2 := by
  rcases Sys.run_finishes h (meets_true p d answers) with hQ | ⟨-, hkilled⟩
  · rw [hrun] at hQ
    exact hQ
  · rw [hrun] at hkilled
    cases hkilled

end Run

/-! ## What a coordinator sees -/

section Sees

variable {C : Coordinator Disk (List OsAnswer)} {o : List OsAnswer} {d : Disk} {path : Path}

theorem along_look_all {α : Type} {read : Disk → Except FilesystemError α} {a : α}
    (h : ((look read : Sys α).run o d).1 = .ok a) : read d = .ok a := by
  have hlook : Along (fun _ _ => True) (fun _ _ => True) (fun r _ => ∀ b, r = .ok b → read d = .ok b)
      (look read : Sys α) d := along_look trivial (fun _ _ _ _ _ hb => by cases hb) fun _ hb => hb
  exact Sys.run_ok hlook h a rfl

/-- A snapshot shows what is there. -/
theorem snapshot_onDisk {s : ResourceSnapshot} (h : C.onDisk.ops.snapshot o d path = .ok s) : s = d.snapshotAt path := by
  have hread := along_look_all h
  simp only [bind_eq_ok, pure_eq_ok] at hread
  obtain ⟨_, -, heq⟩ := hread
  exact heq.symm

/-- `lstat` too. -/
theorem lstat_onDisk {s : FileStat} (h : C.onDisk.ops.lstat o d path = .ok s) :
    ∃ i, d.lookup path = some i ∧ s.fileType = i.node.fileType ∧ s.permissions = i.permissions := by
  have hread := along_look_all h
  split at hread
  · cases hread
  · next i hi =>
    cases hread
    exact ⟨i, hi, rfl, rfl⟩

/-- A capture leaves the file alone. -/
theorem captureBackup_onDisk {s : ResourceSnapshot} {contentPath : Path} :
    (C.onDisk.ops.captureBackup o d path s contentPath).2.lookup path = d.lookup path :=
  Sys.run_holds (C := fun _ _ => True) (I := fun d' => d'.lookup path = d.lookup path) (along_captureBackupAt s) rfl
    (meets_true _ _ _)

theorem writeBytes_onDisk {content : Bytes} {permissions : Option Nat} :
    SameOrOther d (C.onDisk.ops.writeBytes o d path content permissions).2 path := by
  have h : WritesOnly path d (C.onDisk.ops.writeBytes o d path content permissions).2 :=
    Sys.run_holds (along_atomicWriteBytes Admits.any content permissions d) Prepared.refl.writesOnly (meets_true _ _ _)
  exact h.own

theorem writeText_onDisk {content : String} {newline : Option String} :
    SameOrOther d (C.onDisk.ops.writeText o d path content newline).2 path := by
  have h : WritesOnly path d (C.onDisk.ops.writeText o d path content newline).2 :=
    Sys.run_holds (along_atomicWriteBytes Admits.any _ none d) Prepared.refl.writesOnly (meets_true _ _ _)
  exact h.own

theorem deleteFile_onDisk {missingOk : Bool} :
    SameOrOther d (C.onDisk.ops.deleteFile o d path missingOk).2 path := by
  have h : DeletesOnly path d (C.onDisk.ops.deleteFile o d path missingOk).2 :=
    Sys.run_holds (along_deleteFileAt (C := fun _ _ => True) (E := fun _ => True) (fun _ _ _ _ _ => trivial)
      (fun _ _ => trivial) fun _ _ => trivial) (Or.inl rfl) (meets_true _ _ _)
  exact h.sameOrOther

/-- A write shows what was there, or the whole new file. -/
theorem writeBytes_fills {content : Bytes} {permissions : Option Nat} :
    Fills path content (permissions.or ((d.lookup path).map Inode.permissions)) d
      (C.onDisk.ops.writeBytes o d path content permissions).2 :=
  Sys.run_holds (C := fun _ _ => True) (along_atomicWriteBytes_fills content permissions d) (Or.inl rfl) (meets_true _ _ _)

theorem writeText_fills {content : String} {newline : Option String} :
    Fills path (normalizeNewlines content newline).toUTF8.toList ((d.lookup path).map Inode.permissions) d
      (C.onDisk.ops.writeText o d path content newline).2 :=
  Sys.run_holds (C := fun _ _ => True) (along_atomicWriteBytes_fills _ none d) (Or.inl rfl) (meets_true _ _ _)

/-- A deletion shows what was there, or nothing. -/
theorem deleteFile_leaves {missingOk : Bool} :
    (C.onDisk.ops.deleteFile o d path missingOk).2.lookup path = d.lookup path ∨
      (C.onDisk.ops.deleteFile o d path missingOk).2.lookup path = none := by
  have h : DeletesOnly path d (C.onDisk.ops.deleteFile o d path missingOk).2 :=
    Sys.run_holds (along_deleteFileAt (C := fun _ _ => True) (E := fun _ => True) (fun _ _ _ _ _ => trivial)
      (fun _ _ => trivial) fun _ _ => trivial) (Or.inl rfl) (meets_true _ _ _)
  rcases h with h | h
  · exact Or.inl (by rw [h])
  · exact Or.inr (by rw [h]; exact Disk.lookup_remove)

/-- What a restore leaves: what was there, or what the backup is of. -/
theorem restoreBackup_leaves {backup : FileBackup} {expected : Option ResourceSnapshot} {allowOverwrite : Bool} :
    backup.Leaves d (C.onDisk.ops.restoreBackup o d backup expected allowOverwrite).2 :=
  Sys.run_holds (C := fun _ _ => True) (along_restoreBackupAt_leaves backup expected allowOverwrite d) (Or.inl rfl)
    (meets_true _ _ _)

/-- A restore that succeeds leaves what the backup is of. -/
theorem restoreBackup_onDisk {backup : FileBackup} {expected : Option ResourceSnapshot} {allowOverwrite : Bool}
    {s : ResourceSnapshot} (hpath : ∀ e, expected = some e → e.path = backup.path)
    (h : (C.onDisk.ops.restoreBackup o d backup expected allowOverwrite).1 = .ok s) :
    backup.Matches ((C.onDisk.ops.restoreBackup o d backup expected allowOverwrite).2.lookup backup.path) := by
  have hends := Sys.run_ok (along_restoreBackupAt (C := fun _ _ => True) (E := fun _ => True)
    ⟨Admits.any, fun _ => trivial⟩ hpath d) h
  exact hends.2 s rfl

end Sees

end SafeFsOps
