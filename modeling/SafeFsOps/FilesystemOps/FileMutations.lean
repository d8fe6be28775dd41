import SafeFsOps.FilesystemOps.Disk

/-!
# Writing and deleting files

`filesystem_ops/mutations.py` and `mutation_support.py`: a file is written under a
temporary name beside it and then moved onto its own, so whoever looks sees the old
file or the new one; it is deleted by one call.

> `along_atomicWriteBytes`: at every point of a write, killed or not, the path shows
> what was there or the new file, under a new inode, and all other files are as they were.
> `along_deleteFileAt`: at every point of a deletion nothing but the one name is gone.
-/

namespace SafeFsOps

open Program

/-! ## The operations -/

/-- The mode of the file a write replaces. -/
def existingPermissions (target : Path) : Sys (Option Nat) :=
  look fun d => do
    requireRegular "atomic write" d target (target.getLastD "")
    return (d.lookup target).map Inode.permissions

/-- `_ensure_directory_descriptor_matches_path`. -/
def ensureDescriptorMatches (operation : String) (directory : Path) (descriptor : Option Nat) : Sys Unit :=
  look fun d => require ((d.lookup directory).map Inode.number = descriptor)
    (refused operation "because parent path redirects elsewhere" (pathText directory))

/-- `_ensure_directory_descriptor_matches_path_after_mutation`. -/
def ensureDescriptorMatchesAfter (operation : String) (directory : Path) (descriptor : Option Nat) : Sys Unit :=
  look fun d => require ((d.lookup directory).map Inode.number = descriptor) (.parentChangedAfterMutation
    (operation ++ " refused to report success because parent path changed after mutation: " ++ pathText directory))

/-- One directory of `_make_directory_incremental`, where an existing one is fine. -/
def makeDirectoryStep (operation : String) (directory : Path) : Sys Unit :=
  (change fun i d =>
    if (d.lookup directory).isSome then .ok ((), d)
    else (d.create i directory (.directory 0) 0o777).map fun d => ((), d)).onRaise fun _ =>
      .raise (refused operation "because directory could not be created safely" (pathText directory))

/-- `_make_directory_incremental` with `exist_ok`: each directory is made and opened, from the top. -/
def makeDirectoryIncremental (operation : String) (target : Path) : Sys Unit :=
  .forEach target.inits.tail fun directory => do
    makeDirectoryStep operation directory
    fsync
    look fun d => (openDirectory operation "path" d directory).map fun _ => ()

/-- `.{target}.{token}.tmp` -/
def tempPath (target : Path) (token : String) : Path :=
  parentPath target ++ ["." ++ target.getLastD "" ++ "." ++ token ++ ".tmp"]

/-- `_create_temp_file`, with so many tries for a name. -/
def createTempFile (target : Path) : Nat → Sys Path
  | 0 => .raise (.fileExists target)
  | tries + 1 => do
    let made ← change fun i d =>
      if (d.lookup (tempPath target i.token)).isSome then .ok (none, d)
      else (d.create i (tempPath target i.token) (.file []) 0o600).map fun d => (some (tempPath target i.token), d)
    match made with
    | some temp => return temp
    | none => createTempFile target tries

/-- `handle.write(content)`: what was written before a failure stays. -/
def writeOpenFile (temp : Path) (content : Bytes) : Sys Unit :=
  .call fun i d =>
    let write (content : Bytes) : Disk := d.modify temp fun inode =>
      { inode with node := .file content, mtimeNs := i.time, ctimeNs := i.time }
    match i.fault with
    | some e => (.error e, write (content.take i.written))
    | none => (.ok (), write content)

/-- `_chmod_open_file`. -/
def chmodOpenFile (temp : Path) (mode : Option Nat) : Sys Unit :=
  match mode with
  | none => .ret ()
  | some mode => change fun i d =>
    .ok ((), d.modify temp fun inode => { inode with permissions := mode, ctimeNs := i.time })

/-- `_ensure_open_file_matches_child`: the temporary file is still the one that was made. -/
def ensureOpenFileMatchesChild (operation : String) (temp : Path) : Sys Unit :=
  look fun d =>
    match d.typeAt temp with
    | .file => .ok ()
    | .missing => .error (refused operation "because temporary file disappeared" (pathText temp))
    | _ => .error (refused operation "because temporary path is not a regular file" (pathText temp))

/-- `_replace`: the new file takes the name, and the old one is gone. -/
def replace (temp target : Path) : Sys Unit :=
  change fun i d =>
    match d.lookup temp with
    | none => .error (.fileNotFound temp)
    | some inode =>
      if d.typeAt target = .directory then .error (.osError "is a directory")
      else .ok ((), (d.remove temp).put target { inode with ctimeNs := i.time })

/-- `_cleanup_temp_file`, whose errors are dropped. -/
def cleanupTempFile (temp : Path) : Sys Unit :=
  (change fun _ d => .ok ((), d.remove temp)).outcome >>= fun _ => .ret ()

/-- What happens between the creation of the temporary file and the moment it takes its name. -/
def fillAndReplace (temp target : Path) (descriptor : Option Nat) (content : Bytes) (mode : Option Nat) :
    Sys Unit := do
  ensureDescriptorMatches "atomic write" (parentPath target) descriptor
  writeOpenFile temp content
  chmodOpenFile temp mode
  fsync
  ensureOpenFileMatchesChild "atomic write" temp
  ensureDescriptorMatches "atomic write" (parentPath target) descriptor
  look fun d => requireRegular "atomic write" d target (target.getLastD "")
  replace temp target

/-- The second half of `atomic_write_bytes`, in the open parent directory. -/
def writeInDirectory (target : Path) (content : Bytes) (permissions : Option Nat) (descriptor : Option Nat) :
    Sys Unit := do
  let existing ← existingPermissions target
  ensureDescriptorMatches "atomic write" (parentPath target) descriptor
  let temp ← createTempFile target 100
  (fillAndReplace temp target descriptor content (permissions.or existing)).onRaise fun e => do
    cleanupTempFile temp
    .raise e
  ensureDescriptorMatchesAfter "atomic write" (parentPath target) descriptor
  fsync

/-- `atomic_write_bytes`. -/
def atomicWriteBytes (target : Path) (content : Bytes) (permissions : Option Nat) : Sys Unit := do
  look fun d => ensureSafeWritePath "atomic write" d target
  makeDirectoryIncremental "atomic write" (parentPath target)
  look fun d => ensureSafeWritePath "atomic write" d target
  let descriptor ← look fun d => openDirectory "atomic write" "path" d (parentPath target)
  writeInDirectory target content permissions descriptor

/-- `_normalize_newlines`, where a new line end is asked for. -/
def normalizeNewlines (content : String) (newline : Option String) : String :=
  match newline with
  | none => content
  | some "" => content
  | some nl => ((content.replace "\r\n" "\n").replace "\r" "\n").replace "\n" nl

/-- `atomic_write_text`, with the default encoding. -/
def atomicWriteText (target : Path) (content : String) (newline : Option String) : Sys Unit :=
  atomicWriteBytes target (normalizeNewlines content newline).toUTF8.toList none

/-- The unlinking itself: `FileNotFoundError` is fine where a missing file is. -/
def unlinkFile (target : Path) (missingOk : Bool) : Sys Unit :=
  change fun _ d => do
    require (d.typeAt target = .missing → missingOk = true) (.fileNotFound target)
    requireRegular "delete" d target (target.getLastD "")
    return ((), d.remove target)

/-- `delete_file`. -/
def deleteFileAt (target : Path) (missingOk : Bool) : Sys Unit := do
  look fun d => ensureSafeDeletePath "delete" missingOk d target
  let present ← look fun d => .ok (d.lookup target).isSome
  if missingOk = true ∧ present = false then return ()
  else do
    let descriptor ← look fun d => openDirectory "delete" "path" d (parentPath target)
    ensureDescriptorMatches "delete" (parentPath target) descriptor
    unlinkFile target missingOk
    ensureDescriptorMatchesAfter "delete" (parentPath target) descriptor
    fsync

/-! ## System calls, one by one -/

section Calls

variable {α β : Type} {C : OsAnswer → Disk → Prop} {R : Disk → Disk → Prop} {Q : Except FilesystemError α → Disk → Prop}
  {d : Disk}

theorem along_look {read : Disk → Except FilesystemError α} (hR : R d d)
    (hfault : ∀ i e, C i d → i.fault = some e → Q (.error e) d) (hread : Q (read d) d) :
    Along C R Q (look read) d := by
  refine along_call fun i hi => ?_
  cases hf : i.fault with
  | some e => exact ⟨hR, hfault i e hi hf⟩
  | none => exact ⟨hR, hread⟩

theorem along_change {act : OsAnswer → Disk → Except FilesystemError (α × Disk)} (hR : R d d)
    (hfault : ∀ i e, C i d → i.fault = some e → Q (.error e) d)
    (herror : ∀ i e, C i d → act i d = .error e → Q (.error e) d)
    (hok : ∀ i a d', C i d → act i d = .ok (a, d') → R d d' ∧ Q (.ok a) d') : Along C R Q (change act) d := by
  refine along_call fun i hi => ?_
  cases hf : i.fault with
  | some e => exact ⟨hR, hfault i e hi hf⟩
  | none =>
    cases hact : act i d with
    | error e => exact ⟨hR, herror i e hi hact⟩
    | ok r => exact hok i r.1 r.2 hi hact

/-- A program ends on a disk of `S`, and raises errors of `E`. -/
def Ends (E : FilesystemError → Prop) (S : Disk → Prop) (r : Except FilesystemError α) (d : Disk) : Prop :=
  S d ∧ ∀ e, r = .error e → E e

variable {E : FilesystemError → Prop} {S S' : Disk → Prop}

theorem Ends.ok {a : α} (h : S d) : Ends E S (.ok a) d := ⟨h, fun _ he => by cases he⟩

theorem Ends.raises {e : FilesystemError} (h : S d) (he : E e) : Ends E S (.error e : Except FilesystemError α) d :=
  ⟨h, fun _ h => by cases h; exact he⟩

/-- Looking, on the way to something else. -/
theorem along_look_bind {read : Disk → Except FilesystemError β} {f : β → Sys α} (hR : R d d) (hS : S d)
    (hfault : ∀ i e, C i d → i.fault = some e → E e) (hraise : ∀ e, read d = .error e → E e)
    (hok : ∀ b, read d = .ok b → Along C R (Ends E S) (f b) d) : Along C R (Ends E S) (look read >>= f) d := by
  refine along_bind (along_look hR (fun i e hi hf => .raises hS (hfault i e hi hf)) ?_)
  cases hread : read d with
  | ok b => exact hok b hread
  | error e => exact .raises hS (hraise e hread)

/-- One part after the other. -/
theorem along_ends_seq {p : Sys β} {f : β → Sys α} (hp : Along C R (Ends E S') p d) (hS : ∀ d, S' d → S d)
    (hf : ∀ b d', S' d' → Along C R (Ends E S) (f b) d') : Along C R (Ends E S) (p >>= f) d :=
  along_seq hp (fun b d' h => hf b d' h.1) fun e d' h => .raises (hS d' h.1) (h.2 e rfl)

end Calls

/-! ## What the checks refuse -/

theorem ensureSafeParentChain_isUnsafe {operation : String} {d : Disk} {path : Path} {e : FilesystemError}
    (h : ensureSafeParentChain operation d path = .error e) : e.isUnsafePath = true := by
  unfold ensureSafeParentChain at h
  split at h
  · cases h
  · cases h
    rfl

theorem requireRegular_isUnsafe {operation shown : String} {d : Disk} {path : Path} {e : FilesystemError}
    (h : requireRegular operation d path shown = .error e) : e.isUnsafePath = true := by
  unfold requireRegular at h
  split at h <;> cases h <;> rfl

theorem requireRegular_ok {operation shown : String} {d : Disk} {path : Path}
    (h : requireRegular operation d path shown = .ok ()) : d.typeAt path = .missing ∨ d.typeAt path = .file := by
  unfold requireRegular at h
  split at h
  · next heq => exact Or.inl heq
  · next heq => exact Or.inr heq
  · cases h
  · cases h

theorem ensureSafeWritePath_isUnsafe {operation : String} {d : Disk} {path : Path} {e : FilesystemError}
    (h : ensureSafeWritePath operation d path = .error e) : e.isUnsafePath = true := by
  unfold ensureSafeWritePath at h
  cases hchain : ensureSafeParentChain operation d path with
  | error e' =>
    rw [hchain] at h
    cases h
    exact ensureSafeParentChain_isUnsafe hchain
  | ok _ =>
    rw [hchain] at h
    exact requireRegular_isUnsafe h

theorem openDirectory_isUnsafe {operation what : String} {d : Disk} {path : Path} {e : FilesystemError}
    (h : openDirectory operation what d path = .error e) : e.isUnsafePath = true := by
  unfold openDirectory at h
  split at h
  · cases h
  · cases h
    rfl

/-! ## What a write does -/

/-- The errors a write of `target` may raise where its inputs meet `C`: `E` has all
refusals, and the failures that `C` lets happen. -/
structure Admits (C : OsAnswer → Disk → Prop) (E : FilesystemError → Prop) (target : Path) : Prop where
  fault : ∀ i d e, C i d → i.fault = some e → E e
  refusal : ∀ e : FilesystemError, e.isUnsafePath = true → E e
  number : ∀ i d, C i d → d.uses i.number = true → E (.osError "no inode")
  name : ∀ i d, C i d → (d.lookup (tempPath target i.token)).isSome = true → E (.fileExists target)

/-- Whatever the operating system does. -/
theorem Admits.any {C : OsAnswer → Disk → Prop} {target : Path} : Admits C (fun _ => True) target :=
  ⟨fun _ _ _ _ _ => trivial, fun _ _ => trivial, fun _ _ _ _ => trivial, fun _ _ _ _ => trivial⟩

section Writing

variable {target temp : Path} {d₀ d : Disk} {C : OsAnswer → Disk → Prop} {E : FilesystemError → Prop} {n : Nat}

/-- Nothing that was there has changed; something may have come. -/
def Extends (d₀ d : Disk) : Prop := ∀ p i, d₀.lookup p = some i → d.lookup p = some i

theorem Extends.absent {p : Path} (h : Extends d₀ d) (hp : d.lookup p = none) : d₀.lookup p = none := by
  cases hi : d₀.lookup p with
  | none => rfl
  | some i =>
    rw [h p i hi] at hp
    cases hp

/-- An inode number that is free was free before. -/
theorem Extends.unused (h : Extends d₀ d) (hn : d.uses n = false) : d₀.uses n = false := by
  by_contra hne
  obtain ⟨e, he, heq⟩ := List.any_eq_true.1 (Bool.not_eq_false _ ▸ hne : d₀.uses n = true)
  have hlookup : d₀.lookup e.1 = some e.2 := AList.mem_lookup_iff.2 he
  exact Disk.number_ne hn (h _ _ hlookup) (of_decide_eq_true heq)

/-- What a write to `target` may have done to the disk so far. -/
structure WritesOnly (target : Path) (d₀ d : Disk) : Prop where
  others : ∀ p i, p ≠ target → d₀.lookup p = some i → d.lookup p = some i
  own : SameOrOther d₀ d target

/-- The disk before the new file takes its name: directories may have been made. -/
structure Prepared (target : Path) (d₀ d : Disk) : Prop where
  kept : Extends d₀ d
  own : d.lookup target = d₀.lookup target

/-- The same, with a temporary file that was not there before. -/
structure Staged (target temp : Path) (d₀ d : Disk) : Prop extends Prepared target d₀ d where
  ne : temp ≠ target
  absent : d₀.lookup temp = none
  file : ∃ i, d.lookup temp = some i ∧ d₀.uses i.number = false

theorem Prepared.refl : Prepared target d d := ⟨fun _ _ h => h, rfl⟩

theorem Prepared.writesOnly (h : Prepared target d₀ d) : WritesOnly target d₀ d :=
  ⟨fun p i _ hp => h.kept p i hp, Or.inl h.own⟩

/-- A new name, other than the target, keeps all that was there. -/
theorem Prepared.create {p : Path} {i : Inode} (h : Prepared target d₀ d) (hp : d.lookup p = none) (hne : p ≠ target) :
    Prepared target d₀ (d.put p i) where
  kept q j hq := by
    have hqp : q ≠ p := by
      rintro rfl
      rw [h.kept q j hq] at hp
      cases hp
    rw [Disk.lookup_put_ne hqp]
    exact h.kept q j hq
  own := by rw [Disk.lookup_put_ne hne.symm, h.own]

/-- The temporary file goes. -/
theorem Staged.remove (h : Staged target temp d₀ d) : Prepared target d₀ (d.remove temp) where
  kept q j hq := by
    have hqt : q ≠ temp := by
      rintro rfl
      rw [h.absent] at hq
      cases hq
    rw [Disk.lookup_remove_ne hqt]
    exact h.kept q j hq
  own := by rw [Disk.lookup_remove_ne h.ne.symm, h.own]

/-- A change of the temporary file that leaves its number alone. -/
theorem Staged.modify {f : Inode → Inode} (h : Staged target temp d₀ d) (hf : ∀ i, (f i).number = i.number) :
    Staged target temp d₀ (d.modify temp f) where
  kept q j hq := by
    have hqt : q ≠ temp := by
      rintro rfl
      rw [h.absent] at hq
      cases hq
    rw [Disk.lookup_modify_ne hqt]
    exact h.kept q j hq
  own := by rw [Disk.lookup_modify_ne h.ne.symm, h.own]
  ne := h.ne
  absent := h.absent
  file := by
    obtain ⟨i, hi, hunused⟩ := h.file
    exact ⟨f i, by rw [Disk.lookup_modify, hi, Option.map_some], by rw [hf i]; exact hunused⟩

/-- The new file takes the name. -/
theorem Staged.replaced {i j : Inode} (h : Staged target temp d₀ d) (hi : d.lookup temp = some i)
    (hj : j.number = i.number) : WritesOnly target d₀ ((d.remove temp).put target j) where
  others p k hp hk := by
    have hpt : p ≠ temp := by
      rintro rfl
      rw [h.absent] at hk
      cases hk
    rw [Disk.lookup_put_ne hp, Disk.lookup_remove_ne hpt]
    exact h.kept p k hk
  own := by
    obtain ⟨i', hi', hunused⟩ := h.file
    rw [hi] at hi'
    cases hi'
    refine Or.inr ?_
    rw [Disk.lookup_put, Option.map_some, hj]
    intro heq
    obtain ⟨k, hk, hnumber⟩ := Option.map_eq_some_iff.1 heq.symm
    exact Disk.number_ne hunused hk hnumber

/-- A temporary file is never the file it is made for. -/
theorem tempPath_ne (target : Path) (token : String) : tempPath target token ≠ target := by
  intro heq
  have hlast : ("." ++ target.getLastD "" ++ "." ++ token ++ ".tmp").length = (target.getLastD "").length := by
    conv_rhs => rw [← heq]
    rw [tempPath, List.getLastD_concat]
  simp only [String.length_append] at hlast
  have hdot : ".".length = 1 := rfl
  omega

theorem Disk.create_eq_ok {d d' : Disk} {i : OsAnswer} {p : Path} {node : Node} {mode : Nat}
    (h : d.create i p node mode = .ok d') :
    d.uses i.number = false ∧ ∃ inode : Inode, inode.number = i.number ∧ d' = d.put p inode := by
  unfold Disk.create at h
  split at h
  · cases h
  · next hfree =>
    cases h
    exact ⟨Bool.not_eq_true _ ▸ hfree, _, rfl, rfl⟩

theorem Disk.create_error {d : Disk} {i : OsAnswer} {p : Path} {node : Node} {mode : Nat} {e : FilesystemError}
    (h : d.create i p node mode = .error e) : d.uses i.number = true ∧ e = .osError "no inode" := by
  unfold Disk.create at h
  split at h
  · next hused =>
    cases h
    exact ⟨hused, rfl⟩
  · cases h

/-- The directories above a path are other paths. -/
theorem ne_of_mem_ancestors {p : Path} (h : p ∈ ancestors target) : p ≠ target := by
  rintro rfl
  obtain ⟨rest, hrest⟩ := (List.mem_inits _ _).1 (List.mem_of_mem_tail h)
  have hlength := congrArg List.length hrest
  rw [List.length_append, parentPath, List.length_dropLast] at hlength
  cases p with
  | nil => cases h
  | cons a p =>
    rw [List.length_cons] at hlength
    omega

theorem along_makeDirectoryStep {p : Path} (hE : Admits C E target) (h : Prepared target d₀ d) (hp : p ≠ target) :
    Along C (fun _ d' => Prepared target d₀ d') (Ends E (Prepared target d₀)) (makeDirectoryStep "atomic write" p) d := by
  have hrefused : Ends E (Prepared target d₀) (.error (refused "atomic write"
      "because directory could not be created safely" (pathText p)) : Except FilesystemError Unit) d :=
    .raises h (hE.refusal _ rfl)
  refine along_onRaise (along_change h (fun _ _ _ _ => hrefused) (fun _ _ _ _ => hrefused) fun i u d' _ hact => ?_)
  split at hact
  · cases hact
    exact ⟨h, .ok h⟩
  · next hnone =>
    obtain ⟨d₁, hcreate, heq⟩ := map_eq_ok.1 hact
    cases heq
    obtain ⟨-, inode, -, rfl⟩ := Disk.create_eq_ok hcreate
    have hput := h.create (i := inode) (Option.not_isSome_iff_eq_none.1 hnone) hp
    exact ⟨hput, .ok hput⟩

theorem along_makeDirectoryIncremental (hE : Admits C E target) (h : Prepared target d₀ d) :
    Along C (fun _ d' => Prepared target d₀ d') (Ends E (Prepared target d₀))
      (makeDirectoryIncremental "atomic write" (parentPath target)) d := by
  refine along_forEach (I := fun xs d' => (∀ p ∈ xs, p ≠ target) ∧ Prepared target d₀ d') ?_ (fun _ h => .ok h.2)
    ⟨fun p hp => ne_of_mem_ancestors hp, h⟩
  intro p xs d hI
  obtain ⟨hne, hd⟩ := hI
  have hround : Along C (fun _ d' => Prepared target d₀ d') (Ends E (Prepared target d₀)) (do
      makeDirectoryStep "atomic write" p
      fsync
      look fun d => (openDirectory "atomic write" "path" d p).map fun _ => ()) d := by
    refine along_ends_seq (along_makeDirectoryStep hE hd (hne p List.mem_cons_self)) (fun _ h => h) fun _ d₁ h₁ => ?_
    refine along_look_bind h₁ h₁ (hE.fault · d₁) (fun e he => by cases he) fun _ _ => ?_
    refine along_look h₁ (fun i e hi hf => .raises h₁ (hE.fault i d₁ e hi hf)) ?_
    cases hopen : openDirectory "atomic write" "path" d₁ p with
    | ok _ => exact .ok h₁
    | error e => exact .raises h₁ (hE.refusal e (openDirectory_isUnsafe hopen))
  refine along_mono (fun _ _ h => h) (fun r d' hr => ?_) hround
  cases r with
  | ok _ => exact ⟨fun q hq => hne q (List.mem_cons_of_mem _ hq), hr.1⟩
  | error e => exact hr

/-- A temporary file was made, or none was. -/
def Created (E : FilesystemError → Prop) (target : Path) (d₀ : Disk) : Except FilesystemError Path → Disk → Prop
  | .ok temp, d => Staged target temp d₀ d
  | .error e, d => Prepared target d₀ d ∧ E e

theorem along_createTempFile (hE : Admits C E target) (h : Prepared target d₀ d) {tries : Nat}
    (htries : tries = 0 → E (.fileExists target)) :
    Along C (fun _ d' => Prepared target d₀ d') (Created E target d₀) (createTempFile target tries) d := by
  induction tries with
  | zero => exact ⟨h, htries rfl⟩
  | succ tries ih =>
    refine along_bind (along_change h (fun i e hi hf => ⟨h, hE.fault i d e hi hf⟩) (fun i e hi hact => ?_)
      fun i made d' hi hact => ?_)
    · split at hact
      · cases hact
      · cases hcreate : d.create i (tempPath target i.token) (.file []) 0o600 with
        | ok d' =>
          rw [hcreate] at hact
          cases hact
        | error e' =>
          rw [hcreate] at hact
          cases hact
          obtain ⟨hused, rfl⟩ := Disk.create_error hcreate
          exact ⟨h, hE.number i d hi hused⟩
    · split at hact
      · next htaken =>
        cases hact
        exact ⟨h, ih fun _ => hE.name i d hi htaken⟩
      · next hnone =>
        obtain ⟨d₁, hcreate, heq⟩ := map_eq_ok.1 hact
        cases heq
        obtain ⟨hfree, inode, hnumber, rfl⟩ := Disk.create_eq_ok hcreate
        have habsent : d.lookup (tempPath target i.token) = none := Option.not_isSome_iff_eq_none.1 hnone
        have hput := h.create (i := inode) habsent (tempPath_ne target i.token)
        refine ⟨hput, hput, tempPath_ne target i.token, h.kept.absent habsent, inode, Disk.lookup_put, ?_⟩
        rw [hnumber]
        exact h.kept.unused hfree

/-- The new file is in place, or still apart. -/
def Filled (E : FilesystemError → Prop) (target temp : Path) (d₀ : Disk) : Except FilesystemError Unit → Disk → Prop
  | .ok _, d => WritesOnly target d₀ d
  | .error e, d => Staged target temp d₀ d ∧ E e

/-- The last step: the target was just seen to be no directory. -/
theorem along_replace (hE : Admits C E target) (h : Staged target temp d₀ d)
    (htype : d.typeAt target = .missing ∨ d.typeAt target = .file) :
    Along C (fun _ d' => WritesOnly target d₀ d') (Filled E target temp d₀) (replace temp target) d := by
  obtain ⟨inode, hinode, -⟩ := h.file
  have hdirectory : d.typeAt target ≠ .directory := by
    rcases htype with ht | ht <;> rw [ht] <;> decide
  refine along_change h.writesOnly (fun i e hi hf => ⟨h, hE.fault i d e hi hf⟩) (fun i e _ hact => ?_)
    fun i _ d' _ hact => ?_
  · simp only [hinode, if_neg hdirectory] at hact
    cases hact
  · simp only [hinode, if_neg hdirectory] at hact
    cases hact
    have hd := h.replaced (j := { inode with ctimeNs := i.time }) hinode rfl
    exact ⟨hd, hd⟩

theorem along_writeOpenFile (hE : Admits C E target) (h : Staged target temp d₀ d) (content : Bytes) :
    Along C (fun _ d' => WritesOnly target d₀ d') (Ends E (Staged target temp d₀)) (writeOpenFile temp content) d := by
  refine along_call fun i hi => ?_
  cases hf : i.fault with
  | some e =>
    have hd := h.modify (f := fun inode =>
      { inode with node := .file (content.take i.written), mtimeNs := i.time, ctimeNs := i.time }) fun _ => rfl
    exact ⟨hd.writesOnly, .raises hd (hE.fault i d e hi hf)⟩
  | none =>
    have hd := h.modify (f := fun inode =>
      { inode with node := .file content, mtimeNs := i.time, ctimeNs := i.time }) fun _ => rfl
    exact ⟨hd.writesOnly, .ok hd⟩

theorem along_chmodOpenFile (hE : Admits C E target) (h : Staged target temp d₀ d) (mode : Option Nat) :
    Along C (fun _ d' => WritesOnly target d₀ d') (Ends E (Staged target temp d₀)) (chmodOpenFile temp mode) d := by
  cases mode with
  | none => exact .ok h
  | some mode =>
    rw [chmodOpenFile]
    refine along_change h.writesOnly (fun i e hi hf => .raises h (hE.fault i d e hi hf)) (fun i e _ hact => by cases hact)
      fun i _ d' _ hact => ?_
    cases hact
    have hd := h.modify (f := fun inode => { inode with permissions := mode, ctimeNs := i.time }) fun _ => rfl
    exact ⟨hd.writesOnly, .ok hd⟩

/-- Up to the moment it takes the name, the new file is apart; from then on, it is there. -/
theorem along_fillAndReplace (hE : Admits C E target) (h : Staged target temp d₀ d) (descriptor : Option Nat)
    (content : Bytes) (mode : Option Nat) :
    Along C (fun _ d' => WritesOnly target d₀ d') (Filled E target temp d₀)
      (fillAndReplace temp target descriptor content mode) d := by
  -- a call that looks leaves the file where it is
  have hlook : ∀ {β : Type} {read : Disk → Except FilesystemError β} {f : β → Sys Unit} {d : Disk},
      Staged target temp d₀ d → (∀ e, read d = .error e → e.isUnsafePath = true) →
      (∀ b, read d = .ok b → Along C (fun _ d' => WritesOnly target d₀ d') (Filled E target temp d₀) (f b) d) →
      Along C (fun _ d' => WritesOnly target d₀ d') (Filled E target temp d₀) (look read >>= f) d := by
    intro β read f d hd herror hok
    refine along_bind (along_look hd.writesOnly (fun i e hi hf => ⟨hd, hE.fault i d e hi hf⟩) ?_)
    cases hread : read d with
    | ok b => exact hok b hread
    | error e => exact ⟨hd, hE.refusal e (herror e hread)⟩
  have hmatches : ∀ d : Disk, ∀ e, require ((d.lookup (parentPath target)).map Inode.number = descriptor)
      (refused "atomic write" "because parent path redirects elsewhere" (pathText (parentPath target))) = .error e →
      e.isUnsafePath = true := by
    intro d e he
    rw [(require_error he).1]
    rfl
  refine hlook h (hmatches d) fun _ _ => ?_
  refine along_seq (S := Filled E target temp d₀) (along_writeOpenFile hE h content) (fun _ d₁ h₁ => ?_)
    fun e _ h₁ => ⟨h₁.1, h₁.2 e rfl⟩
  refine along_seq (S := Filled E target temp d₀) (along_chmodOpenFile hE h₁.1 mode) (fun _ d₂ h₂ => ?_)
    fun e _ h₂ => ⟨h₂.1, h₂.2 e rfl⟩
  refine hlook h₂.1 (fun e he => by cases he) fun _ _ => hlook h₂.1 (fun e he => ?_) fun _ _ => ?_
  · split at he <;> cases he <;> rfl
  · refine hlook h₂.1 (hmatches d₂) fun _ _ => hlook h₂.1 (fun _ => requireRegular_isUnsafe) fun _ htype => ?_
    exact along_replace hE h₂.1 (requireRegular_ok htype)

/-- What became of the temporary file does not matter: it is gone or it stays. -/
theorem along_cleanupTempFile (h : Staged target temp d₀ d) :
    Along C (fun _ d' => WritesOnly target d₀ d') (Ends E (WritesOnly target d₀)) (cleanupTempFile temp) d := by
  refine along_outcome_seq (Q := fun _ d' => WritesOnly target d₀ d') ?_ fun _ _ hd => .ok hd
  refine along_change h.writesOnly (fun _ _ _ _ => h.writesOnly) (fun _ _ _ hact => by cases hact) fun i _ d' _ hact => ?_
  cases hact
  exact ⟨h.remove.writesOnly, h.remove.writesOnly⟩

theorem along_writeInDirectory (hE : Admits C E target) (h : Prepared target d₀ d) (content : Bytes)
    (permissions descriptor : Option Nat) :
    Along C (fun _ d' => WritesOnly target d₀ d') (Ends E (WritesOnly target d₀))
      (writeInDirectory target content permissions descriptor) d := by
  refine along_look_bind h.writesOnly h.writesOnly (hE.fault · d) (fun e he => ?_) fun existing _ => ?_
  · cases hregular : requireRegular "atomic write" d target (target.getLastD "") with
    | ok _ =>
      rw [hregular] at he
      cases he
    | error e' =>
      rw [hregular] at he
      cases he
      exact hE.refusal e (requireRegular_isUnsafe hregular)
  refine along_look_bind h.writesOnly h.writesOnly (hE.fault · d)
    (fun e he => hE.refusal e (by rw [(require_error he).1]; rfl)) fun _ _ => ?_
  refine along_seq (along_mono (fun _ _ hd => hd.writesOnly) (fun _ _ hd => hd)
      (along_createTempFile hE h fun h0 => by cases h0)) (fun temp d₁ h₁ => ?_)
    fun e _ hd => .raises hd.1.writesOnly hd.2
  have hfill : Along C (fun _ d' => WritesOnly target d₀ d') (Ends E (WritesOnly target d₀))
      ((fillAndReplace temp target descriptor content (permissions.or existing)).onRaise fun e => do
        cleanupTempFile temp
        .raise e) d₁ := by
    refine along_onRaise (along_mono (fun _ _ hd => hd) (fun r d' hd => ?_)
      (along_fillAndReplace hE h₁ descriptor content _))
    cases r with
    | ok _ => exact .ok hd
    | error e => exact along_ends_seq (along_cleanupTempFile hd.1) (fun _ h => h) fun _ _ h' => .raises h' hd.2
  refine along_ends_seq hfill (fun _ h => h) fun _ d₂ h₂ => ?_
  refine along_look_bind h₂ h₂ (hE.fault · d₂)
    (fun e he => hE.refusal e (by rw [(require_error he).1]; rfl)) fun _ _ => ?_
  exact along_look h₂ (fun i e hi hf => .raises h₂ (hE.fault i d₂ e hi hf)) (.ok h₂)

/-- **A write is atomic.** At each of its points the file is the old one or another, and
every other file is as it was. -/
theorem along_atomicWriteBytes (hE : Admits C E target) (content : Bytes) (permissions : Option Nat) (d : Disk) :
    Along C (fun _ d' => WritesOnly target d d') (Ends E (WritesOnly target d))
      (atomicWriteBytes target content permissions) d := by
  have h : Prepared target d d := Prepared.refl
  refine along_look_bind h.writesOnly h.writesOnly (hE.fault · d)
    (fun e he => hE.refusal e (ensureSafeWritePath_isUnsafe he)) fun _ _ => ?_
  refine along_seq (along_mono (fun _ _ hd => hd.writesOnly) (fun _ _ hd => hd)
    (along_makeDirectoryIncremental hE h)) (fun _ d₁ h₁ => ?_) fun e _ hd => .raises hd.1.writesOnly (hd.2 e rfl)
  have hd₁ := h₁.1.writesOnly
  refine along_look_bind hd₁ hd₁ (hE.fault · d₁) (fun e he => hE.refusal e (ensureSafeWritePath_isUnsafe he)) fun _ _ => ?_
  refine along_look_bind hd₁ hd₁ (hE.fault · d₁) (fun e he => hE.refusal e (openDirectory_isUnsafe he)) fun descriptor _ => ?_
  exact along_writeInDirectory hE h₁.1 content permissions descriptor

/-! ### What is seen of a write -/

/-- A whole file of this content, and of this mode if there is one. -/
def WholeFile (content : Bytes) (mode : Option Nat) (i : Inode) : Prop :=
  i.node = .file content ∧ ∀ m, mode = some m → i.permissions = m

/-- What is at the target is what was there, or the whole new file. -/
def Fills (target : Path) (content : Bytes) (mode : Option Nat) (d₀ d : Disk) : Prop :=
  d.lookup target = d₀.lookup target ∨ ∃ i, d.lookup target = some i ∧ WholeFile content mode i

variable {content : Bytes} {mode : Option Nat}

/-- A call that looks, while the target is as it was. -/
theorem along_look_fills {α β : Type} {read : Disk → Except FilesystemError β} {f : β → Sys α}
    (h : d.lookup target = d₀.lookup target)
    (hok : ∀ b, read d = .ok b → Along C (fun _ d' => Fills target content mode d₀ d')
      (fun _ d' => Fills target content mode d₀ d') (f b) d) :
    Along C (fun _ d' => Fills target content mode d₀ d') (fun _ d' => Fills target content mode d₀ d')
      (look read >>= f) d := by
  refine along_bind (along_look (Or.inl h) (fun _ _ _ _ => Or.inl h) ?_)
  cases hread : read d with
  | ok b => exact hok b hread
  | error e => exact Or.inl h

/-- The temporary file, and what is known of it. -/
structure StagedAs (target temp : Path) (K : Inode → Prop) (d₀ d : Disk) : Prop extends Staged target temp d₀ d where
  known : ∃ i, d.lookup temp = some i ∧ K i

/-- The temporary file after a call on it, or the target as it was. -/
def StagedOr (target temp : Path) (K : Inode → Prop) (d₀ : Disk) (r : Except FilesystemError Unit) (d : Disk) : Prop :=
  match r with
  | .ok _ => StagedAs target temp K d₀ d
  | .error _ => d.lookup target = d₀.lookup target

theorem StagedAs.modify {K L : Inode → Prop} {f : Inode → Inode} (h : StagedAs target temp K d₀ d)
    (hf : ∀ i, (f i).number = i.number) (hK : ∀ i, K i → L (f i)) : StagedAs target temp L d₀ (d.modify temp f) where
  toStaged := h.toStaged.modify hf
  known := by
    obtain ⟨i, hi, hKi⟩ := h.known
    exact ⟨f i, by rw [Disk.lookup_modify, hi, Option.map_some], hK i hKi⟩

theorem along_writeOpenFile_as (h : StagedAs target temp (fun _ => True) d₀ d) :
    Along C (fun _ d' => Fills target content mode d₀ d')
      (StagedOr target temp (fun i => i.node = .file content) d₀) (writeOpenFile temp content) d := by
  refine along_call fun i _ => ?_
  cases i.fault with
  | some e =>
    have hd := h.toStaged.modify (f := fun inode =>
      { inode with node := .file (content.take i.written), mtimeNs := i.time, ctimeNs := i.time }) fun _ => rfl
    exact ⟨Or.inl hd.own, hd.own⟩
  | none =>
    have hd := h.modify (f := fun inode => { inode with node := .file content, mtimeNs := i.time, ctimeNs := i.time })
      (L := fun i => i.node = .file content) (fun _ => rfl) fun _ _ => rfl
    exact ⟨Or.inl hd.own, hd⟩

theorem along_chmodOpenFile_as (h : StagedAs target temp (fun i => i.node = .file content) d₀ d) :
    Along C (fun _ d' => Fills target content mode d₀ d') (StagedOr target temp (WholeFile content mode) d₀)
      (chmodOpenFile temp mode) d := by
  cases mode with
  | none =>
    obtain ⟨i, hi, hnode⟩ := h.known
    exact ⟨h.toStaged, i, hi, hnode, fun _ hm => by cases hm⟩
  | some mode =>
    rw [chmodOpenFile]
    refine along_change (Or.inl h.own) (fun _ _ _ _ => h.own) (fun _ _ _ hact => by cases hact) fun i _ d' _ hact => ?_
    cases hact
    have hd := h.modify (f := fun inode => { inode with permissions := mode, ctimeNs := i.time })
      (L := WholeFile content (some mode)) (fun _ => rfl) fun _ hnode => ⟨hnode, fun _ hm => Option.some.inj hm⟩
    exact ⟨Or.inl hd.own, hd⟩

/-- The file that takes the name is the one that was written and given its mode. -/
theorem along_fillAndReplace_fills (h : StagedAs target temp (fun _ => True) d₀ d) (descriptor : Option Nat) :
    Along C (fun _ d' => Fills target content mode d₀ d') (fun _ d' => Fills target content mode d₀ d')
      (fillAndReplace temp target descriptor content mode) d := by
  refine along_look_fills h.own fun _ _ => ?_
  refine along_seq (along_writeOpenFile_as h) (fun _ d₁ h₁ => ?_) fun _ _ h₁ => Or.inl h₁
  refine along_seq (along_chmodOpenFile_as h₁) (fun _ d₂ h₂ => ?_) fun _ _ h₂ => Or.inl h₂
  obtain ⟨i, hi, hwhole⟩ := h₂.known
  have hown : d₂.lookup target = d₀.lookup target := h₂.own
  refine along_look_fills hown fun _ _ => along_look_fills hown fun _ _ => ?_
  refine along_look_fills hown fun _ _ => along_look_fills hown fun _ _ => ?_
  -- the whole file takes the name
  refine along_change (Or.inl hown) (fun _ _ _ _ => Or.inl hown) (fun _ _ _ _ => Or.inl hown) fun i₂ _ d₃ _ hact => ?_
  rw [hi] at hact
  dsimp only at hact
  split at hact
  · cases hact
  · cases hact
    have hfills : Fills target content mode d₀ ((d₂.remove temp).put target { i with ctimeNs := i₂.time }) :=
      Or.inr ⟨_, Disk.lookup_put, hwhole⟩
    exact ⟨hfills, hfills⟩

/-- From the temporary file on. -/
theorem along_staged_fills (h : Staged target temp d₀ d) (descriptor : Option Nat) :
    Along C (fun _ d' => Fills target content mode d₀ d') (fun _ d' => Fills target content mode d₀ d') (do
      (fillAndReplace temp target descriptor content mode).onRaise fun e => do
        cleanupTempFile temp
        .raise e
      ensureDescriptorMatchesAfter "atomic write" (parentPath target) descriptor
      fsync) d := by
  have hnew : StagedAs target temp (fun _ => True) d₀ d := by
    obtain ⟨i, hi, -⟩ := h.file
    exact ⟨h, i, hi, trivial⟩
  have hfill : Along C (fun _ d' => Fills target content mode d₀ d') (fun _ d' => Fills target content mode d₀ d')
      ((fillAndReplace temp target descriptor content mode).onRaise fun e => do
        cleanupTempFile temp
        .raise e) d := by
    refine along_onRaise (along_mono (fun _ _ hd => hd.1) (fun r d' hd => ?_)
      (along_and (along_fillAndReplace_fills hnew descriptor)
        (along_fillAndReplace (E := fun _ => True) Admits.any h descriptor content mode)))
    cases r with
    | ok _ => exact hd.1
    | error e =>
      -- where it fails, the temporary file did not take the name
      have hstaged : Staged target temp d₀ d' := hd.2.1
      refine along_seq (Q := fun _ d' => Fills target content mode d₀ d') ?_ (fun _ _ hd => hd) fun _ _ hd => hd
      refine along_outcome_seq (Q := fun _ d' => Fills target content mode d₀ d') ?_ fun _ _ hd => hd
      refine along_change (Or.inl hstaged.own) (fun _ _ _ _ => Or.inl hstaged.own) (fun _ _ _ hact => by cases hact)
        fun i _ d'' _ hact => ?_
      cases hact
      exact ⟨Or.inl hstaged.remove.own, Or.inl hstaged.remove.own⟩
  refine along_seq hfill (fun _ d' hd' => ?_) fun _ _ hd' => hd'
  refine along_bind (along_look hd' (fun _ _ _ _ => hd') ?_)
  split
  · exact along_look hd' (fun _ _ _ _ => hd') hd'
  · exact hd'

/-- **A write is not seen in part.** The target shows at each point what was there, or the whole new
file: with the mode that was asked for, or else that of the file it replaces. -/
theorem along_atomicWriteBytes_fills (content : Bytes) (permissions : Option Nat) (d : Disk) :
    Along C (fun _ d' => Fills target content (permissions.or ((d.lookup target).map Inode.permissions)) d d')
      (fun _ d' => Fills target content (permissions.or ((d.lookup target).map Inode.permissions)) d d')
      (atomicWriteBytes target content permissions) d := by
  have hE : Admits C (fun _ => True) target := Admits.any
  refine along_look_fills rfl fun _ _ => ?_
  refine along_seq (along_mono (fun _ _ hd => Or.inl hd.own) (fun _ _ hd => hd)
    (along_makeDirectoryIncremental hE Prepared.refl)) (fun _ d₁ h₁ => ?_) fun e _ hd => Or.inl hd.1.own
  have hown := h₁.1.own
  refine along_look_fills hown fun _ _ => along_look_fills hown fun descriptor _ => ?_
  refine along_look_fills hown fun existing hexisting => along_look_fills hown fun _ _ => ?_
  obtain rfl : (d.lookup target).map Inode.permissions = existing := by
    simp only [bind_eq_ok, pure_eq_ok] at hexisting
    obtain ⟨_, -, hexisting⟩ := hexisting
    rw [← hexisting, hown]
  exact along_seq (along_mono (fun _ _ hd => Or.inl hd.own) (fun _ _ hd => hd)
    (along_createTempFile hE h₁.1 fun _ => trivial)) (fun temp d₂ h₂ => along_staged_fills h₂ descriptor)
    fun e _ hd => Or.inl hd.1.own

end Writing

/-! ## What a deletion does -/

section Deleting

variable {target : Path} {d₀ d : Disk} {C : OsAnswer → Disk → Prop} {E : FilesystemError → Prop}

/-- The disk as it was, or without the one name. -/
def DeletesOnly (target : Path) (d₀ d : Disk) : Prop := d = d₀ ∨ d = d₀.remove target

theorem DeletesOnly.others {p : Path} (h : DeletesOnly target d₀ d) (hp : p ≠ target) : d.lookup p = d₀.lookup p := by
  rcases h with rfl | rfl
  · rfl
  · exact Disk.lookup_remove_ne hp

theorem DeletesOnly.sameOrOther (h : DeletesOnly target d₀ d) : SameOrOther d₀ d target := by
  rcases h with rfl | rfl
  · exact Or.inl rfl
  · cases hlookup : d₀.lookup target with
    | none => exact Or.inl (by rw [Disk.lookup_remove, hlookup])
    | some i =>
      refine Or.inr ?_
      rw [Disk.lookup_remove, hlookup]
      exact (Option.some_ne_none i.number).symm

/-- **A deletion** takes the one name away, or does nothing. -/
theorem along_deleteFileAt (hfault : ∀ i d e, C i d → i.fault = some e → E e)
    (hrefusal : ∀ e : FilesystemError, e.isUnsafePath = true → E e) {missingOk : Bool}
    (hmissing : d.typeAt target = .missing → missingOk = false → E (.fileNotFound target)) :
    Along C (fun _ d' => DeletesOnly target d d') (Ends E (DeletesOnly target d)) (deleteFileAt target missingOk) d := by
  have h : DeletesOnly target d d := Or.inl rfl
  have hpresent : ∀ e, require (d.typeAt target = .missing → missingOk = true) (FilesystemError.fileNotFound target) =
      .error e → E e := by
    intro e he
    obtain ⟨rfl, hnot⟩ := require_error he
    rw [Classical.not_imp] at hnot
    exact hmissing hnot.1 (Bool.not_eq_true _ ▸ hnot.2)
  -- each check refuses, or misses the file
  have hchecks : ∀ e, ensureSafeDeletePath "delete" missingOk d target = .error e → E e := by
    intro e he
    unfold ensureSafeDeletePath at he
    cases hchain : ensureSafeParentChain "delete" d target with
    | error e' =>
      rw [hchain] at he
      cases he
      exact hrefusal e (ensureSafeParentChain_isUnsafe hchain)
    | ok _ =>
      cases hthere : require (d.typeAt target = .missing → missingOk = true) (FilesystemError.fileNotFound target) with
      | error e' =>
        rw [hchain, hthere] at he
        cases he
        exact hpresent e hthere
      | ok _ =>
        rw [hchain, hthere] at he
        exact hrefusal e (requireRegular_isUnsafe he)
  refine along_look_bind h h (hfault · d) hchecks fun _ _ => ?_
  refine along_look_bind h h (hfault · d) (fun e he => by cases he) fun present _ => ?_
  split
  · exact .ok h
  · refine along_look_bind h h (hfault · d) (fun e he => hrefusal e (openDirectory_isUnsafe he)) fun descriptor _ => ?_
    refine along_look_bind h h (hfault · d) (fun e he => hrefusal e (by rw [(require_error he).1]; rfl)) fun _ _ => ?_
    have hunlink : Along C (fun _ d' => DeletesOnly target d d') (Ends E (DeletesOnly target d))
        (unlinkFile target missingOk) d := by
      refine along_change h (fun i e hi hf => .raises h (hfault i d e hi hf)) (fun i e _ hact => ?_)
        fun i _ d' _ hact => ?_
      · refine .raises h ?_
        cases hthere : require (d.typeAt target = .missing → missingOk = true) (FilesystemError.fileNotFound target) with
        | error e' =>
          rw [hthere] at hact
          cases hact
          exact hpresent e hthere
        | ok _ =>
          cases hregular : requireRegular "delete" d target (target.getLastD "") with
          | error e' =>
            rw [hthere, hregular] at hact
            cases hact
            exact hrefusal e (requireRegular_isUnsafe hregular)
          | ok _ =>
            rw [hthere, hregular] at hact
            cases hact
      · obtain ⟨_, -, _, -, heq⟩ : ∃ u, _ ∧ ∃ v, _ ∧ _ = _ := by simpa only [bind_eq_ok, pure_eq_ok] using hact
        cases heq
        exact ⟨Or.inr rfl, .ok (Or.inr rfl)⟩
    refine along_ends_seq hunlink (fun _ h => h) fun _ d₁ h₁ => ?_
    refine along_look_bind h₁ h₁ (hfault · d₁) (fun e he => hrefusal e (by rw [(require_error he).1]; rfl)) fun _ _ => ?_
    exact along_look h₁ (fun i e hi hf => .raises h₁ (hfault i d₁ e hi hf)) (.ok h₁)

end Deleting

end SafeFsOps
