import SafeFsOps.FilesystemOps.Descent

/-!
# Mutations by descriptor

`mutations.py` with the rest of `mutation_support.py`, call by call, among other processes
that may do anything to the filesystem between two calls. The three operations open the
directory the target is in without following symlinks, change names in that directory only,
and check afterwards that the path still leads to it.

> `Touches`: a step that changes a name does so in a directory that was reached part by part.
> `Confirmed`: what was changed, was changed in a directory its path led to afterwards.
-/

namespace SafeFsOps.Descriptors

open Program History

variable {α : Type}

/-- `DurabilityMode`. -/
inductive DurabilityMode where
  | none | bestEffort | fsync
deriving DecidableEq

/-- `contextlib.suppress(OSError)`. -/
def quietly (p : Sys Unit) : Sys Unit := onOsError p fun _ => ret ()

/-- `_durability_wrapped_fsync`. -/
def durableFsync : DurabilityMode → Sys Unit
  | .none => ret ()
  | .bestEffort => quietly fsync
  | .fsync => fsync

/-- `path.name`. -/
def nameOf (path : Path) : String := path.getLast?.getD ""

/-- What a name leads to has to be a regular file. -/
def requireRegularFile (operation name : String) (s : Stat) : Sys Unit :=
  if s.fileType = .file then ret ()
  else if s.fileType = .symlink then raise (refused operation "for symlink path" name)
  else raise (refused operation "for non-regular file" name)

/-- `except FileNotFoundError: return default`. -/
def orMissing (p : Sys α) (default : α) : Sys α :=
  p.onRaise fun e =>
    match e with
    | .fileNotFound _ => ret default
    | e => raise e

/-! ## Directories -/

/-- `os.mkdir` between its checks; whether the directory was made. -/
def makeEntry (operation : String) (mayExist : Bool) (d : FileId) (way : Path) (part : String) : Sys Bool :=
  ((ensureDescriptorMatches operation d way).bind fun _ => mkdirAt d part).outcome.bind fun made =>
    match made with
    | .ok _ => (ensureDescriptorMatchesAfter operation d way).bind fun _ => ret true
    | .error (.fileExists there) =>
      (ensureDescriptorMatches operation d way).bind fun _ => if mayExist then ret false else raise (.fileExists there)
    | .error e =>
      if isOsError e then
        raise (refused operation "because directory could not be created safely" (pathText (way ++ [part])))
      else raise e

/-- The parts of `_make_directory_incremental`; the last directory is left open. -/
def makeParts (operation : String) (existOk : Bool) (durability : DurabilityMode) :
    FileId → Path → List String → Sys FileId
  | d, _, [] => ret d
  | d, way, part :: parts =>
    (makeEntry operation (existOk || !parts.isEmpty) d way part).bind fun made =>
      (if made then durableFsync durability else ret ()).bind fun _ =>
        (openChildDirectory operation "path" d part (way ++ [part])).bind fun next =>
          close.bind fun _ => makeParts operation existOk durability next (way ++ [part]) parts

/-- `_make_directory_incremental`. -/
def makeDirectoryIncremental (operation : String) (existOk : Bool) (durability : DurabilityMode) (target : Path) :
    Sys Unit :=
  if target = [] then
    if existOk then ret () else raise (.fileExists target)
  else
    (openDirectoryAnchor operation).bind fun root =>
      finallyDo ((makeParts operation existOk durability root [] target).bind fun _ => durableFsync durability) close

/-- `_make_directory_single`. -/
def makeDirectorySingle (operation : String) (existOk : Bool) (durability : DurabilityMode) (target : Path) : Sys Unit :=
  if target = [] then
    if existOk then ret () else raise (.fileExists target)
  else
    (openExistingDirectory operation (parentPath target)).bind fun d =>
      finallyDo ((makeEntry operation existOk d (parentPath target) (nameOf target)).bind fun _ => durableFsync durability)
        close

/-- `make_directory`. -/
def makeDirectory (target : Path) (parents existOk : Bool) (durability : DurabilityMode) : Sys Unit :=
  (ensureSafeMkdirPath "mkdir" existOk target).bind fun _ =>
    (inspectPath target).bind fun initialSafety =>
      if initialSafety.isDir ∧ existOk = true then ret ()
      else
        (ensureSafeMkdirPath "mkdir" existOk target).bind fun _ =>
          (if parents then makeDirectoryIncremental "mkdir" existOk durability target
            else makeDirectorySingle "mkdir" existOk durability target).bind fun _ =>
              ensureSafeMkdirPath "mkdir" true target

/-! ## Files -/

/-- `_mkdir_parent_for_write`. -/
def mkdirParentForWrite (target : Path) (durability : DurabilityMode) : Sys Unit :=
  (ensureSafeParentChain "atomic write" target).bind fun _ =>
    (ensureSafeParentChain "atomic write" target).bind fun _ =>
      (makeDirectoryIncremental "atomic write" true durability (parentPath target)).bind fun _ =>
        ensureSafeParentChain "atomic write" target

/-- `_existing_permissions_at`. -/
def existingPermissionsAt (d : FileId) (name : String) : Sys (Option Nat) :=
  (orMissing ((statAt d name).bind fun s => ret (some s)) none).bind fun found =>
    match found with
    | none => ret none
    | some s => (requireRegularFile "atomic write" name s).bind fun _ => ret (some s.permissions)

/-- `_ensure_safe_child_for_replace` and `_ensure_safe_child_for_delete`. -/
def ensureSafeChild (operation : String) (missingOk : Bool) (d : FileId) (name : String) : Sys Unit :=
  (if missingOk then orMissing ((statAt d name).bind fun s => ret (some s)) none
    else (statAt d name).bind fun s => ret (some s)).bind fun found =>
      match found with
      | none => ret ()
      | some s => requireRegularFile operation name s

/-- The name of a temporary file. -/
def tempName (targetName token : String) : String := "." ++ targetName ++ "." ++ token ++ ".tmp"

/-- `secrets.token_hex(8)`. -/
def drawToken : Sys String := .call fun i fs => (.ok i.token, fs)

/-- `_create_temp_file`, with so many names to try. -/
def createTempFile (d : FileId) (targetName : String) : Nat → Sys (FileId × String)
  | 0 => raise (.fileExists [targetName])
  | tries + 1 =>
    drawToken.bind fun token =>
      (createAt d (tempName targetName token)).outcome.bind fun created =>
        match created with
        | .ok id => ret (id, tempName targetName token)
        | .error (.fileExists _) => createTempFile d targetName tries
        | .error e => raise e

/-- `_cleanup_temp_file`. -/
def cleanupTempFile (d : FileId) (name : String) : Sys Unit := quietly (unlinkAt d name)

/-- `_ensure_open_file_matches_child`. -/
def ensureOpenFileMatchesChild (operation : String) (id d : FileId) (name : String) (path : Path) : Sys Unit :=
  (fstat id).bind fun own =>
    ((statAt d name).onRaise fun e =>
      match e with
      | .fileNotFound _ => raise (refused operation "because temporary file disappeared" (pathText path))
      | e => raise e).bind fun seen =>
        if seen.fileType ≠ .file then
          raise (refused operation "because temporary path is not a regular file" (pathText path))
        else if own.id = seen.id then ret ()
        else raise (refused operation "because temporary file identity changed" (pathText path))

/-- What `atomic_write_bytes` does with its temporary file, up to the replacement. -/
def fillAndReplace (target : Path) (content : Bytes) (mode : Option Nat) (durability : DurabilityMode) (d temp : FileId)
    (name : String) : Sys Unit :=
  (ensureDescriptorMatches "atomic write" d (parentPath target)).bind fun _ =>
    fdopen.bind fun _ =>
      (writeAll temp content.length 0 content).bind fun _ =>
        (mode.elim (ret ()) (fchmod temp)).bind fun _ =>
          (durableFsync durability).bind fun _ =>
            (ensureOpenFileMatchesChild "atomic write" temp d name (parentPath target ++ [name])).bind fun _ =>
              (ensureDescriptorMatches "atomic write" d (parentPath target)).bind fun _ =>
                (ensureSafeChild "atomic write" true d (nameOf target)).bind fun _ =>
                  close.bind fun _ => replaceAt d name (nameOf target)

/-- What a call that fails does about its temporary file. -/
def removeOnRaise (d : FileId) (name : String) (p : Sys α) : Sys α :=
  p.onRaise fun e => (quietly close).bind fun _ => (cleanupTempFile d name).bind fun _ => raise e

/-- `atomic_write_bytes`, once the directory is open. -/
def writeInDirectory (target : Path) (content : Bytes) (permissions : Option Nat) (durability : DurabilityMode)
    (d : FileId) : Sys Unit :=
  (existingPermissionsAt d (nameOf target)).bind fun existingMode =>
    (ensureDescriptorMatches "atomic write" d (parentPath target)).bind fun _ =>
      (createTempFile d (nameOf target) 100).bind fun temp =>
        (removeOnRaise d temp.2
          (fillAndReplace target content (permissions.or existingMode) durability d temp.1 temp.2)).bind fun _ =>
            (ensureDescriptorMatchesAfter "atomic write" d (parentPath target)).bind fun _ => durableFsync durability

/-- `atomic_write_bytes`. -/
def atomicWriteBytes (target : Path) (content : Bytes) (permissions : Option Nat) (durability : DurabilityMode) :
    Sys Unit :=
  (ensureSafeWritePath "atomic write" target).bind fun _ =>
    (mkdirParentForWrite target durability).bind fun _ =>
      (ensureSafeWritePath "atomic write" target).bind fun _ =>
        (openExistingDirectory "atomic write" (parentPath target)).bind fun d =>
          finallyDo (writeInDirectory target content permissions durability d) close

/-- `delete_file`, once the directory is open. -/
def deleteInDirectory (target : Path) (missingOk : Bool) (durability : DurabilityMode) (d : FileId) : Sys Unit :=
  ((ensureDescriptorMatches "delete" d (parentPath target)).bind fun _ =>
    (ensureSafeChild "delete" missingOk d (nameOf target)).bind fun _ =>
      (unlinkAt d (nameOf target)).bind fun _ =>
        (ensureDescriptorMatchesAfter "delete" d (parentPath target)).bind fun _ =>
          durableFsync durability).onRaise fun e =>
    match e with
    | .fileNotFound missing =>
      if missingOk then ensureDescriptorMatches "delete" d (parentPath target) else raise (.fileNotFound missing)
    | e => raise e

/-- `delete_file`. -/
def deleteFile (target : Path) (missingOk : Bool) (durability : DurabilityMode) : Sys Unit :=
  (ensureSafeDeletePath "delete" missingOk target).bind fun _ =>
    (if missingOk then seesAt true target fun _ => true else ret true).bind fun there =>
      if there then
        (openExistingDirectory "delete" (parentPath target)).bind fun d =>
          finallyDo (deleteInDirectory target missingOk durability d) close
      else ret ()

/-! ## What mutations may do -/

/-- What a step may do to a name, in the directory that a way has led to. -/
abbrev Permit := Path → FileId → String → History Filesystem → Filesystem → Prop

/-- A step that changes a name does so in a directory that was reached part by part. -/
def Touches (P : Permit) (h : History Filesystem) (s : Filesystem) : Prop :=
  ∀ d name, s.entry d name ≠ h.now.entry d name →
    ∃ way, Reached h way d ∧ P way d name h s

/-- The step gives a name that is free to a directory. -/
def TakesDirectory (d : FileId) (name : String) (h : History Filesystem) (s : Filesystem) : Prop :=
  h.now.entry d name = none ∧ ∃ id, s.entry d name = some id ∧ s.isDirectory id = true

/-- The step gives a name that is free to a file. -/
def TakesFree (d : FileId) (name : String) (h : History Filesystem) (s : Filesystem) : Prop :=
  h.now.entry d name = none ∧ (s.entry d name).isSome

/-- The program has given the name, which was free, to a file. -/
def Taken (d : FileId) (name : String) (h : History Filesystem) : Prop :=
  ∃ (g : History Filesystem) (s : Filesystem), Before (g.own s) h ∧ TakesFree d name g s

theorem Taken.later {d : FileId} {name : String} {h h' : History Filesystem} (htaken : Taken d name h)
    (hh' : Before h h') : Taken d name h' := by
  obtain ⟨g, s, hg, hfree⟩ := htaken
  exact ⟨g, s, hg.trans hh', hfree⟩

/-- What the program has changed of the target and of the way to it, it has changed in a
directory that its path led to afterwards, or the check of that is still `due`. -/
def Confirmed (P : Permit) (target : Path) (due : Path → FileId → Prop) (h : History Filesystem) : Prop :=
  ∀ g s, Before (g.own s) h → ∀ d name, s.entry d name ≠ g.now.entry d name →
    ∃ way, Reached g way d ∧ P way d name g s ∧ (way ++ [name] <+: target → due way d ∨ LedTo (g.own s) h way d)

/-- Nothing is due. -/
abbrev Nothing (_ : Path) (_ : FileId) : Prop := False

/-- One check is due. -/
abbrev Due (way : Path) (d : FileId) (way' : Path) (d' : FileId) : Prop := way' = way ∧ d' = d

/-- A step that leaves every name alone. -/
def Steady (h : History Filesystem) (s : Filesystem) : Prop := ∀ d name, s.entry d name = h.now.entry d name

theorem Idle.steady {h : History Filesystem} {s : Filesystem} (hs : Idle h s) : Steady h s := by
  rintro d name
  rw [hs]

theorem Steady.touches {P : Permit} {h : History Filesystem} {s : Filesystem} (hs : Steady h s) : Touches P h s :=
  fun d name hne => absurd (hs d name) hne

section Confirmed

variable {P : Permit} {target way : Path} {due due' : Path → FileId → Prop} {h h' : History Filesystem} {s : Filesystem}
  {d : FileId} {E : History Filesystem → Filesystem → Prop}

theorem confirmed_start : Confirmed P target due (start s) := by
  intro g s' hg
  cases hg

theorem Confirmed.mono (h₀ : Confirmed P target due h) (hdue : ∀ way d, due way d → due' way d) :
    Confirmed P target due' h := by
  intro g s hg d name hne
  obtain ⟨way, hreached, hP, hconfirmed⟩ := h₀ g s hg d name hne
  exact ⟨way, hreached, hP, fun hway => (hconfirmed hway).imp_left (hdue way d)⟩

/-- Nothing is undone by steps that leave the names alone. -/
theorem Confirmed.steady (h₀ : Confirmed P target due h) (hlead : Leads E Steady h h') : Confirmed P target due h' := by
  intro g s hg d name hne
  rcases hlead.own_before hg with hg | hsteady
  · obtain ⟨way, hreached, hP, hconfirmed⟩ := h₀ g s hg d name hne
    exact ⟨way, hreached, hP, fun hway => (hconfirmed hway).imp_right fun hled => hled.later (Before.of_leads hlead)⟩
  · exact absurd (hsteady d name) hne

/-- A check that passes settles what was due. -/
theorem Confirmed.settle (h₀ : Confirmed P target (Due way d) h) (hlead : Leads E Steady h h') (hled : LedTo h h' way d) :
    Confirmed P target Nothing h' := by
  intro g s hg d' name hne
  rcases hlead.own_before hg with hg | hsteady
  · obtain ⟨way', hreached, hP, hconfirmed⟩ := h₀ g s hg d' name hne
    refine ⟨way', hreached, hP, fun hway => Or.inr ?_⟩
    rcases hconfirmed hway with ⟨rfl, rfl⟩ | hold
    · exact hled.since hg
    · exact hold.later (Before.of_leads hlead)
  · exact absurd (hsteady d' name) hne

/-- A step in a directory that was reached. -/
theorem Confirmed.own (h₀ : Confirmed P target due h) (htouches : ∀ d name, s.entry d name ≠ h.now.entry d name →
      ∃ way, Reached h way d ∧ P way d name h s ∧ (way ++ [name] <+: target → due way d)) :
    Confirmed P target due (h.own s) := by
  intro g s' hg d name hne
  cases hg with
  | refl =>
    obtain ⟨way, hreached, hP, hdue⟩ := htouches d name hne
    exact ⟨way, hreached, hP, fun hway => Or.inl (hdue hway)⟩
  | own hg _ =>
    obtain ⟨way, hreached, hP, hconfirmed⟩ := h₀ g s' hg d name hne
    exact ⟨way, hreached, hP, fun hway => (hconfirmed hway).imp_right fun hled => hled.later (.own .refl trivial)⟩

end Confirmed

section Amid

variable {C : Answer → Filesystem → Prop} {E : History Filesystem → Filesystem → Prop} {P : Permit} {target way : Path}
  {due : Path → FileId → Prop} {Q : Except FilesystemError α → History Filesystem → Prop} {h : History Filesystem}
  {d : FileId} {β : Type} {operation name : String} {durability : DurabilityMode} {tokens : List String}

theorem steadily {Q' : Except FilesystemError α → History Filesystem → Prop} {p : Sys α} (hp : Amid C E Idle Q' p h) :
    Amid C E Steady Q' p h := amid_mono (fun _ _ hs => hs.steady) (fun _ _ hQ => hQ) hp

theorem amid_eachSteady {p : Sys α} (hp : EachStep (fun fs fs' => ∀ d name, fs'.entry d name = fs.entry d name) p) :
    Amid C E Steady (fun _ _ => True) p h :=
  amid_mono (fun _ _ hs => hs) (fun _ _ _ => trivial) (amid_eachStep (fun _ _ hs => hs) hp)

/-- A program that leaves the names alone. -/
theorem amid_steady {Q' : Except FilesystemError α → History Filesystem → Prop} {p : Sys α}
    (hp : Amid C E Steady Q' p h) (hQ : ∀ r h', Leads E Steady h h' → Q' r h' → Q r h') : Amid C E (Touches P) Q p h :=
  amid_mono (fun _ _ hs => hs.touches) (fun r h' hr => hQ r h' hr.2 hr.1) (amid_leads hp)

theorem amid_steady_seq {Q' : Except FilesystemError β → History Filesystem → Prop} {p : Sys β} {f : β → Sys α}
    (hp : Amid C E Steady Q' p h) (hK : Confirmed P target due h)
    (hf : ∀ b h', Leads E Steady h h' → Confirmed P target due h' → Q' (.ok b) h' → Amid C E (Touches P) Q (f b) h')
    (herror : ∀ e h', Confirmed P target due h' → Q (.error e) h') : Amid C E (Touches P) Q (p.bind f) h :=
  amid_seq (amid_steady hp fun _ _ hlead hQ => And.intro hlead hQ)
    (fun b h' hQ => hf b h' hQ.1 (hK.steady hQ.1) hQ.2) fun e h' hQ => herror e h' (hK.steady hQ.1)

/-- Where the program ends without raising, everything has been confirmed. -/
def Settled (P : Permit) (target : Path) (r : Except FilesystemError α) (h : History Filesystem) : Prop :=
  ∀ a, r = .ok a → Confirmed P target Nothing h

theorem settled_error {e : FilesystemError} : Settled (α := α) P target (.error e) h := nofun

theorem Confirmed.settled {r : Except FilesystemError α} (hK : Confirmed P target Nothing h) : Settled P target r h :=
  fun _ _ => hK

theorem steady_durableFsync : Amid C E Steady (fun _ _ => True) (durableFsync durability) h := by
  have hquietly : Looks (quietly fsync) := by
    refine eachStep_onRaise (fun e => ?_) (looks_look _)
    split <;> trivial
  cases durability with
  | none => trivial
  | bestEffort => exact steadily (amid_looks hquietly)
  | fsync => exact steadily (amid_looks (looks_look _))

theorem steady_close : Amid C E Steady (fun _ _ => True) close h := steadily (amid_looks (looks_look _))

theorem parentPath_nameOf {path : Path} (h : path ≠ []) : parentPath path ++ [nameOf path] = path := by
  rw [parentPath, nameOf, List.getLast?_eq_some_getLast h]
  exact List.dropLast_append_getLast h

/-- Closing what was opened, at the end. -/
theorem amid_finallyClose {p : Sys Unit} (hp : Amid C E (Touches P) (Settled P target) p h) :
    Amid C E (Touches P) (Settled P target) (finallyDo p close) h := by
  refine amid_outcome_seq hp fun r h' hr => ?_
  refine amid_seq (Q := fun _ h'' => Leads E Steady h' h'') (amid_steady steady_close fun _ _ hlead _ => hlead)
    (fun _ h'' hlead => ?_) fun _ _ _ => settled_error
  exact amid_ofExcept fun a ha => (hr a ha).steady hlead

/-! ## Directories -/

/-- One name is made, where the way permits it. -/
theorem amid_makeEntry {mayExist : Bool} {part : String} (hd : Reached h way d) (hK : Confirmed P target Nothing h)
    (hP : ∀ d g s, TakesDirectory d part g s → P way d part g s) :
    Amid C E (Touches P) (Settled P target) (makeEntry operation mayExist d way part) h := by
  have hmade : Amid C E (Touches P) (fun r h' => match r with
      | .ok _ => Confirmed P target (Due way d) h'
      | .error _ => Confirmed P target Nothing h')
      ((ensureDescriptorMatches operation d way).bind fun _ => mkdirAt d part) h := by
    refine amid_steady_seq (steadily amid_ensureDescriptorMatches) hK (fun _ h₁ hlead hK₁ _ => ?_) fun _ _ hK₁ => hK₁
    refine amid_changeUnless (fun h => Steady.touches fun _ _ => rfl) (fun h₂ hh₂ i _ a fs hact => ?_) fun h₂ hh₂ _ => ?_
    · obtain ⟨fs', hcreate, hret⟩ := bind_eq_ok.1 hact
      cases hret
      obtain ⟨-, hfree, -, hentry, hother⟩ := Filesystem.create_ok (fun m => by simp [Node.entry]) hcreate
      obtain ⟨-, hnode, -⟩ := Filesystem.create_made hcreate
      have hd₂ : Reached h₂ way d := hd.later ((Before.of_leads hlead).trans (Before.of_leads hh₂))
      have htakes : TakesDirectory d part h₂ fs := ⟨hfree, _, hentry, Filesystem.isDirectory_iff.2 ⟨_, _, hnode⟩⟩
      have hchange : ∀ e m, fs.entry e m ≠ h₂.now.entry e m → e = d ∧ m = part :=
        fun e m hne => by_contra fun hem => hne (hother e m hem)
      refine ⟨fun e m hne => ?_, ?_⟩
      · obtain ⟨rfl, rfl⟩ := hchange e m hne
        exact ⟨way, hd₂, hP _ _ _ htakes⟩
      · refine Confirmed.own ((hK₁.steady hh₂.of_disturbed).mono fun _ _ h => h.elim) fun e m hne => ?_
        obtain ⟨rfl, rfl⟩ := hchange e m hne
        exact ⟨way, hd₂, hP _ _ _ htakes, fun _ => ⟨rfl, rfl⟩⟩
    · exact hK₁.steady (Leads.own hh₂.of_disturbed fun _ _ => rfl)
  refine amid_outcome_seq hmade fun r h₁ hr => ?_
  split
  · refine amid_seq (Q := fun r h' => r = .ok () → Confirmed P target Nothing h') ?_
      (fun _ h' hK' _ _ => hK' rfl) fun _ _ _ => settled_error
    exact amid_steady (steadily amid_ensureDescriptorMatchesAfter) fun r h' hlead hled hok => hr.settle hlead (hled hok)
  · refine amid_steady_seq (steadily amid_ensureDescriptorMatches) hr (fun _ h' _ hK' _ => ?_) fun _ _ _ => settled_error
    split
    · exact hK'.settled
    · exact settled_error
  · split <;> exact settled_error

/-- The directories on the way are made where they are missing. -/
theorem amid_makeParts {existOk : Bool} {base : Path}
    (hP : ∀ way part, way ++ [part] <+: base → ∀ d g s, TakesDirectory d part g s → P way d part g s) :
    ∀ {parts : List String} {d : FileId} {way : Path} {h : History Filesystem}, way ++ parts = base → Reached h way d →
      Confirmed P target Nothing h →
      Amid C E (Touches P) (Settled P target) (makeParts operation existOk durability d way parts) h
  | [], d, way, h, _, hd, hK => hK.settled
  | part :: parts, d, way, h, hway, hd, hK => by
    have hprefix : way ++ [part] <+: base := ⟨parts, by rw [← hway, List.append_assoc]; rfl⟩
    refine amid_seq (amid_leads (amid_makeEntry hd hK (hP way part hprefix))) (fun made h₁ hQ => ?_)
      fun _ _ _ => settled_error
    obtain ⟨hK₁, hlead₁⟩ := hQ
    have hsync : Amid C E Steady (fun _ _ => True) (if made then durableFsync durability else ret ()) h₁ := by
      split
      · exact steady_durableFsync
      · trivial
    refine amid_steady_seq hsync (hK₁ made rfl) (fun _ h₂ hlead₂ hK₂ _ => ?_) fun _ _ _ => settled_error
    have hd₂ : Reached h₂ way d := hd.later ((Before.of_leads hlead₁).trans (Before.of_leads hlead₂))
    refine amid_steady_seq (steadily (amid_openChildDirectory hd₂)) hK₂ (fun next h₃ _ hK₃ hnext => ?_)
      fun _ _ _ => settled_error
    refine amid_steady_seq steady_close hK₃ (fun _ h₄ hlead₄ hK₄ _ => ?_) fun _ _ _ => settled_error
    refine amid_makeParts hP ?_ ((hnext next rfl).later (Before.of_leads hlead₄)) hK₄
    rw [List.append_assoc]
    exact hway

theorem amid_makeDirectoryIncremental {existOk : Bool} {base : Path} (hK : Confirmed P target Nothing h)
    (hP : ∀ way part, way ++ [part] <+: base → ∀ d g s, TakesDirectory d part g s → P way d part g s) :
    Amid C E (Touches P) (Settled P target) (makeDirectoryIncremental operation existOk durability base) h := by
  unfold makeDirectoryIncremental
  split
  · split
    · exact hK.settled
    · exact settled_error
  refine amid_steady_seq (steadily amid_openDirectoryAnchor) hK (fun root h₁ _ hK₁ hroot => ?_) fun _ _ _ => settled_error
  refine amid_finallyClose ?_
  refine amid_seq (amid_makeParts hP rfl (hroot root rfl) hK₁) (fun _ h₂ hK₂ => ?_) fun _ _ _ => settled_error
  exact amid_steady steady_durableFsync fun _ _ hlead _ => ((hK₂ _ rfl).steady hlead).settled

theorem amid_makeDirectorySingle {existOk : Bool} {base : Path} (hK : Confirmed P target Nothing h)
    (hP : ∀ way part, way ++ [part] = base → ∀ d g s, TakesDirectory d part g s → P way d part g s) :
    Amid C E (Touches P) (Settled P target) (makeDirectorySingle operation existOk durability base) h := by
  unfold makeDirectorySingle
  split
  · split
    · exact hK.settled
    · exact settled_error
  next hbase =>
  refine amid_steady_seq (steadily amid_openExistingDirectory) hK (fun d h₁ _ hK₁ hd => ?_) fun _ _ _ => settled_error
  refine amid_finallyClose ?_
  refine amid_seq (amid_makeEntry (hd d rfl) hK₁ (hP _ _ ?_)) (fun _ h₂ hK₂ => ?_) fun _ _ _ => settled_error
  · exact parentPath_nameOf hbase
  · exact amid_steady steady_durableFsync fun _ _ hlead _ => ((hK₂ _ rfl).steady hlead).settled

theorem amid_makeDirectory {parents existOk : Bool} {base : Path} (hK : Confirmed P target Nothing h)
    (hP : ∀ way part, way ++ [part] = base ∨ parents = true ∧ way ++ [part] <+: base →
      ∀ d g s, TakesDirectory d part g s → P way d part g s) :
    Amid C E (Touches P) (Settled P target) (makeDirectory base parents existOk durability) h := by
  have hsafe : ∀ ok (h : History Filesystem), Amid C E Steady (fun _ _ => True) (ensureSafeMkdirPath "mkdir" ok base) h :=
    fun ok h => steadily (amid_looks (looks_ensureSafeMkdirPath _ _ _))
  refine amid_steady_seq (hsafe _ _) hK (fun _ h₁ _ hK₁ _ => ?_) fun _ _ _ => settled_error
  refine amid_steady_seq (steadily (amid_looks (looks_inspectPath base))) hK₁ (fun safety h₂ _ hK₂ _ => ?_)
    fun _ _ _ => settled_error
  split
  · exact hK₂.settled
  refine amid_steady_seq (hsafe _ _) hK₂ (fun _ h₃ _ hK₃ _ => ?_) fun _ _ _ => settled_error
  refine amid_seq (Q := Settled P target) ?_ (fun _ h₄ hK₄ => ?_) fun _ _ _ => settled_error
  · split
    · next hparents =>
      exact amid_makeDirectoryIncremental hK₃ fun way part hway => hP way part (Or.inr ⟨hparents, hway⟩)
    · exact amid_makeDirectorySingle hK₃ fun way part hway => hP way part (Or.inl hway)
  · exact amid_steady (hsafe _ _) fun _ _ hlead _ => ((hK₄ _ rfl).steady hlead).settled

/-! ## Deleting -/

/-- A name is taken away; that it was the right one is still to be checked. -/
theorem amid_unlinkAt (hd : Reached h way d) (hK : Confirmed P target due h)
    (hP : ∀ d g (s : Filesystem), s.entry d name = none → P way d name g s) :
    Amid C E (Touches P) (fun r h' => match r with
      | .ok _ => Confirmed P target (fun way' d' => due way' d' ∨ (way ++ [name] <+: target ∧ way' = way ∧ d' = d)) h'
      | .error _ => Confirmed P target due h') (unlinkAt d name) h := by
  refine amid_changeUnless (fun h => Steady.touches fun _ _ => rfl) (fun h' hh' i _ a fs hact => ?_) fun h' hh' _ => ?_
  · obtain ⟨fs', hunlink, hret⟩ := bind_eq_ok.1 hact
    cases hret
    obtain ⟨-, hentry, hother⟩ := Filesystem.unlink_ok hunlink
    have hchange : ∀ e m, fs.entry e m ≠ h'.now.entry e m → e = d ∧ m = name :=
      fun e m hne => by_contra fun hem => hne (hother e m hem)
    have hd' : Reached h' way d := hd.later (Before.of_leads hh')
    refine ⟨fun e m hne => ?_, Confirmed.own ((hK.steady hh'.of_disturbed).mono fun _ _ h => Or.inl h) fun e m hne => ?_⟩
    · obtain ⟨rfl, rfl⟩ := hchange e m hne
      exact ⟨way, hd', hP _ _ _ hentry⟩
    · obtain ⟨rfl, rfl⟩ := hchange e m hne
      exact ⟨way, hd', hP _ _ _ hentry, fun hway => Or.inr ⟨hway, rfl, rfl⟩⟩
  · exact hK.steady (Leads.own hh'.of_disturbed fun _ _ => rfl)

theorem looks_orMissing {p : Sys α} {default : α} (hp : Looks p) : Looks (orMissing p default) := by
  refine eachStep_onRaise (fun e => ?_) hp
  show Looks (match e with | .fileNotFound _ => ret default | e => raise e)
  split <;> trivial

theorem looks_requireRegularFile {s : Stat} : Looks (requireRegularFile operation name s) := by
  unfold requireRegularFile
  split
  · trivial
  · split <;> trivial

theorem looks_ensureSafeChild {missingOk : Bool} : Looks (ensureSafeChild operation missingOk d name) := by
  have hstat : Looks ((statAt d name).bind fun s => ret (some s)) :=
    eachStep_bind (fun _ => by trivial) (looks_look _)
  refine eachStep_bind (fun found => ?_) ?_
  · cases found with
    | none => trivial
    | some s => exact looks_requireRegularFile
  · split
    · exact looks_orMissing hstat
    · exact hstat

/-- The name is taken away where the way led, and the way is checked before and after. -/
theorem amid_deleteInDirectory {missingOk : Bool} (hd : Reached h (parentPath target) d)
    (hK : Confirmed P target Nothing h)
    (hP : ∀ d g (s : Filesystem), s.entry d (nameOf target) = none → P (parentPath target) d (nameOf target) g s) :
    Amid C E (Touches P) (Settled P target) (deleteInDirectory target missingOk durability d) h := by
  refine amid_onRaise (Q := Settled P target) (amid_mono (fun _ _ hR => hR)
    (Q := fun r h' => match r with
      | .ok _ => Confirmed P target Nothing h'
      | .error _ => Confirmed P target (Due (parentPath target) d) h') ?_ ?_)
  · rintro (e | a) h' hr
    · dsimp only
      split
      · split
        · exact amid_steady (steadily amid_ensureDescriptorMatches) fun r h'' hlead hled _ hok =>
            hr.settle hlead (hled hok)
        · exact settled_error
      · exact settled_error
    · exact hr.settled
  · have hdue : ∀ {h'}, Confirmed P target Nothing h' → Confirmed P target (Due (parentPath target) d) h' :=
      fun hK => hK.mono fun _ _ h => h.elim
    refine amid_steady_seq (steadily amid_ensureDescriptorMatches) hK (fun _ h₁ hlead₁ hK₁ _ => ?_) fun _ _ hK' => hdue hK'
    refine amid_steady_seq (steadily (amid_looks looks_ensureSafeChild)) hK₁ (fun _ h₂ hlead₂ hK₂ _ => ?_)
      fun _ _ hK' => hdue hK'
    have hd₂ := hd.later ((Before.of_leads hlead₁).trans (Before.of_leads hlead₂))
    refine amid_seq (amid_unlinkAt hd₂ hK₂ hP) (fun _ h₃ hK₃ => ?_) fun _ _ hK' => hdue hK'
    have hK₃' : Confirmed P target (Due (parentPath target) d) h₃ :=
      hK₃.mono fun _ _ h => h.elim (fun hno => hno.elim) fun h => h.2
    refine amid_seq (amid_steady (steadily amid_ensureDescriptorMatchesAfter) fun r h' hlead hled => And.intro hlead hled)
      (fun _ h₄ hQ => ?_) fun _ h₄ hQ => hK₃'.steady hQ.1
    have hK₄ := hK₃'.settle hQ.1 (hQ.2 rfl)
    refine amid_steady steady_durableFsync fun r h₅ hlead _ => ?_
    cases r with
    | ok a => exact hK₄.steady hlead
    | error e => exact hdue (hK₄.steady hlead)

theorem amid_deleteFile {missingOk : Bool} (hK : Confirmed P target Nothing h)
    (hP : ∀ d g (s : Filesystem), s.entry d (nameOf target) = none → P (parentPath target) d (nameOf target) g s) :
    Amid C E (Touches P) (Settled P target) (deleteFile target missingOk durability) h := by
  refine amid_steady_seq (steadily (amid_looks (looks_ensureSafeDeletePath _ _ _))) hK (fun _ h₁ _ hK₁ _ => ?_)
    fun _ _ _ => settled_error
  have hthere : Amid C E Steady (fun _ _ => True)
      (if missingOk then seesAt true target fun _ => true else ret true : Sys Bool) h₁ := by
    split
    · exact steadily (amid_looks (looks_look _))
    · trivial
  refine amid_steady_seq hthere hK₁ (fun there h₂ _ hK₂ _ => ?_) fun _ _ _ => settled_error
  split
  · refine amid_steady_seq (steadily amid_openExistingDirectory) hK₂ (fun d h₃ _ hK₃ hd => ?_) fun _ _ _ => settled_error
    exact amid_finallyClose (amid_deleteInDirectory (hd d rfl) hK₃ hP)
  · exact hK₂.settled

/-! ## Writing -/

/-- Writing into a file names nothing. -/
theorem eachSteady_writeAll {temp : FileId} : ∀ (fuel offset : Nat) (bytes : Bytes),
    EachStep (fun fs fs' => ∀ d name, fs'.entry d name = fs.entry d name) (writeAll temp fuel offset bytes)
  | 0, _, _ => trivial
  | fuel + 1, offset, bytes => by
    unfold writeAll
    split
    · trivial
    refine eachStep_bind (fun n => eachSteady_writeAll fuel _ _) ?_
    refine eachStep_changeUnless (fun _ _ _ => rfl) fun i fs a fs' hact d name => ?_
    dsimp only at hact
    split at hact
    · next content permissions extent _ _ hinode =>
      cases hact
      refine Filesystem.entry_put (fun m => ?_) d name
      rw [Filesystem.entry, Filesystem.node, hinode]
      rfl
    · cases hact

theorem eachSteady_fchmod {temp : FileId} {mode : Nat} :
    EachStep (fun fs fs' => ∀ d name, fs'.entry d name = fs.entry d name) (fchmod temp mode) := by
  refine eachStep_changeUnless (fun _ _ _ => rfl) fun i fs a fs' hact d name => ?_
  split at hact
  · next inode hinode =>
    cases hact
    refine Filesystem.entry_put (fun m => ?_) d name
    rw [Filesystem.entry, Filesystem.node, hinode]
    rfl
  · cases hact

theorem looks_ensureOpenFileMatchesChild {temp : FileId} {path : Path} :
    Looks (ensureOpenFileMatchesChild operation temp d name path) := by
  refine eachStep_bind (fun own => ?_) (looks_look _)
  refine eachStep_bind (fun seen => ?_) (eachStep_onRaise (fun e => ?_) (looks_look _))
  · split
    · trivial
    · split <;> trivial
  · show Looks (match e with | .fileNotFound _ => _ | e => _)
    split <;> trivial

/-- A temporary name is not on the way to the target. -/
theorem tempName_beside (target : Path) (token : String) :
    ¬ parentPath target ++ [tempName (nameOf target) token] <+: target := by
  intro hway
  cases hnil : target with
  | nil =>
    rw [hnil] at hway
    exact absurd (List.prefix_nil.1 hway) (by simp)
  | cons part parts =>
    have hne : target ≠ [] := by simp [hnil]
    have hlast : parentPath target ++ [tempName (nameOf target) token] = target := by
      refine hway.eq_of_length ?_
      rw [← congrArg List.length (parentPath_nameOf hne), List.length_append, List.length_append]
      rfl
    have hname : tempName (nameOf target) token = nameOf target :=
      (List.append_inj_right' (hlast.trans (parentPath_nameOf hne).symm) rfl |> List.singleton_inj.1)
    have hlength := congrArg String.length hname
    have htmp : ".tmp".length = 4 := rfl
    simp only [tempName, String.length_append] at hlength
    omega

/-- A temporary file is made beside the target, under a name of its own. -/
theorem amid_createTempFile (hC : ∀ i fs, C i fs → i.token ∈ tokens)
    (hP : ∀ token ∈ tokens, ∀ d g s, TakesFree d (tempName (nameOf target) token) g s →
      P (parentPath target) d (tempName (nameOf target) token) g s) :
    ∀ {tries : Nat} {h : History Filesystem}, Reached h (parentPath target) d → Confirmed P target Nothing h →
      Amid C E (Touches P) (fun r h' => Leads E (Touches P) h h' ∧ ∀ temp, r = .ok temp → Confirmed P target Nothing h' ∧
        Taken d temp.2 h' ∧ ∃ token ∈ tokens, temp.2 = tempName (nameOf target) token)
        (createTempFile d (nameOf target) tries) h
  | 0, h, _, _ => ⟨.refl, nofun⟩
  | tries + 1, h, hd, hK => by
    -- one try: a token is drawn, and the name with it taken if it is free
    have hdraw : Amid C E Idle (fun r _ => ∀ token, r = .ok token → token ∈ tokens) drawToken h :=
      amid_call fun h' _ i hi => ⟨rfl, fun token htoken => by cases htoken; exact hC i _ hi⟩
    refine amid_seq (amid_steady (steadily hdraw) fun _ _ hlead htoken => And.intro hlead htoken)
      (fun token h₁ hdrawn => ?_) fun _ _ hdrawn => ⟨hdrawn.1.mono (fun _ _ h => h) fun _ _ h => h.touches, nofun⟩
    obtain ⟨hlead₁, htoken⟩ := hdrawn
    have htoken := htoken token rfl
    have hcreated : Amid C E (Touches P) (fun r h' => Confirmed P target Nothing h' ∧
        ∀ id, r = .ok id → Taken d (tempName (nameOf target) token) h')
        (createAt d (tempName (nameOf target) token)) h₁ := by
      refine amid_changeUnless (fun h => Steady.touches fun _ _ => rfl) (fun h₂ hh₂ i _ a fs hact => ?_)
        fun h₂ hh₂ _ => ⟨(hK.steady hlead₁).steady (Leads.own hh₂.of_disturbed fun _ _ => rfl), nofun⟩
      obtain ⟨fs', hcreate, hret⟩ := bind_eq_ok.1 hact
      cases hret
      obtain ⟨-, hfree, -, hentry, hother⟩ := Filesystem.create_ok (fun m => rfl) hcreate
      have htakes : TakesFree d (tempName (nameOf target) token) h₂ fs := ⟨hfree, by rw [hentry]; rfl⟩
      have hd₂ : Reached h₂ (parentPath target) d :=
        hd.later ((Before.of_leads hlead₁).trans (Before.of_leads hh₂))
      -- creating a file changes its own name only
      have hchange : ∀ e m, fs.entry e m ≠ h₂.now.entry e m → e = d ∧ m = tempName (nameOf target) token :=
        fun e m hne => by_contra fun hem => hne (hother e m hem)
      refine ⟨fun e m hne => ?_, Confirmed.own ((hK.steady hlead₁).steady hh₂.of_disturbed) fun e m hne => ?_,
        fun _ _ => ⟨h₂, fs, .refl, htakes⟩⟩
      · obtain ⟨rfl, rfl⟩ := hchange e m hne
        exact ⟨_, hd₂, hP token htoken _ _ _ htakes⟩
      · obtain ⟨rfl, rfl⟩ := hchange e m hne
        exact ⟨_, hd₂, hP token htoken _ _ _ htakes, fun hway => (tempName_beside target token hway).elim⟩
    have hlead₀ : Leads E (Touches P) h h₁ := hlead₁.mono (fun _ _ h => h) fun _ _ h => h.touches
    refine amid_outcome_seq (amid_leads hcreated) fun r h₂ hr => ?_
    obtain ⟨⟨hK₂, htaken⟩, hlead₂⟩ := hr
    split
    · next id =>
      exact ⟨hlead₀.trans hlead₂, fun temp htemp => by
        cases htemp
        exact ⟨hK₂, htaken id rfl, token, htoken, rfl⟩⟩
    -- the name was taken: the next try
    · have hd₂ := hd.later ((Before.of_leads hlead₀).trans (Before.of_leads hlead₂))
      exact amid_mono (fun _ _ h => h) (fun r h₃ h₃' => ⟨(hlead₀.trans hlead₂).trans h₃'.1, h₃'.2⟩)
        (amid_createTempFile hC hP hd₂ hK₂)
    · exact ⟨hlead₀.trans hlead₂, nofun⟩

theorem looks_fdopen : Looks fdopen := eachStep_changeUnless (fun _ => rfl) fun _ _ _ _ hact => by cases hact; rfl

/-- The temporary file is filled, and takes the target's name. -/
theorem amid_fillAndReplace {content : Bytes} {mode : Option Nat} {temp : FileId}
    (hd : Reached h (parentPath target) d) (hK : Confirmed P target Nothing h) (htaken : Taken d name h)
    (hP : ∀ g s, Taken d name g → P (parentPath target) d name g s)
    (hPtarget : ∀ d g (s : Filesystem), (s.entry d (nameOf target)).isSome → P (parentPath target) d (nameOf target) g s) :
    Amid C E (Touches P) (fun r h' => ∀ a, r = .ok a → Confirmed P target (Due (parentPath target) d) h')
      (fillAndReplace target content mode durability d temp name) h := by
  refine amid_steady_seq (steadily amid_ensureDescriptorMatches) hK (fun _ h₁ l₁ hK₁ _ => ?_) fun _ _ _ => nofun
  refine amid_steady_seq (steadily (amid_looks looks_fdopen)) hK₁ (fun _ h₂ l₂ hK₂ _ => ?_) fun _ _ _ => nofun
  refine amid_steady_seq (amid_eachSteady (eachSteady_writeAll _ _ _)) hK₂ (fun _ h₃ l₃ hK₃ _ => ?_) fun _ _ _ => nofun
  have hmode : Amid C E Steady (fun _ _ => True) (mode.elim (ret ()) (fchmod temp)) h₃ := by
    cases mode with
    | none => trivial
    | some mode => exact amid_eachSteady eachSteady_fchmod
  refine amid_steady_seq hmode hK₃ (fun _ h₄ l₄ hK₄ _ => ?_) fun _ _ _ => nofun
  refine amid_steady_seq steady_durableFsync hK₄ (fun _ h₅ l₅ hK₅ _ => ?_) fun _ _ _ => nofun
  refine amid_steady_seq (steadily (amid_looks looks_ensureOpenFileMatchesChild)) hK₅ (fun _ h₆ l₆ hK₆ _ => ?_)
    fun _ _ _ => nofun
  refine amid_steady_seq (steadily amid_ensureDescriptorMatches) hK₆ (fun _ h₇ l₇ hK₇ _ => ?_) fun _ _ _ => nofun
  refine amid_steady_seq (steadily (amid_looks looks_ensureSafeChild)) hK₇ (fun _ h₈ l₈ hK₈ _ => ?_) fun _ _ _ => nofun
  refine amid_steady_seq steady_close hK₈ (fun _ h₉ l₉ hK₉ _ => ?_) fun _ _ _ => nofun
  have l : Before h h₉ := Before.of_leads
    ((((((((l₁.trans l₂).trans l₃).trans l₄).trans l₅).trans l₆).trans l₇).trans l₈).trans l₉)
  refine amid_changeUnless (fun h => Steady.touches fun _ _ => rfl) (fun h' hh' i _ a fs hact => ?_) fun _ _ _ => nofun
  obtain ⟨fs', hrename, hret⟩ := bind_eq_ok.1 hact
  cases hret
  obtain ⟨id, hentry, hmoved, hother⟩ := Filesystem.rename_ok hrename
  have hd' : Reached h' (parentPath target) d := hd.later (l.trans (Before.of_leads hh'))
  have hchange : ∀ e m, fs.entry e m ≠ h'.now.entry e m → e = d ∧ P (parentPath target) e m h' fs := by
    intro e m hne
    obtain ⟨rfl, hm⟩ : e = d ∧ (m = name ∨ m = nameOf target) := by_contra fun hem => hne (hother e m hem)
    refine ⟨rfl, ?_⟩
    rcases hm with rfl | rfl
    · exact hP h' fs (htaken.later (l.trans (Before.of_leads hh')))
    · exact hPtarget e h' fs (by rw [hmoved]; rfl)
  refine ⟨fun e m hne => ?_, fun _ _ =>
    Confirmed.own ((hK₉.steady hh'.of_disturbed).mono fun _ _ h => h.elim) fun e m hne => ?_⟩
  · obtain ⟨rfl, hPm⟩ := hchange e m hne
    exact ⟨_, hd', hPm⟩
  · obtain ⟨rfl, hPm⟩ := hchange e m hne
    exact ⟨_, hd', hPm, fun _ => ⟨rfl, rfl⟩⟩

/-- A call that fails removes its temporary file, whatever that name leads to by then. -/
theorem amid_removeOnRaise {p : Sys α} {S : α → History Filesystem → Prop}
    (hd : Reached h (parentPath target) d) (htaken : Taken d name h)
    (hP : ∀ g s, Taken d name g → P (parentPath target) d name g s)
    (hp : Amid C E (Touches P) (fun r h' => ∀ a, r = .ok a → S a h') p h) :
    Amid C E (Touches P) (fun r h' => ∀ a, r = .ok a → S a h') (removeOnRaise d name p) h := by
  refine amid_onRaise (amid_mono (fun _ _ hR => hR) ?_ (amid_leads hp))
  rintro (e | a) h' ⟨hr, hlead⟩
  · have hclose : Looks (quietly close) := eachStep_onRaise (fun e => by split <;> trivial) (looks_look _)
    refine amid_seq (amid_steady (steadily (amid_looks hclose)) fun _ _ hlead _ => hlead) (fun _ h₁ hlead₁ => ?_)
      fun _ _ _ => nofun
    have l : Before h h₁ := (Before.of_leads hlead).trans (Before.of_leads hlead₁)
    refine amid_seq (Q := fun _ _ => True) ?_ (fun _ _ _ => nofun) fun _ _ _ => nofun
    refine amid_onRaise (amid_mono (fun _ _ hR => hR) ?_ (amid_changeUnless (Q := fun _ _ => True)
      (fun h => Steady.touches fun _ _ => rfl) (fun h₂ hh₂ i _ a fs hact => ⟨?_, trivial⟩) fun _ _ _ => trivial))
    · rintro (e | a) h₂ -
      · dsimp only
        split <;> trivial
      · trivial
    · obtain ⟨fs', hunlink, hret⟩ := bind_eq_ok.1 hact
      cases hret
      obtain ⟨-, -, hother⟩ := Filesystem.unlink_ok hunlink
      intro e m hne
      obtain ⟨rfl, rfl⟩ : e = d ∧ m = name := by_contra fun hem => hne (hother e m hem)
      have l₂ : Before h h₂ := l.trans (Before.of_leads hh₂)
      exact ⟨_, hd.later l₂, hP h₂ fs (htaken.later l₂)⟩
  · exact hr

theorem amid_writeInDirectory {content : Bytes} {permissions : Option Nat} (hC : ∀ i fs, C i fs → i.token ∈ tokens)
    (hd : Reached h (parentPath target) d) (hK : Confirmed P target Nothing h)
    (hP : ∀ token ∈ tokens, ∀ d g s, TakesFree d (tempName (nameOf target) token) g s ∨
      Taken d (tempName (nameOf target) token) g → P (parentPath target) d (tempName (nameOf target) token) g s)
    (hPtarget : ∀ d g (s : Filesystem), (s.entry d (nameOf target)).isSome → P (parentPath target) d (nameOf target) g s) :
    Amid C E (Touches P) (Settled P target) (writeInDirectory target content permissions durability d) h := by
  have hexisting : Looks (existingPermissionsAt d (nameOf target)) := by
    refine eachStep_bind (fun found => ?_) (looks_orMissing (eachStep_bind (fun _ => by trivial) (looks_look _)))
    cases found with
    | none => trivial
    | some s => exact eachStep_bind (fun _ => by trivial) looks_requireRegularFile
  refine amid_steady_seq (steadily (amid_looks hexisting)) hK (fun existingMode h₁ l₁ hK₁ _ => ?_)
    fun _ _ _ => settled_error
  refine amid_steady_seq (steadily amid_ensureDescriptorMatches) hK₁ (fun _ h₂ l₂ hK₂ _ => ?_) fun _ _ _ => settled_error
  have hd₂ := hd.later (Before.of_leads (l₁.trans l₂))
  have hPfree : ∀ token ∈ tokens, ∀ d g s, TakesFree d (tempName (nameOf target) token) g s →
      P (parentPath target) d (tempName (nameOf target) token) g s :=
    fun token htoken d g s hfree => hP token htoken d g s (Or.inl hfree)
  refine amid_seq (amid_createTempFile hC hPfree hd₂ hK₂) (fun temp h₃ hQ => ?_) fun _ _ _ => settled_error
  obtain ⟨l₃, htemp⟩ := hQ
  obtain ⟨hK₃, htaken, token, htoken, hname⟩ := htemp temp rfl
  have hd₃ := hd₂.later (Before.of_leads l₃)
  have hPtaken : ∀ g s, Taken d temp.2 g → P (parentPath target) d temp.2 g s := by
    rw [hname]
    exact fun g s htaken => hP token htoken d g s (Or.inr htaken)
  refine amid_seq (amid_removeOnRaise hd₃ htaken hPtaken (amid_fillAndReplace hd₃ hK₃ htaken hPtaken hPtarget))
    (fun _ h₄ hK₄ => ?_) fun _ _ _ => settled_error
  refine amid_seq (amid_steady (Q := fun r h' => r = .ok () → Confirmed P target Nothing h')
    (steadily amid_ensureDescriptorMatchesAfter) fun r h' hlead hled hok => (hK₄ _ rfl).settle hlead (hled hok))
    (fun _ h₅ hK₅ => ?_) fun _ _ _ => settled_error
  exact amid_steady steady_durableFsync fun _ _ hlead _ => ((hK₅ rfl).steady hlead).settled

theorem amid_atomicWriteBytes {content : Bytes} {permissions : Option Nat} (hC : ∀ i fs, C i fs → i.token ∈ tokens)
    (hK : Confirmed P target Nothing h)
    (hPparent : ∀ way part, way ++ [part] <+: parentPath target → ∀ d g s, TakesDirectory d part g s → P way d part g s)
    (hP : ∀ token ∈ tokens, ∀ d g s, TakesFree d (tempName (nameOf target) token) g s ∨
      Taken d (tempName (nameOf target) token) g → P (parentPath target) d (tempName (nameOf target) token) g s)
    (hPtarget : ∀ d g (s : Filesystem), (s.entry d (nameOf target)).isSome → P (parentPath target) d (nameOf target) g s) :
    Amid C E (Touches P) (Settled P target) (atomicWriteBytes target content permissions durability) h := by
  have hsafe : ∀ h : History Filesystem, Amid C E Steady (fun _ _ => True) (ensureSafeWritePath "atomic write" target) h :=
    fun h => steadily (amid_looks (looks_ensureSafeWritePath _ _))
  have hchain : ∀ h : History Filesystem,
      Amid C E Steady (fun _ _ => True) (ensureSafeParentChain "atomic write" target) h :=
    fun h => steadily (amid_looks (looks_ensureSafeParentChain _ _))
  refine amid_steady_seq (hsafe h) hK (fun _ h₁ _ hK₁ _ => ?_) fun _ _ _ => settled_error
  refine amid_seq (Q := Settled P target) ?_ (fun _ h₂ hK₂ => ?_) fun _ _ _ => settled_error
  · refine amid_steady_seq (hchain _) hK₁ (fun _ h₂ _ hK₂ _ => ?_) fun _ _ _ => settled_error
    refine amid_steady_seq (hchain _) hK₂ (fun _ h₃ _ hK₃ _ => ?_) fun _ _ _ => settled_error
    refine amid_seq (amid_makeDirectoryIncremental hK₃ hPparent) (fun _ h₄ hK₄ => ?_) fun _ _ _ => settled_error
    exact amid_steady (hchain _) fun _ _ hlead _ => ((hK₄ _ rfl).steady hlead).settled
  refine amid_steady_seq (hsafe _) (hK₂ _ rfl) (fun _ h₃ _ hK₃ _ => ?_) fun _ _ _ => settled_error
  refine amid_steady_seq (steadily amid_openExistingDirectory) hK₃ (fun d h₄ _ hK₄ hd => ?_) fun _ _ _ => settled_error
  exact amid_finallyClose (amid_writeInDirectory hC (hd d rfl) hK₄ hP hPtarget)

end Amid

/-! ## Mutations -/

/-- The operations that change names, with their arguments. -/
inductive Mutation where
  | atomicWriteBytes (target : Path) (content : Bytes) (permissions : Option Nat) (durability : DurabilityMode)
  | deleteFile (target : Path) (missingOk : Bool) (durability : DurabilityMode)
  | makeDirectory (target : Path) (parents existOk : Bool) (durability : DurabilityMode)

namespace Mutation

def target : Mutation → Path
  | atomicWriteBytes target _ _ _ | deleteFile target _ _ | makeDirectory target _ _ _ => target

def program : Mutation → Sys Unit
  | atomicWriteBytes target content permissions durability =>
    Descriptors.atomicWriteBytes target content permissions durability
  | deleteFile target missingOk durability => Descriptors.deleteFile target missingOk durability
  | makeDirectory target parents existOk durability => Descriptors.makeDirectory target parents existOk durability

/-- A missing directory on the way to the target is made. -/
def Makes (target way : Path) (d : FileId) (name : String) (h : History Filesystem) (s : Filesystem) : Prop :=
  way ++ [name] <+: target ∧ TakesDirectory d name h s

/-- The name is the target's, in the target's directory. -/
def IsTarget (target way : Path) (name : String) : Prop := way = parentPath target ∧ name = nameOf target

/-- The name is that of a temporary file beside the target, with a token that was drawn: it was free and
is given to the file, or it has been given so before. -/
def IsTemporary (tokens : List String) (target way : Path) (d : FileId) (name : String) (h : History Filesystem)
    (s : Filesystem) : Prop :=
  way = parentPath target ∧ (∃ token ∈ tokens, name = tempName (nameOf target) token) ∧
    (TakesFree d name h s ∨ Taken d name h)

/-- What a mutation may do to names: to its target's, to those of missing directories above it, and,
where it writes a file, to that of its temporary file. -/
def permit (tokens : List String) : Mutation → Permit
  | atomicWriteBytes target _ _ _, way, d, name, h, s =>
    Makes (parentPath target) way d name h s ∨ (IsTarget target way name ∧ (s.entry d name).isSome) ∨
      IsTemporary tokens target way d name h s
  | deleteFile target _ _, way, d, name, _, s => IsTarget target way name ∧ s.entry d name = none
  | makeDirectory target parents _ _, way, d, name, h, s =>
    (IsTarget target way name ∨ parents = true) ∧ Makes target way d name h s

theorem amid_program {C : Answer → Filesystem → Prop} {E : History Filesystem → Filesystem → Prop}
    {tokens : List String} (hC : ∀ i fs, C i fs → i.token ∈ tokens) (m : Mutation) (s : Filesystem) :
    Amid C E (Touches (m.permit tokens)) (Settled (m.permit tokens) m.target) m.program (start s) := by
  cases m with
  | atomicWriteBytes target content permissions durability =>
    refine amid_atomicWriteBytes hC confirmed_start (fun way part hway d g s htakes => ?_)
      (fun token htoken d g s htakes => ?_) fun d g s hsome => ?_
    · exact Or.inl ⟨hway, htakes⟩
    · exact Or.inr (Or.inr ⟨rfl, ⟨token, htoken, rfl⟩, htakes⟩)
    · exact Or.inr (Or.inl ⟨⟨rfl, rfl⟩, hsome⟩)
  | deleteFile target missingOk durability =>
    exact amid_deleteFile confirmed_start fun d g s hnone => ⟨⟨rfl, rfl⟩, hnone⟩
  | makeDirectory target parents existOk durability =>
    refine amid_makeDirectory confirmed_start fun way part hway d g s htakes => ?_
    rcases hway with rfl | ⟨hparents, hway⟩
    · exact ⟨Or.inl ⟨by simp [parentPath], by simp [nameOf]⟩, List.prefix_rfl, htakes⟩
    · exact ⟨Or.inr hparents, hway, htakes⟩

end Mutation

/-- The tokens a run has to draw from. -/
def drawn (moves : List (Move Answer Filesystem)) : List String :=
  moves.filterMap fun move =>
    match move with
    | .own i => some i.token
    | .other _ => none

theorem mem_drawn {moves : List (Move Answer Filesystem)} {i : Answer} (hi : .own i ∈ moves) :
    i.token ∈ drawn moves := List.mem_filterMap.2 ⟨.own i, hi, rfl⟩

/-- Whatever others do to the filesystem between two calls, a mutation changes names only as it
is permitted to, in directories it reached part by part through directories; and where it
returns, the path of each such directory led to that directory after the change. -/
theorem no_mutation_through_symlink (m : Mutation) (s : Filesystem) (moves : List (Move Answer Filesystem)) :
    Leads (fun _ _ => True) (Touches (m.permit (drawn moves))) (start s) (m.program.play (start s) moves).2 ∧
      ((m.program.play (start s) moves).1.result? = some (.ok ()) →
        Confirmed (m.permit (drawn moves)) m.target Nothing (m.program.play (start s) moves).2) := by
  have hfair : Fair (fun i _ => i.token ∈ drawn moves) (fun _ _ => True) m.program (start s) moves :=
    fair_inputs (fun i hi _ => mem_drawn hi) m.program (start s)
  obtain ⟨hend, hlead⟩ := amid_play (m.amid_program (fun _ _ htoken => htoken) s) hfair
  exact ⟨hlead, fun hr => amid_result hend hr () rfl⟩

/-- An empty root. -/
private def onlyRootThere : Filesystem where
  inodes id := if id = ⟨0, 2⟩ then some ⟨.directory ⟨0, 2⟩ ∅, 0o755, 0, 0, 0⟩ else none
  root := ⟨0, 2⟩
  umask := 0

/-- An answer to any call. -/
private def answering : Answer := ⟨none, none, none, ⟨0, 3⟩, "t", 1, 1⟩

/-- The last step made a new name in the root. -/
private def justMade (name : String) : History Filesystem → Bool
  | .own g s => (s.entry ⟨0, 2⟩ name).isSome && (g.now.entry ⟨0, 2⟩ name).isNone
  | _ => false

/-- A file is not written through names of its own and of directories above it only: the
content is first given the name of a temporary file. -/
theorem temporary_name_changed : ¬ ∀ (m : Mutation) (s : Filesystem) (moves : List (Move Answer Filesystem)),
    Leads (fun _ _ => True) (Touches fun way _ name _ _ => way ++ [name] <+: m.target) (start s)
      (m.program.play (start s) moves).2 := by
  intro h
  have hlead := h (.atomicWriteBytes ["f"] [] none .fsync) onlyRootThere (List.replicate 12 (.own answering))
  have hmade : justMade ".f.t.tmp" ((Mutation.program (.atomicWriteBytes ["f"] [] none .fsync)).play
      (start onlyRootThere) (List.replicate 12 (.own answering))).2 = true := by decide +kernel
  generalize (Program.play _ _ _).2 = seen at hlead hmade
  cases hlead with
  | refl => cases hmade
  | other => cases hmade
  | own _ hstep =>
    obtain ⟨hnew, hold⟩ := Bool.and_eq_true_iff.1 hmade
    obtain ⟨way, -, hway⟩ := hstep ⟨0, 2⟩ ".f.t.tmp" fun heq => by
      rw [heq, Option.isNone_iff_eq_none.1 hold] at hnew
      cases hnew
    have hway : way ++ [".f.t.tmp"] <+: ["f"] := hway
    have hlength := hway.length_le
    have hnil : way = [] := List.eq_nil_of_length_eq_zero (by simpa using hlength)
    rw [hnil] at hway
    exact absurd (List.cons.inj (hway.eq_of_length rfl)).1 (by decide)

end SafeFsOps.Descriptors
