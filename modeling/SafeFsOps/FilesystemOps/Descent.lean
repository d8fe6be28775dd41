import SafeFsOps.FilesystemOps.Descriptors
import SafeFsOps.FilesystemOps.Disk

/-!
# The way down to a directory

`paths.py`, and the part of `mutation_support.py` and `snapshots.py` that opens a directory
without trusting its path: a descriptor for the root, and from each directory the next one
by its name, if that is a directory and no symlink. Checks of paths only look, and whatever
they have seen may be over by the next call. What stays true is what was true once:

> `Reached h way d`: part by part, each at its time, the way led to the directory `d`.
> `amid_openExistingDirectory`: a descriptor that is opened so was reached.
> `amid_ensureDescriptorMatches`: where the check passes, the path led to the descriptor's
> directory while it ran.
-/

namespace SafeFsOps.Descriptors

open Program History

variable {α β : Type}

/-! ## `paths.py` -/

/-- `PathSafety`; no reparse points here. -/
structure PathSafety where
  path : Path
  fileType : FileType
  isMount : Bool

namespace PathSafety

def pathExists (s : PathSafety) : Bool := s.fileType ≠ .missing

def isFile (s : PathSafety) : Bool := s.fileType = .file

def isDir (s : PathSafety) : Bool := s.fileType = .directory

def isSymlink (s : PathSafety) : Bool := s.fileType = .symlink

end PathSafety

/-- `path.is_symlink()`, `path.exists()`, `path.is_file()` and `path.is_dir()`: false where nothing is found. -/
def seesAt (follow : Bool) (path : Path) (property : Stat → Bool) : Sys Bool :=
  look fun fs => .ok (match fs.statPath follow path with | .ok s => property s | .error _ => false)

/-- `_file_type`. -/
def fileTypeOf (path : Path) : Sys FileType :=
  ((seesAt false path fun s => s.fileType = .symlink).bind fun isSymlink =>
    if isSymlink then ret .symlink
    else
      (seesAt true path fun _ => true).bind fun pathExists =>
        if pathExists = false then ret .missing
        else
          (seesAt true path fun s => s.fileType = .file).bind fun isFile =>
            if isFile then ret .file
            else
              (seesAt true path fun s => s.fileType = .directory).bind fun isDir =>
                ret (if isDir then .directory else .other)).onRaise fun _ => ret .other

/-- `path.is_mount()`, false where it fails. -/
def isMount (path : Path) : Sys Bool :=
  ((statPath false path).bind fun own =>
    if own.fileType = .symlink then ret false
    else
      (statPath true (path ++ [".."])).bind fun above =>
        ret (decide (own.id.device ≠ above.id.device ∨ own.id = above.id))).onRaise fun _ => ret false

/-- `inspect_path`. -/
def inspectPath (path : Path) : Sys PathSafety := do
  let fileType ← fileTypeOf path
  let mount ← isMount path
  return ⟨path, fileType, mount⟩

/-- One round of `ensure_safe_parent_chain`. -/
def ensureSafeParent (operation : String) (current : Path) : Sys Unit := do
  let safety ← inspectPath current
  if safety.isSymlink then raise (refused operation "because parent path redirects elsewhere" (pathText current))
  else if safety.pathExists ∧ safety.isDir = false then
    raise (refused operation "because parent path is not a directory" (pathText current))
  else ret ()

/-- `ensure_safe_parent_chain`, from the bottom. -/
def ensureSafeParentChain (operation : String) (path : Path) : Sys Unit :=
  forEach (ancestors path).reverse (ensureSafeParent operation)

/-- `_raise_if_redirecting`. -/
def raiseIfRedirecting (operation : String) (safety : PathSafety) : Sys Unit :=
  if safety.isSymlink then raise (refused operation "for symlink path" (pathText safety.path))
  else if safety.isMount then raise (refused operation "for mount point" (pathText safety.path))
  else ret ()

/-- `ensure_safe_write_path`. -/
def ensureSafeWritePath (operation : String) (path : Path) : Sys Unit := do
  ensureSafeParentChain operation path
  let safety ← inspectPath path
  raiseIfRedirecting operation safety
  if safety.pathExists ∧ safety.isFile = false then
    raise (refused operation "for non-regular file" (pathText path))
  else ret ()

/-- `ensure_safe_delete_path`. -/
def ensureSafeDeletePath (operation : String) (missingOk : Bool) (path : Path) : Sys Unit := do
  ensureSafeParentChain operation path
  let safety ← inspectPath path
  raiseIfRedirecting operation safety
  if safety.pathExists = false then
    if missingOk then ret () else raise (.fileNotFound path)
  else if safety.isFile = false then raise (refused operation "for non-regular file" (pathText path))
  else ret ()

/-- `ensure_safe_mkdir_path`. -/
def ensureSafeMkdirPath (operation : String) (existOk : Bool) (path : Path) : Sys Unit := do
  ensureSafeParentChain operation path
  let safety ← inspectPath path
  raiseIfRedirecting operation safety
  if safety.pathExists = false then ret ()
  else if safety.isDir then
    if existOk then ret () else raise (.fileExists path)
  else raise (refused operation "because path exists and is not a directory" (pathText path))

/-! ## Descriptors of directories -/

/-- `except OSError: handler`; what else is raised goes on. -/
def onOsError (p : Sys α) (handler : FilesystemError → Sys α) : Sys α :=
  p.onRaise fun e => if isOsError e then handler e else raise e

/-- `_open_directory_anchor` of `mutation_support.py`. -/
def openDirectoryAnchor (operation : String) : Sys FileId :=
  onOsError openRoot fun _ => do
    let safety ← inspectPath []
    raise (refused operation (if safety.isSymlink then "because parent path redirects elsewhere"
      else "because directory could not be opened safely") (pathText []))

/-- `_open_child_directory_for_mkdir`, and `_open_child_directory` of `snapshots.py`, which calls
a path that is no directory a parent path. -/
def openChildDirectory (operation what : String) (d : FileId) (name : String) (path : Path) : Sys FileId :=
  onOsError (openDirectoryAt d name) fun _ => do
    let safety ← inspectPath path
    raise (refused operation (if safety.isSymlink then "because parent path redirects elsewhere"
      else if safety.pathExists ∧ safety.isDir = false then "because " ++ what ++ " is not a directory"
      else "because directory could not be opened safely") (pathText path))

/-- `for part in parts`: from each directory to the next. -/
def descend (openChild : FileId → String → Path → Sys FileId) : FileId → Path → List String → Sys FileId
  | d, _, [] => ret d
  | d, way, part :: parts =>
    (openChild d part (way ++ [part])).bind fun next =>
      close.bind fun _ => descend openChild next (way ++ [part]) parts

/-- `except BaseException: os.close(descriptor); raise`. -/
def closeOnRaise (p : Sys α) : Sys α := p.onRaise fun e => close.bind fun _ => raise e

/-- `_open_existing_directory_descriptor_relative`. -/
def openExistingDirectory (operation : String) (path : Path) : Sys FileId :=
  (openDirectoryAnchor operation).bind fun root =>
    closeOnRaise (descend (openChildDirectory operation "path") root [] path)

/-- `_ensure_directory_descriptor_matches_path`. -/
def ensureDescriptorMatches (operation : String) (d : FileId) (path : Path) : Sys Unit :=
  (fstat d).bind fun own =>
    ((statPath false path).onRaise fun e =>
      match e with
      | .fileNotFound _ => raise (refused operation "because parent path is no longer present" (pathText path))
      | e => raise e).bind fun seen =>
        if own.id = seen.id then ret ()
        else raise (refused operation "because parent path redirects elsewhere" (pathText path))

/-- `_ensure_directory_descriptor_matches_path_after_mutation`. -/
def ensureDescriptorMatchesAfter (operation : String) (d : FileId) (path : Path) : Sys Unit :=
  (ensureDescriptorMatches operation d path).onRaise fun e =>
    if e.isUnsafePath then
      raise (.parentChangedAfterMutation (operation ++
        " refused to report success because parent path changed after mutation: " ++ pathText path))
    else raise e

/-! ## Looking -/

/-- A program that changes nothing. -/
def Looks (p : Sys α) : Prop := EachStep (fun fs fs' => fs' = fs) p

theorem looks_look (read : Filesystem → Except FilesystemError α) : Looks (look read) := by
  refine eachStep_call fun i fs => ?_
  cases i.fault <;> rfl

theorem eachStep_changeUnless {R : Filesystem → Filesystem → Prop} {fault : Answer → Option String}
    {act : Answer → Filesystem → Except FilesystemError (α × Filesystem)} (hR : ∀ fs, R fs fs)
    (hact : ∀ i fs a fs', act i fs = .ok (a, fs') → R fs fs') : EachStep R (changeUnless fault act) := by
  refine eachStep_call fun i fs => ?_
  cases fault i with
  | some m => exact hR fs
  | none =>
    dsimp only
    cases h : act i fs with
    | error e => exact hR fs
    | ok r => exact hact i fs r.1 r.2 h

theorem looks_inspectPath (path : Path) : Looks (inspectPath path) := by
  have hsees : ∀ follow property, Looks (seesAt follow path property) := fun _ _ => looks_look _
  have htype : Looks (fileTypeOf path) := by
    refine eachStep_onRaise (fun _ => by trivial) ?_
    refine eachStep_bind (fun isSymlink => ?_) (hsees _ _)
    split
    · trivial
    refine eachStep_bind (fun pathExists => ?_) (hsees _ _)
    split
    · trivial
    refine eachStep_bind (fun isFile => ?_) (hsees _ _)
    split
    · trivial
    exact eachStep_bind (fun isDir => by trivial) (hsees _ _)
  have hmount : Looks (isMount path) := by
    refine eachStep_onRaise (fun _ => by trivial) ?_
    refine eachStep_bind (fun own => ?_) (looks_look _)
    split
    · trivial
    exact eachStep_bind (fun _ => by trivial) (looks_look _)
  exact eachStep_bind (fun _ => eachStep_bind (fun _ => by trivial) hmount) htype

theorem looks_ensureSafeParentChain (operation : String) (path : Path) : Looks (ensureSafeParentChain operation path) := by
  refine eachStep_forEach fun current _ => eachStep_bind (fun safety => ?_) (looks_inspectPath current)
  split
  · trivial
  · split <;> trivial

theorem looks_raiseIfRedirecting (operation : String) (safety : PathSafety) : Looks (raiseIfRedirecting operation safety) := by
  unfold raiseIfRedirecting
  split
  · trivial
  · split <;> trivial

theorem looks_ensureSafeWritePath (operation : String) (path : Path) : Looks (ensureSafeWritePath operation path) := by
  refine eachStep_bind (fun _ => ?_) (looks_ensureSafeParentChain operation path)
  refine eachStep_bind (fun safety => ?_) (looks_inspectPath path)
  refine eachStep_bind (fun _ => ?_) (looks_raiseIfRedirecting operation safety)
  split <;> trivial

theorem looks_ensureSafeDeletePath (operation : String) (missingOk : Bool) (path : Path) :
    Looks (ensureSafeDeletePath operation missingOk path) := by
  refine eachStep_bind (fun _ => ?_) (looks_ensureSafeParentChain operation path)
  refine eachStep_bind (fun safety => ?_) (looks_inspectPath path)
  refine eachStep_bind (fun _ => ?_) (looks_raiseIfRedirecting operation safety)
  split
  · split <;> trivial
  · split <;> trivial

theorem looks_ensureSafeMkdirPath (operation : String) (existOk : Bool) (path : Path) :
    Looks (ensureSafeMkdirPath operation existOk path) := by
  refine eachStep_bind (fun _ => ?_) (looks_ensureSafeParentChain operation path)
  refine eachStep_bind (fun safety => ?_) (looks_inspectPath path)
  refine eachStep_bind (fun _ => ?_) (looks_raiseIfRedirecting operation safety)
  split
  · trivial
  split
  · split <;> trivial
  · trivial

/-! ## What was seen -/

/-- A step that leaves everything as it is. -/
def Idle (h : History Filesystem) (s : Filesystem) : Prop := s = h.now

section Amid

variable {C : Answer → Filesystem → Prop} {E R : History Filesystem → Filesystem → Prop}
  {Q : Except FilesystemError α → History Filesystem → Prop} {h : History Filesystem}

/-- A look answers what there is, or fails. -/
theorem amid_look {read : Filesystem → Except FilesystemError α}
    (hQ : ∀ h', Disturbed E h h' → Q (read h'.now) (h'.own h'.now) ∧ ∀ m, Q (.error (.osError m)) (h'.own h'.now)) :
    Amid C E Idle Q (look read) h := by
  refine amid_call fun h' hh' i _ => ?_
  obtain ⟨hread, hfault⟩ := hQ h' hh'
  cases i.fault with
  | none => exact ⟨rfl, hread⟩
  | some m => exact ⟨rfl, hfault m⟩

/-- A call that changes files, or fails and does not. -/
theorem amid_changeUnless {fault : Answer → Option String}
    {act : Answer → Filesystem → Except FilesystemError (α × Filesystem)} (hR : ∀ h, R h h.now)
    (hok : ∀ h', Disturbed E h h' → ∀ i, C i h'.now → ∀ a fs, act i h'.now = .ok (a, fs) →
      R h' fs ∧ Q (.ok a) (h'.own fs))
    (herror : ∀ h', Disturbed E h h' → ∀ e, Q (.error e) (h'.own h'.now)) : Amid C E R Q (changeUnless fault act) h := by
  refine amid_call fun h' hh' i hi => ?_
  cases fault i with
  | some m => exact ⟨hR h', herror h' hh' _⟩
  | none =>
    dsimp only
    cases hact : act i h'.now with
    | error e => exact ⟨hR h', herror h' hh' e⟩
    | ok r => exact hok h' hh' i hi r.1 r.2 hact

theorem amid_looks {p : Sys α} (hp : Looks p) : Amid C E Idle (fun _ _ => True) p h :=
  amid_mono (fun _ _ hs => hs) (fun _ _ _ => trivial) (amid_eachStep (fun _ _ hs => hs) hp)

/-- A program that only looks, where doing nothing is allowed. -/
theorem amid_looking {Q' : Except FilesystemError α → History Filesystem → Prop} {p : Sys α}
    (hp : Amid C E Idle Q' p h) (hR : ∀ h, R h h.now) (hQ : ∀ r h', Leads E Idle h h' → Q' r h' → Q r h') :
    Amid C E R Q p h := by
  refine amid_mono ?_ (fun r h' hr => hQ r h' hr.2 hr.1) (amid_leads hp)
  rintro h' s rfl
  exact hR h'

/-- Going on after a look. -/
theorem amid_looking_seq {Q' : Except FilesystemError β → History Filesystem → Prop} {p : Sys β} {f : β → Sys α}
    (hp : Amid C E Idle Q' p h) (hR : ∀ h, R h h.now)
    (hf : ∀ b h', Leads E Idle h h' → Q' (.ok b) h' → Amid C E R Q (f b) h')
    (herror : ∀ e h', Leads E Idle h h' → Q' (.error e) h' → Q (.error e) h') : Amid C E R Q (p.bind f) h :=
  amid_seq (amid_looking hp hR fun _ _ hlead hQ => And.intro hlead hQ) (fun b h' hQ => hf b h' hQ.1 hQ.2)
    fun e h' hQ => herror e h' hQ.1 hQ.2

theorem Before.of_leads {h' : History Filesystem} (hlead : Leads E R h h') : Before h h' :=
  hlead.mono (fun _ _ _ => trivial) fun _ _ _ => trivial

/-! ## Descending -/

/-- Part by part, each at its time, the way led to the directory. -/
inductive Reached : History Filesystem → Path → FileId → Prop
  | root {g h : History Filesystem} (before : Before g h) (directory : g.now.isDirectory g.now.root = true) :
      Reached h [] g.now.root
  | child {g h : History Filesystem} {way : Path} {d next : FileId} {name : String} (above : Reached g way d)
      (before : Before g h) (entry : g.now.entry d name = some next) (directory : g.now.isDirectory next = true) :
      Reached h (way ++ [name]) next

theorem Reached.later {h' : History Filesystem} {way : Path} {d : FileId} (hd : Reached h way d) (hh' : Before h h') :
    Reached h' way d := by
  cases hd with
  | root hbefore hdirectory => exact .root (hbefore.trans hh') hdirectory
  | child habove hbefore hentry hdirectory => exact .child habove (hbefore.trans hh') hentry hdirectory

theorem amid_onOsError {p : Sys α} {handler : FilesystemError → Sys α}
    (hp : Amid C E R (fun r h => match r with | .ok a => Q (.ok a) h | .error _ => True) p h)
    (hhandler : ∀ e h, Amid C E R Q (handler e) h) (herror : ∀ e h, Q (.error e) h) :
    Amid C E R Q (onOsError p handler) h := by
  refine amid_onRaise (amid_mono (fun _ _ h => h) ?_ hp)
  rintro (e | a) h' hr
  · show Amid C E R Q (if isOsError e then handler e else raise e) h'
    split
    · exact hhandler e h'
    · exact herror e h'
  · exact hr

/-- What came of opening a directory: if it was opened, it was reached. -/
def Opened (way : Path) (r : Except FilesystemError FileId) (h : History Filesystem) : Prop :=
  ∀ d, r = .ok d → Reached h way d

theorem opened_error {way : Path} {e : FilesystemError} : Opened way (.error e) h := nofun

theorem amid_inspect_raise {path : Path} {way : Path} {e : PathSafety → FilesystemError} :
    Amid C E Idle (Opened way) ((inspectPath path).bind fun safety => raise (e safety)) h :=
  amid_seq (Q := fun _ _ => True) (amid_looks (looks_inspectPath path)) (fun _ _ _ => opened_error)
    fun _ _ _ => opened_error

theorem amid_openDirectoryAnchor {operation : String} : Amid C E Idle (Opened []) (openDirectoryAnchor operation) h := by
  refine amid_onOsError ?_ (fun _ _ => amid_inspect_raise) fun _ _ => opened_error
  refine amid_look fun h' _ => ⟨?_, fun _ => trivial⟩
  split
  · next a hread =>
    split at hread
    · next hdirectory =>
      cases hread
      rintro _ ⟨⟩
      exact .root (.own .refl trivial) hdirectory
    · cases hread
  · trivial

theorem amid_openChildDirectory {operation what name : String} {d : FileId} {way path : Path} (hd : Reached h way d) :
    Amid C E Idle (Opened (way ++ [name])) (openChildDirectory operation what d name path) h := by
  refine amid_onOsError ?_ (fun _ _ => amid_inspect_raise) fun _ _ => opened_error
  refine amid_look fun h' hh' => ⟨?_, fun _ => trivial⟩
  split
  · next a hread =>
    split at hread
    · cases hread
    · next id hentry =>
      split at hread
      · next hdirectory =>
        cases hread
        rintro _ ⟨⟩
        exact .child (hd.later (Before.of_leads hh')) (.own .refl trivial) hentry hdirectory
      · cases hread
  · trivial

theorem amid_descend {openChild : FileId → String → Path → Sys FileId}
    (hopen : ∀ {h : History Filesystem} {way : Path} {d : FileId} {name : String}, Reached h way d →
      Amid C E Idle (Opened (way ++ [name])) (openChild d name (way ++ [name])) h) :
    ∀ {parts : List String} {d : FileId} {way : Path} {h : History Filesystem}, Reached h way d →
      Amid C E Idle (Opened (way ++ parts)) (descend openChild d way parts) h
  | [], d, way, h, hd => by
    rintro _ ⟨⟩
    rw [List.append_nil]
    exact hd
  | part :: parts, d, way, h, hd => by
    refine amid_seq (hopen hd) (fun next h' hnext => ?_) fun e h' _ => opened_error
    refine amid_looking_seq (amid_looks (looks_look _)) (fun _ => rfl)
      (fun _ h'' hh'' _ => ?_) fun e h'' _ _ => opened_error
    rw [← List.singleton_append, ← List.append_assoc]
    exact amid_descend hopen ((hnext next rfl).later (Before.of_leads hh''))

theorem amid_closeOnRaise {p : Sys α} (hp : Amid C E Idle Q p h) (herror : ∀ e h, Q (.error e) h) :
    Amid C E Idle Q (closeOnRaise p) h := by
  refine amid_onRaise (amid_mono (fun _ _ h => h) ?_ hp)
  rintro (e | a) h' hr
  · exact amid_seq (Q := fun _ _ => True) (amid_looks (looks_look _)) (fun _ _ _ => herror e _) fun e _ _ => herror e _
  · exact hr

/-- A directory that is opened without trusting its path was reached part by part. -/
theorem amid_openExistingDirectory {operation : String} {path : Path} :
    Amid C E Idle (Opened path) (openExistingDirectory operation path) h := by
  refine amid_seq amid_openDirectoryAnchor (fun root h' hroot => ?_) fun _ _ _ => opened_error
  exact amid_closeOnRaise (amid_descend amid_openChildDirectory (hroot root rfl)) fun _ _ => opened_error

/-! ## Checking a descriptor -/

/-- While this was going on, the path led there. -/
def LedTo (h₀ h : History Filesystem) (path : Path) (d : FileId) : Prop :=
  ∃ g, Before h₀ g ∧ Before g h ∧ g.now.resolve false path = .ok d

theorem LedTo.later {h₀ h' : History Filesystem} {path : Path} {d : FileId} (hd : LedTo h₀ h path d) (hh' : Before h h') :
    LedTo h₀ h' path d := by
  obtain ⟨g, hg, hgh, hresolve⟩ := hd
  exact ⟨g, hg, hgh.trans hh', hresolve⟩

theorem LedTo.since {h₀ h₁ : History Filesystem} {path : Path} {d : FileId} (hd : LedTo h₁ h path d) (hh₀ : Before h₀ h₁) :
    LedTo h₀ h path d := by
  obtain ⟨g, hg, hgh, hresolve⟩ := hd
  exact ⟨g, hh₀.trans hg, hgh, hresolve⟩

/-- Where the check passes, the path led to the directory while it ran. -/
theorem amid_ensureDescriptorMatches {operation : String} {d : FileId} {path : Path} :
    Amid C E Idle (fun r h' => r = .ok () → LedTo h h' path d) (ensureDescriptorMatches operation d path) h := by
  -- the descriptor tells its own inode, and the path the one it leads to now
  have hfstat : Amid C E Idle (fun r h' => Before h h' ∧ ∀ s : Stat, r = .ok s → s.id = d) (fstat d) h := by
    refine amid_look fun h' hh' => ⟨⟨(Before.of_leads hh').trans (.own .refl trivial), ?_⟩,
      fun _ => ⟨(Before.of_leads hh').trans (.own .refl trivial), nofun⟩⟩
    intro s hs
    rw [Filesystem.stat] at hs
    cases hi : h'.now.inodes d with
    | none =>
      rw [hi] at hs
      cases hs
    | some i =>
      rw [hi] at hs
      cases hs
      rfl
  refine amid_seq hfstat (fun own h₁ hown => ?_) fun _ _ _ => nofun
  have hstat : Amid C E Idle (fun r h' => ∀ s : Stat, r = .ok s → LedTo h h' path s.id) (statPath false path) h₁ := by
    refine amid_look fun h' hh' => ⟨?_, fun _ => nofun⟩
    intro s hs
    rw [Filesystem.statPath] at hs
    obtain ⟨id, hresolve, hstat⟩ := bind_eq_ok.1 hs
    refine ⟨h', hown.1.trans (Before.of_leads hh'), .own .refl trivial, ?_⟩
    cases hi : h'.now.inodes id with
    | none =>
      rw [Filesystem.stat, hi] at hstat
      cases hstat
    | some i =>
      rw [Filesystem.stat, hi] at hstat
      cases hstat
      exact hresolve
  refine amid_seq (Q := fun r h' => ∀ s : Stat, r = .ok s → LedTo h h' path s.id) ?_ (fun seen h₂ hseen => ?_)
    fun _ _ _ => nofun
  · refine amid_onRaise (amid_mono (fun _ _ h => h) ?_ hstat)
    rintro (e | s) h' hr
    · show Amid C E Idle _ (match e with | .fileNotFound _ => _ | e => _) h'
      split <;> exact nofun
    · exact hr
  · by_cases hid : own.id = seen.id
    · rw [if_pos hid]
      intro _
      rw [← hown.2 own rfl, hid]
      exact hseen seen rfl
    · rw [if_neg hid]
      exact nofun

theorem amid_ensureDescriptorMatchesAfter {operation : String} {d : FileId} {path : Path} :
    Amid C E Idle (fun r h' => r = .ok () → LedTo h h' path d) (ensureDescriptorMatchesAfter operation d path) h := by
  refine amid_onRaise (amid_mono (fun _ _ h => h) ?_ amid_ensureDescriptorMatches)
  rintro (e | a) h' hr
  · show Amid C E Idle _ (if e.isUnsafePath then _ else _) h'
    split <;> exact nofun
  · exact hr

end Amid

end SafeFsOps.Descriptors
