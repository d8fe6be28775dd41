import SafeFsOps.FilesystemOps.InstantImages
import SafeFsOps.FilesystemOps.Publication

/-!
# Publishing objects and copies

The puts of `content_addressed.py`, `verify` and `copy_to`, amid other calls. What is hashed
is read in many pieces; that it is the content a file had at one instant is because the files
that were published, or were found under a name of the store, are left alone.

> `amid_storeCall`: amid steps that it bears, a call makes only steps that it may make; where
> it ends it has no temporary name left, unless somebody else published the object while it
> was writing it; and what it returns is what it found in the files.
-/

namespace SafeFsOps.Descriptors

open Program History Filesystem

/-! ## Reading -/

section Reading

variable {S : Setting} {k : Nat} {c : StoreCall} {h h' h₀ h₁ : History Filesystem} {s : Filesystem} {d id : FileId}
  {name : String} {content : Bytes} {path : Path} {digest : Digest} {size : Nat} {α β : Type}
  {C : Answer → Filesystem → Prop} {E : History Filesystem → Filesystem → Prop}
  {Q : Except FilesystemError α → History Filesystem → Prop}

/-- At an instant since, the path led to a file whose content has that digest and that length. -/
def HadFile (sha256 : Bytes → Digest) (h₀ h : History Filesystem) (path : Path) (digest : Digest) (size : Nat) : Prop :=
  ∃ g id content, Before h₀ g ∧ Before g h ∧ g.now.resolve false path = .ok id ∧ g.now.content id = some content ∧
    sha256 content = digest ∧ content.length = size

theorem HadFile.later {sha256 : Bytes → Digest} (hhad : HadFile sha256 h₀ h path digest size) (hh' : Before h h') :
    HadFile sha256 h₀ h' path digest size := by
  obtain ⟨g, id, content, hh₀, hg, hrest⟩ := hhad
  exact ⟨g, id, content, hh₀, hg.trans hh', hrest⟩

theorem HadFile.since {sha256 : Bytes → Digest} (hhad : HadFile sha256 h₁ h path digest size) (hh₁ : Before h₀ h₁) :
    HadFile sha256 h₀ h path digest size := by
  obtain ⟨g, id, content, hh₀, hrest⟩ := hhad
  exact ⟨g, id, content, hh₁.trans hh₀, hrest⟩

/-- A file that others leave alone, with that content. -/
structure Known (S : Setting) (id : FileId) (content : Bytes) (h : History Filesystem) : Prop where
  met : Met S h id
  content : h.now.content id = some content

theorem Known.other (hknown : Known S id content h) (hs : Bears S k h s) : Known S id content (h.other s) :=
  ⟨hknown.met.later (.other .refl trivial), (content_of_inodes (hs.met id hknown.met)).trans hknown.content⟩

theorem Known.idle (hknown : Known S id content h) (hs : Idle h s) : Known S id content (h.own s) := by
  rw [show s = h.now from hs]
  exact ⟨hknown.met.later (.own .refl trivial), hknown.content⟩

theorem Known.leads (hknown : Known S id content h) (hlead : Leads (Bears S k) Idle h h') : Known S id content h' :=
  hlead.keeps (fun _ _ hP hs => hP.other hs) (fun _ _ hP hs => hP.idle hs) hknown

/-- A look, where it is known what the operating system promises. -/
theorem amid_lookWhere {read : Filesystem → Except FilesystemError α}
    (hQ : ∀ h', Disturbed E h h' → (∃ i, C i h'.now) → Q (read h'.now) (h'.own h'.now) ∧
      ∀ m, Q (.error (.osError m)) (h'.own h'.now)) : Amid C E Idle Q (look read) h := by
  refine amid_call fun h' hh' i hi => ?_
  obtain ⟨hread, hfault⟩ := hQ h' hh' ⟨i, hi⟩
  cases i.fault with
  | none => exact ⟨rfl, hread⟩
  | some m => exact ⟨rfl, hfault m⟩

/-- One read of a file that holds `content` as long as `D` is true. -/
theorem amid_readPiece {D : History Filesystem → Prop} {offset : Nat}
    (hdown : ∀ g g', Before g g' → D g' → D g)
    (hread : ∀ g, Leads E Idle h g → D g → g.now.content id = some content) :
    Amid C E Idle (fun r h' => ∀ chunk, r = .ok chunk → D h' → ∃ m, chunk = (content.drop offset).take (m + 1))
      (readAt id offset) h := by
  refine amid_call fun h₁ hh₁ i _ => ?_
  cases i.fault with
  | some m => exact ⟨rfl, fun _ hok => by cases hok⟩
  | none =>
    cases hcontent : h₁.now.content id with
    | none => exact ⟨rfl, fun _ hok => by cases hok⟩
    | some content' =>
      refine ⟨rfl, fun chunk hok hD => ⟨max 1 i.count - 1, ?_⟩⟩
      cases hok
      have hsame := hread h₁ hh₁.of_disturbed (hdown _ _ (.own .refl trivial) hD)
      rw [hcontent] at hsame
      cases hsame
      rw [Nat.sub_add_cancel (le_max_left _ _)]

/-- What is read in pieces is what there is. -/
theorem amid_readPieces {D : History Filesystem → Prop} (hdown : ∀ g g', Before g g' → D g' → D g) {fuel offset : Nat}
    (hread : ∀ g, Leads E Idle h g → D g → g.now.content id = some content) :
    Amid C E Idle (fun r h' => ∀ bytes, r = .ok bytes → D h' → bytes = content.drop offset)
      (readFrom id fuel offset) h := by
  induction fuel generalizing offset h with
  | zero => exact fun _ hok => by cases hok
  | succ fuel ih =>
    have hpiece : Amid C E Idle (fun r h' => ∀ chunk, r = .ok chunk → D h' →
        ∃ m, chunk = (content.drop offset).take (m + 1)) (readAt id offset) h := amid_readPiece hdown hread
    refine amid_seq (amid_leads hpiece) (fun chunk h₁ hr₁ => ?_) fun _ _ _ _ hok => by cases hok
    obtain ⟨hchunk, hlead₁⟩ := hr₁
    split
    · next hnil =>
      intro bytes hok hD
      cases hok
      obtain ⟨m, hm⟩ := hchunk chunk rfl hD
      rw [hnil] at hm
      exact ((List.take_eq_nil_iff.1 hm.symm).resolve_left (Nat.succ_ne_zero m)).symm
    · refine amid_seq (amid_leads (ih fun g hg hD => hread g (hlead₁.trans hg) hD)) (fun rest h₂ hr₂ => ?_)
        fun _ _ _ _ hok => by cases hok
      intro bytes hok hD
      cases hok
      obtain ⟨m, hm⟩ := hchunk chunk rfl (hdown _ _ (Before.of_leads hr₂.2) hD)
      have hinitial : chunk <+: content.drop offset := hm ▸ List.take_prefix _ _
      rw [hr₂.1 rest rfl hD, ← List.drop_drop]
      exact List.prefix_iff_eq_append.1 hinitial

/-- What is hashed is what there is. -/
theorem amid_hashStream {sha256 : Bytes → Digest} {D : History Filesystem → Prop}
    (hdown : ∀ g g', Before g g' → D g' → D g)
    (hread : ∀ g, Leads E Idle h g → D g → g.now.content id = some content) :
    Amid C E Idle (fun r h' => ∀ found, r = .ok found → D h' → found = (sha256 content, content.length))
      (hashStream sha256 id) h := by
  have hrounds : Looks rounds := eachStep_call fun _ _ => rfl
  have hwhole : Amid C E Idle (fun r h' => ∀ bytes, r = .ok bytes → D h' → bytes = content) (readToEnd id) h := by
    refine amid_seq (amid_leads (amid_looks hrounds)) (fun fuel h₁ hr₁ => ?_) fun _ _ _ _ hok => by cases hok
    have hpieces : Amid C E Idle (fun r h' => ∀ bytes, r = .ok bytes → D h' → bytes = content.drop 0)
        (readFrom id fuel 0) h₁ := amid_readPieces hdown fun g hg hD => hread g (hr₁.2.trans hg) hD
    exact hpieces
  refine amid_seq hwhole (fun bytes h₁ hr₁ => ?_) fun _ _ _ _ hok => by cases hok
  intro found hok hD
  cases hok
  rw [hr₁ bytes rfl hD]

/-! ### Files at the paths of the call -/

theorem entry_of_enter {fs : Filesystem} (hn : name ≠ "..") (h : fs.enter d name = .ok id) :
    fs.entry d name = some id := by
  unfold enter at h
  split at h
  · rw [if_neg hn] at h
    split at h
    · next hentry =>
      cases h
      exact hentry
    · cases h
  · cases h

theorem statPath_ok {fs : Filesystem} {follow : Bool} {st : Stat} (h : fs.statPath follow path = .ok st) :
    ∃ id i, fs.resolve follow path = .ok id ∧ fs.inodes id = some i ∧ st = i.stat id := by
  obtain ⟨id, hresolve, hst⟩ := bind_eq_ok.1 h
  cases hi : fs.inodes id with
  | none =>
    rw [Filesystem.stat, hi] at hst
    cases hst
  | some i =>
    rw [Filesystem.stat, hi] at hst
    cases hst
    exact ⟨id, i, hresolve, hi, rfl⟩

theorem content_of_stat {fs : Filesystem} {i : Inode} (hi : fs.inodes id = some i)
    (hfile : (i.stat id).fileType = .file) :
    ∃ content, fs.content id = some content := by
  obtain ⟨node, permissions, extent, mtimeNs, ctimeNs⟩ := i
  cases node with
  | file content => exact ⟨content, by rw [Filesystem.content, node, hi]; rfl⟩
  | directory _ _ => cases hfile
  | symlink _ => cases hfile
  | other => cases hfile

/-- A regular file that a path of the call leads to is one that others leave alone. -/
theorem Admits.met {i : Answer} (hi : Admits S k c i h.now) (hvalid : c.Valid S) (hpath : c.IsTarget path)
    (hresolve : h.now.resolve false path = .ok id) (hcontent : (h.now.content id).isSome) : Met S h id := by
  have hne : path ≠ [] := by
    rintro rfl
    cases hresolve
    rw [content_of_directory hi.root] at hcontent
    cases hcontent
  rw [← parentPath_nameOf hne, resolve_concat] at hresolve
  obtain ⟨d, hparent, henter⟩ := bind_eq_ok.1 hresolve
  have hn : nameOf path ≠ ".." := by
    intro heq
    refine (hvalid path hpath).1 ?_
    rw [← parentPath_nameOf hne, heq]
    exact List.mem_append_right _ (List.mem_singleton_self _)
  exact ⟨h, d, nameOf path, .refl, hi.ours path d hpath hparent, entry_of_enter hn henter, hcontent⟩

theorem amid_statRegular (hvalid : c.Valid S) (hpath : c.IsTarget path) :
    Amid (Admits S k c) (Bears S k) Idle (fun r h' => ∀ st, r = .ok st → st.fileType = .file →
      ∃ content, h'.now.resolve false path = .ok st.id ∧ Known S st.id content h') (statPath false path) h := by
  refine amid_lookWhere fun h₁ _ hi => ⟨fun st hst hfile => ?_, fun _ _ hst => by cases hst⟩
  obtain ⟨i, hi⟩ := hi
  obtain ⟨id, inode, hresolve, hinode, rfl⟩ := statPath_ok hst
  obtain ⟨content, hcontent⟩ := content_of_stat hinode hfile
  have hmet := hi.met hvalid hpath hresolve (by rw [hcontent]; rfl)
  exact ⟨content, hresolve, hmet.later (.own .refl trivial), hcontent⟩

/-- `_hash_regular_file`: what it returns is the digest of what the path led to. -/
theorem amid_hashRegularFile (hvalid : c.Valid S) (hpath : c.IsTarget path) :
    Amid (Admits S k c) (Bears S k) Idle (fun r h' => ∀ found, r = .ok found →
      HadFile S.sha256 h h' path found.1 found.2)
      (hashRegularFile S.sha256 path) h := by
  refine amid_seq (amid_leads (amid_statRegular hvalid hpath)) (fun st h₁ hr₁ => ?_) fun _ _ _ _ hok => by cases hok
  obtain ⟨hst, hlead₁⟩ := hr₁
  split
  · exact fun _ hok => by cases hok
  next hfile =>
  obtain ⟨content, hresolve, hknown⟩ := hst st rfl (not_not.1 hfile)
  refine amid_seq (amid_leads (amid_looks (looks_look _))) (fun id h₂ hr₂ => ?_) fun _ _ _ _ hok => by cases hok
  refine amid_finallyDoClose ?_ fun found _ _ hlead hhad => hhad.later (Before.of_leads hlead)
  refine amid_seq (amid_leads amid_fstat) (fun own h₃ hr₃ => ?_) fun _ _ _ _ hok => by cases hok
  split
  · exact fun _ hok => by cases hok
  next hsame =>
  obtain ⟨i, -, rfl⟩ := hr₃.1 own rfl
  have hid : st.id = id := by
    have hsame := Bool.not_eq_false _ ▸ (not_or.1 hsame).2
    simp only [sameFileIdentity, Bool.decide_and, Bool.and_eq_true, decide_eq_true_eq] at hsame
    exact hsame.1
  have hlead : Leads (Bears S k) Idle h₁ h₃ := hr₂.2.trans hr₃.2
  have hhashed : Amid (Admits S k c) (Bears S k) Idle (fun r _ => ∀ found, r = .ok found → True →
      found = (S.sha256 content, content.length)) (hashStream S.sha256 id) h₃ :=
    amid_hashStream (D := fun _ => True) (fun _ _ _ _ => trivial) fun g hg _ =>
      hid ▸ (hknown.leads (hlead.trans hg)).content
  refine amid_mono (fun _ _ hs => hs) (fun r h₄ hr₄ found hok => ?_) (amid_leads hhashed)
  cases hr₄.1 found hok trivial
  exact ⟨h₁, st.id, content, Before.of_leads hlead₁, Before.of_leads (hlead.trans hr₄.2), hresolve,
    hknown.content, rfl, rfl⟩

end Reading


/-! ## Checks -/

section Checks

variable {S : Setting} {k : Nat} {c : StoreCall} {h h' : History Filesystem} {operation : String}
  {path root base : Path}
  {parts : List String} {digest : Digest} {size : Nat} {ref : ContentRef}

theorem looks_pathExistsNoFollow : Looks (pathExistsNoFollow path) :=
  looks_orMissing (eachStep_bind (fun _ => by trivial) (looks_look _))

theorem looks_requireSafeExistingDirectory : Looks (requireSafeExistingDirectory operation path) := by
  refine eachStep_bind (fun safety => ?_) (looks_inspectPath path)
  split
  · trivial
  split
  · trivial
  split <;> trivial

theorem looks_requireSafeStoreRootIfExists : Looks (requireSafeStoreRootIfExists operation path) := by
  have hchain : Looks (requireSafeStoreParentChain operation path) := by
    refine eachStep_forEach fun current _ => eachStep_bind (fun safety => ?_) (looks_inspectPath current)
    split
    · trivial
    split <;> trivial
  refine eachStep_bind (fun _ => eachStep_bind (fun safety => ?_) (looks_inspectPath path)) hchain
  split
  · trivial
  split
  · trivial
  split <;> trivial

theorem looks_requireSafeDirectoryChain : Looks (requireSafeDirectoryChain operation root parts) :=
  eachStep_bind (fun _ => eachStep_forEach fun _ _ => looks_requireSafeExistingDirectory)
    looks_requireSafeExistingDirectory

theorem looks_requireSafeObjectParent : Looks (requireSafeObjectParent root digest) := looks_requireSafeDirectoryChain

theorem looks_requireTempNameMatchesOpenFile {id d : FileId} {name : String} :
    Looks (requireTempNameMatchesOpenFile operation id d name path) := looks_ensureOpenFileMatchesChild

/-- The parts of a directory of the store are those of the path it is on. -/
theorem mem_below {current : Path} (h : current ∈ below base parts) : current ⊆ base ++ parts := by
  obtain ⟨init, hinit, rfl⟩ := List.mem_map.1 h
  have hinitial : init <+: parts := (List.mem_inits _ _).1 (List.mem_of_mem_tail hinit)
  exact List.append_subset.2 ⟨List.subset_append_left _ _,
    fun part hpart => List.mem_append_right _ (hinitial.subset hpart)⟩

theorem harmless_ensureSafeDirectory (hpath : ∀ part ∈ path, S.owner part = none) :
    Harmless S k c (ensureSafeDirectory operation path) := by
  refine harmless_bind (harmless_looks (looks_inspectPath path)) fun safety => ?_
  split
  · exact harmless_looks looks_requireSafeExistingDirectory
  · exact harmless_bind (harmless_makeDirectory hpath) fun _ => harmless_looks looks_requireSafeExistingDirectory

theorem harmless_below (hparts : ∀ part ∈ base ++ parts, S.owner part = none) :
    Harmless S k c (forEach (below base parts) (ensureSafeDirectory operation)) :=
  harmless_forEach fun _ hcurrent => harmless_ensureSafeDirectory fun part hpart =>
    hparts part (mem_below hcurrent hpart)

theorem harmless_ensureSafeObjectParent (hparts : ∀ part ∈ objectPath root digest, S.owner part = none) :
    Harmless S k c (ensureSafeObjectParent root digest) := by
  have hroot : ∀ part ∈ [] ++ root, S.owner part = none := fun part hpart => hparts part (List.mem_append_left _ hpart)
  have hobject : ∀ part ∈ root ++ objectParts digest, S.owner part = none := by
    intro part hpart
    refine hparts part ?_
    rw [objectPath]
    rcases List.mem_append.1 hpart with hpart | hpart
    · exact List.mem_append_left _ hpart
    · refine List.mem_append_right _ ?_
      have hinitial : objectParts digest <+: ["sha256", String.ofList (digest.text.toList.take 2), digest.text] :=
        ⟨[digest.text], rfl⟩
      exact hinitial.subset hpart
  exact harmless_bind (harmless_below hroot) fun _ => harmless_bind (harmless_bind
    (harmless_looks looks_requireSafeExistingDirectory) fun _ => harmless_below hobject) fun _ =>
      harmless_looks looks_requireSafeObjectParent

/-- `verify`: where it answers that the object is there, it is. -/
theorem amid_verify (hvalid : c.Valid S) (hpath : c.IsTarget (objectPath root ref.digest)) :
    Amid (Admits S k c) (Bears S k) Idle (fun r h' => r = .ok true → ref.path = objectPath root ref.digest ∧
      HadFile S.sha256 h h' (objectPath root ref.digest) ref.digest ref.size) (verify S.sha256 root ref) h := by
  unfold verify
  split
  · exact fun hok => by cases hok
  next hsame =>
  refine amid_seq (amid_leads (amid_looks looks_requireSafeObjectParent)) (fun _ h₁ hr₁ => ?_)
    fun _ _ _ hok => by cases hok
  refine amid_onRaise
    (amid_seq (amid_hashRegularFile hvalid hpath) (fun found h₂ hfound => ?_) fun _ _ _ hok => by cases hok)
  intro hok
  have hfound' : found = (ref.digest, ref.size) := of_decide_eq_true (Except.ok.inj hok)
  have hhad := hfound found rfl
  rw [hfound'] at hhad
  exact ⟨not_not.1 hsame, hhad.since (Before.of_leads hr₁.2)⟩

/-- An object that is there already is taken only if it is the right one. -/
theorem amid_verifyExisting (hvalid : c.Valid S) (hpath : c.IsTarget (objectPath root digest)) :
    Amid (Admits S k c) (Bears S k) Idle
      (fun r h' => ∀ a, r = .ok a → HadFile S.sha256 h h' (objectPath root digest) digest size)
      (verifyExisting S.sha256 root digest size) h := by
  have hverified : Amid (Admits S k c) (Bears S k) Idle (fun r h' => r = .ok true →
      HadFile S.sha256 h h' (objectPath root digest) digest size)
      (verify S.sha256 root ⟨digest, size, objectPath root digest⟩) h :=
    amid_mono (fun _ _ hs => hs) (fun _ _ hr hok => (hr hok).2) (amid_verify hvalid hpath)
  refine amid_seq hverified (fun ok h₁ hok => ?_) fun _ _ _ _ hok => by cases hok
  split
  · next htrue =>
    subst htrue
    exact fun _ _ => hok rfl
  · exact fun _ hok => by cases hok

end Checks


/-! ## Filling the temporary file -/

section Filling

variable {S : Setting} {k : Nat} {c : StoreCall} {h h' : History Filesystem} {s₀ : Filesystem} {d id source : FileId}
  {name : String} {content : Bytes} {path : Path} {α β : Type} {P : α → Bytes → Prop} {P' : β → Bytes → Prop}

/-- Where it returns, the temporary file holds what `P` says. -/
def Fills (S : Setting) (d : FileId) (name : String) (id : FileId) (P : α → Bytes → Prop)
    (r : Except FilesystemError α) (h : History Filesystem) : Prop :=
  ∀ a, r = .ok a → ∃ content, P a content ∧ Staged S d name id content h

theorem fills_error {e : FilesystemError} : Fills S d name id P (.error e) h := nofun

theorem fills_ret {a : α} (hP : P a content) (hst : Staged S d name id content h) :
    Fills S d name id P (.ok a) h := by
  intro _ hok
  cases hok
  exact ⟨content, hP, hst⟩

theorem fills_seq {p : Sys α} {f : α → Sys β}
    (hp : Amid (Admits S k c) (Bears S k) (Plain S k c) (Fills S d name id P) p h)
    (hheld : Held S k c s₀ d name h)
    (hf : ∀ a content h', P a content → Held S k c s₀ d name h' → Staged S d name id content h' →
      Amid (Admits S k c) (Bears S k) (Plain S k c) (Fills S d name id P') (f a) h') :
    Amid (Admits S k c) (Bears S k) (Plain S k c) (Fills S d name id P') (p.bind f) h := by
  refine held_seq hp hheld (fun a h₁ hheld₁ hr => ?_) fun _ _ _ _ => fills_error
  obtain ⟨content, hP, hst⟩ := hr a rfl
  exact hf a content h₁ hP hheld₁ hst

/-- A program that only looks leaves the temporary file as it is. -/
theorem amid_staged {Q : Except FilesystemError α → History Filesystem → Prop} {p : Sys α}
    (hp : Amid (Admits S k c) (Bears S k) Idle Q p h) (hheld : Held S k c s₀ d name h)
    (hst : Staged S d name id content h) :
    Amid (Admits S k c) (Bears S k) (Plain S k c) (fun r h' => (Q r h' ∧ Leads (Bears S k) Idle h h') ∧
      Held S k c s₀ d name h' ∧ Staged S d name id content h') p h :=
  amid_mono (fun _ _ hs => .idle hs) (fun _ _ hr => hr)
    (amid_keeps (P := fun h => Held S k c s₀ d name h ∧ Staged S d name id content h)
      (fun _ _ hP hs => ⟨hP.1.other hs, hP.2.other hP.1.owned hs⟩)
      (fun _ _ hP hs => ⟨hP.1.own (.idle hs), hP.2.idle hs⟩) ⟨hheld, hst⟩ (amid_leads hp))

theorem fills_looks {p : Sys α} (hp : Looks p) (hheld : Held S k c s₀ d name h) (hst : Staged S d name id content h) :
    Amid (Admits S k c) (Bears S k) (Plain S k c) (Fills S d name id fun _ written => written = content) p h :=
  amid_mono (fun _ _ hs => hs) (fun _ _ hr _ _ => ⟨content, rfl, hr.2.2⟩) (amid_staged (amid_looks hp) hheld hst)

/-- The file that is read from is closed at the end. -/
theorem fills_finally {p : Sys α} (hp : Amid (Admits S k c) (Bears S k) (Plain S k c) (Fills S d name id P) p h)
    (hheld : Held S k c s₀ d name h) :
    Amid (Admits S k c) (Bears S k) (Plain S k c) (Fills S d name id P) (finallyDo p close) h := by
  have hkept := amid_keeps (fun _ _ hP hs => Held.other hP hs) (fun _ _ hP hs => Held.own hP hs) hheld hp
  refine amid_outcome_seq hkept fun r h₁ hr₁ => ?_
  obtain ⟨hr₁, hheld₁⟩ := hr₁
  cases r with
  | error e => exact amid_seq (plainly_looks (looks_look _)) (fun _ _ _ => fills_error) fun _ _ _ => fills_error
  | ok a =>
    obtain ⟨content, hP, hst⟩ := hr₁ a rfl
    refine fills_seq (fills_looks (looks_look _) hheld₁ hst) hheld₁ fun _ written h₂ hwritten _ hst₂ => ?_
    exact fills_ret (hwritten ▸ hP) hst₂

theorem looks_readAt {offset : Nat} : Looks (readAt id offset) := by
  refine eachStep_call fun i fs => ?_
  cases i.fault with
  | some m => rfl
  | none => cases fs.content id <;> rfl

theorem looks_rounds : Looks rounds := eachStep_call fun _ _ => rfl

/-- What is copied is added to the temporary file. -/
theorem amid_copyFrom {fuel offset : Nat} (hoffset : content.length = offset) (hheld : Held S k c s₀ d name h)
    (hst : Staged S d name id content h) :
    Amid (Admits S k c) (Bears S k) (Plain S k c) (Fills S d name id fun bytes written => written = content ++ bytes)
      (copyFrom source id fuel offset) h := by
  induction fuel generalizing content offset h with
  | zero => exact fills_error
  | succ fuel ih =>
    subst hoffset
    refine fills_seq (fills_looks looks_readAt hheld hst) hheld fun chunk written h₁ hwritten hheld₁ hst₁ => ?_
    subst hwritten
    split
    · exact fills_ret (List.append_nil _).symm hst₁
    refine held_seq (amid_writeAll (Nat.le_refl chunk.length) hheld₁ hst₁) hheld₁ (fun _ h₂ hheld₂ hr₂ => ?_)
      fun _ _ _ _ => fills_error
    refine fills_seq (ih List.length_append hheld₂ (hr₂ rfl)) hheld₂ fun rest all h₃ hall _ hst₃ => ?_
    exact fills_ret (hall.trans (List.append_assoc _ _ _)) hst₃

theorem amid_copyStream (hheld : Held S k c s₀ d name h) (hst : Staged S d name id [] h) :
    Amid (Admits S k c) (Bears S k) (Plain S k c) (Fills S d name id fun bytes written => written = bytes)
      (copyStream source id) h := by
  refine fills_seq (fills_looks looks_rounds hheld hst) hheld fun fuel written h₁ hwritten hheld₁ hst₁ => ?_
  subst hwritten
  exact amid_copyFrom rfl hheld₁ hst₁

theorem amid_copyHashing (hheld : Held S k c s₀ d name h) (hst : Staged S d name id [] h) :
    Amid (Admits S k c) (Bears S k) (Plain S k c)
      (Fills S d name id fun found written => found = (S.sha256 written, written.length))
      (copyHashing S.sha256 source id) h := by
  refine fills_seq (amid_copyStream hheld hst) hheld fun bytes written h₁ hwritten _ hst₁ => ?_
  subst hwritten
  exact fills_ret rfl hst₁

/-- `_copy_regular_file_to_temp`, of a source that may change meanwhile. -/
theorem amid_copyRegularFileToTemp {expected : Stat} (hheld : Held S k c s₀ d name h) (hst : Staged S d name id [] h) :
    Amid (Admits S k c) (Bears S k) (Plain S k c) (Fills S d name id fun _ _ => True)
      (copyRegularFileToTemp path expected id) h := by
  refine fills_seq (fills_looks (looks_look _) hheld hst) hheld fun before written h₁ hwritten hheld₁ hst₁ => ?_
  subst hwritten
  split
  · exact fills_error
  have hcopied : Amid (Admits S k c) (Bears S k) (Plain S k c) (Fills S d name id fun _ _ => True)
      (withOpen path (fun s => sameFileMetadata s expected) (sourceChanged path) fun opened =>
        (copyStream opened id).bind fun _ => fsync) h₁ := by
    refine fills_seq (fills_looks (looks_look _) hheld₁ hst₁) hheld₁ fun opened written h₂ hwritten hheld₂ hst₂ => ?_
    subst hwritten
    refine fills_finally (fills_seq (fills_looks (looks_look _) hheld₂ hst₂) hheld₂
      fun own written h₃ hwritten hheld₃ hst₃ => ?_) hheld₂
    subst hwritten
    split
    · exact fills_error
    refine fills_seq (amid_copyStream hheld₃ hst₃) hheld₃ fun bytes written h₄ _ hheld₄ hst₄ => ?_
    exact amid_mono (fun _ _ hs => hs) (fun _ _ hr a hok => (hr a hok).imp fun _ hw => ⟨trivial, hw.2⟩)
      (fills_looks (looks_look _) hheld₄ hst₄)
  refine fills_seq hcopied hheld₁ fun _ written h₂ _ hheld₂ hst₂ => ?_
  refine fills_seq (fills_looks (looks_look _) hheld₂ hst₂) hheld₂ fun after written' h₃ _ _ hst₃ => ?_
  split
  · exact fills_ret trivial hst₃
  · exact fills_error

/-- The content of `put_bytes`. -/
theorem amid_writeContent {bytes : Bytes} (hheld : Held S k c s₀ d name h) (hst : Staged S d name id [] h) :
    Amid (Admits S k c) (Bears S k) (Plain S k c) (Fills S d name id fun _ written => written = bytes)
      ((writeAll id bytes.length 0 bytes).bind fun _ => fsync) h := by
  have hwrite := amid_writeAll (Nat.le_refl bytes.length) hheld hst
  rw [List.nil_append] at hwrite
  refine held_seq hwrite hheld (fun _ h₁ hheld₁ hr₁ => ?_) fun _ _ _ _ => fills_error
  exact fills_looks (looks_look _) hheld₁ (hr₁ rfl)

/-- The temporary file is hashed as it is. -/
theorem amid_hashStaged (hheld : Held S k c s₀ d name h) (hst : Staged S d name id content h) :
    Amid (Admits S k c) (Bears S k) Idle
      (fun r _ => ∀ found, r = .ok found → found = (S.sha256 content, content.length))
      (hashStream S.sha256 id) h := by
  have hstaged : ∀ g, Leads (Bears S k) Idle h g → True → g.now.content id = some content := by
    intro g hg _
    have hkept := hg.keeps (P := fun g => Staged S d name id content g)
      (fun _ _ hP hs => hP.other hheld.owned hs) (fun _ _ hP hs => hP.idle hs) hst
    exact hkept.content
  exact amid_mono (fun _ _ hs => hs) (fun _ _ hr found hok => hr found hok trivial)
    (amid_hashStream (D := fun _ => True) (fun _ _ _ _ => trivial) hstaged)

/-! ### Where it is made -/

theorem amid_fdopen (hstore : c.isStore) :
    Amid (Admits S k c) (Bears S k) Idle (fun r _ => ∀ e, r = .error e → ¬ S.tidy) fdopen h := by
  refine amid_call fun h₁ _ i hi => ?_
  cases hfault : i.fdopenFault with
  | none => exact ⟨rfl, fun _ herror => by cases herror⟩
  | some m =>
    refine ⟨rfl, fun _ _ htidy => ?_⟩
    rw [hi.opens htidy hstore] at hfault
    cases hfault

/-- What `_create_temp_file` comes to: an empty file in the directory of that path, or no temporary name. -/
def StoreTemp (S : Setting) (k : Nat) (c : StoreCall) (s₀ : Filesystem) (path : Path) :
    Except FilesystemError (FileId × FileId × String) → History Filesystem → Prop
  | .ok (d, id, name), h => Held S k c s₀ d name h ∧ Staged S d name id [] h ∧ Reached h path d
  | .error _, h => S.tidy → Clear S h

/-- `_create_temp_file`. Where the file cannot be opened, it stays. -/
theorem amid_createStoreTemp {operation targetName : String} (hstore : c.isStore) (hun : Unmade S k c s₀ h) :
    Amid (Admits S k c) (Bears S k) (May S k c) (StoreTemp S k c s₀ path)
      (createStoreTemp operation path targetName) h := by
  refine unmade_seq (plainly amid_openExistingDirectory) hun (fun d h₁ hun₁ hd => ?_) fun _ _ hun₁ _ => hun₁.bare.clear
  have hmade : Amid (Admits S k c) (Bears S k) (May S k c) (StoreTemp S k c s₀ path)
      ((ensureDescriptorMatches operation d path).bind fun _ =>
        (createTempFile d targetName 100).bind fun temp => fdopen.bind fun _ => ret (d, temp)) h₁ := by
    refine unmade_seq (amid_leads (plainly_looks looks_ensureDescriptorMatches)) hun₁ (fun _ h₂ hun₂ hr₂ => ?_)
      fun _ _ hun₂ _ => hun₂.bare.clear
    refine amid_seq (amid_leads (amid_makeTempFile hun₂)) (fun temp h₃ hr₃ => ?_) fun _ _ hr₃ _ => hr₃.1.bare.clear
    obtain ⟨⟨hheld₃, hst₃⟩, hlead₃⟩ := hr₃
    refine maybe (amid_seq (amid_staged (amid_fdopen hstore) hheld₃ hst₃) (fun _ h₄ hr₄ => ?_) fun e h₄ hr₄ htidy => ?_)
    · exact ⟨hr₄.2.1, hr₄.2.2, (hd d rfl).later (((Before.of_leads hr₂.2).trans (Before.of_leads hlead₃)).trans
        (Before.of_leads hr₄.1.2))⟩
    · exact absurd htidy (hr₄.1.1 e rfl)
  refine amid_onRaise (amid_mono (fun _ _ hs => hs) (fun r h₂ hr₂ => ?_) hmade)
  cases r with
  | ok temp => exact hr₂
  | error e =>
    exact amid_keeping_seq (P := fun h => S.tidy → Clear S h) (fun _ _ hP hs htidy => (hP htidy).other hs)
      (fun _ _ hP hs htidy => (hP htidy).idle hs) (fun _ _ hs => .idle hs) (amid_looks (looks_look _)) hr₂
      (fun _ _ hP _ => hP) fun _ _ hP _ => hP

end Filling


/-! ## Objects -/

section Objects

variable {S : Setting} {k : Nat} {c : StoreCall} {h h' : History Filesystem} {s s₀ : Filesystem} {d id : FileId}
  {name operation : String} {content : Bytes} {root path : Path} {digest : Digest} {size : Nat} {α β : Type}

/-- The call is a put of that content, under that root. -/
def StoreCall.Stores (root : Path) (written : Bytes) : StoreCall → Prop
  | putBytes root' content => root' = root ∧ content = written
  | putFile root' _ => root' = root
  | _ => False

/-- While a put held its own temporary file, complete and not published yet, the object of
that content was there already. -/
def Overtaken (S : Setting) (c : StoreCall) (h : History Filesystem) : Prop :=
  ∃ root written g temp id content, c.Stores root written ∧ Before g h ∧ Made g temp ∧
    (∀ e m, ¬ Publishes S g e m temp) ∧ g.now.content temp = some written ∧
    g.now.resolve false (objectPath root (S.sha256 written)) = .ok id ∧ g.now.content id = some content ∧
    S.sha256 content = S.sha256 written

theorem Overtaken.later (hover : Overtaken S c h) (hh' : Before h h') : Overtaken S c h' := by
  obtain ⟨root, written, g, temp, id, content, hstores, hg, hrest⟩ := hover
  exact ⟨root, written, g, temp, id, content, hstores, hg.trans hh', hrest⟩

/-- Where a call ends, it has no temporary name, or was overtaken; `F` is what it returns. -/
structure Ended (S : Setting) (c : StoreCall) (F : α → History Filesystem → Prop) (r : Except FilesystemError α)
    (h : History Filesystem) : Prop where
  clear : S.tidy → Clear S h ∨ Overtaken S c h
  returned : ∀ a, r = .ok a → F a h

section Ended

variable {F : α → History Filesystem → Prop} {G : β → History Filesystem → Prop} {r : Except FilesystemError α}

theorem ended_error {e : FilesystemError} (hclear : S.tidy → Clear S h ∨ Overtaken S c h) :
    Ended S c F (.error e) h := ⟨hclear, nofun⟩

theorem Unmade.ended_error {e : FilesystemError} (hun : Unmade S k c s₀ h) : Ended S c F (.error e) h :=
  ⟨fun _ => Or.inl hun.bare.clear, nofun⟩

/-- Before the temporary file is made. -/
theorem ended_unmade_seq {Q : Except FilesystemError β → History Filesystem → Prop} {p : Sys β} {f : β → Sys α}
    (hp : Amid (Admits S k c) (Bears S k) (Plain S k c) Q p h) (hun : Unmade S k c s₀ h)
    (hf : ∀ b h', Unmade S k c s₀ h' → Q (.ok b) h' →
      Amid (Admits S k c) (Bears S k) (May S k c) (Ended S c F) (f b) h') :
    Amid (Admits S k c) (Bears S k) (May S k c) (Ended S c F) (p.bind f) h :=
  unmade_seq hp hun hf fun _ _ hun₁ => hun₁.ended_error

theorem Ended.other (hend : Ended S c F r h) (hF : ∀ a h h', Before h h' → F a h → F a h') (hs : Bears S k h s) :
    Ended S c F r (h.other s) where
  clear htidy := (hend.clear htidy).imp (fun hclear => hclear.other hs) fun hover => hover.later (.other .refl trivial)
  returned a ha := hF a _ _ (.other .refl trivial) (hend.returned a ha)

theorem Ended.idle (hend : Ended S c F r h) (hF : ∀ a h h', Before h h' → F a h → F a h') (hs : Idle h s) :
    Ended S c F r (h.own s) where
  clear htidy := (hend.clear htidy).imp (fun hclear => hclear.idle hs) fun hover => hover.later (.own .refl trivial)
  returned a ha := hF a _ _ (.own .refl trivial) (hend.returned a ha)

/-- After a call has ended, looking takes nothing back. -/
theorem ended_closing {p : Sys α} (hF : ∀ a h h', Before h h' → F a h → F a h')
    (hp : Amid (Admits S k c) (Bears S k) (May S k c) (Ended S c F) p h) :
    Amid (Admits S k c) (Bears S k) (May S k c) (Ended S c F) (finallyDo p close) h :=
  amid_closing (fun _ _ _ hend hs => hend.other hF hs) (fun _ _ hend => hend.idle hF rfl)
    (fun _ _ _ hend => ended_error hend.clear) hp

/-- Looking once more at the end. -/
theorem ended_seq {p : Sys β} {f : β → Sys α} (hG : ∀ b h h', Before h h' → G b h → G b h')
    (hp : Amid (Admits S k c) (Bears S k) (May S k c) (Ended S c G) p h)
    (hf : ∀ b h', G b h' → Amid (Admits S k c) (Bears S k) Idle (fun r h' => ∀ a, r = .ok a → F a h') (f b) h') :
    Amid (Admits S k c) (Bears S k) (May S k c) (Ended S c F) (p.bind f) h := by
  refine amid_seq hp (fun b h₁ hend => ?_) fun _ _ hend => ended_error hend.clear
  refine amid_mono (fun _ _ hs => .idle hs) (fun r h₂ hr => ⟨hr.2.clear, hr.1⟩)
    (amid_keeps (P := fun h => Ended S c G (.ok b) h) (fun _ _ hP hs => hP.other hG hs) (fun _ _ hP hs => hP.idle hG hs)
      hend (hf b h₁ (hend.returned b rfl)))

end Ended

theorem nameOf_objectPath : nameOf (objectPath root digest) = digest.text := by
  simp [nameOf, objectPath]

/-- The link, where it raises and where it does not. -/
theorem amid_linkNoReplace (hvalid : c.Valid S) (hpath : c.IsTarget path) (hheld : Held S k c s₀ d name h)
    (hst : Staged S d name id content h) (hd : Reached h (parentPath path) d)
    (hcomplete : c.Completes S.sha256 (nameOf path) content) :
    Amid (Admits S k c) (Bears S k) (Plain S k c) (fun r h' => (∀ a, r = .ok a → LinkedAt S h' d (nameOf path)) ∧
      ∀ e, r = .error e → Staged S d name id content h') (linkTempFileNoReplace operation d name (nameOf path)) h := by
  refine amid_onRaise (amid_mono (fun _ _ hs => hs) (fun r h₁ hr => ?_)
    (amid_linkAt hvalid hpath hheld hst hd hcomplete))
  cases r with
  | ok a => exact ⟨fun _ _ => hr, fun _ hno => by cases hno⟩
  | error e =>
    dsimp only
    split
    · exact ⟨fun _ hno => (by cases hno), fun _ _ => hr⟩
    · split <;> exact ⟨fun _ hno => (by cases hno), fun _ _ => hr⟩

theorem LinkedAt.later (hlinked : LinkedAt S h d name) (hh' : Before h h') : LinkedAt S h' d name := by
  obtain ⟨g, s, id, hg, hrest⟩ := hlinked
  exact ⟨g, s, id, hg.trans hh', hrest⟩

theorem Made.later (hmade : Made h id) (hh' : Before h h') : Made h' id := by
  obtain ⟨g, s, hg, hrest⟩ := hmade
  exact ⟨g, s, hg.trans hh', hrest⟩

theorem Publishes.later (hpub : Publishes S h d name id) (hh' : Before h h') : Publishes S h' d name id := by
  obtain ⟨g, s, hg, hrest⟩ := hpub
  exact ⟨g, s, hg.trans hh', hrest⟩

/-- What the installation of an object comes to. -/
structure Installed (S : Setting) (k : Nat) (c : StoreCall) (s₀ : Filesystem) (root : Path) (digest : Digest)
    (size : Nat)
    (d : FileId) (name : String) (created : Bool) (h : History Filesystem) : Prop where
  had : HadFile S.sha256 (start s₀) h (objectPath root digest) digest size
  new : created = true → LinkedAt S h d (nameOf (objectPath root digest)) ∧ (S.tidy → Removed S k c s₀ d name h)
  taken : created = false → Overtaken S c h

/-- `_install_new_object`. -/
theorem amid_installNewObject (hvalid : c.Valid S) (hpath : c.IsTarget (objectPath root digest))
    (hstores : c.Stores root content) (hdigest : S.sha256 content = digest)
    (hheld : Held S k c s₀ d name h) (hst : Staged S d name id content h)
    (hd : Reached h (parentPath (objectPath root digest)) d)
    (hcomplete : c.Completes S.sha256 (nameOf (objectPath root digest)) content) :
    Amid (Admits S k c) (Bears S k) (Plain S k c)
      (fun r h' => ∀ created, r = .ok created → Installed S k c s₀ root digest size d name created h')
      (installNewObject S.sha256 root digest size d name) h := by
  refine staged_seq (amid_looks looks_requireSafeObjectParent) hheld hst (fun _ h₁ hheld₁ hst₁ hlead₁ _ => ?_)
    fun _ _ _ _ hno => by cases hno
  have hlinked : Amid (Admits S k c) (Bears S k) (Plain S k c) (fun r h' =>
      (∀ a, r = .ok a → LinkedAt S h' d (nameOf (objectPath root digest))) ∧
        ∀ e, r = .error e → Staged S d name id content h')
      ((ensureDescriptorMatches "content store" d (parentPath (objectPath root digest))).bind fun _ =>
        linkTempFileNoReplace "content store" d name (nameOf (objectPath root digest))) h₁ := by
    refine amid_seq (amid_staged (amid_looks looks_ensureDescriptorMatches) hheld₁ hst₁) (fun _ h₂ hr₂ => ?_)
      fun _ _ hr₂ => ⟨fun _ hno => (by cases hno), fun _ _ => hr₂.2.2⟩
    exact amid_linkNoReplace hvalid hpath hr₂.2.1 hr₂.2.2
      (hd.later ((Before.of_leads hlead₁).trans (Before.of_leads hr₂.1.2))) hcomplete
  have hstart : ∀ {g : History Filesystem}, Held S k c s₀ d name g → Before (start s₀) g :=
    fun hg => Before.of_leads hg.led
  refine amid_outcome_seq
    (amid_keeps (fun _ _ hP hs => Held.other hP hs) (fun _ _ hP hs => Held.own hP hs) hheld₁ hlinked)
    fun r h₂ hr₂ => ?_
  obtain ⟨⟨hok₂, herror₂⟩, hheld₂⟩ := hr₂
  split
  · -- somebody else's object is there: it is checked, and the temporary file is left
    have hst₂ := herror₂ _ rfl
    have hchecked : Amid (Admits S k c) (Bears S k) Idle (fun r h' => ∀ a, r = .ok a →
        HadFile S.sha256 h₂ h' (objectPath root digest) digest size) (verifyExisting S.sha256 root digest size) h₂ :=
      amid_verifyExisting hvalid hpath
    refine amid_seq (amid_staged hchecked hheld₂ hst₂) (fun _ h₃ hr₃ => ?_) fun _ _ _ _ hno => by cases hno
    obtain ⟨⟨hhad, hlead₃⟩, -, -⟩ := hr₃
    intro created hcreated
    cases hcreated
    refine ⟨(hhad _ rfl).since (hstart hheld₂), fun hno => (by cases hno), fun _ => ?_⟩
    obtain ⟨g, other, bytes, hh₂, hg, hresolve, hbytes, hsame, -⟩ := hhad _ rfl
    -- the temporary file is as it was when the object was found
    have hst : Staged S d name id content g := (hlead₃.between hh₂ hg).keeps (P := fun g => Staged S d name id content g)
      (fun _ _ hP hs => hP.other hheld₂.owned hs) (fun _ _ hP hs => hP.idle hs) hst₂
    subst hdigest
    exact ⟨root, content, g, id, other, bytes, hstores, hg, hst.made, hst.hidden, hst.content, hresolve, hbytes, hsame⟩
  · exact fun _ hno => by cases hno
  · refine held_seq (amid_leads (amid_cleanupTempFile hheld₂)) hheld₂ (fun _ h₃ hheld₃ hr₃ => ?_)
      fun _ _ _ _ _ hno => by cases hno
    obtain ⟨⟨-, hgone₃⟩, hlead₃⟩ := hr₃
    have hlinked₃ := (hok₂ _ rfl).later (Before.of_leads hlead₃)
    have hrest : Amid (Admits S k c) (Bears S k) Idle (fun r h' => ∀ created, r = .ok created →
        HadFile S.sha256 h₃ h' (objectPath root digest) digest size ∧ created = true)
        ((ensureDescriptorMatchesAfter "content store" d (parentPath (objectPath root digest))).bind fun _ =>
          fsync.bind fun _ =>
            (verify S.sha256 root ⟨digest, size, objectPath root digest⟩).bind fun ok =>
              if ok then ret true else raise (failedVerification "installed" root digest)) h₃ := by
      refine amid_seq (amid_leads (amid_looks looks_ensureDescriptorMatchesAfter)) (fun _ h₄ hr₄ => ?_)
        fun _ _ _ _ hno => by cases hno
      refine amid_seq (amid_leads (amid_looks (looks_look _))) (fun _ h₅ hr₅ => ?_) fun _ _ _ _ hno => by cases hno
      refine amid_seq (amid_verify hvalid hpath) (fun ok h₆ hr₆ => ?_) fun _ _ _ _ hno => by cases hno
      split
      · next htrue =>
        subst htrue
        intro created hcreated
        cases hcreated
        exact ⟨(hr₆ rfl).2.since (Before.of_leads (hr₄.2.trans hr₅.2)), rfl⟩
      · exact fun _ hno => by cases hno
    refine amid_mono (fun _ _ hs => .idle hs) (fun r h₄ hr₄ created hcreated => ?_)
      (amid_keeps (P := fun h => S.tidy → Removed S k c s₀ d name h) (fun _ _ hP hs htidy => (hP htidy).other hs)
        (fun _ _ hP hs htidy => (hP htidy).own (.idle hs)) hgone₃ (amid_leads hrest))
    obtain ⟨⟨hfound, hlead₄⟩, hgone₄⟩ := hr₄
    obtain ⟨hhad, rfl⟩ := hfound created hcreated
    exact ⟨hhad.since (hstart hheld₃), fun _ => ⟨hlinked₃.later (Before.of_leads hlead₄), hgone₄⟩,
      fun hno => by cases hno⟩

end Objects


/-! ## Puts -/

section Puts

variable {S : Setting} {k : Nat} {c : StoreCall} {h h' : History Filesystem} {s s₀ : Filesystem} {d id : FileId}
  {name : String} {content : Bytes} {root source : Path} {digest : Digest} {size : Nat} {fill : FileId → Sys Unit}
  {P : Bytes → Prop} {mismatch : FilesystemError} {created : Bool}

theorem Installed.other (hin : Installed S k c s₀ root digest size d name created h) (hs : Bears S k h s) :
    Installed S k c s₀ root digest size d name created (h.other s) where
  had := hin.had.later (.other .refl trivial)
  new hcreated :=
    ⟨(hin.new hcreated).1.later (.other .refl trivial), fun htidy => ((hin.new hcreated).2 htidy).other hs⟩
  taken hold := (hin.taken hold).later (.other .refl trivial)

theorem Installed.idle (hin : Installed S k c s₀ root digest size d name created h) (hs : Idle h s) :
    Installed S k c s₀ root digest size d name created (h.own s) where
  had := hin.had.later (.own .refl trivial)
  new hcreated :=
    ⟨(hin.new hcreated).1.later (.own .refl trivial), fun htidy => ((hin.new hcreated).2 htidy).own (.idle hs)⟩
  taken hold := (hin.taken hold).later (.own .refl trivial)

/-- How a put fills its temporary file, as far as `P` says, and that this is what it has to publish. -/
structure Filling (S : Setting) (k : Nat) (c : StoreCall) (s₀ : Filesystem) (root : Path) (digest : Digest)
    (fill : FileId → Sys Unit) (P : Bytes → Prop) : Prop where
  valid : c.Valid S
  store : c.isStore
  target : c.IsTarget (objectPath root digest)
  fills : ∀ d name id h, Held S k c s₀ d name h → Staged S d name id [] h →
    Amid (Admits S k c) (Bears S k) (Plain S k c) (Fills S d name id fun _ written => P written) (fill id) h
  complete : ∀ written, P written → S.sha256 written = digest →
    c.Completes S.sha256 (nameOf (objectPath root digest)) written
  stores : ∀ written, P written → c.Stores root written

theorem amid_publishFilled (hfill : Filling S k c s₀ root digest fill P) (hheld : Held S k c s₀ d name h)
    (hst : Staged S d name id [] h) (hd : Reached h (parentPath (objectPath root digest)) d) :
    Amid (Admits S k c) (Bears S k) (Plain S k c)
      (fun r h' => ∀ created, r = .ok created → Installed S k c s₀ root digest size d name created h')
      (publishFilled S.sha256 fill mismatch root digest size d id name) h := by
  refine held_seq (amid_leads (hfill.fills d name id h hheld hst)) hheld (fun _ h₁ hheld₁ hr₁ => ?_)
    fun _ _ _ _ _ hno => by cases hno
  obtain ⟨hfilled, hlead₁⟩ := hr₁
  obtain ⟨written, hP, hst₁⟩ := hfilled () rfl
  refine amid_seq (amid_staged (amid_hashStaged hheld₁ hst₁) hheld₁ hst₁) (fun found h₂ hr₂ => ?_)
    fun _ _ _ _ hno => by cases hno
  obtain ⟨⟨hfound, hlead₂⟩, hheld₂, hst₂⟩ := hr₂
  have hfound := hfound found rfl
  split
  · exact fun _ hno => by cases hno
  next hsame =>
  rw [not_not, hfound, Prod.mk.injEq] at hsame
  refine staged_seq (amid_looks looks_requireTempNameMatchesOpenFile) hheld₂ hst₂
    (fun _ h₃ hheld₃ hst₃ hlead₃ _ => ?_) fun _ _ _ _ hno => by cases hno
  have hd₃ : Reached h₃ (parentPath (objectPath root digest)) d := hd.later
    (((Before.of_leads hlead₁).trans (Before.of_leads hlead₂)).trans (Before.of_leads hlead₃))
  refine held_seq (amid_installNewObject hfill.valid hfill.target (hfill.stores written hP) hsame.1 hheld₃ hst₃ hd₃
    (hfill.complete written hP hsame.1)) hheld₃ (fun created h₄ _ hin => ?_) fun _ _ _ _ _ hno => by cases hno
  refine amid_seq (amid_keeps (P := fun h => Installed S k c s₀ root digest size d name created h)
    (fun _ _ hP hs => hP.other hs) (fun _ _ hP hs => hP.idle hs) (hin created rfl) (amid_looks (looks_look _)) |>
      amid_mono (fun _ _ hs => .idle hs) fun _ _ hr => hr) (fun _ h₅ hr₅ => ?_) fun _ _ _ _ hno => by cases hno
  intro created' hcreated
  cases hcreated
  exact hr₅.2

/-- What a put returns. -/
structure Stored (S : Setting) (s₀ : Filesystem) (root : Path) (digest : Digest) (size : Nat) (result : PutResult)
    (h : History Filesystem) : Prop where
  ref : result.ref = ⟨digest, size, objectPath root digest⟩
  had : HadFile S.sha256 (start s₀) h (objectPath root digest) digest size
  new : result.created = true → ∃ d, Reached h (parentPath (objectPath root digest)) d ∧
    LinkedAt S h d (nameOf (objectPath root digest))

theorem Stored.later {result : PutResult} (hstored : Stored S s₀ root digest size result h) (hh' : Before h h') :
    Stored S s₀ root digest size result h' :=
  ⟨hstored.ref, hstored.had.later hh', fun hnew => (hstored.new hnew).imp fun _ hd => ⟨hd.1.later hh', hd.2.later hh'⟩⟩

theorem amid_publishObject (hfill : Filling S k c s₀ root digest fill P) (hun : Unmade S k c s₀ h) :
    Amid (Admits S k c) (Bears S k) (May S k c) (Ended S c (Stored S s₀ root digest size))
      (publishObject S.sha256 fill mismatch root digest size) h := by
  refine ended_unmade_seq (harmless_ensureSafeObjectParent (hfill.valid _ hfill.target).2 h) hun fun _ h₁ hun₁ _ => ?_
  refine amid_seq (amid_createStoreTemp hfill.store hun₁) (fun temp h₂ htemp => ?_)
    fun _ _ hclear => ended_error fun htidy => Or.inl (hclear htidy)
  obtain ⟨d, id, name⟩ := temp
  obtain ⟨hheld₂, hst₂, hd₂⟩ := htemp
  have hpublished : Amid (Admits S k c) (Bears S k) (May S k c)
      (Ended S c fun created h => Stored S s₀ root digest size ⟨⟨digest, size, objectPath root digest⟩, created⟩ h)
      (removeOnRaise d name (publishFilled S.sha256 fill mismatch root digest size d id name)) h₂ := by
    refine maybe (amid_mono (fun _ _ hs => hs) (fun r h₃ hr₃ => ?_)
      (amid_leads (amid_removing hheld₂ (amid_publishFilled hfill hheld₂ hst₂ hd₂))))
    obtain ⟨hr₃, hlead₃⟩ := hr₃
    cases r with
    | error e => exact ended_error fun htidy => Or.inl (hr₃ htidy).clear
    | ok created =>
      have hin := hr₃.2 created rfl
      refine ⟨fun htidy => ?_, fun created' hcreated => ?_⟩
      · cases created with
        | true => exact Or.inl ((hin.new rfl).2 htidy).clear
        | false => exact Or.inr (hin.taken rfl)
      · cases hcreated
        exact ⟨rfl, hin.had, fun hnew => ⟨d, hd₂.later (Before.of_leads hlead₃), (hin.new hnew).1⟩⟩
  refine ended_seq (fun _ _ _ hh' hstored => hstored.later hh')
    (ended_closing (fun _ _ _ hh' hstored => hstored.later hh') hpublished) fun created h₃ hstored => ?_
  intro result hresult
  cases hresult
  exact hstored

theorem amid_putObject (hfill : Filling S k c s₀ root digest fill P) (hun : Unmade S k c s₀ h) :
    Amid (Admits S k c) (Bears S k) (May S k c) (Ended S c (Stored S s₀ root digest size))
      (putObject S.sha256 fill mismatch root digest size) h := by
  refine ended_unmade_seq (plainly_looks looks_requireSafeStoreRootIfExists) hun fun _ h₁ hun₁ _ => ?_
  refine ended_unmade_seq (plainly_looks looks_pathExistsNoFollow) hun₁ fun there h₂ hun₂ _ => ?_
  split
  · have hchecked : Amid (Admits S k c) (Bears S k) Idle (fun r h' => ∀ a, r = .ok a →
        HadFile S.sha256 h₂ h' (objectPath root digest) digest size) (verifyExisting S.sha256 root digest size) h₂ :=
      amid_verifyExisting hfill.valid hfill.target
    refine ended_unmade_seq (plainly hchecked) hun₂ fun _ h₃ hun₃ hhad => ?_
    refine ⟨fun _ => Or.inl hun₃.bare.clear, fun result hresult => ?_⟩
    cases hresult
    exact ⟨rfl, (hhad _ rfl).since (Before.of_leads hun₂.led), fun hno => by cases hno⟩
  · exact amid_publishObject hfill hun₂

/-- `put_bytes_with_status`. -/
theorem amid_putBytesWithStatus (hvalid : (StoreCall.putBytes root content).Valid S)
    (hun : Unmade S k (.putBytes root content) s₀ h) :
    Amid (Admits S k (.putBytes root content)) (Bears S k) (May S k (.putBytes root content))
      (Ended S (.putBytes root content) (Stored S s₀ root (S.sha256 content) content.length))
      (putBytesWithStatus S.sha256 root content) h :=
  amid_putObject (P := fun written => written = content)
    { valid := hvalid
      store := trivial
      target := ⟨_, rfl⟩
      fills := fun _ _ _ _ hheld hst => amid_writeContent hheld hst
      complete := fun written hwritten hdigest => ⟨hwritten, by rw [nameOf_objectPath, hdigest]⟩
      stores := fun _ hwritten => ⟨rfl, hwritten.symm⟩ } hun

/-- From then on, the path led to that one file, with that content. -/
def Stays (h₀ h : History Filesystem) (path : Path) (content : Bytes) : Prop :=
  ∃ id, ∀ g, Before h₀ g → Before g h → g.now.resolve false path = .ok id ∧ g.now.content id = some content

theorem Stays.before {h₀ : History Filesystem} (hstays : Stays h₀ h' source content) (hh' : Before h h') :
    Stays h₀ h source content := by
  obtain ⟨id, hid⟩ := hstays
  exact ⟨id, fun g hh₀ hg => hid g hh₀ (hg.trans hh')⟩

theorem amid_openPath {C : Answer → Filesystem → Prop} {E : History Filesystem → Filesystem → Prop} :
    Amid C E Idle (fun r h' => ∀ id, r = .ok id → h'.now.resolve true source = .ok id) (openPath source) h := by
  refine amid_look fun h₁ _ => ⟨fun id hid => ?_, fun _ _ hno => by cases hno⟩
  obtain ⟨id', hresolve, hopen⟩ := bind_eq_ok.1 hid
  split at hopen
  · cases hopen
  · cases hopen
    exact hresolve

/-- What the digest of a source says, if the source stays as it is. -/
def Digested (S : Setting) (s₀ : Filesystem) (source : Path) (digest : Digest) (size : Nat)
    (h : History Filesystem) : Prop :=
  ∀ content, Stays (start s₀) h source content → digest = S.sha256 content ∧ size = content.length

theorem Digested.later (hdigested : Digested S s₀ source digest size h) (hh' : Before h h') :
    Digested S s₀ source digest size h' := fun content hstays => hdigested content (hstays.before hh')

theorem amid_digestRegularFile {C : Answer → Filesystem → Prop} {E : History Filesystem → Filesystem → Prop}
    (hstart : Before (start s₀) h) :
    Amid C E Idle (fun r h' => ∀ found, r = .ok found → Digested S s₀ source found.1 found.2.1 h')
      (digestRegularFile S.sha256 source) h := by
  refine amid_seq (amid_leads (amid_looks (looks_look _))) (fun before h₁ hr₁ => ?_) fun _ _ _ _ hno => by cases hno
  split
  · exact fun _ hno => by cases hno
  have hhashed : Amid C E Idle (fun r h' => ∀ found, r = .ok found → Digested S s₀ source found.1 found.2 h')
      (withOpen source (sameFileMetadata before) (sourceNotRegular source) (hashStream S.sha256)) h₁ := by
    refine amid_seq (amid_leads amid_openPath) (fun id h₂ hr₂ => ?_) fun _ _ _ _ hno => by cases hno
    obtain ⟨hopened, hlead₂⟩ := hr₂
    refine amid_finallyDoClose ?_ fun found _ _ hlead hdigested => hdigested.later (Before.of_leads hlead)
    refine amid_seq (amid_leads (amid_looks (looks_look _))) (fun own h₃ hr₃ => ?_) fun _ _ _ _ hno => by cases hno
    split
    · exact fun _ hno => by cases hno
    -- the file that was opened is the one the path led to all the time
    have hread : ∀ content g, Leads E Idle h₃ g → Stays (start s₀) g source content →
        g.now.content id = some content := by
      intro content g hg hstays
      obtain ⟨file, hfile⟩ := hstays
      have hstart₂ : Before (start s₀) h₂ := (hstart.trans (Before.of_leads hr₁.2)).trans (Before.of_leads hlead₂)
      have hh₂ : Before h₂ g := Before.of_leads (hr₃.2.trans hg)
      obtain ⟨hresolve, hcontent⟩ := hfile h₂ hstart₂ hh₂
      have hlink : h₂.now.linkTarget file = none := by rw [linkTarget, node_of_content hcontent]
      have hsame : id = file := by
        have htrue := walk_follow hlink hresolve
        rw [show h₂.now.walk true 40 h₂.now.root source = .ok id from hopened id rfl] at htrue
        exact Except.ok.inj htrue
      rw [hsame]
      exact (hfile g (hstart₂.trans hh₂) .refl).2
    refine amid_mono (fun _ _ hs => hs) (fun r h₄ hr₄ found hfound content hstays => ?_)
      (amid_forall fun content => amid_hashStream (fun _ _ hh' hstays => hstays.before hh') (hread content))
    rw [hr₄ content found hfound hstays]
    exact ⟨rfl, rfl⟩
  refine amid_seq (amid_leads hhashed) (fun found h₂ hr₂ => ?_) fun _ _ _ _ hno => by cases hno
  refine amid_seq (amid_leads (amid_looks (looks_look _))) (fun after h₃ hr₃ => ?_) fun _ _ _ _ hno => by cases hno
  split
  · intro result hresult
    cases hresult
    exact (hr₂.1 found rfl).later (Before.of_leads hr₃.2)
  · exact fun _ hno => by cases hno

/-- `put_file_with_status`: a source that stays as it is determines what is returned. -/
theorem amid_putFileWithStatus (hvalid : (StoreCall.putFile root source).Valid S)
    (hun : Unmade S k (.putFile root source) s₀ h) :
    Amid (Admits S k (.putFile root source)) (Bears S k) (May S k (.putFile root source))
      (Ended S (.putFile root source) fun result h' =>
        Stored S s₀ root result.ref.digest result.ref.size result h' ∧
          Digested S s₀ source result.ref.digest result.ref.size h')
      (putFileWithStatus S.sha256 root source) h := by
  refine ended_unmade_seq (plainly (amid_digestRegularFile (Before.of_leads hun.led))) hun
    fun found h₁ hun₁ hdigested => ?_
  have hput : Amid (Admits S k (.putFile root source)) (Bears S k) (May S k (.putFile root source))
      (Ended S (.putFile root source) (Stored S s₀ root found.1 found.2.1))
      (putObject S.sha256 (copyRegularFileToTemp source found.2.2) (sourceChanged source) root found.1 found.2.1) h₁ :=
    amid_putObject (P := fun _ => True)
      { valid := hvalid
        store := trivial
        target := ⟨_, rfl⟩
        fills := fun _ _ _ _ hheld hst => amid_copyRegularFileToTemp hheld hst
        complete := fun written _ hdigest => by rw [nameOf_objectPath, ← hdigest]; rfl
        stores := fun _ _ => rfl } hun₁
  refine amid_mono (fun _ _ hs => hs) (fun r h₂ hr₂ => ⟨hr₂.1.clear, fun result hresult => ?_⟩) (amid_leads hput)
  have hstored := hr₂.1.returned result hresult
  have hlater := (hdigested found rfl).later (Before.of_leads hr₂.2)
  obtain ⟨⟨digest, size, path⟩, created⟩ := result
  cases hstored.ref
  exact ⟨hstored, hlater⟩

end Puts


/-! ## `copy_to` -/

section Copies

variable {S : Setting} {k : Nat} {h h' : History Filesystem} {s s₀ : Filesystem} {d id : FileId} {name : String}
  {content : Bytes} {root : Path} {req : CopyRequest} {parentStat : Stat}

theorem looks_snapshotDestinationParent {target : Path} : Looks (snapshotDestinationParent target) := by
  refine eachStep_bind (fun _ => eachStep_bind (fun safety => ?_) (looks_inspectPath _))
    (looks_ensureSafeParentChain _ _)
  split
  · trivial
  refine eachStep_bind (fun s => ?_) (looks_look _)
  split <;> trivial

theorem looks_ensureDestinationParentMatches {target : Path} :
    Looks (ensureDestinationParentMatches target parentStat) := by
  refine eachStep_bind (fun _ => eachStep_bind (fun s => ?_) (eachStep_onRaise (fun e => ?_) (looks_look _)))
    (looks_ensureSafeParentChain _ _)
  · split <;> trivial
  · split <;> trivial

theorem looks_requireRegularFileStat {target : Path} : Looks (requireRegularFileStat target) := by
  refine eachStep_bind (fun s => ?_) (eachStep_onRaise (fun e => ?_) (looks_look _))
  · split <;> trivial
  · split <;> trivial

theorem looks_openVerifiedObject {path : Path} : Looks (openVerifiedObject path) := by
  refine eachStep_bind (fun s => ?_) (looks_look _)
  split
  · trivial
  refine eachStep_bind (fun id => eachStep_onRaise (fun e => eachStep_bind (fun _ => by trivial) (looks_look _)) ?_)
    (looks_look _)
  refine eachStep_bind (fun opened => ?_) (looks_look _)
  split <;> trivial

/-- The copy takes the name of its destination, and loses its own. -/
theorem amid_publishCopy (hvalid : (StoreCall.copyTo root req).Valid S)
    (hheld : Held S k (.copyTo root req) s₀ d name h)
    (hst : Staged S d name id content h) (hd : Reached h (parentPath req.destination) d)
    (hcomplete : S.sha256 content = req.ref.digest ∧ content.length = req.ref.size) :
    Amid (Admits S k (.copyTo root req)) (Bears S k) (Plain S k (.copyTo root req))
      (fun r h' => ∀ a, r = .ok a → S.tidy → Removed S k (.copyTo root req) s₀ d name h')
      (publishCopy d name req.destination req.noReplace) h := by
  have hpath : (StoreCall.copyTo root req).IsTarget req.destination := Or.inr rfl
  have hkept : ∀ {p : Sys Unit} {h₁ : History Filesystem}, Looks p →
      (S.tidy → Removed S k (.copyTo root req) s₀ d name h₁) →
      Amid (Admits S k (.copyTo root req)) (Bears S k) (Plain S k (.copyTo root req))
        (fun r h' => ∀ a, r = .ok a → S.tidy → Removed S k (.copyTo root req) s₀ d name h') p h₁ := by
    intro p h₁ hp hgone
    refine amid_mono (fun _ _ hs => .idle hs) (fun _ _ hr _ _ => hr.2)
      (amid_keeps (P := fun h => S.tidy → Removed S k (.copyTo root req) s₀ d name h)
        (fun _ _ hP hs htidy => (hP htidy).other hs) (fun _ _ hP hs htidy => (hP htidy).own (.idle hs)) hgone
        (amid_looks hp))
  unfold publishCopy
  split
  · refine held_seq (amid_linkNoReplace hvalid hpath hheld hst hd hcomplete) hheld (fun _ h₁ hheld₁ _ => ?_)
      fun _ _ _ _ _ hno => by cases hno
    refine held_seq (amid_cleanupTempFile hheld₁) hheld₁ (fun _ h₂ _ hgone => ?_) fun _ _ _ _ _ hno => by cases hno
    exact hkept (eachStep_bind (fun _ => looks_look _) looks_ensureDescriptorMatchesAfter) hgone.2
  · next hreplace =>
    have hreplaced : Amid (Admits S k (.copyTo root req)) (Bears S k) (Plain S k (.copyTo root req))
        (fun r h' => ∀ a, r = .ok a → S.tidy → Removed S k (.copyTo root req) s₀ d name h')
        (replaceFile d name req.destination) h := by
      refine staged_seq (amid_looks looks_ensureDescriptorMatches) hheld hst (fun _ h₁ hheld₁ hst₁ hlead₁ _ => ?_)
        fun _ _ _ _ hno => by cases hno
      refine staged_seq (amid_looks looks_ensureSafeChild) hheld₁ hst₁ (fun _ h₂ hheld₂ hst₂ hlead₂ _ => ?_)
        fun _ _ _ _ hno => by cases hno
      have hd₂ := hd.later ((Before.of_leads hlead₁).trans (Before.of_leads hlead₂))
      have hmay : (StoreCall.copyTo root req).replaces := (Bool.not_eq_true _).mp hreplace
      refine held_seq (amid_replaceAt hvalid hpath hmay hheld₂ hst₂ hd₂ hcomplete) hheld₂ (fun _ h₃ _ hgone => ?_)
        fun _ _ _ _ _ hno => by cases hno
      exact hkept looks_ensureDescriptorMatchesAfter fun _ => hgone _ rfl
    refine amid_seq hreplaced (fun _ h₁ hgone => hkept (looks_look _) (hgone _ rfl)) fun _ _ _ _ hno => by cases hno

/-- What `copy_to` does with its temporary file, up to where the copy has its name. -/
theorem amid_fillCopy (hvalid : (StoreCall.copyTo root req).Valid S) (hheld : Held S k (.copyTo root req) s₀ d name h)
    (hst : Staged S d name id [] h) (hd : Reached h (parentPath req.destination) d) :
    Amid (Admits S k (.copyTo root req)) (Bears S k) (Plain S k (.copyTo root req))
      (fun r h' => ∀ a, r = .ok a → S.tidy → Removed S k (.copyTo root req) s₀ d name h')
      (fillCopy S.sha256 root req parentStat d id name) h := by
  refine staged_seq (amid_looks looks_openVerifiedObject) hheld hst (fun object h₁ hheld₁ hst₁ hlead₁ _ => ?_)
    fun _ _ _ _ hno => by cases hno
  -- what is written is what was hashed, with its length
  have hcopied : Amid (Admits S k (.copyTo root req)) (Bears S k) (Plain S k (.copyTo root req))
      (Fills S d name id fun found written => found = (S.sha256 written, written.length))
      (finallyDo ((copyHashing S.sha256 object id).bind fun found => fsync.bind fun _ => ret found) close) h₁ := by
    refine fills_finally
      (fills_seq (amid_copyHashing hheld₁ hst₁) hheld₁ fun found written h₂ hfound hheld₂ hst₂ => ?_) hheld₁
    refine fills_seq (fills_looks (looks_look _) hheld₂ hst₂) hheld₂ fun _ written' h₃ hwritten _ hst₃ => ?_
    exact fills_ret (hwritten ▸ hfound) hst₃
  refine held_seq (amid_leads hcopied) hheld₁ (fun found h₂ hheld₂ hr₂ => ?_) fun _ _ _ _ _ hno => by cases hno
  obtain ⟨hfills, hlead₂⟩ := hr₂
  obtain ⟨written, hfound, hst₂⟩ := hfills found rfl
  split
  · exact fun _ hno => by cases hno
  next hsame =>
  rw [not_not, hfound, Prod.mk.injEq] at hsame
  refine held_seq (amid_leads (amid_tryMode hheld₂ hst₂)) hheld₂ (fun _ h₃ hheld₃ hr₃ => ?_)
    fun _ _ _ _ _ hno => by cases hno
  -- neither the mode nor the time changes the content, and the checks after them only look
  have htime : Amid (Admits S k (.copyTo root req)) (Bears S k) (Plain S k (.copyTo root req))
      (fun r h' => r = .ok () → Staged S d name id written h')
      ((req.mtimeNs.or req.mtime).elim (ret ()) (futime id)) h₃ := by
    cases req.mtimeNs.or req.mtime with
    | none => exact fun _ => hr₃.1 rfl
    | some mtimeNs => exact amid_futime hheld₃ (hr₃.1 rfl)
  refine held_seq (amid_leads htime) hheld₃ (fun _ h₄ hheld₄ hr₄ => ?_) fun _ _ _ _ _ hno => by cases hno
  refine staged_seq (amid_looks looks_requireTempNameMatchesOpenFile) hheld₄ (hr₄.1 rfl)
    (fun _ h₅ hheld₅ hst₅ hlead₅ _ => ?_) fun _ _ _ _ hno => by cases hno
  refine staged_seq (amid_looks looks_ensureDestinationParentMatches) hheld₅ hst₅ (fun _ h₆ hheld₆ hst₆ hlead₆ _ => ?_)
    fun _ _ _ _ hno => by cases hno
  refine staged_seq (amid_looks looks_ensureDescriptorMatches) hheld₆ hst₆ (fun _ h₇ hheld₇ hst₇ hlead₇ _ => ?_)
    fun _ _ _ _ hno => by cases hno
  have hd₇ : Reached h₇ (parentPath req.destination) d := hd.later
    (((((((Before.of_leads hlead₁).trans (Before.of_leads hlead₂)).trans (Before.of_leads hr₃.2)).trans
      (Before.of_leads hr₄.2)).trans (Before.of_leads hlead₅)).trans (Before.of_leads hlead₆)).trans
      (Before.of_leads hlead₇))
  refine amid_seq (amid_publishCopy hvalid hheld₇ hst₇ hd₇ hsame) (fun _ h₈ hgone => ?_) fun _ _ _ _ hno => by cases hno
  refine amid_mono (fun _ _ hs => .idle hs) (fun _ _ hr _ _ => hr.2)
    (amid_keeps (P := fun h => S.tidy → Removed S k (.copyTo root req) s₀ d name h)
      (fun _ _ hP hs htidy => (hP htidy).other hs) (fun _ _ hP hs htidy => (hP htidy).own (.idle hs)) (hgone _ rfl)
      (amid_looks (looks_look _)))

theorem amid_checkCopy (hvalid : (StoreCall.copyTo root req).Valid S) :
    Amid (Admits S k (.copyTo root req)) (Bears S k) Idle (fun r h' => ∀ a, r = .ok a →
      HadFile S.sha256 h h' req.destination req.ref.digest req.ref.size) (checkCopy S.sha256 req parentStat) h := by
  refine amid_seq (amid_leads (amid_looks looks_ensureDestinationParentMatches)) (fun _ h₁ hr₁ => ?_)
    fun _ _ _ _ hno => by cases hno
  refine amid_seq (amid_hashRegularFile hvalid (Or.inr rfl)) (fun copied h₂ hhad => ?_) fun _ _ _ _ hno => by cases hno
  split
  · exact fun _ hno => by cases hno
  next hsame =>
  have hhad₂ := hhad copied rfl
  rw [not_not.1 hsame] at hhad₂
  refine amid_seq (amid_leads (amid_looks looks_requireRegularFileStat)) (fun s h₃ hr₃ => ?_)
    fun _ _ _ _ hno => by cases hno
  split
  · exact fun _ hno => by cases hno
  · exact fun _ _ => (hhad₂.since (Before.of_leads hr₁.2)).later (Before.of_leads hr₃.2)

/-- `copy_to`. -/
theorem amid_copyTo (hvalid : (StoreCall.copyTo root req).Valid S) (hun : Unmade S k (.copyTo root req) s₀ h) :
    Amid (Admits S k (.copyTo root req)) (Bears S k) (May S k (.copyTo root req))
      (Ended S (.copyTo root req) fun _ h' =>
        HadFile S.sha256 (start s₀) h' req.destination req.ref.digest req.ref.size)
      (copyTo S.sha256 root req) h := by
  unfold copyTo
  split
  · exact hun.ended_error
  refine ended_unmade_seq (plainly (amid_verify hvalid (Or.inl rfl))) hun fun ok h₁ hun₁ _ => ?_
  split
  · exact hun₁.ended_error
  refine ended_unmade_seq (plainly_looks (looks_ensureSafeParentChain _ _)) hun₁ fun _ h₂ hun₂ _ => ?_
  have hthere : Looks (if req.noReplace then pathExistsNoFollow req.destination else ret false) := by
    split
    · exact looks_pathExistsNoFollow
    · trivial
  refine ended_unmade_seq (plainly_looks hthere) hun₂ fun there h₃ hun₃ _ => ?_
  split
  · exact hun₃.ended_error
  have hparts : ∀ part ∈ parentPath req.destination, S.owner part = none :=
    fun part hpart => (hvalid req.destination (Or.inr rfl)).2 part (List.dropLast_subset _ hpart)
  refine ended_unmade_seq (harmless_makeDirectory hparts h₃) hun₃ fun _ h₄ hun₄ _ => ?_
  refine ended_unmade_seq (plainly_looks looks_snapshotDestinationParent) hun₄ fun parentStat h₅ hun₅ _ => ?_
  refine ended_unmade_seq (plainly_looks looks_requireSafeObjectParent) hun₅ fun _ h₆ hun₆ _ => ?_
  refine amid_seq (amid_createStoreTemp trivial hun₆) (fun temp h₇ htemp => ?_)
    fun _ _ hclear => ended_error fun htidy => Or.inl (hclear htidy)
  obtain ⟨d, id, name⟩ := temp
  obtain ⟨hheld₇, hst₇, hd₇⟩ := htemp
  refine ended_closing (fun _ _ _ hh' hhad => hhad.later hh') ?_
  refine amid_seq (maybe (amid_removing hheld₇ (amid_fillCopy hvalid hheld₇ hst₇ hd₇))) (fun _ h₈ hr₈ => ?_)
    fun _ _ hgone => ended_error fun htidy => Or.inl (hgone htidy).clear
  refine amid_mono (fun _ _ hs => .idle hs)
    (fun r h₉ hr₉ => ⟨fun htidy => Or.inl (hr₉.2.2 htidy).clear, fun a ha => ?_⟩)
    (amid_keeps (P := fun h => Held S k (.copyTo root req) s₀ d name h ∧
        (S.tidy → Removed S k (.copyTo root req) s₀ d name h))
      (fun _ _ hP hs => ⟨hP.1.other hs, fun htidy => (hP.2 htidy).other hs⟩)
      (fun _ _ hP hs => ⟨hP.1.own (.idle hs), fun htidy => (hP.2 htidy).own (.idle hs)⟩) ⟨hr₈.1, hr₈.2 _ rfl⟩
      (amid_checkCopy hvalid))
  exact (hr₉.1 a ha).since (Before.of_leads hr₈.1.led)

end Copies

/-! ## Calls -/

section Calls

variable {S : Setting} {k : Nat} {c : StoreCall} {s : Filesystem}

/-- What a call says by what it returns. -/
def StoreCall.Returned (S : Setting) (s₀ : Filesystem) : StoreCall → StoreResult → History Filesystem → Prop
  | atomicWriteBytes _ _ _ _, .done, _ => True
  | putBytes root content, .put result, h => Stored S s₀ root (S.sha256 content) content.length result h
  | putFile root source, .put result, h =>
    Stored S s₀ root result.ref.digest result.ref.size result h ∧
      Digested S s₀ source result.ref.digest result.ref.size h
  | verify root ref, .verified ok, h => ok = true → ref.path = objectPath root ref.digest ∧
    HadFile S.sha256 (start s₀) h (objectPath root ref.digest) ref.digest ref.size
  | copyTo _ req, .done, h => HadFile S.sha256 (start s₀) h req.destination req.ref.digest req.ref.size
  | _, _, _ => False

/-- A call alone, amid whatever it bears. -/
theorem amid_storeCall (hvalid : c.Valid S) :
    Amid (Admits S k c) (Bears S k) (May S k c) (Ended S c (c.Returned S s)) (c.program S.sha256) (start s) := by
  have hun : Unmade S k c s (start s) := ⟨fun _ => made_start, .refl⟩
  cases c with
  | atomicWriteBytes target content permissions durability =>
    have hwritten : Amid (Admits S k (.atomicWriteBytes target content permissions durability)) (Bears S k)
        (May S k (.atomicWriteBytes target content permissions durability))
        (Ended S (.atomicWriteBytes target content permissions durability) fun _ _ => True)
        (atomicWriteBytes target content permissions durability) (start s) :=
      amid_mono (fun _ _ hs => hs) (fun _ _ hclear => ⟨fun htidy => Or.inl (hclear htidy), fun _ _ => trivial⟩)
        (amid_atomically hvalid rfl trivial rfl hun)
    exact ended_seq (fun _ _ _ _ h => h) hwritten fun _ _ _ result hresult => by cases hresult; trivial
  | putBytes root content =>
    refine ended_seq (fun _ _ _ hh' hstored => hstored.later hh') (amid_putBytesWithStatus hvalid hun)
      fun result h hstored r hr => ?_
    cases hr
    exact hstored
  | putFile root source =>
    refine ended_seq (fun _ _ _ hh' hstored => ⟨hstored.1.later hh', hstored.2.later hh'⟩)
      (amid_putFileWithStatus hvalid hun) fun result h hstored r hr => ?_
    cases hr
    exact hstored
  | verify root ref =>
    refine ended_unmade_seq (plainly (amid_verify hvalid rfl)) hun fun ok h hun₁ hhad => ?_
    refine ⟨fun _ => Or.inl hun₁.bare.clear, fun r hr => ?_⟩
    cases hr
    exact fun htrue => hhad (by rw [htrue])
  | copyTo root req =>
    refine ended_seq (fun _ _ _ hh' hhad => hhad.later hh') (amid_copyTo hvalid hun) fun _ h hhad r hr => ?_
    cases hr
    exact hhad

end Calls

end SafeFsOps.Descriptors
