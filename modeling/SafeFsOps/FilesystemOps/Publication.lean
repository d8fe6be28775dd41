import SafeFsOps.FilesystemOps.ContentStore

/-!
# Publishing files

`atomic_write_bytes`, the puts of the content-addressed store and `copy_to` have a shape in
common: a temporary file that nobody else knows is filled, and when it is complete its name
becomes the target's, by a link or a rename. `May` says what one step of a call may do to the
files and names there are, and `Bears` what it puts up with from others.

> `amid_atomically`: amid steps that it bears, `atomic_write_bytes` makes only steps that it
> may make, and where it ends it has no temporary name left.
-/

namespace SafeFsOps.Descriptors

open Program History Filesystem

/-! ## Names and who may use them -/

/-- What a run is about: the hash function, the call that each temporary name is drawn for (random
tokens do not repeat), the names that are left alone by everybody but the calls, and whether
temporary files can be opened and unlinked. -/
structure Setting where
  sha256 : Bytes → Digest
  owner : String → Option Nat
  ours : FileId → String → Prop
  tidy : Prop
  drawn : ∀ name k, owner name = some k → ∃ target token, name = tempName target token
  unowned : ∀ d name, ours d name → owner name = none

namespace StoreCall

/-- The paths of the files a call publishes or reads back. -/
def IsTarget : StoreCall → Path → Prop
  | atomicWriteBytes target _ _ _, path => path = target
  | putBytes root _, path | putFile root _, path => ∃ digest, path = objectPath root digest
  | verify root ref, path => path = objectPath root ref.digest
  | copyTo root req, path => path = objectPath root req.ref.digest ∨ path = req.destination

/-- Whether a call uses the temporary files of the store. -/
def isStore : StoreCall → Prop
  | atomicWriteBytes _ _ _ _ => False
  | _ => True

/-- Whether a call publishes under a name that is taken. -/
def replaces : StoreCall → Prop
  | atomicWriteBytes _ _ _ _ => True
  | copyTo _ req => req.noReplace = false
  | _ => False

/-- Everything that a call has to write under a name. -/
def Completes (sha256 : Bytes → Digest) : StoreCall → String → Bytes → Prop
  | atomicWriteBytes _ content _ _, _, written => written = content
  | putBytes _ content, name, written => written = content ∧ name = (sha256 written).text
  | putFile _ _, name, written => name = (sha256 written).text
  | verify _ _, _, _ => False
  | copyTo _ req, _, written => sha256 written = req.ref.digest ∧ written.length = req.ref.size

/-- The paths of a call are normalised, and no part of them is a name that is drawn. -/
def Valid (S : Setting) (c : StoreCall) : Prop :=
  ∀ path, c.IsTarget path → ".." ∉ path ∧ ∀ part ∈ path, S.owner part = none

end StoreCall

/-! ## What was made, and what was published -/

section Files

variable (S : Setting) {h : History Filesystem} {s : Filesystem} {id : FileId}

/-- The call made the file. -/
def Made (h : History Filesystem) (id : FileId) : Prop :=
  ∃ (g : History Filesystem) (s : Filesystem), Before (g.own s) h ∧ g.now.inodes id = none ∧ (s.content id).isSome

/-- The call gave a file a name that is no temporary one. -/
def Publishes (h : History Filesystem) (d : FileId) (name : String) (id : FileId) : Prop :=
  ∃ (g : History Filesystem) (s : Filesystem), Before (g.own s) h ∧ S.owner name = none ∧
    g.now.entry d name ≠ some id ∧ s.entry d name = some id ∧ s.isDirectory id = false

/-- A name that others leave alone has led to the file. -/
def Met (h : History Filesystem) (id : FileId) : Prop :=
  ∃ g d name, Before g h ∧ S.ours d name ∧ g.now.entry d name = some id ∧ (g.now.content id).isSome

/-- The files of the call have no temporary names. -/
def Clear (h : History Filesystem) : Prop :=
  ∀ id d name, Made h id → h.now.entry d name = some id → S.owner name = none

/-- The call has not made any file. -/
def Bare (h : History Filesystem) : Prop := ∀ id, ¬ Made h id

/-- The files of the call have one temporary name at most, and it leads to nothing else. -/
structure Only (d : FileId) (name : String) (h : History Filesystem) : Prop where
  there : ∀ id, Made h id → (h.now.content id).isSome
  names : ∀ id e m, Made h id → h.now.entry e m = some id → (e = d ∧ m = name) ∨ S.owner m = none
  leads : ∀ id, h.now.entry d name = some id → Made h id

/-- The temporary file with so much in it, which nobody else has seen. -/
structure Staged (d : FileId) (name : String) (id : FileId) (content : Bytes) (h : History Filesystem) : Prop where
  made : Made h id
  hidden : ∀ e m, ¬ Publishes S h e m id
  alone : ∀ e m, h.now.entry e m = some id → e = d ∧ m = name
  entry : h.now.entry d name = some id
  content : h.now.content id = some content

/-! ## What a call may do, and what it bears -/

variable (k : Nat) (c : StoreCall)

/-- What becomes of a name in a step of the call `k`. -/
inductive Renamed (h : History Filesystem) (s : Filesystem) (d : FileId) (name : String) : Prop
  /-- A temporary name of its own: there is a new file, or none. -/
  | temporary (own : S.owner name = some k)
      (fresh : ∀ id, s.entry d name = some id → h.now.inodes id = none ∧ (s.content id).isSome)
  /-- A new directory, where nothing was. -/
  | directory (unowned : S.owner name = none) (free : h.now.entry d name = none) {id : FileId}
      (entry : s.entry d name = some id) (fresh : h.now.inodes id = none) (directory : s.isDirectory id = true)
  /-- A file of its own that is complete. -/
  | published (ours : S.ours d name) {id : FileId} {content : Bytes} (entry : s.entry d name = some id)
      (made : Made h id) (hidden : ∀ e m, ¬ Publishes S h e m id) (before : h.now.content id = some content)
      (after : s.content id = some content) (complete : c.Completes S.sha256 name content)
      (free : ¬ c.replaces → h.now.entry d name = none)

/-- What one step of the call `k` may do. -/
structure May (h : History Filesystem) (s : Filesystem) : Prop where
  directories : KeepsDirectories h.now s
  files : ∀ id i, h.now.inodes id = some i → h.now.isDirectory id = false →
    s.inodes id = some i ∨ Made h id ∧ (∀ e m, ¬ Publishes S h e m id) ∧ (s.content id).isSome
  fresh : ∀ id, h.now.inodes id = none → (s.inodes id).isSome → ∀ d name, h.now.entry d name ≠ some id
  names : ∀ d name, s.entry d name = h.now.entry d name ∨ Renamed S k c h s d name

/-- What it may do but for making a file. -/
def Plain (h : History Filesystem) (s : Filesystem) : Prop :=
  May S k c h s ∧ ∀ id, h.now.inodes id = none → s.content id = none

/-- What the call `k` puts up with. -/
structure Bears (h : History Filesystem) (s : Filesystem) : Prop where
  directories : KeepsDirectories h.now s
  made : ∀ id, Made h id → s.inodes id = h.now.inodes id
  met : ∀ id, Met S h id → s.inodes id = h.now.inodes id
  names : ∀ d name, S.owner name = some k → s.entry d name = h.now.entry d name
  unnamed : ∀ id d name, Made h id → s.entry d name = some id → h.now.entry d name = some id

/-- What the operating system and the generator of tokens promise to the call `k`. -/
structure Admits (i : Answer) (s : Filesystem) : Prop where
  root : s.isDirectory s.root = true
  /-- A number is free only if no name leads to it. -/
  free : s.inodes i.id = none → ∀ d name, s.entry d name ≠ some i.id
  token : ∀ target, S.owner (tempName target i.token) = some k
  /-- Where the targets are, names are left alone. -/
  ours : ∀ path d, c.IsTarget path → s.resolve true (parentPath path) = .ok d → S.ours d (nameOf path)
  unlinks : S.tidy → i.unlinkFault = none
  opens : S.tidy → c.isStore → i.fdopenFault = none

end Files

/-! ## Histories of one call -/

section Call

variable {S : Setting} {k : Nat} {c : StoreCall} {h h' : History Filesystem} {s : Filesystem} {d id : FileId}
  {name : String} {content : Bytes}

theorem before_other {g : History Filesystem} {t : Filesystem} : Before (g.own t) (h.other s) ↔ Before (g.own t) h := by
  constructor
  · intro hg
    cases hg with
    | other hg _ => exact hg
  · intro hg
    exact .other hg trivial

theorem before_own {g : History Filesystem} {t : Filesystem} :
    Before (g.own t) (h.own s) ↔ Before (g.own t) h ∨ g = h ∧ t = s := by
  constructor
  · intro hg
    cases hg with
    | refl => exact Or.inr ⟨rfl, rfl⟩
    | own hg _ => exact Or.inl hg
  · rintro (hg | ⟨rfl, rfl⟩)
    · exact .own hg trivial
    · exact .refl

theorem not_before_start {g : History Filesystem} {t : Filesystem} : ¬ Before (g.own t) (start s) := nofun

theorem made_start : ¬ Made (start s) id := by
  rintro ⟨g, t, hg, -⟩
  exact not_before_start hg

@[simp] theorem made_other : Made (h.other s) id ↔ Made h id := by
  simp only [Made, before_other]

theorem made_own : Made (h.own s) id ↔ Made h id ∨ h.now.inodes id = none ∧ (s.content id).isSome := by
  constructor
  · rintro ⟨g, t, hg, hnew⟩
    rcases before_own.1 hg with hg | ⟨rfl, rfl⟩
    · exact Or.inl ⟨g, t, hg, hnew⟩
    · exact Or.inr hnew
  · rintro (⟨g, t, hg, hnew⟩ | hnew)
    · exact ⟨g, t, before_own.2 (Or.inl hg), hnew⟩
    · exact ⟨h, s, before_own.2 (Or.inr ⟨rfl, rfl⟩), hnew⟩

theorem publishes_start : ¬ Publishes S (start s) d name id := by
  rintro ⟨g, t, hg, -⟩
  exact not_before_start hg

@[simp] theorem publishes_other : Publishes S (h.other s) d name id ↔ Publishes S h d name id := by
  simp only [Publishes, before_other]

theorem publishes_own : Publishes S (h.own s) d name id ↔ Publishes S h d name id ∨
    S.owner name = none ∧ h.now.entry d name ≠ some id ∧ s.entry d name = some id ∧ s.isDirectory id = false := by
  constructor
  · rintro ⟨g, t, hg, hnew⟩
    rcases before_own.1 hg with hg | ⟨rfl, rfl⟩
    · exact Or.inl ⟨g, t, hg, hnew⟩
    · exact Or.inr hnew
  · rintro (⟨g, t, hg, hnew⟩ | hnew)
    · exact ⟨g, t, before_own.2 (Or.inl hg), hnew⟩
    · exact ⟨h, s, before_own.2 (Or.inr ⟨rfl, rfl⟩), hnew⟩

theorem Met.later (hmet : Met S h id) (hh' : Before h h') : Met S h' id := by
  obtain ⟨g, d, name, hg, hours, hentry, hfile⟩ := hmet
  exact ⟨g, d, name, hg.trans hh', hours, hentry, hfile⟩

/-- A step that made no file. -/
theorem Plain.made_own (hs : Plain S k c h s) : Made (h.own s) id ↔ Made h id := by
  rw [Descriptors.made_own]
  constructor
  · rintro (hmade | ⟨hfree, hfile⟩)
    · exact hmade
    · rw [hs.2 id hfree] at hfile
      cases hfile
  · exact Or.inl

/-! ## Idle steps -/

theorem May.idle (hs : Idle h s) : May S k c h s := by
  rw [show s = h.now from hs]
  refine ⟨.refl, fun _ _ hi _ => Or.inl hi, fun id hnone hsome => ?_, fun _ _ => Or.inl rfl⟩
  rw [hnone] at hsome
  cases hsome

theorem Plain.idle (hs : Idle h s) : Plain S k c h s := by
  refine ⟨.idle hs, fun id hnone => ?_⟩
  rw [show s = h.now from hs, content, node, hnone]
  rfl

theorem plain_now (h : History Filesystem) : Plain S k c h h.now := .idle rfl

end Call

/-! ## What stays true along the way -/

section Stages

variable {S : Setting} {k : Nat} {c : StoreCall} {h h' : History Filesystem} {s s₀ : Filesystem} {d id : FileId}
  {name : String} {content : Bytes}

/-- A call under way: it has seen steps that it bears, and made steps that it may make. -/
abbrev Going (S : Setting) (k : Nat) (c : StoreCall) (s₀ : Filesystem) (h : History Filesystem) : Prop :=
  Leads (Bears S k) (May S k c) (start s₀) h

/-- A call that has not made its temporary file. -/
structure Unmade (S : Setting) (k : Nat) (c : StoreCall) (s₀ : Filesystem) (h : History Filesystem) : Prop where
  bare : Bare h
  led : Going S k c s₀ h

/-- A call that has made its temporary file, under that name. -/
structure Held (S : Setting) (k : Nat) (c : StoreCall) (s₀ : Filesystem) (d : FileId) (name : String)
    (h : History Filesystem) : Prop where
  only : Only S d name h
  owned : S.owner name = some k
  led : Going S k c s₀ h

theorem Bare.clear (hbare : Bare h) : Clear S h := fun id _ _ hmade => (hbare id hmade).elim

theorem Unmade.other (hun : Unmade S k c s₀ h) (hs : Bears S k h s) : Unmade S k c s₀ (h.other s) :=
  ⟨fun id hmade => hun.bare id (made_other.1 hmade), .other hun.led hs⟩

theorem Unmade.own (hun : Unmade S k c s₀ h) (hs : Plain S k c h s) : Unmade S k c s₀ (h.own s) :=
  ⟨fun id hmade => hun.bare id (hs.made_own.1 hmade), .own hun.led hs.1⟩

theorem Held.other (hheld : Held S k c s₀ d name h) (hs : Bears S k h s) : Held S k c s₀ d name (h.other s) where
  only :=
    { there := fun id hmade => by
        rw [made_other] at hmade
        rw [now_other, content_of_inodes (hs.made id hmade)]
        exact hheld.only.there id hmade
      names := fun id e m hmade hentry => by
        rw [made_other] at hmade
        exact hheld.only.names id e m hmade (hs.unnamed id e m hmade hentry)
      leads := fun id hentry => by
        rw [now_other, hs.names d name hheld.owned] at hentry
        exact made_other.2 (hheld.only.leads id hentry) }
  owned := hheld.owned
  led := .other hheld.led hs

/-- A temporary name is given to nothing but a new file. -/
theorem Plain.temporary (hs : Plain S k c h s) (howned : S.owner name = some k) :
    s.entry d name = h.now.entry d name ∨ s.entry d name = none := by
  rcases hs.1.names d name with hsame | hrenamed
  · exact Or.inl hsame
  · refine Or.inr ?_
    cases hrenamed with
    | temporary _ hfresh =>
      rw [Option.eq_none_iff_forall_ne_some]
      intro id hentry
      obtain ⟨hfree, hfile⟩ := hfresh id hentry
      rw [hs.2 id hfree] at hfile
      cases hfile
    | directory hunowned =>
      rw [howned] at hunowned
      cases hunowned
    | published hours =>
      rw [S.unowned _ _ hours] at howned
      cases howned

theorem Held.own (hheld : Held S k c s₀ d name h) (hs : Plain S k c h s) : Held S k c s₀ d name (h.own s) where
  only :=
    { there := fun id hmade => by
        rw [hs.made_own] at hmade
        have hfile := hheld.only.there id hmade
        obtain ⟨i, hi⟩ := Option.isSome_iff_exists.1 (inodes_of_content hfile)
        rcases hs.1.files id i hi (isDirectory_of_content hfile) with hsame | hchanged
        · rw [now_own, content_of_inodes (hsame.trans hi.symm)]
          exact hfile
        · exact hchanged.2.2
      names := fun id e m hmade hentry => by
        rw [hs.made_own] at hmade
        have hinode := inodes_of_content (hheld.only.there id hmade)
        rcases hs.1.names e m with hsame | hrenamed
        · exact hheld.only.names id e m hmade (hsame.symm.trans hentry)
        · cases hrenamed with
          | temporary _ hfresh =>
            rw [(hfresh id hentry).1] at hinode
            cases hinode
          | directory hunowned => exact Or.inr hunowned
          | published hours => exact Or.inr (S.unowned _ _ hours)
      leads := fun id hentry => by
        rcases hs.temporary (d := d) hheld.owned with hsame | hnone
        · exact hs.made_own.2 (hheld.only.leads id (hsame.symm.trans hentry))
        · rw [now_own, hnone] at hentry
          cases hentry }
  owned := hheld.owned
  led := .own hheld.led hs.1

/-- The temporary name is gone, and stays so. -/
structure Removed (S : Setting) (k : Nat) (c : StoreCall) (s₀ : Filesystem) (d : FileId) (name : String)
    (h : History Filesystem) : Prop where
  held : Held S k c s₀ d name h
  gone : h.now.entry d name = none

theorem Removed.other (hgone : Removed S k c s₀ d name h) (hs : Bears S k h s) : Removed S k c s₀ d name (h.other s) :=
  ⟨hgone.held.other hs, (hs.names d name hgone.held.owned).trans hgone.gone⟩

theorem Removed.own (hgone : Removed S k c s₀ d name h) (hs : Plain S k c h s) : Removed S k c s₀ d name (h.own s) := by
  refine ⟨hgone.held.own hs, ?_⟩
  rcases hs.temporary (d := d) hgone.held.owned with hsame | hnone
  · exact hsame.trans hgone.gone
  · exact hnone

theorem Removed.clear (hgone : Removed S k c s₀ d name h) : Clear S h := by
  intro id e m hmade hentry
  rcases hgone.held.only.names id e m hmade hentry with ⟨rfl, rfl⟩ | hunowned
  · rw [hgone.gone] at hentry
    cases hentry
  · exact hunowned

theorem Staged.other (hst : Staged S d name id content h) (howned : S.owner name = some k) (hs : Bears S k h s) :
    Staged S d name id content (h.other s) where
  made := made_other.2 hst.made
  hidden e m hpub := hst.hidden e m (publishes_other.1 hpub)
  alone e m hentry := hst.alone e m (hs.unnamed id e m hst.made hentry)
  entry := (hs.names d name howned).trans hst.entry
  content := (content_of_inodes (hs.made id hst.made)).trans hst.content

theorem Staged.idle (hst : Staged S d name id content h) (hs : Idle h s) : Staged S d name id content (h.own s) := by
  rw [show s = h.now from hs]
  refine ⟨made_own.2 (Or.inl hst.made), fun e m hpub => ?_, hst.alone, hst.entry, hst.content⟩
  rcases publishes_own.1 hpub with hpub | ⟨-, hnew, hentry, -⟩
  · exact hst.hidden e m hpub
  · exact hnew hentry

/-- What a call has published it has made. -/
theorem Going.made_of_publishes (hled : Going S k c s₀ h) (hpub : Publishes S h d name id) : Made h id := by
  obtain ⟨g, t, hg, hunowned, hnew, hentry, hfile⟩ := hpub
  rcases hled.own_before hg with hg' | hmay
  · exact absurd hg' not_before_start
  rcases hmay.names d name with hsame | hrenamed
  · exact absurd (hsame ▸ hentry) hnew
  cases hrenamed with
  | temporary hown =>
    rw [hunowned] at hown
    cases hown
  | directory _ _ hentry' _ hdirectory =>
    rw [hentry] at hentry'
    cases hentry'
    rw [hfile] at hdirectory
    cases hdirectory
  | published _ hentry' hmade =>
    rw [hentry] at hentry'
    cases hentry'
    obtain ⟨g', t', hg', hmade⟩ := hmade
    exact ⟨g', t', hg'.trans (Leads.trans (.own .refl trivial) hg), hmade⟩

theorem Going.keepsDirectories {g : History Filesystem} (hled : Leads (Bears S k) (May S k c) g h) :
    KeepsDirectories g.now h.now :=
  hled.keeps (P := fun h => KeepsDirectories g.now h.now) (fun _ _ hP hs => hP.trans hs.directories)
    (fun _ _ hP hs => hP.trans hs.directories) .refl

/-- A directory that was reached part by part is where the way leads down to. -/
theorem Going.down (hled : Going S k c s₀ h) {way : Path} (hd : Reached h way d) : h.now.Down way d := by
  induction hd with
  | root hbefore hdirectory =>
    obtain ⟨-, hthen⟩ := hled.split hbefore
    exact (Down.root hdirectory).later (Going.keepsDirectories hthen)
  | child _ hbefore hentry hdirectory ih =>
    obtain ⟨hfirst, hthen⟩ := hled.split hbefore
    exact (Down.child (ih hfirst) hentry hdirectory).later (Going.keepsDirectories hthen)

end Stages

/-! ## Programs, stage by stage -/

section Rules

variable {S : Setting} {k : Nat} {c : StoreCall} {h h' : History Filesystem} {s₀ : Filesystem} {d id : FileId}
  {name : String} {content : Bytes} {α β : Type} {R : History Filesystem → Filesystem → Prop}
  {Q : Except FilesystemError α → History Filesystem → Prop}

theorem plainly {p : Sys α} (hp : Amid (Admits S k c) (Bears S k) Idle Q p h) :
    Amid (Admits S k c) (Bears S k) (Plain S k c) Q p h := amid_mono (fun _ _ hs => .idle hs) (fun _ _ hQ => hQ) hp

theorem plainly_looks {p : Sys α} (hp : Looks p) :
    Amid (Admits S k c) (Bears S k) (Plain S k c) (fun _ _ => True) p h := plainly (amid_looks hp)

theorem maybe {p : Sys α} (hp : Amid (Admits S k c) (Bears S k) (Plain S k c) Q p h) :
    Amid (Admits S k c) (Bears S k) (May S k c) Q p h := amid_mono (fun _ _ hs => hs.1) (fun _ _ hQ => hQ) hp

/-- Before the temporary file is made. -/
theorem unmade_seq {Q' : Except FilesystemError β → History Filesystem → Prop} {p : Sys β} {f : β → Sys α}
    (hp : Amid (Admits S k c) (Bears S k) (Plain S k c) Q' p h) (hun : Unmade S k c s₀ h)
    (hf : ∀ b h', Unmade S k c s₀ h' → Q' (.ok b) h' → Amid (Admits S k c) (Bears S k) (May S k c) Q (f b) h')
    (herror : ∀ e h', Unmade S k c s₀ h' → Q (.error e) h') :
    Amid (Admits S k c) (Bears S k) (May S k c) Q (p.bind f) h :=
  amid_keeping_seq (fun _ _ hP hs => hP.other hs) (fun _ _ hP hs => hP.own hs) (fun _ _ hs => hs.1) hp hun hf
    fun e h' hun _ => herror e h' hun

/-- While the call has a temporary file. -/
theorem held_seq {Q' : Except FilesystemError β → History Filesystem → Prop} {p : Sys β} {f : β → Sys α}
    (hp : Amid (Admits S k c) (Bears S k) (Plain S k c) Q' p h) (hheld : Held S k c s₀ d name h)
    (hf : ∀ b h', Held S k c s₀ d name h' → Q' (.ok b) h' → Amid (Admits S k c) (Bears S k) (Plain S k c) Q (f b) h')
    (herror : ∀ e h', Held S k c s₀ d name h' → Q' (.error e) h' → Q (.error e) h') :
    Amid (Admits S k c) (Bears S k) (Plain S k c) Q (p.bind f) h :=
  amid_keeping_seq (fun _ _ hP hs => hP.other hs) (fun _ _ hP hs => hP.own hs) (fun _ _ hs => hs) hp hheld hf herror

/-- While the call only looks, its temporary file stays as it is. -/
theorem staged_seq {Q' : Except FilesystemError β → History Filesystem → Prop} {p : Sys β} {f : β → Sys α}
    (hp : Amid (Admits S k c) (Bears S k) Idle Q' p h) (hheld : Held S k c s₀ d name h)
    (hst : Staged S d name id content h)
    (hf : ∀ b h', Held S k c s₀ d name h' → Staged S d name id content h' → Leads (Bears S k) Idle h h' → Q' (.ok b) h' →
      Amid (Admits S k c) (Bears S k) (Plain S k c) Q (f b) h')
    (herror : ∀ e h', Held S k c s₀ d name h' → Q (.error e) h') :
    Amid (Admits S k c) (Bears S k) (Plain S k c) Q (p.bind f) h := by
  refine amid_keeping_seq (P := fun h => Held S k c s₀ d name h ∧ Staged S d name id content h)
    (fun _ _ hP hs => ⟨hP.1.other hs, hP.2.other hP.1.owned hs⟩)
    (fun _ _ hP hs => ⟨hP.1.own (.idle hs), hP.2.idle hs⟩) (fun _ _ hs => .idle hs) (amid_leads hp) ⟨hheld, hst⟩ ?_ ?_
  · intro b h' hP hQ
    exact hf b h' hP.1 hP.2 hQ.2 hQ.1
  · intro e h' hP _
    exact herror e h' hP.1

theorem Clear.other {s : Filesystem} (hclear : Clear S h) (hs : Bears S k h s) : Clear S (h.other s) := by
  intro id e m hmade hentry
  rw [made_other] at hmade
  exact hclear id e m hmade (hs.unnamed id e m hmade hentry)

theorem Clear.idle {s : Filesystem} (hclear : Clear S h) (hs : Idle h s) : Clear S (h.own s) := by
  intro id e m hmade hentry
  rw [show s = h.now from hs] at hmade hentry
  rcases made_own.1 hmade with hmade | ⟨hnone, hfile⟩
  · exact hclear id e m hmade hentry
  · obtain ⟨i, hi⟩ := Option.isSome_iff_exists.1 (inodes_of_content hfile)
    rw [hnone] at hi
    cases hi

/-! ### Programs that make directories -/

/-- Whatever went before, the program makes no file and touches none. -/
def Harmless (S : Setting) (k : Nat) (c : StoreCall) (p : Sys α) : Prop :=
  ∀ h, Amid (Admits S k c) (Bears S k) (Plain S k c) (fun _ _ => True) p h

theorem harmless_looks {p : Sys α} (hp : Looks p) : Harmless S k c p := fun _ => plainly_looks hp

theorem harmless_bind {p : Sys β} {f : β → Sys α} (hp : Harmless S k c p) (hf : ∀ b, Harmless S k c (f b)) :
    Harmless S k c (p.bind f) := fun h => amid_seq (hp h) (fun b h' _ => hf b h') fun _ _ _ => trivial

theorem harmless_outcome {p : Sys α} (hp : Harmless S k c p) : Harmless S k c p.outcome := fun h => amid_outcome (hp h)

theorem harmless_ofExcept (x : Except FilesystemError α) : Harmless S k c (ofExcept x) := fun _ => amid_ofExcept trivial

theorem harmless_finallyDo {p : Sys α} {last : Sys Unit} (hp : Harmless S k c p) (hlast : Harmless S k c last) :
    Harmless S k c (finallyDo p last) :=
  harmless_bind (harmless_outcome hp) fun r => harmless_bind hlast fun _ => harmless_ofExcept r

theorem harmless_forEach {γ : Type} {body : γ → Sys Unit} : ∀ {xs : List γ}, (∀ x ∈ xs, Harmless S k c (body x)) →
    Harmless S k c (forEach xs body)
  | [], _ => fun _ => trivial
  | x :: _, hbody => harmless_bind (hbody x List.mem_cons_self) fun _ =>
    harmless_forEach fun y hy => hbody y (List.mem_cons_of_mem x hy)

theorem harmless_ret (a : α) : Harmless S k c (ret a) := fun _ => trivial

theorem harmless_raise (e : FilesystemError) : Harmless S k c (raise e : Sys α) := fun _ => trivial

/-- A new directory gets a name that was free. -/
theorem harmless_mkdirAt (hname : S.owner name = none) : Harmless S k c (mkdirAt d name) := by
  intro h
  refine amid_changeUnless (fun h => plain_now h) (fun h₁ hh₁ i hi _ fs hact => ⟨?_, trivial⟩) fun _ _ _ => trivial
  obtain ⟨fs', hcreate, hret⟩ := bind_eq_ok.1 hact
  cases hret
  obtain ⟨-, hfree, hnone, hentry, hother⟩ := Filesystem.create_ok (fun m => by simp [Node.entry]) hcreate
  obtain ⟨hroot, hnode, hdirs, hinodes⟩ := Filesystem.create_made hcreate
  have hne : ∀ e, h₁.now.isDirectory e = true → e ≠ i.id := by
    rintro e he rfl
    rw [isDirectory_of_none hnone] at he
    cases he
  refine ⟨⟨⟨hroot, fun e he => (hdirs e (hne e he)).trans he, fun e m id hold _ => ?_⟩, fun id j hj hfile => ?_,
    fun id hfresh hsome => ?_, fun e m => ?_⟩, fun id hfresh => ?_⟩
  · rw [hother e m]
    · exact hold
    · rintro ⟨rfl, rfl⟩
      rw [hfree] at hold
      cases hold
  · have hid : id ≠ i.id := by
      rintro rfl
      rw [hnone] at hj
      cases hj
    exact Or.inl ((hinodes id hid hfile).trans hj)
  · by_cases hid : id = i.id
    · subst hid
      exact hi.free hnone
    · rw [hinodes id hid (isDirectory_of_none hfresh), hfresh] at hsome
      cases hsome
  · by_cases hem : e = d ∧ m = name
    · obtain ⟨rfl, rfl⟩ := hem
      exact Or.inr (.directory hname hfree hentry hnone (isDirectory_iff.2 ⟨_, _, hnode⟩))
    · exact Or.inl (hother e m hem)
  · by_cases hid : id = i.id
    · subst hid
      exact content_of_directory (isDirectory_iff.2 ⟨_, _, hnode⟩)
    · rw [content_of_inodes (hinodes id hid (isDirectory_of_none hfresh)), Filesystem.content, Filesystem.node, hfresh]
      rfl

theorem looks_ensureDescriptorMatches {operation : String} {path : Path} :
    Looks (ensureDescriptorMatches operation d path) := by
  refine eachStep_bind (fun own => eachStep_bind (fun seen => ?_) (eachStep_onRaise (fun e => ?_) (looks_look _)))
    (looks_look _)
  · split <;> trivial
  · split <;> trivial

theorem looks_ensureDescriptorMatchesAfter {operation : String} {path : Path} :
    Looks (ensureDescriptorMatchesAfter operation d path) := by
  refine eachStep_onRaise (fun e => ?_) looks_ensureDescriptorMatches
  show Looks (if e.isUnsafePath then _ else _)
  split <;> trivial

theorem looks_onOsError {p : Sys α} {handler : FilesystemError → Sys α} (hp : Looks p) (hh : ∀ e, Looks (handler e)) :
    Looks (onOsError p handler) := by
  refine eachStep_onRaise (fun e => ?_) hp
  show Looks (if isOsError e then _ else _)
  split
  · exact hh e
  · trivial

theorem looks_durableFsync {durability : DurabilityMode} : Looks (durableFsync durability) := by
  cases durability with
  | none => trivial
  | bestEffort => exact looks_onOsError (looks_look _) fun _ => by trivial
  | fsync => exact looks_look _

theorem looks_openChildDirectory {operation what : String} {path : Path} :
    Looks (openChildDirectory operation what d name path) :=
  looks_onOsError (looks_look _) fun _ => eachStep_bind (fun _ => by trivial) (looks_inspectPath path)

theorem looks_openDirectoryAnchor {operation : String} : Looks (openDirectoryAnchor operation) :=
  looks_onOsError (looks_look _) fun _ => eachStep_bind (fun _ => by trivial) (looks_inspectPath [])

theorem looks_descend {openChild : FileId → String → Path → Sys FileId} (hopen : ∀ d name path, Looks (openChild d name path)) :
    ∀ {parts : List String} {d : FileId} {way : Path}, Looks (descend openChild d way parts)
  | [], _, _ => trivial
  | _ :: _, _, _ => eachStep_bind (fun _ => eachStep_bind (fun _ => looks_descend hopen) (looks_look _)) (hopen _ _ _)

theorem looks_openExistingDirectory {operation : String} {path : Path} : Looks (openExistingDirectory operation path) :=
  eachStep_bind (fun _ => eachStep_onRaise (fun _ => eachStep_bind (fun _ => by trivial) (looks_look _))
    (looks_descend fun _ _ _ => looks_openChildDirectory)) looks_openDirectoryAnchor

theorem harmless_makeEntry {operation part : String} {mayExist : Bool} {way : Path} (hpart : S.owner part = none) :
    Harmless S k c (makeEntry operation mayExist d way part) := by
  refine harmless_bind (harmless_outcome (harmless_bind (harmless_looks looks_ensureDescriptorMatches) fun _ =>
    harmless_mkdirAt hpart)) fun made => ?_
  split
  · exact harmless_bind (harmless_looks looks_ensureDescriptorMatchesAfter) fun _ => harmless_ret _
  · refine harmless_bind (harmless_looks looks_ensureDescriptorMatches) fun _ => ?_
    split
    · exact harmless_ret _
    · exact harmless_raise _
  · split <;> exact harmless_raise _

theorem harmless_makeParts {operation : String} {existOk : Bool} {durability : DurabilityMode} :
    ∀ {parts : List String} {d : FileId} {way : Path}, (∀ part ∈ parts, S.owner part = none) →
      Harmless S k c (makeParts operation existOk durability d way parts)
  | [], _, _, _ => harmless_ret _
  | part :: parts, d, way, hparts => by
    refine harmless_bind (harmless_makeEntry (hparts part List.mem_cons_self)) fun made => harmless_bind ?_ fun _ =>
      harmless_bind (harmless_looks looks_openChildDirectory) fun next => harmless_bind (harmless_looks (looks_look _))
        fun _ => harmless_makeParts fun part hpart => hparts part (List.mem_cons_of_mem _ hpart)
    split
    · exact harmless_looks looks_durableFsync
    · exact harmless_ret _

theorem harmless_makeDirectoryIncremental {operation : String} {existOk : Bool} {durability : DurabilityMode}
    {target : Path} (htarget : ∀ part ∈ target, S.owner part = none) :
    Harmless S k c (makeDirectoryIncremental operation existOk durability target) := by
  unfold makeDirectoryIncremental
  split
  · split
    · exact harmless_ret _
    · exact harmless_raise _
  · exact harmless_bind (harmless_looks looks_openDirectoryAnchor) fun root => harmless_finallyDo
      (harmless_bind (harmless_makeParts htarget) fun _ => harmless_looks looks_durableFsync) (harmless_looks (looks_look _))

theorem harmless_makeDirectorySingle {operation : String} {existOk : Bool} {durability : DurabilityMode} {target : Path}
    (htarget : ∀ part ∈ target, S.owner part = none) :
    Harmless S k c (makeDirectorySingle operation existOk durability target) := by
  unfold makeDirectorySingle
  split
  · split
    · exact harmless_ret _
    · exact harmless_raise _
  next hne =>
  have hname : S.owner (nameOf target) = none := htarget _ (by
    rw [← parentPath_nameOf hne]
    exact List.mem_append_right _ (by rw [parentPath_nameOf hne]; exact List.mem_singleton_self _))
  exact harmless_bind (harmless_looks looks_openExistingDirectory) fun d => harmless_finallyDo
    (harmless_bind (harmless_makeEntry hname) fun _ => harmless_looks looks_durableFsync) (harmless_looks (looks_look _))

theorem harmless_makeDirectory {parents existOk : Bool} {durability : DurabilityMode} {target : Path}
    (htarget : ∀ part ∈ target, S.owner part = none) :
    Harmless S k c (makeDirectory target parents existOk durability) := by
  have hsafe : ∀ ok, Harmless S k c (ensureSafeMkdirPath "mkdir" ok target) :=
    fun ok => harmless_looks (looks_ensureSafeMkdirPath _ _ _)
  refine harmless_bind (hsafe existOk) fun _ => harmless_bind (harmless_looks (looks_inspectPath target)) fun safety => ?_
  split
  · exact harmless_ret _
  refine harmless_bind (hsafe existOk) fun _ => harmless_bind ?_ fun _ => hsafe true
  split
  · exact harmless_makeDirectoryIncremental htarget
  · exact harmless_makeDirectorySingle htarget

theorem harmless_mkdirParentForWrite {durability : DurabilityMode} {target : Path}
    (htarget : ∀ part ∈ target, S.owner part = none) : Harmless S k c (mkdirParentForWrite target durability) := by
  have hchain : Harmless S k c (ensureSafeParentChain "atomic write" target) :=
    harmless_looks (looks_ensureSafeParentChain _ _)
  exact harmless_bind hchain fun _ => harmless_bind hchain fun _ =>
    harmless_bind (harmless_makeDirectoryIncremental fun part hpart => htarget part (List.dropLast_subset _ hpart))
      fun _ => hchain

end Rules

/-! ## The temporary file -/

section Temporary

variable {S : Setting} {k : Nat} {c : StoreCall} {h h' : History Filesystem} {s₀ : Filesystem} {d id : FileId}
  {name : String} {content : Bytes} {α β : Type} {Q : Except FilesystemError α → History Filesystem → Prop}

theorem Unmade.disturbed (hun : Unmade S k c s₀ h) (hh' : Disturbed (Bears S k) h h') : Unmade S k c s₀ h' :=
  hh'.keeps (fun _ _ hP hs => hP.other hs) (fun _ _ _ hno => hno.elim) hun

theorem Held.disturbed (hheld : Held S k c s₀ d name h) (hh' : Disturbed (Bears S k) h h') : Held S k c s₀ d name h' :=
  hh'.keeps (fun _ _ hP hs => hP.other hs) (fun _ _ _ hno => hno.elim) hheld

theorem Staged.disturbed (hst : Staged S d name id content h) (howned : S.owner name = some k)
    (hh' : Disturbed (Bears S k) h h') : Staged S d name id content h' :=
  hh'.keeps (fun _ _ hP hs => hP.other howned hs) (fun _ _ _ hno => hno.elim) hst

/-- The temporary file is made, and nobody else has it. -/
theorem amid_createAt (hun : Unmade S k c s₀ h) (hname : S.owner name = some k) :
    Amid (Admits S k c) (Bears S k) (May S k c) (fun r h' => match r with
      | .ok id => Held S k c s₀ d name h' ∧ Staged S d name id [] h'
      | .error _ => Unmade S k c s₀ h') (createAt d name) h := by
  refine amid_changeUnless (fun h => (plain_now h).1) (fun h₁ hh₁ i hi _ fs hact => ?_)
    fun h₁ hh₁ _ => (hun.disturbed hh₁).own (plain_now h₁)
  obtain ⟨fs', hcreate, hret⟩ := bind_eq_ok.1 hact
  cases hret
  have hun₁ := hun.disturbed hh₁
  obtain ⟨-, hfree, hnone, hentry, hother⟩ := Filesystem.create_ok (fun _ => rfl) hcreate
  obtain ⟨hroot, hnode, hdirs, hinodes⟩ := Filesystem.create_made hcreate
  have hcontent : fs.content i.id = some [] := by rw [Filesystem.content, hnode]
  -- the new inode is no directory, and nothing else is new
  have hne : ∀ e, h₁.now.isDirectory e = true → e ≠ i.id := by
    rintro e he rfl
    rw [isDirectory_of_none hnone] at he
    cases he
  have hnew : ∀ e, h₁.now.inodes e = none → (fs.inodes e).isSome → e = i.id := by
    intro e hfresh hsome
    by_contra he
    rw [hinodes e he (isDirectory_of_none hfresh), hfresh] at hsome
    cases hsome
  -- the step is one that is allowed
  have hmay : May S k c h₁ fs := by
    refine ⟨⟨hroot, fun e he => (hdirs e (hne e he)).trans he, fun e m id hold _ => ?_⟩, fun id j hj hfile => ?_,
      fun id hfresh hsome => ?_, fun e m => ?_⟩
    · rw [hother e m]
      · exact hold
      · rintro ⟨rfl, rfl⟩
        rw [hfree] at hold
        cases hold
    · have hid : id ≠ i.id := by
        rintro rfl
        rw [hnone] at hj
        cases hj
      exact Or.inl ((hinodes id hid hfile).trans hj)
    · rw [hnew id hfresh hsome]
      exact hi.free hnone
    · by_cases hem : e = d ∧ m = name
      · obtain ⟨rfl, rfl⟩ := hem
        refine Or.inr (.temporary hname fun id hid => ?_)
        rw [hentry] at hid
        cases hid
        exact ⟨hnone, by rw [hcontent]; rfl⟩
      · exact Or.inl (hother e m hem)
  -- the only file made so far
  have hmade : ∀ id, Made (h₁.own fs) id → id = i.id := by
    intro id hmade
    rcases made_own.1 hmade with hold | ⟨hfresh, hfile⟩
    · exact (hun₁.bare id hold).elim
    · exact hnew id hfresh (inodes_of_content hfile)
  have hmade' : Made (h₁.own fs) i.id := made_own.2 (Or.inr ⟨hnone, by rw [hcontent]; rfl⟩)
  have hnames : ∀ e m, fs.entry e m = some i.id → e = d ∧ m = name := by
    intro e m hem
    by_contra hne
    exact hi.free hnone e m ((hother e m hne).symm.trans hem)
  refine ⟨hmay, ⟨⟨fun id hid => ?_, fun id e m hid hem => ?_, fun id hid => ?_⟩, hname, .own hun₁.led hmay⟩,
    hmade', fun e m hpub => ?_, hnames, hentry, hcontent⟩
  · rw [hmade id hid, now_own, hcontent]
    rfl
  · rw [hmade id hid] at hem
    exact Or.inl (hnames e m hem)
  · rw [now_own, hentry] at hid
    cases hid
    exact hmade'
  · rcases publishes_own.1 hpub with hold | ⟨hunowned, -, hem, -⟩
    · exact hun₁.bare _ (Going.made_of_publishes hun₁.led hold)
    · rw [(hnames e m hem).2, hname] at hunowned
      cases hunowned

/-- A temporary file is made under a name that was drawn, or none is made. -/
theorem amid_makeTempFile {target : String} : ∀ {tries : Nat} {h : History Filesystem}, Unmade S k c s₀ h →
    Amid (Admits S k c) (Bears S k) (May S k c) (fun r h' => match r with
      | .ok temp => Held S k c s₀ d temp.2 h' ∧ Staged S d temp.2 temp.1 [] h'
      | .error _ => Unmade S k c s₀ h') (createTempFile d target tries) h
  | 0, _, hun => hun
  | tries + 1, h, hun => by
    have htoken : Amid (Admits S k c) (Bears S k) (Plain S k c)
        (fun r _ => ∀ token, r = .ok token → S.owner (tempName target token) = some k) drawToken h := by
      refine amid_call fun h₁ _ i hi => ⟨plain_now h₁, ?_⟩
      rintro token ⟨⟩
      exact hi.token target
    refine unmade_seq htoken hun (fun token h₁ hun₁ hname => ?_) fun _ _ hun₁ => hun₁
    refine amid_outcome_seq (amid_createAt hun₁ (hname token rfl)) fun r h₂ hr => ?_
    split
    · exact hr
    · exact amid_makeTempFile hr
    · exact hr

/-- The temporary name is removed, if names can be. -/
theorem amid_cleanupTempFile (hheld : Held S k c s₀ d name h) :
    Amid (Admits S k c) (Bears S k) (Plain S k c)
      (fun _ h' => Held S k c s₀ d name h' ∧ (S.tidy → Removed S k c s₀ d name h')) (cleanupTempFile d name) h := by
  have hunlink : Amid (Admits S k c) (Bears S k) (Plain S k c) (fun r h' => Held S k c s₀ d name h' ∧
      (S.tidy → Removed S k c s₀ d name h')) (unlinkAt d name) h := by
    refine amid_call fun h₁ hh₁ i hi => ?_
    have hheld₁ := hheld.disturbed hh₁
    have hstays : Plain S k c h₁ h₁.now ∧ Held S k c s₀ d name (h₁.own h₁.now) :=
      ⟨plain_now h₁, hheld₁.own (plain_now h₁)⟩
    -- a fault at this point is what `tidy` excludes
    cases hfault : i.unlinkFault with
    | some m =>
      refine ⟨hstays.1, hstays.2, fun htidy => ?_⟩
      rw [hi.unlinks htidy] at hfault
      cases hfault
    | none =>
      dsimp only
      cases hentry : h₁.now.entry d name with
      | none =>
        have hact : h₁.now.unlink d name i.time = .error (.fileNotFound [name]) := by rw [unlink, hentry]
        rw [hact]
        exact ⟨hstays.1, hstays.2, fun _ => ⟨hstays.2, hentry⟩⟩
      | some id =>
        have hfile : h₁.now.isDirectory id = false :=
          isDirectory_of_content (hheld₁.only.there id (hheld₁.only.leads id hentry))
        have hact : h₁.now.unlink d name i.time = .ok (h₁.now.setEntry d name none i.time) := by
          rw [unlink, hentry]
          dsimp only
          rw [if_neg (by simp [hfile])]
        rw [hact]
        dsimp only [Bind.bind, Except.bind, Pure.pure, Except.pure]
        have hn : name ≠ "" := by
          rintro rfl
          obtain ⟨node, -, hnode⟩ := Option.bind_eq_some_iff.1 hentry
          cases node <;> cases hnode
        have hgone : (h₁.now.setEntry d name none i.time).entry d name = none :=
          entry_setEntry (isDirectory_of_entry hentry) hn
        have hplain : Plain S k c h₁ (h₁.now.setEntry d name none i.time) := by
          refine ⟨⟨keepsDirectories_setEntry fun old hold => ?_, fun e j hj he => Or.inl ?_, fun e hnone hsome => ?_,
            fun e m => ?_⟩, fun e hnone => ?_⟩
          · rw [hentry] at hold
            cases hold
            exact hfile
          · exact (inodes_setEntry he).trans hj
          · rw [inodes_setEntry (isDirectory_of_none hnone), hnone] at hsome
            cases hsome
          · by_cases hem : e = d ∧ m = name
            · obtain ⟨rfl, rfl⟩ := hem
              refine Or.inr (.temporary hheld₁.owned fun e he => ?_)
              rw [hgone] at he
              cases he
            · exact Or.inl (entry_setEntry_ne hem)
          · rw [content_setEntry, Filesystem.content, Filesystem.node, hnone]
            rfl
        exact ⟨hplain, hheld₁.own hplain, fun _ => ⟨hheld₁.own hplain, hgone⟩⟩
  -- the code suppresses an `OSError` here
  refine amid_onRaise (amid_mono (fun _ _ hs => hs) ?_ hunlink)
  rintro (e | a) h' hr
  · show Amid _ _ _ _ (if isOsError e then ret () else raise e) h'
    split <;> exact hr
  · exact hr

/-- Closing what is closed already is no reason to stop. -/
theorem amid_quietlyClose {C : Answer → Filesystem → Prop} {E : History Filesystem → Filesystem → Prop} :
    Amid C E Idle (fun r _ => r = .ok ()) (quietly close) h := by
  refine amid_onRaise (amid_mono (fun _ _ hs => hs) ?_ (amid_look (Q := fun r _ => ∀ e, r = .error e → isOsError e = true)
    fun _ _ => ⟨nofun, fun m e he => by cases he; rfl⟩))
  rintro (e | a) h' hr
  · show Amid _ _ _ _ (if isOsError e then ret () else raise e) h'
    rw [if_pos (hr e rfl)]
    rfl
  · rfl

/-- A call that fails leaves no temporary file behind. -/
theorem amid_removing {p : Sys α} (hheld : Held S k c s₀ d name h)
    (hp : Amid (Admits S k c) (Bears S k) (Plain S k c) Q p h) :
    Amid (Admits S k c) (Bears S k) (Plain S k c) (fun r h' => match r with
      | .ok a => Held S k c s₀ d name h' ∧ Q (.ok a) h'
      | .error _ => S.tidy → Removed S k c s₀ d name h') (removeOnRaise d name p) h := by
  refine amid_onRaise (amid_mono (fun _ _ hs => hs) ?_
    (amid_keeps (fun _ _ hP hs => Held.other hP hs) (fun _ _ hP hs => Held.own hP hs) hheld hp))
  rintro (e | a) h₁ ⟨hQ, hheld₁⟩
  · refine held_seq (plainly amid_quietlyClose) hheld₁ (fun _ h₂ hheld₂ _ => ?_) fun _ _ _ hno => by cases hno
    exact amid_seq (amid_cleanupTempFile hheld₂) (fun _ _ hr => hr.2) fun _ _ hr => hr.2
  · exact ⟨hheld₁, hQ⟩

end Temporary

/-! ## Filling and publishing it -/

section Filling

variable {S : Setting} {k : Nat} {c : StoreCall} {h h' : History Filesystem} {s₀ : Filesystem} {d id : FileId}
  {name : String} {content written : Bytes} {path : Path} {α β : Type}
  {Q : Except FilesystemError α → History Filesystem → Prop}

/-- What is put in the place of the temporary file nobody else sees. -/
theorem Staged.put {i : Inode} (hst : Staged S d name id content h) (hi : i.node = .file written) :
    Plain S k c h (h.now.put id i) ∧ Staged S d name id written (h.own (h.now.put id i)) := by
  have hnode := node_of_content hst.content
  have hentries : ∀ e m, (h.now.put id i).entry e m = h.now.entry e m := by
    refine entry_put fun m => ?_
    rw [hi, Filesystem.entry, hnode]
    rfl
  have hcontent : (h.now.put id i).content id = some written := by rw [Filesystem.content, node_put_self, hi]
  have hinode : (h.now.inodes id).isSome := inodes_of_content (by rw [hst.content]; rfl)
  have hne : ∀ e, h.now.inodes e = none → e ≠ id := by
    rintro e hnone rfl
    rw [hnone] at hinode
    cases hinode
  have hother : ∀ e, e ≠ id → (h.now.put id i).inodes e = h.now.inodes e := fun e he => Function.update_of_ne he _ _
  have hplain : Plain S k c h (h.now.put id i) := by
    refine ⟨⟨⟨rfl, fun e he => ?_, fun e m j hem _ => (hentries e m).trans hem⟩, fun e j hj _ => ?_,
      fun e hnone hsome => ?_, fun e m => Or.inl (hentries e m)⟩, fun e hnone => ?_⟩
    · have hid : e ≠ id := by
        rintro rfl
        rw [isDirectory_of_content (by rw [hst.content]; rfl)] at he
        cases he
      exact (isDirectory_of_inodes (hother e hid)).trans he
    · by_cases he : e = id
      · subst he
        exact Or.inr ⟨hst.made, hst.hidden, by rw [hcontent]; rfl⟩
      · exact Or.inl ((hother e he).trans hj)
    · rw [hother e (hne e hnone), hnone] at hsome
      cases hsome
    · rw [content_of_inodes (hother e (hne e hnone)), Filesystem.content, Filesystem.node, hnone]
      rfl
  refine ⟨hplain, hplain.made_own.2 hst.made, fun e m hpub => ?_, fun e m hem => ?_, ?_, hcontent⟩
  · rcases publishes_own.1 hpub with hold | ⟨-, hnew, hem, -⟩
    · exact hst.hidden e m hold
    · exact hnew ((hentries e m).symm.trans hem)
  · exact hst.alone e m ((hentries e m).symm.trans hem)
  · exact (hentries d name).trans hst.entry

theorem Staged.inode (hst : Staged S d name id content h) : ∃ permissions extent mtimeNs ctimeNs,
    h.now.inodes id = some ⟨.file content, permissions, extent, mtimeNs, ctimeNs⟩ := by
  obtain ⟨⟨node, permissions, extent, mtimeNs, ctimeNs⟩, hinode, hnode⟩ :=
    Option.map_eq_some_iff.1 (node_of_content hst.content)
  cases hnode
  exact ⟨permissions, extent, mtimeNs, ctimeNs, hinode⟩

theorem overwrite_end (content bytes : Bytes) : overwrite content content.length bytes = content ++ bytes := by
  simp [overwrite]

/-- One write at the end of the temporary file. -/
theorem amid_writeAt {bytes : Bytes} (hheld : Held S k c s₀ d name h) (hst : Staged S d name id content h) :
    Amid (Admits S k c) (Bears S k) (Plain S k c) (fun r h' => ∀ n, r = .ok n →
      ∃ m, n = (bytes.take (m + 1)).length ∧ Staged S d name id (content ++ bytes.take (m + 1)) h')
      (writeAt id content.length bytes) h := by
  refine amid_changeUnless (fun h => plain_now h) (fun h₁ hh₁ i _ n fs hact => ?_) fun _ _ _ => nofun
  have hst₁ := hst.disturbed hheld.owned hh₁
  obtain ⟨permissions, extent, mtimeNs, ctimeNs, hinode⟩ := hst₁.inode
  rw [hinode] at hact
  cases hact
  obtain ⟨hplain, hst₂⟩ := hst₁.put (k := k) (c := c)
    (i := ⟨.file (overwrite content content.length (bytes.take (max 1 i.count))), permissions, extent, i.time, i.time⟩) rfl
  refine ⟨hplain, ?_⟩
  rintro n ⟨⟩
  refine ⟨max 1 i.count - 1, ?_, ?_⟩
  · rw [Nat.sub_add_cancel (le_max_left _ _)]
  · rw [Nat.sub_add_cancel (le_max_left _ _), ← overwrite_end]
    exact hst₂

/-- What is written is added to the temporary file, and in the end all of it. -/
theorem amid_writeAll {fuel : Nat} {content bytes : Bytes} (hfuel : bytes.length ≤ fuel)
    (hheld : Held S k c s₀ d name h) (hst : Staged S d name id content h) :
    Amid (Admits S k c) (Bears S k) (Plain S k c) (fun r h' => r = .ok () → Staged S d name id (content ++ bytes) h')
      (writeAll id fuel content.length bytes) h := by
  induction fuel generalizing content bytes h with
  | zero =>
    intro _
    rw [List.eq_nil_of_length_eq_zero (Nat.le_zero.1 hfuel), List.append_nil]
    exact hst
  | succ fuel ih =>
    unfold writeAll
    split
    · next hnil =>
      intro _
      rw [hnil, List.append_nil]
      exact hst
    refine held_seq (amid_writeAt hheld hst) hheld (fun n h₁ hheld₁ hr => ?_) fun _ _ _ _ hok => by cases hok
    obtain ⟨m, hn, hst₁⟩ := hr n rfl
    have hdrop : bytes.drop n = bytes.drop (m + 1) := by
      rw [hn, List.length_take]
      rcases Nat.le_total (m + 1) bytes.length with hle | hle
      · rw [min_eq_left hle]
      · rw [min_eq_right hle, List.drop_length, List.drop_eq_nil_of_le hle]
    have hlength : content.length + n = (content ++ bytes.take (m + 1)).length := by rw [List.length_append, hn]
    have hfuel : (bytes.drop (m + 1)).length ≤ fuel := by
      rw [List.length_drop]
      omega
    have hrest := ih hfuel hheld₁ hst₁
    rw [List.append_assoc, List.take_append_drop] at hrest
    rw [hdrop, hlength]
    exact hrest

/-- Mode and times may change. -/
theorem amid_changeInode {f : Answer → Inode → Inode} (hf : ∀ i j, (f i j).node = j.node)
    (hheld : Held S k c s₀ d name h) (hst : Staged S d name id content h) :
    Amid (Admits S k c) (Bears S k) (Plain S k c) (fun r h' => r = .ok () → Staged S d name id content h')
      (change fun i fs => match fs.inodes id with
        | some inode => .ok ((), fs.put id (f i inode))
        | none => .error (.osError "Stale file handle")) h := by
  refine amid_changeUnless (fun h => plain_now h) (fun h₁ hh₁ i _ _ fs hact => ?_) fun _ _ _ => nofun
  have hst₁ := hst.disturbed hheld.owned hh₁
  obtain ⟨permissions, extent, mtimeNs, ctimeNs, hinode⟩ := hst₁.inode
  rw [hinode] at hact
  cases hact
  obtain ⟨hplain, hst₂⟩ := hst₁.put (k := k) (c := c) (i := f i ⟨.file content, permissions, extent, mtimeNs, ctimeNs⟩)
    (hf _ _)
  exact ⟨hplain, fun _ => hst₂⟩

theorem amid_fchmod {mode : Nat} (hheld : Held S k c s₀ d name h) (hst : Staged S d name id content h) :
    Amid (Admits S k c) (Bears S k) (Plain S k c) (fun r h' => r = .ok () → Staged S d name id content h')
      (fchmod id mode) h :=
  amid_changeInode (f := fun i inode => { inode with permissions := mode, ctimeNs := i.time }) (fun _ _ => rfl) hheld hst

theorem amid_futime {mtimeNs : Nat} (hheld : Held S k c s₀ d name h) (hst : Staged S d name id content h) :
    Amid (Admits S k c) (Bears S k) (Plain S k c) (fun r h' => r = .ok () → Staged S d name id content h')
      (futime id mtimeNs) h :=
  amid_changeInode (f := fun i inode => { inode with mtimeNs := mtimeNs, ctimeNs := i.time }) (fun _ _ => rfl) hheld hst

/-- A target's name that was free was given to a file of the call. -/
def LinkedAt (S : Setting) (h : History Filesystem) (d : FileId) (name : String) : Prop :=
  ∃ (g : History Filesystem) (s : Filesystem) (id : FileId), Before (g.own s) h ∧ S.ours d name ∧
    g.now.entry d name = none ∧ s.entry d name = some id ∧ Made g id

theorem tempName_ne {target token : String} : tempName target token ≠ ".." := by
  intro heq
  have hlength := congrArg String.length heq
  have htmp : ".tmp".length = 4 := rfl
  have hdots : "..".length = 2 := rfl
  simp only [tempName, String.length_append] at hlength
  omega

/-- Where a directory that was reached is the target's, its name there is one that others leave alone. -/
theorem Admits.ours_of_reached {i : Answer} (hi : Admits S k c i h.now) (hled : Going S k c s₀ h)
    (hvalid : c.Valid S) (hpath : c.IsTarget path) (hd : Reached h (parentPath path) d) : S.ours d (nameOf path) := by
  refine hi.ours path d hpath ((hled.down hd).resolve fun hmem => ?_)
  exact (hvalid path hpath).1 (List.dropLast_subset _ hmem)

/-- The temporary file gets the target's name, if that is free. -/
theorem amid_linkAt (hvalid : c.Valid S) (hpath : c.IsTarget path) (hheld : Held S k c s₀ d name h)
    (hst : Staged S d name id content h) (hd : Reached h (parentPath path) d)
    (hcomplete : c.Completes S.sha256 (nameOf path) content) :
    Amid (Admits S k c) (Bears S k) (Plain S k c) (fun r h' => match r with
      | .ok _ => LinkedAt S h' d (nameOf path)
      | .error _ => Staged S d name id content h') (linkAt d name (nameOf path)) h := by
  refine amid_changeUnless (fun h => plain_now h) (fun h₁ hh₁ i hi _ fs hact => ?_)
    fun h₁ hh₁ _ => (hst.disturbed hheld.owned hh₁).idle rfl
  have hst₁ := hst.disturbed hheld.owned hh₁
  have hheld₁ := hheld.disturbed hh₁
  obtain ⟨fs', hlink, hret⟩ := bind_eq_ok.1 hact
  cases hret
  have hn : name ≠ ".." := by
    obtain ⟨target, token, rfl⟩ := S.drawn _ _ hheld.owned
    exact tempName_ne
  obtain ⟨hfree, hm, rfl⟩ := Filesystem.link_eq hst₁.entry hn hst₁.content hlink
  have hours := hi.ours_of_reached hheld₁.led hvalid hpath (hd.later (Before.of_leads hh₁))
  have hentry : (h₁.now.setEntry d (nameOf path) (some id) i.time).entry d (nameOf path) = some id :=
    entry_setEntry (isDirectory_of_entry hst₁.entry) hm
  refine ⟨⟨⟨keepsDirectories_setEntry fun old hold => ?_, fun e j hj he => Or.inl ((inodes_setEntry he).trans hj),
    fun e hnone hsome => ?_, fun e m => ?_⟩, fun e hnone => ?_⟩, h₁, _, id, .refl, hours, hfree, hentry, hst₁.made⟩
  · rw [hfree] at hold
    cases hold
  · rw [inodes_setEntry (isDirectory_of_none hnone), hnone] at hsome
    cases hsome
  · by_cases hem : e = d ∧ m = nameOf path
    · obtain ⟨rfl, rfl⟩ := hem
      exact Or.inr (.published hours hentry hst₁.made hst₁.hidden hst₁.content (content_setEntry.trans hst₁.content)
        hcomplete fun _ => hfree)
    · exact Or.inl (entry_setEntry_ne hem)
  · rw [content_setEntry, Filesystem.content, Filesystem.node, hnone]
    rfl

/-- The temporary file gets the target's name, whoever has it, and loses its own. -/
theorem amid_replaceAt (hvalid : c.Valid S) (hpath : c.IsTarget path) (hreplaces : c.replaces)
    (hheld : Held S k c s₀ d name h) (hst : Staged S d name id content h) (hd : Reached h (parentPath path) d)
    (hcomplete : c.Completes S.sha256 (nameOf path) content) :
    Amid (Admits S k c) (Bears S k) (Plain S k c) (fun r h' => ∀ a, r = .ok a → Removed S k c s₀ d name h')
      (replaceAt d name (nameOf path)) h := by
  refine amid_changeUnless (fun h => plain_now h) (fun h₁ hh₁ i hi _ fs hact => ?_) fun _ _ _ => nofun
  have hst₁ := hst.disturbed hheld.owned hh₁
  have hheld₁ := hheld.disturbed hh₁
  obtain ⟨fs', hrename, hret⟩ := bind_eq_ok.1 hact
  cases hret
  -- the name is the target's own, and no temporary one
  have hours := hi.ours_of_reached hheld₁.led hvalid hpath (hd.later (Before.of_leads hh₁))
  have hnames : nameOf path ≠ name := by
    intro heq
    have hunowned := S.unowned _ _ hours
    rw [heq, hheld.owned] at hunowned
    cases hunowned
  have hfile : h₁.now.isDirectory id = false := isDirectory_of_content (by rw [hst₁.content]; rfl)
  obtain ⟨hm, hold, rfl⟩ := Filesystem.rename_eq hst₁.entry hfile
    (fun heq => hnames (hst₁.alone _ _ heq).2) hrename
  have hdir := isDirectory_of_entry hst₁.entry
  have hn : name ≠ "" := by
    obtain ⟨target, token, rfl⟩ := S.drawn _ _ hheld.owned
    intro heq
    have hlength := congrArg String.length heq
    simp [tempName, String.length_append] at hlength
  have hfirst : ∀ e m, ¬(e = d ∧ m = name) →
      (h₁.now.setEntry d name none i.time).entry e m = h₁.now.entry e m := fun e m hem => entry_setEntry_ne hem
  have hentry : ((h₁.now.setEntry d name none i.time).setEntry d (nameOf path) (some id) i.time).entry d (nameOf path)
      = some id := entry_setEntry (isDirectory_setEntry.trans hdir) hm
  have hgone : ((h₁.now.setEntry d name none i.time).setEntry d (nameOf path) (some id) i.time).entry d name = none := by
    rw [entry_setEntry_ne fun hem => hnames hem.2.symm]
    exact entry_setEntry hdir hn
  have hinodes : ∀ e, h₁.now.isDirectory e = false →
      ((h₁.now.setEntry d name none i.time).setEntry d (nameOf path) (some id) i.time).inodes e = h₁.now.inodes e :=
    fun e he => (inodes_setEntry (isDirectory_setEntry.trans he)).trans (inodes_setEntry he)
  -- two names change: the target's, to what is complete, and the temporary one, which goes
  have hplain : Plain S k c h₁
      ((h₁.now.setEntry d name none i.time).setEntry d (nameOf path) (some id) i.time) := by
    refine ⟨⟨(keepsDirectories_setEntry fun old hold' => ?_).trans (keepsDirectories_setEntry fun old hold' => ?_),
      fun e j hj he => Or.inl ((hinodes e he).trans hj), fun e hnone hsome => ?_, fun e m => ?_⟩, fun e hnone => ?_⟩
    · rw [hst₁.entry] at hold'
      cases hold'
      exact hfile
    · rw [hfirst _ _ fun hem => hnames hem.2] at hold'
      exact isDirectory_setEntry.trans (hold old hold')
    · rw [hinodes e (isDirectory_of_none hnone), hnone] at hsome
      cases hsome
    · by_cases htarget : e = d ∧ m = nameOf path
      · obtain ⟨rfl, rfl⟩ := htarget
        exact Or.inr (.published hours hentry hst₁.made hst₁.hidden hst₁.content
          ((content_setEntry.trans content_setEntry).trans hst₁.content) hcomplete fun hno => (hno hreplaces).elim)
      · by_cases htemp : e = d ∧ m = name
        · obtain ⟨rfl, rfl⟩ := htemp
          refine Or.inr (.temporary hheld₁.owned fun j hj => ?_)
          rw [hgone] at hj
          cases hj
        · exact Or.inl ((entry_setEntry_ne htarget).trans (hfirst e m htemp))
    · rw [content_setEntry, content_setEntry, Filesystem.content, Filesystem.node, hnone]
      rfl
  exact ⟨hplain, fun _ _ => ⟨hheld₁.own hplain, hgone⟩⟩

end Filling

/-! ## `atomic_write_bytes` -/

section Closing

variable {S : Setting} {k : Nat} {c : StoreCall} {h : History Filesystem} {s₀ : Filesystem} {d temp : FileId}
  {name : String} {content : Bytes} {path target : Path} {α : Type} {permissions mode : Option Nat}
  {durability : DurabilityMode} {Q : Except FilesystemError α → History Filesystem → Prop}

/-- Closing a directory at the end takes nothing back. -/
theorem amid_closing {p : Sys α} (hother : ∀ r h s, Q r h → Bears S k h s → Q r (h.other s))
    (hidle : ∀ r h, Q r h → Q r (h.own h.now)) (herror : ∀ r e h, Q r h → Q (.error e) h)
    (hp : Amid (Admits S k c) (Bears S k) (May S k c) Q p h) :
    Amid (Admits S k c) (Bears S k) (May S k c) Q (finallyDo p close) h := by
  refine amid_outcome_seq hp fun r h₁ hr => ?_
  refine amid_keeping_seq (P := fun h => Q r h) (R := Idle) (Q := fun _ _ => True) (fun h s hQ hs => hother r h s hQ hs)
    (fun h s hQ hs => by rw [show s = h.now from hs]; exact hidle r h hQ) (fun _ _ hs => .idle hs)
    (amid_looks (looks_look _)) hr (fun _ h₂ hQ _ => amid_ofExcept hQ) fun e h₂ hQ _ => herror r e h₂ hQ

theorem amid_tryMode (hheld : Held S k c s₀ d name h) (hst : Staged S d name temp content h) :
    Amid (Admits S k c) (Bears S k) (Plain S k c) (fun r h' => r = .ok () → Staged S d name temp content h')
      (mode.elim (ret ()) (fchmod temp)) h := by
  cases mode with
  | none => exact fun _ => hst
  | some mode => exact amid_fchmod hheld hst

/-- The content is written, and gets the target's name. -/
theorem amid_publishWritten (hvalid : c.Valid S) (hpath : c.IsTarget target) (hreplaces : c.replaces)
    (hcomplete : c.Completes S.sha256 (nameOf target) content) (hheld : Held S k c s₀ d name h)
    (hst : Staged S d name temp [] h) (hd : Reached h (parentPath target) d) :
    Amid (Admits S k c) (Bears S k) (Plain S k c) (fun r h' => ∀ a, r = .ok a → Removed S k c s₀ d name h')
      (fillAndReplace target content mode durability d temp name) h := by
  refine staged_seq (amid_looks looks_ensureDescriptorMatches) hheld hst (fun _ h₁ hheld₁ hst₁ l₁ _ => ?_)
    fun _ _ _ => nofun
  refine staged_seq (amid_looks looks_fdopen) hheld₁ hst₁ (fun _ h₂ hheld₂ hst₂ l₂ _ => ?_) fun _ _ _ => nofun
  have hwrite := amid_writeAll (Nat.le_refl content.length) hheld₂ hst₂
  rw [List.nil_append] at hwrite
  refine held_seq (amid_leads hwrite) hheld₂ (fun _ h₃ hheld₃ hr₃ => ?_) fun _ _ _ _ => nofun
  obtain ⟨hst₃, l₃⟩ := hr₃
  refine held_seq (amid_leads (amid_tryMode hheld₃ (hst₃ rfl))) hheld₃ (fun _ h₄ hheld₄ hr₄ => ?_) fun _ _ _ _ => nofun
  obtain ⟨hst₄, l₄⟩ := hr₄
  refine staged_seq (amid_looks looks_durableFsync) hheld₄ (hst₄ rfl) (fun _ h₅ hheld₅ hst₅ l₅ _ => ?_) fun _ _ _ => nofun
  refine staged_seq (amid_looks looks_ensureOpenFileMatchesChild) hheld₅ hst₅ (fun _ h₆ hheld₆ hst₆ l₆ _ => ?_)
    fun _ _ _ => nofun
  refine staged_seq (amid_looks looks_ensureDescriptorMatches) hheld₆ hst₆ (fun _ h₇ hheld₇ hst₇ l₇ _ => ?_)
    fun _ _ _ => nofun
  refine staged_seq (amid_looks looks_ensureSafeChild) hheld₇ hst₇ (fun _ h₈ hheld₈ hst₈ l₈ _ => ?_) fun _ _ _ => nofun
  refine staged_seq (amid_looks (looks_look _)) hheld₈ hst₈ (fun _ h₉ hheld₉ hst₉ l₉ _ => ?_) fun _ _ _ => nofun
  have hbefore : Before h h₉ := ((((((((Before.of_leads l₁).trans (Before.of_leads l₂)).trans (Before.of_leads l₃)).trans
    (Before.of_leads l₄)).trans (Before.of_leads l₅)).trans (Before.of_leads l₆)).trans (Before.of_leads l₇)).trans
    (Before.of_leads l₈)).trans (Before.of_leads l₉)
  exact amid_replaceAt hvalid hpath hreplaces hheld₉ hst₉ (hd.later hbefore) hcomplete

/-- In a directory that was reached, the target is written and nothing is left over. -/
theorem amid_writingInDirectory (hvalid : c.Valid S) (hpath : c.IsTarget target) (hreplaces : c.replaces)
    (hcomplete : c.Completes S.sha256 (nameOf target) content) (hun : Unmade S k c s₀ h)
    (hd : Reached h (parentPath target) d) :
    Amid (Admits S k c) (Bears S k) (May S k c) (fun _ h' => S.tidy → Clear S h')
      (writeInDirectory target content permissions durability d) h := by
  have hexisting : Looks (existingPermissionsAt d (nameOf target)) := by
    refine eachStep_bind (fun found => ?_) (looks_orMissing (eachStep_bind (fun _ => by trivial) (looks_look _)))
    cases found with
    | none => trivial
    | some s => exact eachStep_bind (fun _ => by trivial) looks_requireRegularFile
  refine unmade_seq (amid_leads (plainly_looks hexisting)) hun (fun existingMode h₁ hun₁ hr₁ => ?_)
    fun _ _ hun₁ _ => hun₁.bare.clear
  refine unmade_seq (amid_leads (plainly_looks looks_ensureDescriptorMatches)) hun₁ (fun _ h₂ hun₂ hr₂ => ?_)
    fun _ _ hun₂ _ => hun₂.bare.clear
  refine amid_seq (amid_leads (amid_makeTempFile hun₂)) (fun made h₃ hr₃ => ?_) fun _ _ hr₃ _ => hr₃.1.bare.clear
  obtain ⟨⟨hheld₃, hst₃⟩, l₃⟩ := hr₃
  have hd₃ : Reached h₃ (parentPath target) d :=
    hd.later (((Before.of_leads hr₁.2).trans (Before.of_leads hr₂.2)).trans (Before.of_leads l₃))
  have hwritten : Amid (Admits S k c) (Bears S k) (Plain S k c) (fun r h' => ∀ a, r = .ok a → Removed S k c s₀ d made.2 h')
      (fillAndReplace target content (permissions.or existingMode) durability d made.1 made.2) h₃ :=
    amid_publishWritten hvalid hpath hreplaces hcomplete hheld₃ hst₃ hd₃
  refine amid_seq (maybe (amid_removing hheld₃ hwritten)) (fun _ h₄ hr₄ => ?_) fun _ _ hgone htidy => (hgone htidy).clear
  have hgone₄ := hr₄.2 _ rfl
  have hrest : Looks ((ensureDescriptorMatchesAfter "atomic write" d (parentPath target)).bind fun _ =>
      durableFsync durability) := eachStep_bind (fun _ => looks_durableFsync) looks_ensureDescriptorMatchesAfter
  refine amid_mono (fun _ _ hs => hs) ?_ (maybe (amid_keeps (fun _ _ hP hs => Removed.other hP hs)
    (fun _ _ hP hs => Removed.own hP hs) hgone₄ (plainly_looks hrest)))
  exact fun r h₅ hr _ => hr.2.clear

theorem amid_atomically (hvalid : c.Valid S) (hpath : c.IsTarget target) (hreplaces : c.replaces)
    (hcomplete : c.Completes S.sha256 (nameOf target) content) (hun : Unmade S k c s₀ h) :
    Amid (Admits S k c) (Bears S k) (May S k c) (fun _ h' => S.tidy → Clear S h')
      (atomicWriteBytes target content permissions durability) h := by
  have hsafe : ∀ h, Amid (Admits S k c) (Bears S k) (Plain S k c) (fun _ _ => True)
      (ensureSafeWritePath "atomic write" target) h := fun h => plainly_looks (looks_ensureSafeWritePath _ _)
  refine unmade_seq (hsafe h) hun (fun _ h₁ hun₁ _ => ?_) fun _ _ hun₁ _ => hun₁.bare.clear
  refine unmade_seq (harmless_mkdirParentForWrite (hvalid target hpath).2 h₁) hun₁ (fun _ h₂ hun₂ _ => ?_)
    fun _ _ hun₂ _ => hun₂.bare.clear
  refine unmade_seq (hsafe h₂) hun₂ (fun _ h₃ hun₃ _ => ?_) fun _ _ hun₃ _ => hun₃.bare.clear
  refine unmade_seq (plainly amid_openExistingDirectory) hun₃ (fun d h₄ hun₄ hd => ?_) fun _ _ hun₄ _ => hun₄.bare.clear
  exact amid_closing (fun _ _ _ hQ hs htidy => (hQ htidy).other hs) (fun _ _ hQ htidy => (hQ htidy).idle rfl)
    (fun _ _ _ hQ => hQ) (amid_writingInDirectory hvalid hpath hreplaces hcomplete hun₄ (hd d rfl))

end Closing

end SafeFsOps.Descriptors
