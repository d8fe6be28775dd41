import SafeFsOps.FilesystemOps.StorePublication

/-!
# Stores under many hands

Any number of calls that publish files or read what was published, side by side, among
processes that do what they like with everything else. What each call does alone is
`amid_storeCall`; here the calls are put together.

> `Consistent`: no file is the work of two calls, what was published is complete and stays so,
> and where a target is, there is what was there in the beginning or the work of one call.
> `Fit`: every step that a call may make keeps that, and is one that the others bear.
-/

namespace SafeFsOps.Descriptors

open Program History Filesystem Crowd

/-! ## Who did what -/

section Seen

variable {S : Setting} {hs : List (StoreCall × History Filesystem)} {s s' : Filesystem} {d id : FileId} {name : String}
  {j k : Nat} {c : StoreCall} {h : History Filesystem}

/-- The call at `k` made the file. -/
def MadeBy (hs : List (StoreCall × History Filesystem)) (k : Nat) (id : FileId) : Prop :=
  ∃ m, hs[k]? = some m ∧ Made m.2 id

/-- The call at `k` published the file under some name. -/
def PublishedBy (S : Setting) (hs : List (StoreCall × History Filesystem)) (k : Nat) (id : FileId) : Prop :=
  ∃ m d name, hs[k]? = some m ∧ Publishes S m.2 d name id

/-- The call at `k` may have met the file. -/
def MetBy (S : Setting) (hs : List (StoreCall × History Filesystem)) (k : Nat) (id : FileId) : Prop :=
  ∃ m, hs[k]? = some m ∧ Met S m.2 id

/-- The call at `k` gave that name to a file of its own, when it was free. -/
def LinkedBy (S : Setting) (hs : List (StoreCall × History Filesystem)) (k : Nat) (d : FileId) (name : String) : Prop :=
  ∃ m, hs[k]? = some m ∧ LinkedAt S m.2 d name

/-- What there is where a target is. -/
inductive Whole (S : Setting) (s₀ : Filesystem) (hs : List (StoreCall × History Filesystem)) (s : Filesystem)
    (d : FileId) (name : String) : Prop
  /-- What was there in the beginning. -/
  | asBefore (entry : s.entry d name = s₀.entry d name)
      (same : ∀ id, s.entry d name = some id → s.isDirectory id = false → s.inodes id = s₀.inodes id)
  /-- A directory that was made on the way to a target further down. -/
  | directory {id : FileId} (entry : s.entry d name = some id) (directory : s.isDirectory id = true)
  /-- All that one call had to write. -/
  | published {k : Nat} {c : StoreCall} {h : History Filesystem} {id : FileId} {bytes : Bytes}
      (call : hs[k]? = some (c, h)) (entry : s.entry d name = some id) (publishes : Publishes S h d name id)
      (content : s.content id = some bytes) (complete : c.Completes S.sha256 name bytes)

/-- What the calls keep together. -/
structure Consistent (S : Setting) (s₀ : Filesystem) (hs : List (StoreCall × History Filesystem)) (s : Filesystem) :
    Prop where
  apart : ∀ j k id, MadeBy hs j id → MadeBy hs k id → j = k
  there : ∀ k id, MadeBy hs k id → (s.content id).isSome
  hidden : ∀ k id d name, MadeBy hs k id → s.entry d name = some id → S.owner name = none → PublishedBy S hs k id
  met : ∀ j id, MetBy S hs j id → (s.content id).isSome ∧ ∀ k, MadeBy hs k id → PublishedBy S hs k id
  complete : ∀ (k : Nat) (c : StoreCall) h d name id, hs[k]? = some (c, h) → Publishes S h d name id →
    Made h id ∧ ∃ content, s.content id = some content ∧ c.Completes S.sha256 name content
  linked : ∀ k d name, LinkedBy S hs k d name → (s.entry d name).isSome
  once : ∀ j k d name, LinkedBy S hs j d name → LinkedBy S hs k d name → j = k
  whole : ∀ d name, S.ours d name → Whole S s₀ hs s d name

/-- What is done outside the calls. -/
structure Outside (S : Setting) (hs : List (StoreCall × History Filesystem)) (s s' : Filesystem) : Prop where
  directories : KeepsDirectories s s'
  made : ∀ k id, MadeBy hs k id → s'.inodes id = s.inodes id
  met : ∀ k id, MetBy S hs k id → s'.inodes id = s.inodes id
  ours : ∀ d name, S.ours d name → s'.entry d name = s.entry d name
  files : ∀ d name id, S.ours d name → s.entry d name = some id → s.isDirectory id = false → s'.inodes id = s.inodes id
  drawn : ∀ d name k, S.owner name = some k → s'.entry d name = s.entry d name
  unnamed : ∀ k id d name, MadeBy hs k id → s'.entry d name = some id → s.entry d name = some id

/-! ### After a step of one call -/

theorem noted_getElem {m : StoreCall × History Filesystem} (hm : (noted k s' hs)[j]? = some m) :
    ∃ n, hs[j]? = some n ∧ m = (n.1, if j = k then n.2.own s' else n.2.other s') := by
  rw [noted, List.getElem?_mapIdx] at hm
  obtain ⟨n, hn, rfl⟩ := Option.map_eq_some_iff.1 hm
  exact ⟨n, hn, rfl⟩

theorem getElem_noted {n : StoreCall × History Filesystem} (hn : hs[j]? = some n) :
    (noted k s' hs)[j]? = some (n.1, if j = k then n.2.own s' else n.2.other s') := by
  rw [noted, List.getElem?_mapIdx, hn]
  rfl

theorem later_noted {n : StoreCall × History Filesystem} : Before n.2 (if j = k then n.2.own s' else n.2.other s') := by
  split
  · exact .own .refl trivial
  · exact .other .refl trivial

theorem MadeBy.noted (hmade : MadeBy hs j id) : MadeBy (noted k s' hs) j id := by
  obtain ⟨m, hm, hmade⟩ := hmade
  exact ⟨_, getElem_noted hm, hmade.later later_noted⟩

theorem PublishedBy.noted (hpub : PublishedBy S hs j id) : PublishedBy S (noted k s' hs) j id := by
  obtain ⟨m, d, name, hm, hpub⟩ := hpub
  exact ⟨_, d, name, getElem_noted hm, hpub.later later_noted⟩

theorem madeBy_noted (hnow : ∀ m ∈ hs, m.2.now = s) (hmade : MadeBy (noted k s' hs) j id) :
    MadeBy hs j id ∨ j = k ∧ s.inodes id = none ∧ (s'.content id).isSome := by
  obtain ⟨_, hm, hmade⟩ := hmade
  obtain ⟨n, hn, rfl⟩ := noted_getElem hm
  dsimp only at hmade
  split at hmade
  · next heq =>
    rcases made_own.1 hmade with hold | hnew
    · exact Or.inl ⟨n, hn, hold⟩
    · rw [hnow n (List.mem_of_getElem? hn)] at hnew
      exact Or.inr ⟨heq, hnew⟩
  · exact Or.inl ⟨n, hn, made_other.1 hmade⟩

theorem met_later {s' : Filesystem} {h h' : History Filesystem} (hmet : Met S h' id)
    (hh' : h' = h.own s' ∨ h' = h.other s') :
    Met S h id ∨ ∃ d name, S.ours d name ∧ s'.entry d name = some id ∧ (s'.content id).isSome := by
  obtain ⟨g, d, name, hg, hours, hentry, hfile⟩ := hmet
  rcases hh' with rfl | rfl
  · cases hg with
    | refl => exact Or.inr ⟨d, name, hours, hentry, hfile⟩
    | own hg _ => exact Or.inl ⟨g, d, name, hg, hours, hentry, hfile⟩
  · cases hg with
    | refl => exact Or.inr ⟨d, name, hours, hentry, hfile⟩
    | other hg _ => exact Or.inl ⟨g, d, name, hg, hours, hentry, hfile⟩

theorem metBy_noted (hmet : MetBy S (noted k s' hs) j id) :
    MetBy S hs j id ∨ ∃ d name, S.ours d name ∧ s'.entry d name = some id ∧ (s'.content id).isSome := by
  obtain ⟨_, hm, hmet⟩ := hmet
  obtain ⟨n, hn, rfl⟩ := noted_getElem hm
  dsimp only at hmet
  split at hmet
  · exact (met_later hmet (Or.inl rfl)).imp_left fun hold => ⟨n, hn, hold⟩
  · exact (met_later hmet (Or.inr rfl)).imp_left fun hold => ⟨n, hn, hold⟩

theorem linkedAt_own : LinkedAt S (h.own s) d name → LinkedAt S h d name ∨ S.ours d name ∧ h.now.entry d name = none ∧
    ∃ id, s.entry d name = some id ∧ Made h id := by
  rintro ⟨g, t, id, hg, hours, hfree, hentry, hmade⟩
  rcases before_own.1 hg with hg | ⟨rfl, rfl⟩
  · exact Or.inl ⟨g, t, id, hg, hours, hfree, hentry, hmade⟩
  · exact Or.inr ⟨hours, hfree, id, hentry, hmade⟩

theorem linkedAt_other : LinkedAt S (h.other s) d name ↔ LinkedAt S h d name := by
  simp only [LinkedAt, before_other]

theorem linkedBy_noted (hnow : ∀ m ∈ hs, m.2.now = s) (hlinked : LinkedBy S (noted k s' hs) j d name) :
    LinkedBy S hs j d name ∨ j = k ∧ S.ours d name ∧ s.entry d name = none ∧ (s'.entry d name).isSome := by
  obtain ⟨_, hm, hlinked⟩ := hlinked
  obtain ⟨n, hn, rfl⟩ := noted_getElem hm
  dsimp only at hlinked
  split at hlinked
  · next heq =>
    rcases linkedAt_own hlinked with hold | ⟨hours, hfree, id, hentry, -⟩
    · exact Or.inl ⟨n, hn, hold⟩
    · rw [hnow n (List.mem_of_getElem? hn)] at hfree
      exact Or.inr ⟨heq, hours, hfree, by rw [hentry]; rfl⟩
  · exact Or.inl ⟨n, hn, linkedAt_other.1 hlinked⟩

end Seen


/-! ## One step -/

section Steps

variable {S : Setting} {hs : List (StoreCall × History Filesystem)} {s s' s₀ : Filesystem} {d id : FileId}
  {name : String}
  {j k : Nat} {c : StoreCall} {h : History Filesystem}

/-- What a step of the call at `k` does, said of all of them. -/
structure StepOf (S : Setting) (hs : List (StoreCall × History Filesystem)) (k : Nat) (c : StoreCall)
    (s s' : Filesystem) : Prop where
  directories : KeepsDirectories s s'
  kept : ∀ id, (s.content id).isSome → (MadeBy hs k id → PublishedBy S hs k id) → s'.inodes id = s.inodes id
  there : ∀ id, (s.content id).isSome → (s'.content id).isSome
  old : ∀ id i, s.inodes id = some i → s.isDirectory id = false → s'.inodes id = some i ∨
    MadeBy hs k id ∧ ¬ PublishedBy S hs k id
  fresh : ∀ id, s.inodes id = none → (s'.inodes id).isSome → ∀ d name, s.entry d name ≠ some id
  names : ∀ d name, s'.entry d name = s.entry d name ∨ S.owner name = some k ∨
    (S.owner name = none ∧ s.entry d name = none ∧ ∃ id, s'.entry d name = some id ∧ s.inodes id = none ∧
      s'.isDirectory id = true) ∨
    S.ours d name ∧ ∃ id content, s'.entry d name = some id ∧ MadeBy hs k id ∧ ¬ PublishedBy S hs k id ∧
      s'.content id = some content ∧ c.Completes S.sha256 name content
  entered : ∀ id d name, (s.inodes id).isSome → s'.entry d name = some id → s.entry d name = some id ∨ MadeBy hs k id

theorem StepOf.of_may (hk : hs[k]? = some (c, h)) (hnow : h.now = s) (hmay : May S k c h s') :
    StepOf S hs k c s s' := by
  subst hnow
  -- what the member's own history tells, its place in the crowd tells
  have hmine : ∀ {id}, MadeBy hs k id → Made h id := by
    rintro id ⟨m, hm, hmade⟩
    rw [hk] at hm
    cases hm
    exact hmade
  have hnone : ∀ {id}, (∀ e m, ¬ Publishes S h e m id) → ¬ PublishedBy S hs k id := by
    rintro id hno ⟨m, d, name, hm, hpub⟩
    rw [hk] at hm
    cases hm
    exact hno d name hpub
  refine ⟨hmay.directories, fun id hfile hpub => ?_, fun id hfile => ?_, fun id i hi hdir => ?_, hmay.fresh,
    fun d name => ?_, fun id d name hthere hentry => ?_⟩
  · obtain ⟨i, hi⟩ := Option.isSome_iff_exists.1 (inodes_of_content hfile)
    rcases hmay.files id i hi (isDirectory_of_content hfile) with hsame | ⟨hmade, hno, -⟩
    · exact hsame.trans hi.symm
    · exact absurd (hpub ⟨_, hk, hmade⟩) (hnone hno)
  · obtain ⟨i, hi⟩ := Option.isSome_iff_exists.1 (inodes_of_content hfile)
    rcases hmay.files id i hi (isDirectory_of_content hfile) with hsame | ⟨-, -, hnew⟩
    · rw [content_of_inodes (hsame.trans hi.symm)]
      exact hfile
    · exact hnew
  · rcases hmay.files id i hi hdir with hsame | ⟨hmade, hno, -⟩
    · exact Or.inl hsame
    · exact Or.inr ⟨⟨_, hk, hmade⟩, hnone hno⟩
  · rcases hmay.names d name with hsame | hrenamed
    · exact Or.inl hsame
    cases hrenamed with
    | temporary hown => exact Or.inr (Or.inl hown)
    | directory hunowned hfree hentry hfresh hdirectory =>
      exact Or.inr (Or.inr (Or.inl ⟨hunowned, hfree, _, hentry, hfresh, hdirectory⟩))
    | published hours hentry hmade hhidden _ hafter hcomplete =>
      exact Or.inr (Or.inr (Or.inr ⟨hours, _, _, hentry, ⟨_, hk, hmade⟩, hnone hhidden, hafter, hcomplete⟩))
  · rcases hmay.names d name with hsame | hrenamed
    · exact Or.inl (hsame.symm.trans hentry)
    cases hrenamed with
    | temporary hown hfresh =>
      rw [(hfresh id hentry).1] at hthere
      cases hthere
    | directory hunowned hfree hentry' hfresh hdirectory =>
      rw [hentry] at hentry'
      cases hentry'
      rw [hfresh] at hthere
      cases hthere
    | published hours hentry' hmade =>
      rw [hentry] at hentry'
      cases hentry'
      exact Or.inr ⟨_, hk, hmade⟩

/-- A new name of a file of its own is published, unless it is a temporary one. -/
theorem publishedBy_noted (hk : hs[k]? = some (c, h)) (hnow : h.now = s) (hunowned : S.owner name = none)
    (hold : s.entry d name ≠ some id) (hentry : s'.entry d name = some id) (hfile : (s'.content id).isSome) :
    PublishedBy S (noted k s' hs) k id := by
  refine ⟨_, d, name, getElem_noted hk, ?_⟩
  rw [if_pos rfl]
  exact publishes_own.2 (Or.inr ⟨hunowned, hnow ▸ hold, hentry, isDirectory_of_content hfile⟩)

theorem publishes_noted (hnow : ∀ m ∈ hs, m.2.now = s) (hj : (noted k s' hs)[j]? = some (c, h))
    (hpub : Publishes S h d name id) : ∃ g, hs[j]? = some (c, g) ∧ Before g h ∧ (Publishes S g d name id ∨ j = k ∧
      S.owner name = none ∧ s.entry d name ≠ some id ∧ s'.entry d name = some id ∧ s'.isDirectory id = false) := by
  obtain ⟨⟨c', g⟩, hn, heq⟩ := noted_getElem hj
  cases heq
  refine ⟨g, hn, later_noted (n := (_, g)), ?_⟩
  dsimp only at hpub
  split at hpub
  · next hjk =>
    have hg : g.now = s := hnow _ (List.mem_of_getElem? hn)
    rw [← hg]
    exact (publishes_own.1 hpub).imp_right fun hnew => ⟨hjk, hnew⟩
  · exact Or.inl (publishes_other.1 hpub)

/-- What was there was made before. -/
theorem MadeBy.before (hmade : MadeBy (Crowd.noted k s' hs) j id) (hnow : ∀ m ∈ hs, m.2.now = s)
    (hthere : (s.inodes id).isSome) : MadeBy hs j id := by
  rcases madeBy_noted hnow hmade with hmade | ⟨-, hnone, -⟩
  · exact hmade
  · rw [hnone] at hthere
    cases hthere

section Kept

variable (hcons : Consistent S s₀ hs s) (hnow : ∀ m ∈ hs, m.2.now = s) (hk : hs[k]? = some (c, h))
  (hstep : StepOf S hs k c s s')

include hcons

theorem Consistent.inode (hmade : MadeBy hs j id) : (s.inodes id).isSome := inodes_of_content (hcons.there _ _ hmade)

include hnow

theorem Consistent.apart_step (hj : MadeBy (noted k s' hs) j id) {l : Nat}
    (hl : MadeBy (noted k s' hs) l id) : j = l := by
  rcases madeBy_noted hnow hj with hj' | ⟨rfl, hnone, -⟩
  · exact hcons.apart j l id hj' (hl.before hnow (hcons.inode hj'))
  rcases madeBy_noted hnow hl with hl' | ⟨rfl, -⟩
  · have hsome := hcons.inode hl'
    rw [hnone] at hsome
    cases hsome
  · rfl

theorem Consistent.linked_step (hstep : StepOf S hs k c s s') (hlinked : LinkedBy S (noted k s' hs) j d name) :
    (s'.entry d name).isSome := by
  rcases linkedBy_noted hnow hlinked with hlinked | ⟨-, -, -, hentry⟩
  · have hentry := hcons.linked j d name hlinked
    obtain ⟨id, hid⟩ := Option.isSome_iff_exists.1 hentry
    rcases hstep.names d name with hsame | hown | ⟨-, hfree, -⟩ | ⟨-, other, content, hother, -⟩
    · rw [hsame]
      exact hentry
    · obtain ⟨m, -, _, _, _, -, hours, -⟩ := hlinked
      rw [S.unowned d name hours] at hown
      cases hown
    · rw [hid] at hfree
      cases hfree
    · rw [hother]
      rfl
  · exact hentry

/-- A name is free for one link only. -/
theorem Consistent.once_step (hj : LinkedBy S (noted k s' hs) j d name) {l : Nat}
    (hl : LinkedBy S (noted k s' hs) l d name) :
    j = l := by
  rcases linkedBy_noted hnow hj with hj' | ⟨rfl, -, hfree, -⟩
  · rcases linkedBy_noted hnow hl with hl' | ⟨rfl, -, hfree, -⟩
    · exact hcons.once j l d name hj' hl'
    · have hentry := hcons.linked j d name hj'
      rw [hfree] at hentry
      cases hentry
  · rcases linkedBy_noted hnow hl with hl' | ⟨rfl, -⟩
    · have hentry := hcons.linked l d name hl'
      rw [hfree] at hentry
      cases hentry
    · rfl

include hstep

theorem Consistent.there_step (hmade : MadeBy (noted k s' hs) j id) : (s'.content id).isSome := by
  rcases madeBy_noted hnow hmade with hmade | ⟨-, -, hfile⟩
  · exact hstep.there id (hcons.there j id hmade)
  · exact hfile

/-- The others bear it. -/
theorem Consistent.bears {c' : StoreCall} {h' : History Filesystem} (hj : hs[j]? = some (c', h')) (hjk : j ≠ k) :
    Bears S j h' s' := by
  obtain rfl : h'.now = s := hnow _ (List.mem_of_getElem? hj)
  have hothers : ∀ {id}, Made h' id → ¬ MadeBy hs k id :=
    fun hmade hmine => hjk (hcons.apart j k _ ⟨_, hj, hmade⟩ hmine)
  refine ⟨hstep.directories, fun id hmade => ?_, fun id hmet => ?_, fun d name hown => ?_,
    fun id d name hmade hentry => ?_⟩
  · exact hstep.kept id (hcons.there j id ⟨_, hj, hmade⟩) fun hmine => absurd hmine (hothers hmade)
  · obtain ⟨hfile, hpub⟩ := hcons.met j id ⟨_, hj, hmet⟩
    exact hstep.kept id hfile (hpub k)
  · rcases hstep.names d name with hsame | hown' | ⟨hunowned, -⟩ | ⟨hours, -⟩
    · exact hsame
    · rw [hown] at hown'
      exact absurd (Option.some.inj hown') hjk
    · rw [hown] at hunowned
      cases hunowned
    · rw [S.unowned d name hours] at hown
      cases hown
  · exact (hstep.entered id d name (hcons.inode ⟨_, hj, hmade⟩) hentry).resolve_right (hothers hmade)

include hk

/-- A file that was not published has only temporary names. -/
theorem Consistent.hidden_step (hmade : MadeBy (noted k s' hs) j id) (hentry : s'.entry d name = some id)
    (hunowned : S.owner name = none) : PublishedBy S (noted k s' hs) j id := by
  by_cases hsame : s.entry d name = some id
  · -- the name is an old one, and so is the file
    have hmade' : MadeBy hs j id := by
      rcases madeBy_noted hnow hmade with hmade | ⟨rfl, hnone, hfile⟩
      · exact hmade
      · exact absurd hsame (hstep.fresh id hnone (inodes_of_content hfile) d name)
    exact (hcons.hidden j id d name hmade' hsame hunowned).noted
  · have hjk : j = k := by
      rcases madeBy_noted hnow hmade with hold | ⟨rfl, -⟩
      · exact hcons.apart j k id hold ((hstep.entered id d name (hcons.inode hold) hentry).resolve_left hsame)
      · rfl
    rw [hjk]
    exact publishedBy_noted hk (hnow _ (List.mem_of_getElem? hk)) hunowned hsame hentry
      (hcons.there_step hnow hstep hmade)

theorem Consistent.met_step (hmet : MetBy S (noted k s' hs) j id) :
    (s'.content id).isSome ∧ ∀ l, MadeBy (noted k s' hs) l id → PublishedBy S (noted k s' hs) l id := by
  rcases metBy_noted hmet with hmet | ⟨d, name, hours, hentry, hfile⟩
  · obtain ⟨hfile, hpub⟩ := hcons.met j id hmet
    exact ⟨hstep.there id hfile, fun l hmade =>
      (hpub l (hmade.before hnow (inodes_of_content hfile))).noted⟩
  · exact ⟨hfile, fun l hmade => hcons.hidden_step hnow hk hstep hmade hentry (S.unowned d name hours)⟩

/-- What was published is complete, and stays so. -/
theorem Consistent.complete_step {c' : StoreCall} {h' : History Filesystem} (hj : (noted k s' hs)[j]? = some (c', h'))
    (hpub : Publishes S h' d name id) :
    Made h' id ∧ ∃ content, s'.content id = some content ∧ c'.Completes S.sha256 name content := by
  obtain ⟨g, hg, hgh, hpub⟩ := publishes_noted hnow hj hpub
  rcases hpub with hpub | ⟨rfl, hunowned, hnew, hentry, hfile⟩
  · obtain ⟨hmade, content, hcontent, hcomplete⟩ := hcons.complete j c' g d name id hg hpub
    refine ⟨hmade.later hgh, content, ?_, hcomplete⟩
    rw [content_of_inodes (hstep.kept id (by rw [hcontent]; rfl) fun hmine => ?_)]
    · exact hcontent
    · obtain rfl := hcons.apart j k id ⟨_, hg, hmade⟩ hmine
      exact ⟨_, d, name, hg, hpub⟩
  · rw [hk] at hg
    cases hg
    rcases hstep.names d name with hsame | hown | ⟨-, -, other, hother, -, hdirectory⟩ |
      ⟨-, other, content, hother, hmade, -, hcontent, hcomplete⟩
    · exact absurd (hsame ▸ hentry) hnew
    · rw [hunowned] at hown
      cases hown
    · rw [hentry] at hother
      cases hother
      rw [hfile] at hdirectory
      cases hdirectory
    · rw [hentry] at hother
      cases hother
      obtain ⟨m, hm, hmade⟩ := hmade
      rw [hk] at hm
      cases hm
      exact ⟨hmade.later hgh, content, hcontent, hcomplete⟩

theorem Consistent.whole_step (hours : S.ours d name) : Whole S s₀ (noted k s' hs) s' d name := by
  have hunowned := S.unowned d name hours
  rcases hstep.names d name with hsame | hown | ⟨-, -, id, hentry, -, hdirectory⟩ |
    ⟨-, id, content, hentry, hmade, hhidden, hcontent, hcomplete⟩
  · cases hcons.whole d name hours with
    | asBefore hentry hfile =>
      refine .asBefore (hsame.trans hentry) fun id hid hdirectory => ?_
      rw [hsame] at hid
      have hold : s.isDirectory id = false := by
        rw [← Bool.not_eq_true]
        intro htrue
        rw [hstep.directories.directory id htrue] at hdirectory
        cases hdirectory
      rw [← hfile id hid hold]
      cases hi : s.inodes id with
      | none =>
        rw [Option.eq_none_iff_forall_ne_some]
        intro i hi'
        exact hstep.fresh id hi (by rw [hi']; rfl) d name hid
      | some i =>
        rcases hstep.old id i hi hold with hkept | ⟨hmade, hno⟩
        · exact hkept
        · exact absurd (hcons.hidden k id d name hmade hid hunowned) hno
    | directory hentry hdirectory =>
      exact .directory (hsame.trans hentry) (hstep.directories.directory _ hdirectory)
    | @published l c' h' id _ hcall hentry hpub =>
      have hcall' : (noted k s' hs)[l]? = some (c', if l = k then h'.own s' else h'.other s') := getElem_noted hcall
      have hlater : Before h' (if l = k then h'.own s' else h'.other s') := later_noted (n := (c', h'))
      obtain ⟨-, content, hcontent, hcomplete⟩ := hcons.complete_step hnow hk hstep hcall' (hpub.later hlater)
      exact .published hcall' (hsame.trans hentry) (hpub.later hlater) hcontent hcomplete
  · rw [hunowned] at hown
    cases hown
  · exact .directory hentry hdirectory
  · have hnew : s.entry d name ≠ some id := fun hold => hhidden (hcons.hidden k id d name hmade hold hunowned)
    have hcall : (noted k s' hs)[k]? = some (c, if k = k then h.own s' else h.other s') := getElem_noted hk
    rw [if_pos rfl] at hcall
    refine .published hcall hentry (publishes_own.2 (Or.inr ⟨hunowned, ?_, hentry, ?_⟩)) hcontent hcomplete
    · rw [hnow _ (List.mem_of_getElem? hk)]
      exact hnew
    · exact isDirectory_of_content (by rw [hcontent]; rfl)

/-- A step of one call keeps what the calls keep together. -/
theorem Consistent.step : Consistent S s₀ (noted k s' hs) s' where
  apart _ _ _ hj hl := hcons.apart_step hnow hj hl
  there _ _ hmade := hcons.there_step hnow hstep hmade
  hidden _ _ _ _ hmade hentry hunowned := hcons.hidden_step hnow hk hstep hmade hentry hunowned
  met _ _ hmet := hcons.met_step hnow hk hstep hmet
  complete _ _ _ _ _ _ hj hpub := hcons.complete_step hnow hk hstep hj hpub
  linked _ _ _ hlinked := hcons.linked_step hnow hstep hlinked
  once _ _ _ _ hj hl := hcons.once_step hnow hj hl
  whole _ _ hours := hcons.whole_step hnow hk hstep hours

end Kept

end Steps


/-! ## From outside -/

section Outsiders

variable {S : Setting} {hs : List (StoreCall × History Filesystem)} {s s' s₀ : Filesystem} {d id : FileId}
  {name : String}
  {j k : Nat} {c : StoreCall} {h : History Filesystem}

/-- Everybody sees what somebody else did. -/
def told (s' : Filesystem) (hs : List (StoreCall × History Filesystem)) : List (StoreCall × History Filesystem) :=
  hs.map fun m => (m.1, m.2.other s')

theorem told_getElem {m : StoreCall × History Filesystem} (hm : (told s' hs)[j]? = some m) :
    ∃ n, hs[j]? = some n ∧ m = (n.1, n.2.other s') := by
  rw [told, List.getElem?_map] at hm
  obtain ⟨n, hn, rfl⟩ := Option.map_eq_some_iff.1 hm
  exact ⟨n, hn, rfl⟩

theorem getElem_told {n : StoreCall × History Filesystem} (hn : hs[j]? = some n) :
    (told s' hs)[j]? = some (n.1, n.2.other s') := by
  rw [told, List.getElem?_map, hn]
  rfl

theorem madeBy_told : MadeBy (told s' hs) j id ↔ MadeBy hs j id := by
  constructor
  · rintro ⟨_, hm, hmade⟩
    obtain ⟨n, hn, rfl⟩ := told_getElem hm
    exact ⟨n, hn, made_other.1 hmade⟩
  · rintro ⟨n, hn, hmade⟩
    exact ⟨_, getElem_told hn, made_other.2 hmade⟩

theorem PublishedBy.told (hpub : PublishedBy S hs j id) : PublishedBy S (told s' hs) j id := by
  obtain ⟨m, d, name, hm, hpub⟩ := hpub
  exact ⟨_, d, name, getElem_told hm, publishes_other.2 hpub⟩

theorem linkedBy_told (hlinked : LinkedBy S (told s' hs) j d name) : LinkedBy S hs j d name := by
  obtain ⟨_, hm, hlinked⟩ := hlinked
  obtain ⟨n, hn, rfl⟩ := told_getElem hm
  exact ⟨n, hn, linkedAt_other.1 hlinked⟩

theorem LinkedBy.ours (hlinked : LinkedBy S hs j d name) : S.ours d name := by
  obtain ⟨m, -, _, _, _, -, hours, -⟩ := hlinked
  exact hours

variable (hcons : Consistent S s₀ hs s) (hout : Outside S hs s s')

include hcons hout

theorem Consistent.hidden_told (hmade : MadeBy (told s' hs) j id) (hentry : s'.entry d name = some id)
    (hunowned : S.owner name = none) : PublishedBy S (told s' hs) j id :=
  (hcons.hidden j id d name (madeBy_told.1 hmade) (hout.unnamed j id d name (madeBy_told.1 hmade) hentry) hunowned).told

theorem Consistent.complete_told (hj : (told s' hs)[j]? = some (c, h)) (hpub : Publishes S h d name id) :
    Made h id ∧ ∃ content, s'.content id = some content ∧ c.Completes S.sha256 name content := by
  obtain ⟨⟨c', g⟩, hn, heq⟩ := told_getElem hj
  cases heq
  obtain ⟨hmade, content, hcontent, hcomplete⟩ := hcons.complete j _ g d name id hn (publishes_other.1 hpub)
  exact ⟨made_other.2 hmade, content, (content_of_inodes (hout.made j id ⟨_, hn, hmade⟩)).trans hcontent, hcomplete⟩

theorem Consistent.met_told (hmet : MetBy S (told s' hs) j id) :
    (s'.content id).isSome ∧ ∀ k, MadeBy (told s' hs) k id → PublishedBy S (told s' hs) k id := by
  obtain ⟨_, hm, hmet⟩ := hmet
  obtain ⟨n, hn, rfl⟩ := told_getElem hm
  rcases met_later hmet (Or.inr rfl) with hold | ⟨d, name, hours, hentry, hfile⟩
  · obtain ⟨hfile, hpub⟩ := hcons.met j id ⟨n, hn, hold⟩
    refine ⟨?_, fun k hmade => (hpub k (madeBy_told.1 hmade)).told⟩
    rw [content_of_inodes (hout.met j id ⟨n, hn, hold⟩)]
    exact hfile
  · exact ⟨hfile, fun k hmade => hcons.hidden_told hout hmade hentry (S.unowned d name hours)⟩

theorem Consistent.whole_told (hours : S.ours d name) : Whole S s₀ (told s' hs) s' d name := by
  have hsame := hout.ours d name hours
  cases hcons.whole d name hours with
  | asBefore hentry hfile =>
    refine .asBefore (hsame.trans hentry) fun id hid hdirectory => ?_
    rw [hsame] at hid
    have hold : s.isDirectory id = false := by
      rw [← Bool.not_eq_true]
      intro htrue
      rw [hout.directories.directory id htrue] at hdirectory
      cases hdirectory
    exact (hout.files d name id hours hid hold).trans (hfile id hid hold)
  | directory hentry hdirectory => exact .directory (hsame.trans hentry) (hout.directories.directory _ hdirectory)
  | published hcall hentry hpub =>
    obtain ⟨-, content, hcontent, hcomplete⟩ :=
      hcons.complete_told hout (getElem_told hcall) (publishes_other.2 hpub)
    exact .published (getElem_told hcall) (hsame.trans hentry) (publishes_other.2 hpub) hcontent hcomplete

/-- What is done outside keeps what the calls keep together. -/
theorem Consistent.told : Consistent S s₀ (told s' hs) s' where
  apart j k id hj hk := hcons.apart j k id (madeBy_told.1 hj) (madeBy_told.1 hk)
  there j id hmade := by
    rw [content_of_inodes (hout.made j id (madeBy_told.1 hmade))]
    exact hcons.there j id (madeBy_told.1 hmade)
  hidden _ _ _ _ hmade hentry hunowned := hcons.hidden_told hout hmade hentry hunowned
  met _ _ hmet := hcons.met_told hout hmet
  complete _ _ _ _ _ _ hj hpub := hcons.complete_told hout hj hpub
  linked j d name hlinked := by
    rw [hout.ours d name (linkedBy_told hlinked).ours]
    exact hcons.linked j d name (linkedBy_told hlinked)
  once j k d name hj hk := hcons.once j k d name (linkedBy_told hj) (linkedBy_told hk)
  whole _ _ hours := hcons.whole_told hout hours

omit hcons in
/-- The calls bear it. -/
theorem Outside.bears (hnow : ∀ m ∈ hs, m.2.now = s) (hj : hs[j]? = some (c, h)) : Bears S j h s' := by
  obtain rfl : h.now = s := hnow _ (List.mem_of_getElem? hj)
  exact ⟨hout.directories, fun id hmade => hout.made j id ⟨_, hj, hmade⟩, fun id hmet => hout.met j id ⟨_, hj, hmet⟩,
    fun d name hown => hout.drawn d name j hown, fun id d name hmade => hout.unnamed j id d name ⟨_, hj, hmade⟩⟩

end Outsiders

/-! ## All together -/

section Together

variable {S : Setting} {hs : List (StoreCall × History Filesystem)} {s s' s₀ : Filesystem} {d id : FileId}
  {name : String}
  {j k : Nat} {c : StoreCall} {h h' : History Filesystem}

theorem met_start (hmet : Met S (start s) id) :
    ∃ d name, S.ours d name ∧ s.entry d name = some id ∧ (s.content id).isSome := by
  obtain ⟨g, d, name, hg, hours, hentry, hfile⟩ := hmet
  cases hg with
  | refl => exact ⟨d, name, hours, hentry, hfile⟩

/-- A call that has just started has done nothing. -/
theorem of_started {P : StoreCall × History Filesystem → Prop} (hno : ¬ P (c, start s))
    (h : ∃ m, (hs ++ [(c, start s)])[j]? = some m ∧ P m) : ∃ m, hs[j]? = some m ∧ P m := by
  obtain ⟨m, hm, hP⟩ := h
  rw [List.getElem?_append] at hm
  split at hm
  · exact ⟨m, hm, hP⟩
  · rw [List.getElem?_singleton] at hm
    split at hm
    · cases hm
      exact absurd hP hno
    · cases hm

theorem getElem_started {m : StoreCall × History Filesystem} (hm : hs[j]? = some m) :
    (hs ++ [(c, start s)])[j]? = some m := by
  obtain ⟨hlt, -⟩ := List.getElem?_eq_some_iff.1 hm
  rw [List.getElem?_append_left hlt]
  exact hm

theorem MadeBy.of_started (hmade : MadeBy (hs ++ [(c, start s)]) j id) : MadeBy hs j id :=
  Descriptors.of_started (P := fun m => Made m.2 id) made_start hmade

theorem LinkedBy.of_started (hlinked : LinkedBy S (hs ++ [(c, start s)]) j d name) : LinkedBy S hs j d name := by
  refine Descriptors.of_started (P := fun m => LinkedAt S m.2 d name) ?_ hlinked
  rintro ⟨_, _, _, hg, -⟩
  exact not_before_start hg

theorem PublishedBy.started (hpub : PublishedBy S hs j id) : PublishedBy S (hs ++ [(c, start s)]) j id := by
  obtain ⟨m, d, name, hm, hpub⟩ := hpub
  exact ⟨m, d, name, getElem_started hm, hpub⟩

theorem Consistent.started (hcons : Consistent S s₀ hs s) : Consistent S s₀ (hs ++ [(c, start s)]) s where
  apart j k id hj hk := hcons.apart j k id hj.of_started hk.of_started
  there j id hmade := hcons.there j id hmade.of_started
  hidden j id d name hmade hentry hunowned := (hcons.hidden j id d name hmade.of_started hentry hunowned).started
  met j id hmet := by
    obtain ⟨m, hm, hmet⟩ := hmet
    have hpast : ∀ {d name}, S.ours d name → s.entry d name = some id → ∀ k, MadeBy (hs ++ [(c, start s)]) k id →
        PublishedBy S (hs ++ [(c, start s)]) k id := fun hours hentry k hmade =>
      (hcons.hidden k id _ _ hmade.of_started hentry (S.unowned _ _ hours)).started
    by_cases hnew : m = (c, start s)
    · subst hnew
      obtain ⟨d, name, hours, hentry, hfile⟩ := met_start hmet
      exact ⟨hfile, hpast hours hentry⟩
    · obtain ⟨m', hm', hmet', -⟩ := Descriptors.of_started (P := fun m => Met S m.2 id ∧ m ≠ (c, start s))
        (fun h => h.2 rfl) ⟨m, hm, hmet, hnew⟩
      obtain ⟨hfile, hpub⟩ := hcons.met j id ⟨m', hm', hmet'⟩
      exact ⟨hfile, fun k hmade => (hpub k hmade.of_started).started⟩
  complete j c' h d name id hj hpub := by
    obtain ⟨m, hm, rfl, hpub'⟩ := Descriptors.of_started (P := fun m => m = (c', h) ∧ Publishes S m.2 d name id)
      (fun hno => publishes_start hno.2) ⟨_, hj, rfl, hpub⟩
    exact hcons.complete j c' h d name id hm hpub'
  linked j d name hlinked := hcons.linked j d name hlinked.of_started
  once j k d name hj hk := hcons.once j k d name hj.of_started hk.of_started
  whole d name hours := by
    cases hcons.whole d name hours with
    | asBefore hentry hfile => exact .asBefore hentry hfile
    | directory hentry hdirectory => exact .directory hentry hdirectory
    | published hcall hentry hpub hcontent hcomplete =>
      exact .published (getElem_started hcall) hentry hpub hcontent hcomplete

/-- Before there is any call. -/
theorem consistent_nil : Consistent S s [] s where
  apart j k id hj _ := by
    obtain ⟨m, hm, -⟩ := hj
    cases hm
  there j id hmade := by
    obtain ⟨m, hm, -⟩ := hmade
    cases hm
  hidden j id d name hmade := by
    obtain ⟨m, hm, -⟩ := hmade
    cases hm
  met j id hmet := by
    obtain ⟨m, hm, -⟩ := hmet
    cases hm
  complete j c h d name id hm := by cases hm
  linked j d name hlinked := by
    obtain ⟨m, hm, -⟩ := hlinked
    cases hm
  once j k d name hj := by
    obtain ⟨m, hm, -⟩ := hj
    cases hm
  whole d name _ := .asBefore rfl fun _ _ _ => rfl

/-- The terms on which the calls work side by side, from `s₀` on. -/
def storeTerms (S : Setting) (s₀ : Filesystem) : Terms StoreCall Filesystem Answer FilesystemError StoreResult where
  calls c := c.Valid S
  inputs := Admits S
  outside := Outside S
  rely k _ := Bears S k
  may := May S
  ends _ c r h := ∃ s, Before (start s) h ∧ Ended S c (c.Returned S s) r h
  keeps := Consistent S s₀

/-- The calls fit together. -/
theorem storeTerms_fit : (storeTerms S s₀).Fit fun _ c => c.program S.sha256 where
  call hs s c hcons hvalid := by
    refine ⟨hcons.started, amid_mono (fun _ _ hs => hs) (fun r h hr => ?_) (amid_leads (amid_storeCall hvalid))⟩
    exact ⟨s, Before.of_leads hr.2, hr.1⟩
  run hs s s' k c h hcons hnow hk hmay := by
    have hstep := StepOf.of_may hk (hnow _ (List.mem_of_getElem? hk)) hmay
    exact ⟨hcons.step hnow hk hstep, fun j m hj hjk => hcons.bears hnow hstep hj hjk⟩
  other hs s s' hcons hnow hout := ⟨hcons.told hout, fun j m hj => hout.bears hnow hj⟩

end Together


/-! ## Runs -/

abbrev StoreMember := Member StoreCall Filesystem Answer FilesystemError StoreResult

abbrev StoreCrowd := Crowd StoreCall Filesystem Answer FilesystemError StoreResult

/-- A run of any number of calls, and of whatever is done outside them. -/
abbrev StoreRun := List (CrowdEvent StoreCall Answer Filesystem)

section Runs

variable {S : Setting} {s s' s₀ : Filesystem} {h h' : History Filesystem} {c : StoreCall} {k : Nat} {d d' : FileId}
  {way : Path} {p : StoreCrowd} {m : StoreMember} {r : Except FilesystemError StoreResult}

/-- Where a run leads to. -/
def storeRun (sha256 : Bytes → Digest) (s₀ : Filesystem) (run : StoreRun) : StoreCrowd :=
  after (Crowd.step fun _ c => c.program sha256) ⟨s₀, []⟩ run

/-- Every call is one of a file of its own, every answer is one the operating system can give,
and what is done outside is no business of the calls. -/
def FairRun (S : Setting) (s₀ : Filesystem) (run : StoreRun) : Prop :=
  AllSteps (Crowd.step fun _ c => c.program S.sha256) (storeTerms S s₀).Fair ⟨s₀, []⟩ run

theorem agrees_nil : Agrees (storeTerms S s₀) (⟨s₀, []⟩ : StoreCrowd) where
  keeps := consistent_nil
  amid _ _ hm := by cases hm
  leads _ _ hm := by cases hm
  now _ _ hm := by cases hm

theorem storeRun_agrees {run : StoreRun} (hfair : FairRun S s₀ run) :
    Agrees (storeTerms S s₀) (storeRun S.sha256 s₀ run) :=
  crowd_amid storeTerms_fit run agrees_nil hfair

theorem StoreCall.Returned.later {result : StoreResult} (hreturned : c.Returned S s₀ result h) (hh' : Before h h') :
    c.Returned S s₀ result h' := by
  cases c <;> cases result
  case atomicWriteBytes.done => trivial
  case putBytes.put => exact Stored.later hreturned hh'
  case putFile.put => exact ⟨hreturned.1.later hh', hreturned.2.later hh'⟩
  case verify.verified => exact fun htrue => (hreturned htrue).imp_right fun hhad => hhad.later hh'
  case copyTo.done => exact HadFile.later hreturned hh'
  all_goals exact hreturned

/-- What a call that has ended came to is still so. -/
theorem call_ended (hag : Agrees (storeTerms S s₀) p) (hm : p.members[k]? = some m) (hr : m.rest.result? = some r) :
    ∃ s, Before (start s) m.seen ∧ Ended S m.call (m.call.Returned S s) r m.seen := by
  obtain ⟨h, hsince, hamid⟩ := hag.amid k m hm
  obtain ⟨s, hstart, hend⟩ := amid_result hamid hr
  refine ⟨s, hstart.trans (Before.of_leads hsince), ?_⟩
  exact hsince.keeps (P := fun h => Ended S m.call (m.call.Returned S s) r h)
    (fun _ _ hP hs => hP.other (fun _ _ _ hh' hreturned => hreturned.later hh') hs) (fun _ _ _ hno => hno.elim) hend

theorem start_unique (hs : Before (start s) h) (hs' : Before (start s') h) : s = s' := by
  induction h with
  | start t =>
    cases hs
    cases hs'
    rfl
  | other h t ih =>
    cases hs with
    | other hs _ =>
      cases hs' with
      | other hs' _ => exact ih hs hs'
  | own h t ih =>
    cases hs with
    | own hs _ =>
      cases hs' with
      | own hs' _ => exact ih hs hs'

/-- There is one way down. -/
theorem Filesystem.Down.unique {fs : Filesystem} (hd : fs.Down way d) (hd' : fs.Down way d') : d = d' := by
  induction hd generalizing d' with
  | root =>
    generalize hway : ([] : Path) = way at hd'
    cases hd' with
    | root => rfl
    | child => simp at hway
  | @child way d next name _ hentry _ ih =>
    generalize hway : way ++ [name] = way' at hd'
    cases hd' with
    | root => simp at hway
    | child habove hentry' _ =>
      obtain ⟨rfl, hname⟩ := List.append_inj' hway rfl
      cases hname
      obtain rfl := ih habove
      exact Option.some.inj (hentry.symm.trans hentry')

/-! ## The store -/

/-- A call that puts something into a store. -/
def StoreCall.isPut : StoreCall → Prop
  | putBytes _ _ | putFile _ _ => True
  | _ => False

/-- The call puts that content into the store: it was given it, or a file that held it all the time. -/
def StoreCall.Puts (h : History Filesystem) (root : Path) (content : Bytes) : StoreCall → Prop
  | putBytes root' content' => root' = root ∧ content' = content
  | putFile root' source => root' = root ∧ ∃ s, Before (start s) h ∧ Stays (start s) h source content
  | _ => False

/-- During the call, at an instant, the path led to a file whose content has that digest and that length. -/
def FoundFile (S : Setting) (h : History Filesystem) (path : Path) (digest : Digest) (size : Nat) : Prop :=
  ∃ s, Before (start s) h ∧ HadFile S.sha256 (start s) h path digest size

/-- What a put that has returned says. -/
theorem put_returned {result : PutResult} (hag : Agrees (storeTerms S s₀) p) (hm : p.members[k]? = some m)
    (hr : m.rest.result? = some (.ok (.put result))) : ∃ s root, Before (start s) m.seen ∧
      Stored S s root result.ref.digest result.ref.size result m.seen ∧
      ∀ root' content, m.call.Puts m.seen root' content →
        root' = root ∧ result.ref.digest = S.sha256 content ∧ result.ref.size = content.length := by
  obtain ⟨s, hstart, hend⟩ := call_ended hag hm hr
  have hreturned := hend.returned _ rfl
  revert hreturned
  cases hcall : m.call with
  | atomicWriteBytes | verify | copyTo => exact False.elim
  | putBytes root content =>
    intro hstored
    have href := hstored.ref
    obtain ⟨⟨digest, size, path⟩, created⟩ := result
    cases href
    refine ⟨s, root, hstart, hstored, fun root' content' hputs => ?_⟩
    obtain ⟨rfl, rfl⟩ := hputs
    exact ⟨rfl, rfl, rfl⟩
  | putFile root source =>
    intro hstored
    refine ⟨s, root, hstart, hstored.1, fun root' content hputs => ?_⟩
    obtain ⟨rfl, s', hstart', hstays⟩ := hputs
    obtain rfl := start_unique hstart hstart'
    exact ⟨rfl, hstored.2 content hstays⟩

/-- What holds of the store at the end of a run. -/
structure Integrity (S : Setting) (p : StoreCrowd) : Prop where
  /-- What a put published has its digest for its name, and has it still. -/
  published : ∀ (k : Nat) (m : StoreMember) d name id, p.members[k]? = some m → m.call.isPut →
    Publishes S m.seen d name id →
    ∃ content, p.now.content id = some content ∧ name = (S.sha256 content).text
  /-- What a put returns was there: another object in its place has been rejected. -/
  found : ∀ (k : Nat) (m : StoreMember) (result : PutResult), p.members[k]? = some m →
    m.rest.result? = some (.ok (.put result)) →
    FoundFile S m.seen result.ref.path result.ref.digest result.ref.size
  /-- It is determined by the content. -/
  same : ∀ (k : Nat) (m : StoreMember) (result : PutResult) root content, p.members[k]? = some m →
    m.rest.result? = some (.ok (.put result)) → m.call.Puts m.seen root content →
    result.ref = ⟨S.sha256 content, content.length, objectPath root (S.sha256 content)⟩
  /-- An object is created once. -/
  once : ∀ (j k : Nat) (m n : StoreMember) (result result' : PutResult),
    p.members[j]? = some m → p.members[k]? = some n →
    m.rest.result? = some (.ok (.put result)) → n.rest.result? = some (.ok (.put result')) →
    result.created = true → result'.created = true → result.ref.path = result'.ref.path → j = k
  verified : ∀ (k : Nat) (m : StoreMember) root ref, p.members[k]? = some m → m.call = .verify root ref →
    m.rest.result? = some (.ok (.verified true)) → FoundFile S m.seen ref.path ref.digest ref.size
  copied : ∀ (k : Nat) (m : StoreMember) root req, p.members[k]? = some m → m.call = .copyTo root req →
    m.rest.result? = some (.ok .done) → FoundFile S m.seen req.destination req.ref.digest req.ref.size

/-- **Store integrity**, whatever calls run side by side, and in whatever order their steps come. -/
theorem store_integrity {run : StoreRun} (hfair : FairRun S s₀ run) : Integrity S (storeRun S.sha256 s₀ run) := by
  have hag := storeRun_agrees hfair
  refine
    { published := fun k m d name id hm hput hpub => ?_
      found := fun k m result hm hr => ?_
      same := fun k m result root content hm hr hputs => ?_
      once := fun j k m n result result' hm hn hr hr' hnew hnew' hpath => ?_
      verified := fun k m root ref hm hcall hr => ?_
      copied := fun k m root req hm hcall hr => ?_ }
  · obtain ⟨-, content, hcontent, hcomplete⟩ := hag.keeps.complete k m.call m.seen d name id (seen_getElem hm) hpub
    refine ⟨content, hcontent, ?_⟩
    revert hput hcomplete
    cases m.call with
    | atomicWriteBytes | verify | copyTo => exact fun hno => hno.elim
    | putBytes root content' => exact fun _ hcomplete => hcomplete.2
    | putFile root source => exact fun _ hcomplete => hcomplete
  · obtain ⟨s, root, hstart, hstored, -⟩ := put_returned hag hm hr
    rw [hstored.ref]
    exact ⟨s, hstart, hstored.had⟩
  · obtain ⟨s, root', -, hstored, hwhich⟩ := put_returned hag hm hr
    obtain ⟨rfl, hdigest, hsize⟩ := hwhich root content hputs
    rw [hstored.ref, hdigest, hsize]
  · obtain ⟨s, root, -, hstored, -⟩ := put_returned hag hm hr
    obtain ⟨s', root', -, hstored', -⟩ := put_returned hag hn hr'
    obtain ⟨d, hd, hlinked⟩ := hstored.new hnew
    obtain ⟨d', hd', hlinked'⟩ := hstored'.new hnew'
    have hobject : objectPath root result.ref.digest = objectPath root' result'.ref.digest := by
      rw [hstored.ref, hstored'.ref] at hpath
      exact hpath
    rw [← hobject] at hd' hlinked'
    -- both names are in the one directory that the path of the object is in
    have hsame : d = d' := by
      obtain ⟨t, hled⟩ := hag.leads j m hm
      obtain ⟨t', hled'⟩ := hag.leads k n hn
      have hdown := Going.down hled hd
      have hdown' := Going.down hled' hd'
      rw [hag.now j m hm] at hdown
      rw [hag.now k n hn] at hdown'
      exact hdown.unique hdown'
    rw [← hsame] at hlinked'
    exact hag.keeps.once j k d _ ⟨_, seen_getElem hm, hlinked⟩ ⟨_, seen_getElem hn, hlinked'⟩
  · obtain ⟨s, hstart, hend⟩ := call_ended hag hm hr
    have hreturned := hend.returned _ rfl
    rw [hcall] at hreturned
    obtain ⟨hpath, hhad⟩ := hreturned rfl
    rw [hpath]
    exact ⟨s, hstart, hhad⟩
  · obtain ⟨s, hstart, hend⟩ := call_ended hag hm hr
    have hreturned := hend.returned _ rfl
    rw [hcall] at hreturned
    exact ⟨s, hstart, hreturned⟩

end Runs


/-! ## Publication -/

section Publication

variable {S : Setting} {s s' s₀ : Filesystem} {h h' : History Filesystem} {c : StoreCall} {k : Nat} {d id : FileId}
  {name : String} {p : StoreCrowd}

/-- What a call has made is a file. -/
theorem Going.made_there (hled : Going S k c s₀ h) (hmade : Made h id) : (h.now.content id).isSome := by
  refine Leads.keeps (P := fun h => ∀ id, Made h id → (h.now.content id).isSome) (fun g s hP hs id hmade => ?_)
    (fun g s hP hs id hmade => ?_) hled (fun id hmade => absurd hmade made_start) id hmade
  · rw [made_other] at hmade
    rw [now_other, content_of_inodes (hs.made id hmade)]
    exact hP id hmade
  · rcases made_own.1 hmade with hmade | ⟨-, hfile⟩
    · obtain ⟨i, hi⟩ := Option.isSome_iff_exists.1 (inodes_of_content (hP id hmade))
      rcases hs.files id i hi (isDirectory_of_content (hP id hmade)) with hsame | ⟨-, -, hfile⟩
      · rw [now_own, content_of_inodes (hsame.trans hi.symm)]
        exact hP id hmade
      · exact hfile
    · exact hfile

/-- A step that leaves a name as it is, with the file under it; or makes a directory where nothing was. -/
def LeavesAlone (d : FileId) (name : String) (s s' : Filesystem) : Prop :=
  (s'.entry d name = s.entry d name ∧
    ∀ id, s.entry d name = some id → s.isDirectory id = false → s'.inodes id = s.inodes id) ∨
  s.entry d name = none ∧ ∃ id, s'.entry d name = some id ∧ s'.isDirectory id = true

/-- What holds of the targets and of the temporary files at the end of a run, or where it has come to. -/
structure AllOrNothing (S : Setting) (s₀ : Filesystem) (p : StoreCrowd) : Prop where
  /-- There is what was there in the beginning, or all that one call had to write. -/
  whole : ∀ d name, S.ours d name → Whole S s₀ p.seen p.now d name
  /-- A call that has not published anything has left everything there as it was. -/
  untouched : ∀ (k : Nat) (m : StoreMember), p.members[k]? = some m → (∀ d name id, ¬ Publishes S m.seen d name id) →
    ∀ (g : History Filesystem) (s : Filesystem), Before (g.own s) m.seen → ∀ d name, S.ours d name →
      LeavesAlone d name g.now s
  /-- A call that has ended has no temporary file, if temporary files can be opened and unlinked, and
  nobody else had published the object of a put while it held its own temporary file. -/
  clear : ∀ (k : Nat) (m : StoreMember) r, p.members[k]? = some m → m.rest.result? = some r → S.tidy →
    ¬ Overtaken S m.call m.seen → Clear S m.seen

theorem untouched_of_unpublished {m : StoreMember} (hag : Agrees (storeTerms S s₀) p) (hm : p.members[k]? = some m)
    (hno : ∀ d name id, ¬ Publishes S m.seen d name id) {g : History Filesystem} (hg : Before (g.own s) m.seen)
    (hours : S.ours d name) : LeavesAlone d name g.now s := by
  obtain ⟨t, hled⟩ := hag.leads k m hm
  have hmay : May S k m.call g s := (hled.own_before hg).resolve_left not_before_start
  have hgo : Going S k m.call t g := (hled.split (Leads.trans (.own .refl trivial) hg)).1
  rcases hmay.names d name with hsame | hrenamed
  · refine Or.inl ⟨hsame, fun id hentry hdirectory => ?_⟩
    cases hi : g.now.inodes id with
    | none =>
      rw [Option.eq_none_iff_forall_ne_some]
      intro i hi'
      exact hmay.fresh id hi (by rw [hi']; rfl) d name hentry
    | some i =>
      rcases hmay.files id i hi hdirectory with hkept | ⟨hmade, -, -⟩
      · exact hkept
      · -- a file of its own under that name would have been published
        have hmet : Met S m.seen id :=
          ⟨g, d, name, Leads.trans (.own .refl trivial) hg, hours, hentry, hgo.made_there hmade⟩
        obtain ⟨n, e, m', hn, hpub⟩ := (hag.keeps.met k id ⟨_, seen_getElem hm, hmet⟩).2 k
          ⟨_, seen_getElem hm, hmade.later (Leads.trans (.own .refl trivial) hg)⟩
        rw [seen_getElem hm] at hn
        cases hn
        exact absurd hpub (hno e m' id)
  · cases hrenamed with
    | temporary hown =>
      rw [S.unowned d name hours] at hown
      cases hown
    | directory _ hfree hentry _ hdirectory => exact Or.inr ⟨hfree, _, hentry, hdirectory⟩
    | @published _ id content hentry hmade hhidden _ hafter =>
      refine absurd ⟨g, s, hg, S.unowned d name hours, fun hold => ?_, hentry,
        isDirectory_of_content (by rw [hafter]; rfl)⟩ (hno d name id)
      have hmet : Met S m.seen id :=
        ⟨g, d, name, Leads.trans (.own .refl trivial) hg, hours, hold, hgo.made_there hmade⟩
      obtain ⟨n, e, m', hn, hpub⟩ := (hag.keeps.met k id ⟨_, seen_getElem hm, hmet⟩).2 k
        ⟨_, seen_getElem hm, hmade.later (Leads.trans (.own .refl trivial) hg)⟩
      rw [seen_getElem hm] at hn
      cases hn
      exact hno e m' id hpub

end Publication


/-! ## Runs that nobody disturbs -/

section Undisturbed

variable {S : Setting} {s s' s₀ : Filesystem} {h : History Filesystem} {c : StoreCall} {k : Nat} {p : StoreCrowd}

/-- No name leads nowhere, and the root is a directory. -/
structure WellFormed (s : Filesystem) : Prop where
  root : s.isDirectory s.root = true
  leads : ∀ d name id, s.entry d name = some id → (s.inodes id).isSome

theorem inodes_of_directory {fs : Filesystem} {id : FileId} (h : fs.isDirectory id = true) : (fs.inodes id).isSome := by
  rw [Option.isSome_iff_ne_none]
  intro hnone
  rw [isDirectory_of_none hnone] at h
  cases h

theorem May.wellFormed (hmay : May S k c h s') (hformed : WellFormed h.now) : WellFormed s' := by
  refine ⟨?_, fun d name id hentry => ?_⟩
  · rw [hmay.directories.root]
    exact hmay.directories.directory _ hformed.root
  rcases hmay.names d name with hsame | hrenamed
  · rw [hsame] at hentry
    obtain ⟨i, hi⟩ := Option.isSome_iff_exists.1 (hformed.leads d name id hentry)
    cases hdirectory : h.now.isDirectory id with
    | true => exact inodes_of_directory (hmay.directories.directory id hdirectory)
    | false =>
      rcases hmay.files id i hi hdirectory with hkept | ⟨-, -, hfile⟩
      · rw [hkept]
        rfl
      · exact inodes_of_content hfile
  · cases hrenamed with
    | temporary _ hfresh => exact inodes_of_content (hfresh id hentry).2
    | directory _ _ hentry' _ hdirectory =>
      rw [hentry] at hentry'
      cases hentry'
      exact inodes_of_directory hdirectory
    | published _ hentry' _ _ _ hafter =>
      rw [hentry] at hentry'
      cases hentry'
      exact inodes_of_content (by rw [hafter]; rfl)

/-- Calls side by side, which have got somewhere, and are all of one kind. -/
structure Among (S : Setting) (s₀ : Filesystem) (P : StoreCall → Prop) (p : StoreCrowd) : Prop where
  agrees : Agrees (storeTerms S s₀) p
  formed : WellFormed p.now
  calls : ∀ (k : Nat) (m : StoreMember), p.members[k]? = some m → P m.call

/-- Only calls of the kind are started, the operating system keeps its promises, and nothing is
done outside the calls. -/
def Orderly (S : Setting) (P : StoreCall → Prop) : CrowdEvent StoreCall Answer Filesystem → Prop
  | .call c => P c ∧ c.Valid S
  | .run k i => ∀ c s, P c → WellFormed s → Admits S k c i s
  | .other _ => False

theorem Among.call {P : StoreCall → Prop} (hamong : Among S s₀ P p) (hc : P c) (hvalid : c.Valid S) :
    Among S s₀ P (Crowd.step (fun _ c => c.program S.sha256) p (.call c)) := by
  refine ⟨hamong.agrees.step_amid storeTerms_fit (.call c) hvalid, hamong.formed, fun j m hm => ?_⟩
  have hm : (p.members ++ [⟨c, start p.now, c.program S.sha256⟩])[j]? = some m := hm
  rw [List.getElem?_append] at hm
  split at hm
  · exact hamong.calls j m hm
  · have hmem := List.mem_of_getElem? hm
    rw [List.mem_singleton] at hmem
    exact hmem ▸ hc

theorem Among.run {P : StoreCall → Prop} {i : Answer} (hamong : Among S s₀ P p)
    (hi : ∀ c s, P c → WellFormed s → Admits S k c i s) :
    Among S s₀ P (Crowd.step (fun _ c => c.program S.sha256) p (.run k i)) := by
  have hnext := hamong.agrees.step_amid storeTerms_fit (.run k i) fun m hm =>
    hi m.call p.now (hamong.calls k m hm) hamong.formed
  have unchanged : Crowd.step (fun _ c => c.program S.sha256) p (.run k i) = p →
      Among S s₀ P (Crowd.step (fun _ c => c.program S.sha256) p (.run k i)) := fun hsame => hsame.symm ▸ hamong
  cases hm : p.members[k]? with
  | none => exact unchanged (by simp only [Crowd.step, hm])
  | some m =>
    obtain ⟨c, seen, rest⟩ := m
    cases rest with
    | ret a => exact unchanged (by simp only [Crowd.step, hm])
    | raise e => exact unchanged (by simp only [Crowd.step, hm])
    | step act next =>
      have hstep : Crowd.step (fun _ c => c.program S.sha256) p (.run k i) =
          ⟨(act i p.now).2, (sees (act i p.now).2 p.members).set k
            ⟨c, seen.own (act i p.now).2, next (act i p.now).1⟩⟩ := by
        simp only [Crowd.step, hm]
      have hc : P c := hamong.calls k _ hm
      obtain ⟨g, hg, hamid⟩ := hamong.agrees.amid k _ hm
      have hseen : seen.now = p.now := hamong.agrees.now k _ hm
      have hmay : May S k c seen (act i seen.now).2 := (hamid seen hg i (hseen ▸ hi c p.now hc hamong.formed)).1
      rw [hseen] at hmay
      rw [hstep] at hnext ⊢
      refine ⟨hnext, hmay.wellFormed (hseen ▸ hamong.formed), fun j m hm' => ?_⟩
      have hm' : ((sees (act i p.now).2 p.members).set k ⟨c, seen.own (act i p.now).2, next (act i p.now).1⟩)[j]? =
        some m := hm'
      rw [List.getElem?_set] at hm'
      split at hm'
      · split at hm'
        · cases hm'
          exact hc
        · cases hm'
      · rw [sees, List.getElem?_map] at hm'
        obtain ⟨m', hmember, rfl⟩ := Option.map_eq_some_iff.1 hm'
        exact hamong.calls j m' hmember

/-- Calls that nobody disturbs run on fair terms. -/
theorem fairRun_orderly {P : StoreCall → Prop} (hformed : WellFormed s₀) {run : StoreRun}
    (hrun : ∀ e ∈ run, Orderly S P e) : FairRun S s₀ run := by
  have hfair : ∀ (run : StoreRun) (p : StoreCrowd), Among S s₀ P p → (∀ e ∈ run, Orderly S P e) →
      AllSteps (Crowd.step fun _ c => c.program S.sha256) (storeTerms S s₀).Fair p run := by
    intro run
    induction run with
    | nil => exact fun _ _ _ => trivial
    | cons e run ih =>
      intro p hamong hrun
      have hrest : ∀ e ∈ run, Orderly S P e := fun e' he' => hrun e' (List.mem_cons_of_mem _ he')
      cases e with
      | call c =>
        obtain ⟨hc, hvalid⟩ := hrun (.call c) List.mem_cons_self
        exact ⟨hvalid, ih _ (hamong.call hc hvalid) hrest⟩
      | run k i =>
        have hi : ∀ c s, P c → WellFormed s → Admits S k c i s := hrun (.run k i) List.mem_cons_self
        exact ⟨fun m hm => hi m.call p.now (hamong.calls k m hm) hamong.formed, ih _ (hamong.run hi) hrest⟩
      | other s => exact (hrun (.other s) List.mem_cons_self).elim
  exact hfair run _ ⟨agrees_nil, hformed, fun k m hm => by cases hm⟩ hrun

end Undisturbed


/-! ### An empty file, put into a store twice -/

private theorem isDigest_empty : IsDigest "e3b0c44298fc1c149afbf4c8996fb92427ae41e4649b934ca495991b7852b855" := by
  decide

/-- The digest of nothing. -/
private def emptyDigest : Digest := ⟨_, isDigest_empty⟩

/-- Nothing but a root. -/
private def onlyARoot : Filesystem :=
  ⟨fun id => if id = ⟨0, 0⟩ then some ⟨.directory ⟨0, 0⟩ ∅, 0o755, 0, 0, 0⟩ else none, ⟨0, 0⟩, 0⟩

/-- The `n`th answer, in which nothing fails. -/
private def untroubled (token : String) (n : Nat) : Answer := ⟨none, none, none, ⟨0, n + 1⟩, token, n, 1⟩

private def putNothing : StoreCall := .putBytes ["store"] []

open Classical in
/-- Two calls, each with one name to draw for each target. -/
private noncomputable def twoNames : Setting where
  sha256 _ := emptyDigest
  owner name := if ∃ target, name = tempName target "0" then some 0
    else if ∃ target, name = tempName target "1" then some 1 else none
  ours _ name := (¬ ∃ target, name = tempName target "0") ∧ ¬ ∃ target, name = tempName target "1"
  tidy := True
  drawn name k hname := by
    split at hname
    · next hdrawn =>
      obtain ⟨target, htarget⟩ := hdrawn
      exact ⟨target, "0", htarget⟩
    · split at hname
      · next hdrawn =>
        obtain ⟨target, htarget⟩ := hdrawn
        exact ⟨target, "1", htarget⟩
      · cases hname
  unowned _ _ hours := by
    rw [if_neg hours.1, if_neg hours.2]

private theorem wellFormed_onlyARoot : WellFormed onlyARoot where
  root := by decide
  leads d name id hentry := by
    obtain ⟨node, hnode, hname⟩ := Option.bind_eq_some_iff.1 hentry
    obtain ⟨i, hi, rfl⟩ := Option.map_eq_some_iff.1 hnode
    by_cases hd : d = ⟨0, 0⟩
    · rw [show onlyARoot.inodes d = some ⟨.directory ⟨0, 0⟩ ∅, 0o755, 0, 0, 0⟩ from if_pos hd] at hi
      cases hi
      simp [Node.entry] at hname
    · rw [show onlyARoot.inodes d = none from if_neg hd] at hi
      cases hi

private theorem unowned_of_head {part : String} (hdot : part.toList.head? ≠ some '.') : twoNames.owner part = none := by
  refine (if_neg ?_).trans (if_neg ?_)
  all_goals
    rintro ⟨target, rfl⟩
    refine hdot ?_
    simp [tempName]

private theorem names_apart (target target' : String) : tempName target "1" ≠ tempName target' "0" := by
  intro heq
  have hlist := congrArg (fun s => s.toList.reverse) heq
  simp [tempName] at hlist

private theorem valid_putNothing : putNothing.Valid twoNames := by
  rintro path ⟨digest, rfl⟩
  have hhead : ∀ cs : List Char, cs ⊆ digest.text.toList → cs.head? ≠ some '.' := by
    intro cs hcs hdot
    have hmem := digest.isDigest.2 '.' (hcs (List.mem_of_mem_head? hdot))
    revert hmem
    decide
  have hparts : ∀ part ∈ objectPath ["store"] digest, part.toList.head? ≠ some '.' := by
    intro part hpart
    have hcases : part = "store" ∨ part = "sha256" ∨ part = String.ofList (digest.text.toList.take 2) ∨
        part = digest.text := by simpa [objectPath] using hpart
    rcases hcases with rfl | rfl | rfl | rfl
    · decide
    · decide
    · rw [String.toList_ofList]
      exact hhead _ (List.take_subset _ _)
    · exact hhead _ (List.Subset.refl _)
  exact ⟨fun hup => hparts _ hup (by decide), fun part hpart => unowned_of_head (hparts part hpart)⟩

private theorem ours_of_unowned {d : FileId} {name : String} (hunowned : twoNames.owner name = none) :
    twoNames.ours d name := by
  have hfirst : ¬ ∃ target, name = tempName target "0" := by
    intro hdrawn
    have howned : twoNames.owner name = some 0 := if_pos hdrawn
    rw [howned] at hunowned
    cases hunowned
  refine ⟨hfirst, fun hdrawn => ?_⟩
  have howned : twoNames.owner name = some 1 := (if_neg hfirst).trans (if_pos hdrawn)
  rw [howned] at hunowned
  cases hunowned

/-- What the system answers to one of the two is what it may answer. -/
private theorem admits_untroubled {s : Filesystem} {token : String} {k : Nat} (n : Nat) (hformed : WellFormed s)
    (htoken : ∀ target, twoNames.owner (tempName target token) = some k) :
    Admits twoNames k putNothing (untroubled token n) s where
  root := hformed.root
  free hfree d name hentry := by
    have hthere := hformed.leads d name _ hentry
    rw [hfree] at hthere
    cases hthere
  token := htoken
  ours path d hpath _ := by
    refine ours_of_unowned ((valid_putNothing path hpath).2 (nameOf path) ?_)
    obtain ⟨digest, rfl⟩ := hpath
    rw [nameOf_objectPath]
    simp [objectPath]
  unlinks _ := rfl
  opens _ _ := rfl

/-- Both puts see that the object is missing; the first is still at its temporary file when the second is done. -/
private def twoPuts : StoreRun :=
  [.call putNothing, .call putNothing] ++ (List.range 200).map (fun n => .run 0 (untroubled "0" n)) ++
    (List.range 260).map (fun n => .run 1 (untroubled "1" (1000 + n))) ++
    (List.range 100).map fun n => .run 0 (untroubled "0" (2000 + n))

private theorem fairRun_twoPuts : FairRun twoNames onlyARoot twoPuts := by
  have first : ∀ n, Orderly twoNames (· = putNothing) (.run 0 (untroubled "0" n)) := by
    rintro n c s rfl hformed
    exact admits_untroubled n hformed fun target => if_pos ⟨target, rfl⟩
  have second : ∀ n, Orderly twoNames (· = putNothing) (.run 1 (untroubled "1" n)) := by
    rintro n c s rfl hformed
    refine admits_untroubled n hformed fun target => (if_neg ?_).trans (if_pos ⟨target, rfl⟩)
    rintro ⟨target', heq⟩
    exact names_apart target target' heq
  refine fairRun_orderly wellFormed_onlyARoot (P := (· = putNothing)) fun e he => ?_
  rcases List.mem_append.1 he with he | he
  · rcases List.mem_append.1 he with he | he
    · rcases List.mem_append.1 he with he | he
      · obtain rfl : e = .call putNothing := by simpa using he
        exact ⟨rfl, valid_putNothing⟩
      · obtain ⟨n, -, rfl⟩ := List.mem_map.1 he
        exact first n
    · obtain ⟨n, -, rfl⟩ := List.mem_map.1 he
      exact second (1000 + n)
  · obtain ⟨n, -, rfl⟩ := List.mem_map.1 he
    exact first (2000 + n)

/-- Which of the calls have created an object. -/
private def created (p : StoreCrowd) : List Bool :=
  p.members.map fun m => match m.rest.result? with
    | some (.ok (.put result)) => result.created
    | _ => false

/-- The object is created once, by the put that is done first. -/
theorem store_integrity_of_puts : Integrity twoNames (storeRun twoNames.sha256 onlyARoot twoPuts) ∧
    created (storeRun twoNames.sha256 onlyARoot twoPuts) = [false, true] :=
  ⟨store_integrity fairRun_twoPuts, by decide +kernel⟩

/-- Whether nothing is done outside the calls, and no system call fails. -/
private def undisturbed : CrowdEvent StoreCall Answer Filesystem → Bool
  | .call _ => true
  | .run _ i => i.fault.isNone && i.unlinkFault.isNone && i.fdopenFault.isNone
  | .other _ => false

end SafeFsOps.Descriptors
