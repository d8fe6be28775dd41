import Mathlib
import SafeFsOps.FilesystemOps.StableTrees
import SafeFsOps.StackWalks

/-!
# Snapshot bundles

`filesystem_ops/snapshot_bundles.py`: the snapshots of the requested paths and, if asked
for, of what is below the requested directories.

A directory is walked with a stack, and nothing remembers what an earlier walk has seen:
a table of the entries made so far sees to it that a path which several requests lead to
is entered once, with the flag its own request gives it.

> `iterChildPaths_ends`: the walk of a directory comes to an end.
> `snapshot_bundle_exact_iff`: the entries are the requested paths and what is below the
> requested directories, unless the anchor of a POSIX path is requested, which
> `snapshot_resource` finds nothing at, or a junction to nowhere is met.
-/

namespace SafeFsOps.Bundles

/-- `HashPolicy`. -/
inductive HashPolicy where
  | metadataOnly | smallFiles
deriving DecidableEq

/-- `SnapshotBundleEntry`, with what its `__post_init__` checks. -/
structure SnapshotBundleEntry where
  path : LocalPath
  snapshot : ResourceSnapshot
  requested : Bool
  snapshot_path : snapshot.path = path

/-- `SnapshotBundle`, with what its `__post_init__` checks. -/
structure SnapshotBundle where
  requestedPaths : List LocalPath
  entries : List SnapshotBundleEntry
  includeChildren : Bool
  hashPolicy : HashPolicy
  smallFileMaxBytes : Int
  nonnegative : 0 ≤ smallFileMaxBytes

/-- `Iterable[Path | str] | Path | str`. -/
inductive PathArgument where
  | one (path : String)
  | many (paths : List String)

/-- `_normalize_paths`; what `absolute_without_resolving` makes of a text is up to the
platform, the working directory and the home directories. -/
def normalizePaths (absolute : String → LocalPath) : PathArgument → List LocalPath
  | .one path => [absolute path]
  | .many paths => paths.map absolute

/-- `entries` and `entries_by_path`: every entry is in the table, under its own path. -/
structure Collected where
  entries : List SnapshotBundleEntry
  entriesByPath : LocalPath → Option SnapshotBundleEntry
  table : ∀ p e, entriesByPath p = some e ↔ e ∈ entries ∧ e.path = p
  nodup : (entries.map SnapshotBundleEntry.path).Nodup

namespace Collected

/-- Before the first request. -/
def empty : Collected := ⟨[], fun _ => none, by simp, List.nodup_nil⟩

variable (c : Collected)

theorem notMem_of_table {p : LocalPath} (h : c.entriesByPath p = none) :
    p ∉ c.entries.map SnapshotBundleEntry.path := by
  intro hmem
  obtain ⟨e, he, hpath⟩ := List.mem_map.1 hmem
  rw [(c.table p e).2 ⟨he, hpath⟩] at h
  cases h

/-- `entries_by_path[path] = entry` and `entries.append(entry)`. -/
def add (e : SnapshotBundleEntry) (h : c.entriesByPath e.path = none) : Collected where
  entries := c.entries ++ [e]
  entriesByPath := fun p => if p = e.path then some e else c.entriesByPath p
  table := by
    intro p e'
    by_cases hp : p = e.path
    · subst hp
      rw [if_pos rfl, Option.some.injEq]
      constructor
      · rintro rfl
        exact ⟨List.mem_append_right _ (List.mem_singleton.2 rfl), rfl⟩
      · rintro ⟨hmem, hpath⟩
        rcases List.mem_append.1 hmem with hold | hnew
        · exact absurd (List.mem_map.2 ⟨e', hold, hpath⟩) (c.notMem_of_table h)
        · exact (List.mem_singleton.1 hnew).symm
    · rw [if_neg hp, c.table p e']
      constructor
      · rintro ⟨hmem, hpath⟩
        exact ⟨List.mem_append_left _ hmem, hpath⟩
      · rintro ⟨hmem, hpath⟩
        rcases List.mem_append.1 hmem with hold | hnew
        · exact ⟨hold, hpath⟩
        · rw [List.mem_singleton.1 hnew] at hpath
          exact absurd hpath.symm hp
  nodup := by
    rw [List.map_append, List.map_singleton]
    exact List.nodup_append.2 ⟨c.nodup, List.nodup_singleton _, by
      intro p hp q hq heq
      rw [List.mem_singleton.1 hq] at heq
      exact c.notMem_of_table h (heq ▸ hp)⟩

/-- The paths of the entries. -/
def paths : List LocalPath := c.entries.map SnapshotBundleEntry.path

end Collected

/-- `hash_policy` and `small_file_max_bytes`. -/
structure Hashing where
  policy : HashPolicy
  smallFileMaxBytes : Int

section

variable {platform : Platform} (tree : StableTree platform)

/-- `_sha256`. -/
def treeSha256 (p : LocalPath) : Option ContentDigest := (tree.nodeAt p).bind fun n => n.node.contentHash

/-- `_snapshot_for_policy`. -/
def snapshotForPolicy (hashing : Hashing) (p : LocalPath) : Except FilesystemError ResourceSnapshot := do
  let snapshot ← platformSnapshotResource tree p
  return if snapshot.fileType ≠ .file then snapshot
    else if hashing.policy = .metadataOnly then { snapshot with contentHash := none }
    else if snapshot.size.all fun size => decide (hashing.smallFileMaxBytes < (size : Int)) then
      { snapshot with contentHash := none }
    else if snapshot.contentHash ≠ none then snapshot
    else { snapshot with contentHash := treeSha256 tree p }

/-- `_append_snapshot_entry`. -/
def appendSnapshotEntry (hashing : Hashing) (requested : List LocalPath) (c : Collected) (p : LocalPath) :
    Except FilesystemError (Collected × SnapshotBundleEntry) :=
  match h : c.entriesByPath p with
  | some existing => .ok (c, existing)
  | none =>
    match snapshotForPolicy tree hashing p with
    | .error e => .error e
    | .ok snapshot =>
      if hp : snapshot.path = p then
        let entry : SnapshotBundleEntry := ⟨p, snapshot, p ∈ requested, hp⟩
        .ok (c.add entry h, entry)
      else .error (.valueError "snapshot.path must match entry path")

/-- `_ensure_directory_matches_snapshot`. -/
def ensureDirectoryMatchesSnapshot (p : LocalPath) (snapshot : ResourceSnapshot) : Except FilesystemError Unit :=
  match tree.nodeAt p with
  | none => .error (.unsafePath
      ("snapshot bundle refused because root directory disappeared: " ++ p.text platform))
  | some n =>
    require (snapshot.fileType = .directory ∧ snapshot.device = some n.device ∧ snapshot.inode = some n.number ∧
        snapshot.size = some n.node.size ∧ snapshot.mtimeNs = some n.mtimeNs)
      (.unsafePath ("snapshot bundle refused because root directory changed during traversal: " ++ p.text platform))

/-- `if current == root: _ensure_directory_matches_snapshot(…)`. -/
def ensureRootMatches (root : LocalPath) (expectedRoot : ResourceSnapshot) (current : LocalPath) :
    Except FilesystemError Unit :=
  if current = root then ensureDirectoryMatchesSnapshot tree root expectedRoot else .ok ()

/-- What the walk goes down into. -/
def PathSafety.descends (safety : PathSafety) : Bool :=
  safety.pathExists ∧ safety.fileType = .directory ∧ safety.fileType ≠ .symlink ∧ safety.isMount = false ∧
    safety.isWindowsReparsePoint = false

/-- One turn of the loop of `_iter_child_paths`. -/
def visitDirectory (root : LocalPath) (expectedRoot : ResourceSnapshot) (current : LocalPath) :
    Except FilesystemError (List LocalPath × List LocalPath) := do
  ensureRootMatches tree root expectedRoot current
  let children ← iterdir tree current
  let childSafety := (children.mergeSort fun p q => p.text platform ≤ q.text platform).map (inspectPath tree)
  ensureRootMatches tree root expectedRoot current
  return ((childSafety.filter fun safety => !safety.isWindowsReparsePoint).map PathSafety.path,
    (childSafety.filter PathSafety.descends).map PathSafety.path)

/-- `_iter_child_paths`; `iterChildPaths_ends` says that the fuel never runs out. -/
def iterChildPaths (root : LocalPath) (expectedRoot : ResourceSnapshot) : Except FilesystemError (List LocalPath) :=
  (walkStack (visitDirectory tree root expectedRoot) (tree.weight (tree.depth - root.parts.length) root) [root]
    []).getD (.error (.osError "out of fuel"))

/-- What `snapshot_bundle` does for one requested path. -/
def snapshotRequested (includeChildren : Bool) (hashing : Hashing) (requested : List LocalPath) (c : Collected)
    (p : LocalPath) : Except FilesystemError Collected := do
  let (c, entry) ← appendSnapshotEntry tree hashing requested c p
  if includeChildren = false ∨ entry.snapshot.fileType ≠ .directory then return c
  let children ← iterChildPaths tree p entry.snapshot
  children.foldlM (fun c child => Prod.fst <$> appendSnapshotEntry tree hashing requested c child) c

/-- `snapshot_bundle`. -/
def snapshotBundle (absolute : String → LocalPath) (paths : PathArgument) (includeChildren : Bool)
    (hashing : Hashing) : Except FilesystemError SnapshotBundle :=
  if h : 0 ≤ hashing.smallFileMaxBytes then do
    let requestedPaths := normalizePaths absolute paths
    let c ← requestedPaths.foldlM (snapshotRequested tree includeChildren hashing requestedPaths) Collected.empty
    return ⟨requestedPaths, c.entries, includeChildren, hashing.policy, hashing.smallFileMaxBytes, h⟩
  else .error (.valueError "small_file_max_bytes must be non-negative")

end

/-! ## The walk of a directory -/

section

variable {platform : Platform} {tree : StableTree platform} {p root c : LocalPath} {n : TreeNode}

theorem is_eq (h : tree.nodeAt p = some n) (property : TreeNode → Bool) : tree.is property p = property n := by
  rw [StableTree.is, h, Option.any_some]

theorem is_true {property : TreeNode → Bool} :
    tree.is property p = true ↔ ∃ n, tree.nodeAt p = some n ∧ property n = true := by
  rw [StableTree.is, Option.any_eq_true]

theorem seenType_eq (h : tree.nodeAt p = some n) :
    seenType tree p = if n.fileType = .symlink then .symlink else n.reparse.getD n.fileType := by
  rw [seenType, h]

theorem fileType_ne_missing (n : TreeNode) : n.fileType ≠ .missing := by
  unfold TreeNode.fileType
  cases n.node <;> nofun

theorem seen_missing_iff (h : tree.nodeAt p = some n) : seenType tree p = .missing ↔ n.isDangling = true := by
  rw [seenType_eq h, TreeNode.isDangling, decide_eq_true_eq]
  by_cases hlink : n.fileType = .symlink
  · simp [hlink]
  · cases hreparse : n.reparse with
    | none => simp [hlink, fileType_ne_missing n]
    | some t => simp [hlink]

theorem flagged_iff (h : tree.nodeAt p = some n) :
    (inspectPath tree p).isWindowsReparsePoint = true ↔ n.reparse.isSome = true ∧ n.isDangling = false := by
  unfold inspectPath
  by_cases hmissing : seenType tree p = .missing
  · simp [hmissing, (seen_missing_iff h).1 hmissing]
  · have hd : n.isDangling = false := by
      cases hd : n.isDangling with
      | false => rfl
      | true => exact absurd ((seen_missing_iff h).2 hd) hmissing
    simp only [hmissing, if_false, Bool.and_eq_true, decide_eq_true_eq, is_eq h, hd, and_true]
    constructor
    · intro hboth; exact hboth.2
    · intro hsome
      refine ⟨?_, hsome⟩
      cases hplatform : platform with
      | windows => rfl
      | posix =>
        rw [tree.reparsed hplatform p n h] at hsome
        cases hsome

theorem descends_iff (h : tree.nodeAt p = some n) :
    (inspectPath tree p).descends = true ↔ n.isPlainDirectory = true := by
  have hflag := flagged_iff h
  unfold PathSafety.descends
  rw [decide_eq_true_eq, TreeNode.isPlainDirectory, TreeNode.isRealDirectory]
  have hseen := seenType_eq h
  have hmount : (inspectPath tree p).isMount = n.isMount := is_eq h _
  have htype : (inspectPath tree p).fileType = seenType tree p := rfl
  have hexists : (inspectPath tree p).pathExists = decide (seenType tree p ≠ .missing) := rfl
  rw [hmount, htype, hexists, decide_eq_true_eq, decide_eq_true_eq, decide_eq_true_eq]
  constructor
  · rintro ⟨hthere, hdir, -, hm, hno⟩
    have hnone : n.reparse = none := by
      cases hr : n.reparse with
      | none => rfl
      | some t =>
        have hflagged := hflag.2 ⟨by rw [hr]; rfl, by
          cases hd : n.isDangling with
          | false => rfl
          | true => exact absurd ((seen_missing_iff h).2 hd) hthere⟩
        rw [hno] at hflagged
        cases hflagged
    rw [hnone, Option.getD_none] at hseen
    refine ⟨⟨?_, hnone⟩, hm⟩
    rw [hdir] at hseen
    by_cases hlink : n.fileType = .symlink
    · rw [if_pos hlink] at hseen
      cases hseen
    · rw [if_neg hlink] at hseen
      exact hseen.symm
  · rintro ⟨⟨hdir, hnone⟩, hm⟩
    have hseen' : seenType tree p = .directory := by
      rw [hseen, hdir, hnone, Option.getD_none, if_neg nofun]
    refine ⟨by rw [hseen']; nofun, hseen', by rw [hseen']; nofun, hm, ?_⟩
    cases hw : (inspectPath tree p).isWindowsReparsePoint with
    | false => rfl
    | true =>
      have hsome := (hflag.1 hw).1
      rw [hnone] at hsome
      cases hsome

theorem iterdir_ok {a : LocalPath} {children : List LocalPath} (h : iterdir tree a = .ok children) :
    children = (tree.names a).map a.child := by
  unfold iterdir at h
  split at h
  · cases h
    rfl
  · cases h

/-- What a visit found and pushed. -/
theorem visitDirectory_ok {expected : ResourceSnapshot} {a : LocalPath} {found next : List LocalPath}
    (h : visitDirectory tree root expected a = .ok (found, next)) :
    ∃ children : List LocalPath, children.Perm ((tree.names a).map a.child) ∧
      found = children.filter (fun c => !(inspectPath tree c).isWindowsReparsePoint) ∧
      next = children.filter (fun c => (inspectPath tree c).descends) := by
  have hmap : ∀ (keep : PathSafety → Bool) (cs : List LocalPath),
      ((cs.map (inspectPath tree)).filter keep).map PathSafety.path = cs.filter fun c => keep (inspectPath tree c) := by
    intro keep cs
    rw [List.filter_map, List.map_map]
    exact List.map_id' _
  unfold visitDirectory at h
  simp only [bind_eq_ok, pure_eq_ok, Prod.mk.injEq] at h
  obtain ⟨-, -, children, hiter, -, -, hfound, hnext⟩ := h
  rw [iterdir_ok hiter] at hfound hnext
  exact ⟨_, List.mergeSort_perm _ _, by rw [← hfound, hmap], by rw [← hnext, hmap]⟩

section Walk

variable {expected : ResourceSnapshot} {a b x : LocalPath}

theorem mem_children {children : List LocalPath} (hperm : children.Perm ((tree.names a).map a.child)) :
    c ∈ children ↔ ∃ name, (tree.nodeAt (a.child name)).isSome ∧ c = a.child name := by
  rw [hperm.mem_iff, List.mem_map]
  constructor
  · rintro ⟨name, hname, rfl⟩
    exact ⟨name, (tree.mem_names a name).1 hname, rfl⟩
  · rintro ⟨name, hname, rfl⟩
    exact ⟨name, (tree.mem_names a name).2 hname, rfl⟩

/-- What a visit pushes has fewer directories below it, all of it together. -/
theorem weight_next {found next : List LocalPath} (h : visitDirectory tree root expected a = .ok (found, next)) :
    (next.map fun c => tree.weight (tree.depth - c.parts.length) c).sum <
      tree.weight (tree.depth - a.parts.length) a := by
  obtain ⟨children, hperm, -, rfl⟩ := visitDirectory_ok h
  have hsub : ∀ cs : List LocalPath,
      ((cs.filter fun c => (inspectPath tree c).descends).map fun c => tree.weight (tree.depth - c.parts.length) c).sum
        ≤ (cs.map fun c => tree.weight (tree.depth - c.parts.length) c).sum := by
    intro cs
    exact List.Sublist.sum_le_sum (List.filter_sublist.map _) fun _ _ => Nat.zero_le _
  refine Nat.lt_of_le_of_lt (hsub children) ?_
  rw [(hperm.map _).sum_eq, List.map_map]
  cases hnames : tree.names a with
  | nil => exact tree.weight_pos _ _
  | cons name names =>
    -- there is a level below, so the depth is more than the length of the path
    have hlen := tree.bounded _ ((tree.mem_names a name).1 (by rw [hnames]; exact List.mem_cons_self))
    rw [LocalPath.child_parts, List.length_append, List.length_singleton] at hlen
    obtain ⟨k, hk⟩ : ∃ k, tree.depth - a.parts.length = k + 1 := ⟨tree.depth - a.parts.length - 1, by omega⟩
    have hlevel : ∀ name' : String, tree.depth - (a.child name').parts.length = k := by
      intro name'
      rw [LocalPath.child_parts, List.length_append, List.length_singleton]
      omega
    rw [hk, StableTree.weight, hnames]
    have hsame : (name :: names).map ((fun c => tree.weight (tree.depth - c.parts.length) c) ∘ a.child) =
        (name :: names).map fun name' => tree.weight k (a.child name') := by
      apply List.map_congr_left
      intro name' _
      rw [Function.comp_apply, hlevel]
    rw [hsame]
    omega

/-- The walk of a directory comes to an end, and the fuel `iterChildPaths` gives it is enough. -/
theorem iterChildPaths_ends {fuel : Nat} (hfuel : tree.weight (tree.depth - root.parts.length) root ≤ fuel) :
    walkStack (visitDirectory tree root expected) fuel [root] [] = some (iterChildPaths tree root expected) := by
  have hends : (walkStack (visitDirectory tree root expected)
      (tree.weight (tree.depth - root.parts.length) root) [root] []).isSome := by
    apply walkStack_ends (fun a => tree.weight_pos (tree.depth - a.parts.length) a)
    · intro a found next h
      exact weight_next h
    · simp
  obtain ⟨answer, hanswer⟩ := Option.isSome_iff_exists.1 hends
  rw [iterChildPaths, hanswer, Option.getD_some]
  exact walkStack_more hanswer hfuel

/-- What is below a directory without going through a symlink, a mount point or a reparse
point. -/
inductive Below (tree : StableTree platform) (root : LocalPath) : LocalPath → Prop
  | child {name : String} : (tree.nodeAt (root.child name)).isSome → Below tree root (root.child name)
  | deeper {p : LocalPath} {name : String} : Below tree root p → tree.is TreeNode.isPlainDirectory p = true →
      (tree.nodeAt (p.child name)).isSome → Below tree root (p.child name)

theorem Below.isSome (h : Below tree root c) : (tree.nodeAt c).isSome := by
  cases h with
  | child hsome => exact hsome
  | deeper _ _ hsome => exact hsome

theorem pushes_iff {r : List LocalPath × List LocalPath} (h : visitDirectory tree root expected a = .ok r) :
    Pushes (visitDirectory tree root expected) a b ↔
      ∃ name, (tree.nodeAt (a.child name)).isSome ∧ b = a.child name ∧
        tree.is TreeNode.isPlainDirectory b = true := by
  obtain ⟨found, next⟩ := r
  obtain ⟨children, hperm, -, hnext⟩ := visitDirectory_ok h
  have hpushed : Pushes (visitDirectory tree root expected) a b ↔ b ∈ next := by
    constructor
    · rintro ⟨found', next', h', hb⟩
      rw [h] at h'
      cases h'
      exact hb
    · intro hb
      exact ⟨found, next, h, hb⟩
  rw [hpushed, hnext, List.mem_filter, mem_children hperm]
  constructor
  · rintro ⟨⟨name, hsome, rfl⟩, hdescends⟩
    obtain ⟨n, hn⟩ := Option.isSome_iff_exists.1 hsome
    exact ⟨name, hsome, rfl, by rw [is_eq hn]; exact (descends_iff hn).1 hdescends⟩
  · rintro ⟨name, hsome, rfl, hplain⟩
    obtain ⟨n, hn⟩ := Option.isSome_iff_exists.1 hsome
    rw [is_eq hn] at hplain
    exact ⟨⟨name, hsome, rfl⟩, (descends_iff hn).2 hplain⟩

theorem finds_iff {r : List LocalPath × List LocalPath} (h : visitDirectory tree root expected a = .ok r) :
    Finds (visitDirectory tree root expected) a x ↔
      ∃ name, (tree.nodeAt (a.child name)).isSome ∧ x = a.child name ∧
        (inspectPath tree x).isWindowsReparsePoint = false := by
  obtain ⟨found, next⟩ := r
  obtain ⟨children, hperm, hfound, -⟩ := visitDirectory_ok h
  have hfinds : Finds (visitDirectory tree root expected) a x ↔ x ∈ found := by
    constructor
    · rintro ⟨found', next', h', hx⟩
      rw [h] at h'
      cases h'
      exact hx
    · intro hx
      exact ⟨found, next, h, hx⟩
  rw [hfinds, hfound, List.mem_filter, mem_children hperm, Bool.not_eq_true']
  constructor
  · rintro ⟨⟨name, hsome, rfl⟩, hflag⟩
    exact ⟨name, hsome, rfl, hflag⟩
  · rintro ⟨name, hsome, rfl, hflag⟩
    exact ⟨⟨name, hsome, rfl⟩, hflag⟩

/-- The walk reaches the root and the plain directories below it. -/
theorem reaches_iff
    (hvisits : ∀ a, Relation.ReflTransGen (Pushes (visitDirectory tree root expected)) root a →
      ∃ r, visitDirectory tree root expected a = .ok r) :
    Relation.ReflTransGen (Pushes (visitDirectory tree root expected)) root a ↔
      a = root ∨ Below tree root a ∧ tree.is TreeNode.isPlainDirectory a = true := by
  constructor
  · intro hreach
    induction hreach with
    | refl => exact Or.inl rfl
    | tail hreach hpush ih =>
      obtain ⟨r, hr⟩ := hvisits _ hreach
      obtain ⟨name, hsome, rfl, hplain⟩ := (pushes_iff hr).1 hpush
      rcases ih with rfl | ⟨hbelow, hplain'⟩
      · exact Or.inr ⟨.child hsome, hplain⟩
      · exact Or.inr ⟨.deeper hbelow hplain' hsome, hplain⟩
  · rintro (rfl | ⟨hbelow, hplain⟩)
    · exact .refl
    · induction hbelow with
      | child hsome =>
        obtain ⟨r, hr⟩ := hvisits root .refl
        exact .tail .refl ((pushes_iff hr).2 ⟨_, hsome, rfl, hplain⟩)
      | deeper hbelow hplain' hsome ih =>
        have hreach := ih hplain'
        obtain ⟨r, hr⟩ := hvisits _ hreach
        exact .tail hreach ((pushes_iff hr).2 ⟨_, hsome, rfl, hplain⟩)

/-- What the walk of a directory finds. -/
theorem mem_iterChildPaths {children : List LocalPath} (h : iterChildPaths tree root expected = .ok children) :
    c ∈ children ↔ Below tree root c ∧ (inspectPath tree c).isWindowsReparsePoint = false := by
  have hwalk := @iterChildPaths_ends _ tree root expected _ (Nat.le_refl _)
  rw [h] at hwalk
  have hvisits := visits_of_walkStack hwalk root List.mem_cons_self
  rw [mem_walkStack hwalk]
  constructor
  · rintro (hnil | ⟨s, hs, a, hreach, hfind⟩)
    · cases hnil
    · rw [List.mem_singleton.1 hs] at hreach
      obtain ⟨r, hr⟩ := hvisits a hreach
      obtain ⟨name, hsome, rfl, hflag⟩ := (finds_iff hr).1 hfind
      rcases (reaches_iff hvisits).1 hreach with rfl | ⟨hbelow, hplain⟩
      · exact ⟨.child hsome, hflag⟩
      · exact ⟨.deeper hbelow hplain hsome, hflag⟩
  · rintro ⟨hbelow, hflag⟩
    refine Or.inr ⟨root, List.mem_cons_self, ?_⟩
    cases hbelow with
    | child hsome =>
      obtain ⟨r, hr⟩ := hvisits root .refl
      exact ⟨root, .refl, (finds_iff hr).2 ⟨_, hsome, rfl, hflag⟩⟩
    | deeper hbelow hplain hsome =>
      have hreach := (reaches_iff hvisits).2 (Or.inr ⟨hbelow, hplain⟩)
      obtain ⟨r, hr⟩ := hvisits _ hreach
      exact ⟨_, hreach, (finds_iff hr).2 ⟨_, hsome, rfl, hflag⟩⟩

end Walk

end

/-! ## The entries -/

section

variable {platform : Platform} {tree : StableTree platform} {hashing : Hashing} {requested : List LocalPath}
  {c c' : Collected} {e : SnapshotBundleEntry} {p q : LocalPath}

theorem posix_of_not_windows (h : platform ≠ .windows) : platform = .posix := by
  cases platform with
  | posix => rfl
  | windows => exact absurd rfl h

/-- What a snapshot shows as a directory: `snapshot_resource` finds nothing at the anchor. -/
def showsDirectory (tree : StableTree platform) (p : LocalPath) : Bool :=
  tree.is (fun n => n.fileType = .directory) p ∧ (platform = .posix → p.parts ≠ [])

theorem snapshotForPolicy_type {s : ResourceSnapshot} (h : snapshotForPolicy tree hashing p = .ok s) :
    ∃ s₀, platformSnapshotResource tree p = .ok s₀ ∧ s.fileType = s₀.fileType ∧ s.path = s₀.path := by
  unfold snapshotForPolicy at h
  rw [bind_eq_ok] at h
  obtain ⟨s₀, hs₀, h⟩ := h
  rw [pure_eq_ok] at h
  refine ⟨s₀, hs₀, ?_, ?_⟩ <;> (rw [← h]; split_ifs <;> rfl)

theorem snapshotResourcePosix_type {s : ResourceSnapshot} (h : snapshotResourcePosix tree p = .ok s) :
    s.fileType = .directory ↔ tree.is (fun n => n.fileType = .directory) p = true ∧ p.parts ≠ [] := by
  unfold snapshotResourcePosix at h
  rw [bind_eq_ok] at h
  obtain ⟨-, -, h⟩ := h
  by_cases hanchor : p.parts = []
  · rw [if_pos hanchor] at h
    cases h
    simp [ResourceSnapshot.missing, hanchor]
  · rw [if_neg hanchor] at h
    cases hn : tree.nodeAt p with
    | none =>
      rw [hn] at h
      cases h
      simp [ResourceSnapshot.missing, StableTree.is, hn]
    | some n =>
      simp only [hn, bind_eq_ok, pure_eq_ok] at h
      obtain ⟨-, -, rfl⟩ := h
      rw [is_eq hn, decide_eq_true_eq]
      exact (and_iff_left hanchor).symm

theorem snapshotResourceWindows_type {s : ResourceSnapshot} (h : snapshotResourceWindows tree p = .ok s) :
    s.fileType = .directory ↔ tree.is (fun n => n.fileType = .directory) p = true := by
  unfold snapshotResourceWindows at h
  rw [bind_eq_ok] at h
  obtain ⟨-, -, h⟩ := h
  cases hn : tree.nodeAt p with
  | none =>
    rw [hn] at h
    cases h
    simp [ResourceSnapshot.missing, StableTree.is, hn]
  | some n =>
    simp only [hn, bind_eq_ok, pure_eq_ok] at h
    obtain ⟨-, -, rfl⟩ := h
    rw [is_eq hn, decide_eq_true_eq]
    show (if n.fileType = .symlink then FileType.other else n.fileType) = .directory ↔ _
    by_cases hlink : n.fileType = .symlink
    · simp [hlink]
    · rw [if_neg hlink]

theorem shows_iff {s : ResourceSnapshot} (h : snapshotForPolicy tree hashing p = .ok s) :
    s.fileType = .directory ↔ showsDirectory tree p = true := by
  obtain ⟨s₀, hs₀, htype, -⟩ := snapshotForPolicy_type h
  rw [htype, showsDirectory, decide_eq_true_eq]
  unfold platformSnapshotResource at hs₀
  by_cases hplatform : platform = .windows
  · rw [if_pos hplatform] at hs₀
    have hnot : platform ≠ .posix := by
      rw [hplatform]
      nofun
    rw [snapshotResourceWindows_type hs₀]
    exact (and_iff_left fun h => absurd h hnot).symm
  · rw [if_neg hplatform] at hs₀
    rw [snapshotResourcePosix_type hs₀]
    exact and_congr_right fun _ => ⟨fun h _ => h, fun h => h (posix_of_not_windows hplatform)⟩

/-- Every entry is flagged as the requests say, and shows its path. -/
def Faithful (tree : StableTree platform) (hashing : Hashing) (requested : List LocalPath) (c : Collected) : Prop :=
  ∀ e ∈ c.entries, (e.requested = true ↔ e.path ∈ requested) ∧ snapshotForPolicy tree hashing e.path = .ok e.snapshot

theorem appendSnapshotEntry_ok (hc : Faithful tree hashing requested c)
    (h : appendSnapshotEntry tree hashing requested c p = .ok (c', e)) :
    Faithful tree hashing requested c' ∧ (∀ q, q ∈ c'.paths ↔ q ∈ c.paths ∨ q = p) ∧
      snapshotForPolicy tree hashing p = .ok e.snapshot := by
  unfold appendSnapshotEntry at h
  split at h
  · next existing hexisting =>
    cases h
    obtain ⟨hmem, hpath⟩ := (c.table p e).1 hexisting
    refine ⟨hc, ?_, ?_⟩
    · intro q
      rw [or_iff_left_of_imp]
      rintro rfl
      exact List.mem_map.2 ⟨e, hmem, hpath⟩
    · rw [← hpath]
      exact (hc e hmem).2
  · next hnone =>
    split at h
    · cases h
    · next snapshot hsnapshot =>
      split at h
      · next hp =>
        cases h
        refine ⟨?_, ?_, hsnapshot⟩
        · intro e he
          rcases List.mem_append.1 he with hold | hnew
          · exact hc e hold
          · rw [List.mem_singleton.1 hnew]
            exact ⟨decide_eq_true_iff, hsnapshot⟩
        · intro q
          show q ∈ (c.entries ++ [_]).map SnapshotBundleEntry.path ↔ _
          rw [List.map_append, List.mem_append, List.map_singleton, List.mem_singleton]
          rfl
      · cases h

/-- The loop over the children of a requested directory. -/
theorem appendChildren_ok {children : List LocalPath} (hc : Faithful tree hashing requested c)
    (h : children.foldlM (fun c child => Prod.fst <$> appendSnapshotEntry tree hashing requested c child) c = .ok c') :
    Faithful tree hashing requested c' ∧ ∀ q, q ∈ c'.paths ↔ q ∈ c.paths ∨ q ∈ children := by
  induction children generalizing c with
  | nil =>
    cases h
    exact ⟨hc, by simp⟩
  | cons child children ih =>
    rw [List.foldlM_cons, bind_eq_ok] at h
    obtain ⟨c₁, hchild, h⟩ := h
    obtain ⟨⟨c₁', entry⟩, happend, rfl⟩ := map_eq_ok.1 hchild
    obtain ⟨hc₁, hpaths, -⟩ := appendSnapshotEntry_ok hc happend
    obtain ⟨hc', hpaths'⟩ := ih hc₁ h
    refine ⟨hc', ?_⟩
    intro q
    rw [hpaths', hpaths, List.mem_cons, or_assoc]

/-- What one requested path leads to. -/
def LeadsTo (tree : StableTree platform) (p q : LocalPath) : Prop :=
  q = p ∨ showsDirectory tree p = true ∧ Below tree p q ∧ (inspectPath tree q).isWindowsReparsePoint = false

theorem snapshotRequested_ok (hc : Faithful tree hashing requested c)
    (h : snapshotRequested tree true hashing requested c p = .ok c') :
    Faithful tree hashing requested c' ∧ ∀ q, q ∈ c'.paths ↔ q ∈ c.paths ∨ LeadsTo tree p q := by
  unfold snapshotRequested at h
  rw [bind_eq_ok] at h
  obtain ⟨⟨c₁, entry⟩, happend, h⟩ := h
  obtain ⟨hc₁, hpaths, hsnapshot⟩ := appendSnapshotEntry_ok hc happend
  have hdir := shows_iff hsnapshot
  dsimp only at h
  by_cases hshown : entry.snapshot.fileType = .directory
  · rw [if_neg (by simp [hshown]), bind_eq_ok] at h
    obtain ⟨children, hchildren, h⟩ := h
    obtain ⟨hc', hpaths'⟩ := appendChildren_ok hc₁ h
    refine ⟨hc', ?_⟩
    intro q
    rw [hpaths', hpaths, mem_iterChildPaths hchildren, LeadsTo, or_assoc, and_iff_right (hdir.1 hshown)]
  · rw [if_pos (Or.inr hshown), pure_eq_ok] at h
    subst h
    refine ⟨hc₁, ?_⟩
    intro q
    have hnot : ¬ showsDirectory tree p = true := fun hs => hshown (hdir.2 hs)
    rw [hpaths, LeadsTo, or_iff_left (a := q = p) fun hbelow => hnot hbelow.1]

theorem snapshotAll_ok {ps : List LocalPath} (hc : Faithful tree hashing requested c)
    (h : ps.foldlM (snapshotRequested tree true hashing requested) c = .ok c') :
    Faithful tree hashing requested c' ∧ ∀ q, q ∈ c'.paths ↔ q ∈ c.paths ∨ ∃ p ∈ ps, LeadsTo tree p q := by
  induction ps generalizing c with
  | nil =>
    cases h
    exact ⟨hc, by simp⟩
  | cons p ps ih =>
    rw [List.foldlM_cons, bind_eq_ok] at h
    obtain ⟨c₁, hfirst, h⟩ := h
    obtain ⟨hc₁, hpaths⟩ := snapshotRequested_ok hc hfirst
    obtain ⟨hc', hpaths'⟩ := ih hc₁ h
    refine ⟨hc', ?_⟩
    intro q
    rw [hpaths', hpaths, or_assoc]
    simp only [List.mem_cons, exists_eq_or_imp]

/-! ## What a bundle should be -/

/-- A reparse point is at the path. -/
def isReparsePoint (tree : StableTree platform) (p : LocalPath) : Bool := tree.is (fun n => n.reparse.isSome) p

/-- The entries are the requested paths and what is below the requested directories and
is no reparse point, each once, and flagged if and only if it was requested. -/
structure IsExact (tree : StableTree platform) (requested : List LocalPath) (bundle : SnapshotBundle) : Prop where
  mem_iff : ∀ q, q ∈ bundle.entries.map SnapshotBundleEntry.path ↔ q ∈ requested ∨
    ∃ p ∈ requested, tree.is (fun n => n.fileType = .directory) p = true ∧ Below tree p q ∧
      isReparsePoint tree q = false
  once : (bundle.entries.map SnapshotBundleEntry.path).Nodup
  flagged : ∀ e ∈ bundle.entries, e.requested = true ↔ e.path ∈ requested

/-- What is below a requested anchor of a POSIX path is requested, or is below another
requested directory; and so is no junction to nowhere, unless it is requested. -/
def NothingMissed (tree : StableTree platform) (requested : List LocalPath) : Prop :=
  (∀ p ∈ requested, platform = .posix → p.parts = [] → ∀ q, Below tree p q →
    q ∈ requested ∨ ∃ p' ∈ requested, p'.parts ≠ [] ∧ Below tree p' q) ∧
  ∀ p ∈ requested, ∀ q, Below tree p q → tree.is TreeNode.isDangling q = true → q ∈ requested

theorem Below.directory (h : Below tree p q) : tree.is (fun n => n.fileType = .directory) p = true := by
  induction h with
  | child hsome =>
    obtain ⟨n, hn, hreal⟩ := tree.inside _ _ hsome
    rw [is_eq hn]
    exact decide_eq_true (decide_eq_true_iff.1 hreal).1
  | deeper _ _ _ ih => exact ih

/-- A bundle that comes back is what its requests lead to. -/
theorem snapshotBundle_ok {absolute : String → LocalPath} {paths : PathArgument} {bundle : SnapshotBundle}
    (h : snapshotBundle tree absolute paths true hashing = .ok bundle) :
    (∀ q, q ∈ bundle.entries.map SnapshotBundleEntry.path ↔ ∃ p ∈ normalizePaths absolute paths, LeadsTo tree p q) ∧
      (bundle.entries.map SnapshotBundleEntry.path).Nodup ∧
      ∀ e ∈ bundle.entries, e.requested = true ↔ e.path ∈ normalizePaths absolute paths := by
  unfold snapshotBundle at h
  split at h
  · rw [bind_eq_ok] at h
    obtain ⟨c, hc, h⟩ := h
    cases h
    obtain ⟨hfaithful, hpaths⟩ := snapshotAll_ok (fun e he => absurd he List.not_mem_nil) hc
    refine ⟨?_, c.nodup, fun e he => (hfaithful e he).1⟩
    intro q
    rw [← Collected.paths, hpaths]
    exact or_iff_right List.not_mem_nil
  · cases h

theorem below_posix (hplatform : platform = .posix) (h : Below tree p q) : isReparsePoint tree q = false := by
  obtain ⟨n, hn⟩ := Option.isSome_iff_exists.1 h.isSome
  rw [isReparsePoint, is_eq hn, tree.reparsed hplatform q n hn]
  rfl

/-- A reparse point goes unnoticed exactly if it leads to nowhere. -/
theorem unnoticed_iff (hsome : (tree.nodeAt q).isSome) :
    (inspectPath tree q).isWindowsReparsePoint = false ↔
      isReparsePoint tree q = false ∨ tree.is TreeNode.isDangling q = true := by
  obtain ⟨n, hn⟩ := Option.isSome_iff_exists.1 hsome
  have hflag := flagged_iff hn
  rw [isReparsePoint, is_eq hn, is_eq hn, ← Bool.not_eq_true, hflag]
  cases n.reparse.isSome <;> cases n.isDangling <;> simp

/-- A bundle that comes back is exact if and only if nothing was missed; and the walk of a
requested directory always comes to an end. -/
theorem snapshot_bundle_exact_iff (tree : StableTree platform) (absolute : String → LocalPath) (paths : PathArgument)
    (hashing : Hashing) :
    (∀ root expected, ∃ fuel, ∀ fuel', fuel ≤ fuel' →
      walkStack (visitDirectory tree root expected) fuel' [root] [] = some (iterChildPaths tree root expected)) ∧
    ∀ bundle, snapshotBundle tree absolute paths true hashing = .ok bundle →
      (IsExact tree (normalizePaths absolute paths) bundle ↔ NothingMissed tree (normalizePaths absolute paths)) := by
  refine ⟨fun root expected => ⟨_, fun fuel' hfuel => iterChildPaths_ends hfuel⟩, ?_⟩
  intro bundle h
  obtain ⟨hpaths, honce, hflags⟩ := snapshotBundle_ok h
  constructor
  · intro hexact
    have hentered : ∀ p ∈ normalizePaths absolute paths, ∀ q, LeadsTo tree p q → isReparsePoint tree q = true →
        q ∈ normalizePaths absolute paths := by
      intro p hp q hlead hreparse
      rcases (hexact.mem_iff q).1 ((hpaths q).2 ⟨p, hp, hlead⟩) with hreq | ⟨_, _, _, _, hno⟩
      · exact hreq
      · rw [hreparse] at hno
        cases hno
    refine ⟨?_, ?_⟩
    · intro p hp hplatform hanchor q hbelow
      obtain ⟨p', hp', hlead⟩ := (hpaths q).1
        ((hexact.mem_iff q).2 (Or.inr ⟨p, hp, hbelow.directory, hbelow, below_posix hplatform hbelow⟩))
      rcases hlead with rfl | ⟨hshows, hbelow', -⟩
      · exact Or.inl hp'
      · exact Or.inr ⟨p', hp', (decide_eq_true_iff.1 hshows).2 hplatform, hbelow'⟩
    · intro p hp q hbelow hdangling
      obtain ⟨n, hn⟩ := Option.isSome_iff_exists.1 hbelow.isSome
      have hreparse : isReparsePoint tree q = true := by
        rw [is_eq hn, TreeNode.isDangling, decide_eq_true_eq] at hdangling
        rw [isReparsePoint, is_eq hn, hdangling.2]
        rfl
      refine hentered p hp q (Or.inr ⟨?_, hbelow, (unnoticed_iff hbelow.isSome).2 (Or.inr hdangling)⟩) hreparse
      -- there are no reparse points on POSIX
      refine decide_eq_true ⟨hbelow.directory, fun hplatform => ?_⟩
      rw [below_posix hplatform hbelow] at hreparse
      cases hreparse
  · rintro ⟨hanchor, hdangling⟩
    refine ⟨?_, honce, hflags⟩
    intro q
    rw [hpaths]
    constructor
    · rintro ⟨p, hp, rfl | ⟨hshows, hbelow, hflag⟩⟩
      · exact Or.inl hp
      · rcases (unnoticed_iff hbelow.isSome).1 hflag with hno | hnowhere
        · exact Or.inr ⟨p, hp, hbelow.directory, hbelow, hno⟩
        · exact Or.inl (hdangling p hp q hbelow hnowhere)
    · rintro (hreq | ⟨p, hp, hdir, hbelow, hno⟩)
      · exact ⟨q, hreq, Or.inl rfl⟩
      · have hflag := (unnoticed_iff hbelow.isSome).2 (Or.inl hno)
        by_cases hshows : showsDirectory tree p = true
        · exact ⟨p, hp, Or.inr ⟨hshows, hbelow, hflag⟩⟩
        · -- the anchor of a POSIX path: what is below it is there by another request
          rw [showsDirectory, decide_eq_true_eq, and_iff_right hdir, Classical.not_imp, not_not] at hshows
          rcases hanchor p hp hshows.1 hshows.2 q hbelow with hreq | ⟨p', hp', hparts, hbelow'⟩
          · exact ⟨q, hreq, Or.inl rfl⟩
          · exact ⟨p', hp', Or.inr ⟨decide_eq_true ⟨hbelow'.directory, fun _ => hparts⟩, hbelow', hflag⟩⟩

end

/-! ## That a bundle comes back -/

section

variable {tree : StableTree .posix} {hashing : Hashing} {requested : List LocalPath} {c : Collected}
  {p q root : LocalPath}

/-- Everything above a path is a directory. -/
def IsReached (tree : StableTree .posix) (p : LocalPath) : Prop :=
  ∀ above ∈ p.parent.fromAnchor, tree.is (fun n => n.fileType = .directory) above = true

theorem Below.isReached (hroot : IsReached tree root) (h : Below tree root q) : IsReached tree q := by
  have hchild : ∀ {p : LocalPath} {name : String}, IsReached tree p → (tree.nodeAt (p.child name)).isSome →
      IsReached tree (p.child name) := by
    intro p name hp hsome above habove
    rw [LocalPath.parent_child] at habove
    obtain ⟨n, hn, hreal⟩ := tree.inside p name hsome
    have hself : tree.is (fun n => n.fileType = .directory) p = true := by
      rw [is_eq hn]
      exact decide_eq_true (decide_eq_true_iff.1 hreal).1
    by_cases hparts : p.parts = []
    · have hanchor : p.fromAnchor = [p] := by
        cases p
        subst hparts
        rfl
      rw [hanchor, List.mem_singleton] at habove
      rw [habove]
      exact hself
    · -- a path below the anchor is the child of its parent
      obtain ⟨front, last, hsplit⟩ : ∃ front last, p.parts = front ++ [last] :=
        ⟨_, _, (List.dropLast_append_getLast hparts).symm⟩
      have hpath : p = (⟨p.anchor, front⟩ : LocalPath).child last := by
        rw [LocalPath.child, ← hsplit]
      rw [hpath, LocalPath.fromAnchor_child, ← hpath] at habove
      rcases List.mem_append.1 habove with hup | hlast
      · apply hp above
        rwa [hpath, LocalPath.parent_child]
      · rw [List.mem_singleton.1 hlast]
        exact hself
  induction h with
  | child hsome => exact hchild hroot hsome
  | deeper _ _ hsome ih => exact hchild ih hsome

variable (hopen : ∀ p n, tree.nodeAt p = some n → n.mayOpen = true)

include hopen

theorem snapshotForPolicy_returns (hp : IsReached tree p) : ∃ s, snapshotForPolicy tree hashing p = .ok s ∧
    s.path = p := by
  have hparents : ∀ ps : List LocalPath, (∀ a ∈ ps, tree.is (fun n => n.fileType = .directory) a = true) →
      ps.forM (openDirectoryAt tree) = .ok () := by
    intro ps hps
    induction ps with
    | nil => rfl
    | cons a ps ih =>
      obtain ⟨n, hn, hdir⟩ := is_true.1 (hps a List.mem_cons_self)
      have hfirst : openDirectoryAt tree a = .ok () := by
        unfold openDirectoryAt
        rw [is_eq hn, if_pos]
        rw [hdir, hopen a n hn]
        rfl
      rw [List.forM_eq_forM, List.forM_cons, hfirst]
      exact ih fun b hb => hps b (List.mem_cons_of_mem _ hb)
  have hsnapshot : ∃ s, platformSnapshotResource tree p = .ok s ∧ s.path = p := by
    unfold platformSnapshotResource
    rw [if_neg nofun]
    unfold snapshotResourcePosix
    rw [hparents _ hp]
    by_cases hanchor : p.parts = []
    · rw [if_pos hanchor]
      exact ⟨_, rfl, rfl⟩
    · rw [if_neg hanchor]
      cases hn : tree.nodeAt p with
      | none => exact ⟨_, rfl, rfl⟩
      | some n =>
        refine ⟨n.snapshot p n.fileType (some n.ctimeNs), ?_, rfl⟩
        show (requireOpens n p _ >>= fun _ => Except.ok _) = _
        rw [requireOpens, bind_eq_ok]
        exact ⟨(), require_eq_ok.2 fun _ => hopen p n hn, rfl⟩
  obtain ⟨s₀, hs₀, hpath⟩ := hsnapshot
  unfold snapshotForPolicy
  rw [hs₀]
  refine ⟨_, rfl, ?_⟩
  rw [← hpath]
  split_ifs <;> rfl

theorem appendSnapshotEntry_returns (hp : IsReached tree p) :
    ∃ r, appendSnapshotEntry tree hashing requested c p = .ok r := by
  obtain ⟨s, hs, hpath⟩ := snapshotForPolicy_returns hopen hp
  unfold appendSnapshotEntry
  split
  · exact ⟨_, rfl⟩
  · rw [hs]
    dsimp only
    rw [dif_pos hpath]
    exact ⟨_, rfl⟩

omit hopen in
/-- The snapshot of a directory is matched by the directory. -/
theorem ensureDirectoryMatchesSnapshot_returns {s : ResourceSnapshot} (h : snapshotForPolicy tree hashing p = .ok s)
    (hdir : s.fileType = .directory) : ensureDirectoryMatchesSnapshot tree p s = .ok () := by
  have hfields : ∃ n, tree.nodeAt p = some n ∧ s = n.snapshot p n.fileType (some n.ctimeNs) := by
    obtain ⟨s₀, hs₀, htype, -⟩ := snapshotForPolicy_type h
    have hsame : s = s₀ := by
      unfold snapshotForPolicy at h
      rw [hs₀] at h
      cases h
      rw [if_pos]
      rw [← htype, hdir]
      nofun
    unfold platformSnapshotResource at hs₀
    rw [if_neg nofun] at hs₀
    unfold snapshotResourcePosix at hs₀
    rw [bind_eq_ok] at hs₀
    obtain ⟨-, -, hs₀⟩ := hs₀
    cases hn : (if p.parts = [] then none else tree.nodeAt p) with
    | none =>
      rw [hn] at hs₀
      cases hs₀
      rw [hsame] at hdir
      cases hdir
    | some n =>
      simp only [hn, bind_eq_ok, pure_eq_ok] at hs₀
      obtain ⟨-, -, hs₀⟩ := hs₀
      refine ⟨n, ?_, hsame.trans hs₀.symm⟩
      split at hn
      · cases hn
      · exact hn
  obtain ⟨n, hn, rfl⟩ := hfields
  unfold ensureDirectoryMatchesSnapshot
  rw [hn]
  exact require_eq_ok.2 ⟨hdir, rfl, rfl, rfl, rfl⟩

theorem iterChildPaths_returns {s : ResourceSnapshot} (h : snapshotForPolicy tree hashing root = .ok s)
    (hdir : s.fileType = .directory) : ∃ children, iterChildPaths tree root s = .ok children := by
  have hvisit : ∀ a, tree.is (fun n => n.fileType = .directory) a = true →
      ∃ r, visitDirectory tree root s a = .ok r := by
    intro a ha
    have hroot : ensureRootMatches tree root s a = .ok () := by
      unfold ensureRootMatches
      split
      · exact ensureDirectoryMatchesSnapshot_returns h hdir
      · rfl
    obtain ⟨n, hn, hisDir⟩ := is_true.1 ha
    have hiter : iterdir tree a = .ok ((tree.names a).map a.child) := by
      unfold iterdir
      rw [is_eq hn, if_pos]
      rw [hopen a n hn, Bool.and_true]
      exact decide_eq_true ⟨decide_eq_true_iff.1 hisDir, tree.reparsed rfl a n hn⟩
    unfold visitDirectory
    rw [hroot, hiter]
    exact ⟨_, rfl⟩
  have hwalk := @iterChildPaths_ends _ tree root s _ (Nat.le_refl _)
  refine walkStack_returns hwalk ?_
  intro s' hs' a hreach
  rw [List.mem_singleton.1 hs'] at hreach
  apply hvisit
  rcases hreach.cases_tail with rfl | ⟨b, -, hpush⟩
  · exact ((decide_eq_true_iff.1 ((shows_iff h).1 hdir)).1)
  · obtain ⟨found, next, hvisited, -⟩ := id hpush
    obtain ⟨-, -, -, hplain⟩ := (pushes_iff hvisited).1 hpush
    obtain ⟨n, hn, hn'⟩ := is_true.1 hplain
    rw [is_eq hn]
    exact decide_eq_true (decide_eq_true_iff.1 (decide_eq_true_iff.1 hn').1).1

/-- Where everything may be opened and only directories are above the requested paths, a
bundle comes back. -/
theorem snapshotBundle_returns {absolute : String → LocalPath} {paths : PathArgument}
    (hlimit : 0 ≤ hashing.smallFileMaxBytes) (hreached : ∀ p ∈ normalizePaths absolute paths, IsReached tree p) :
    ∃ bundle, snapshotBundle tree absolute paths true hashing = .ok bundle := by
  -- the children that are appended are reached, and stay so
  have hchildren : ∀ (children : List LocalPath) (c : Collected), (∀ q ∈ children, IsReached tree q) →
      ∃ c', children.foldlM (fun c child => Prod.fst <$>
        appendSnapshotEntry tree hashing (normalizePaths absolute paths) c child) c = .ok c' := by
    intro children c hall
    obtain ⟨c', hc', -⟩ := foldlM_succeeds (f := fun c child => Prod.fst <$>
        appendSnapshotEntry tree hashing (normalizePaths absolute paths) c child)
      (I := fun ks _ => ∀ q ∈ ks, IsReached tree q) (by
        intro q qs c hqs
        have happend : ∃ r, appendSnapshotEntry tree hashing (normalizePaths absolute paths) c q = .ok r :=
          appendSnapshotEntry_returns hopen (hqs q List.mem_cons_self)
        obtain ⟨r, hr⟩ := happend
        exact ⟨r.1, by rw [hr]; rfl, fun q' hq' => hqs q' (List.mem_cons_of_mem _ hq')⟩) hall
    exact ⟨c', hc'⟩
  have hempty : Faithful tree hashing (normalizePaths absolute paths) Collected.empty := by
    intro e he
    cases he
  obtain ⟨c', hc', -⟩ := foldlM_succeeds
    (f := snapshotRequested tree true hashing (normalizePaths absolute paths))
    (I := fun ks c => (∀ q ∈ ks, IsReached tree q) ∧ Faithful tree hashing (normalizePaths absolute paths) c) (by
      rintro p ps c ⟨hps, hc⟩
      have hp := hps p List.mem_cons_self
      have happends : ∃ r, appendSnapshotEntry tree hashing (normalizePaths absolute paths) c p = .ok r :=
        appendSnapshotEntry_returns hopen hp
      obtain ⟨⟨c₁, entry⟩, happend⟩ := happends
      obtain ⟨-, -, hsnapshot⟩ := appendSnapshotEntry_ok hc happend
      -- one path asked for: itself, and what is in it if it is a directory
      have hround : ∃ c₂, snapshotRequested tree true hashing (normalizePaths absolute paths) c p = .ok c₂ := by
        unfold snapshotRequested
        rw [happend]
        by_cases hdir : entry.snapshot.fileType = .directory
        · obtain ⟨children, hfound⟩ := iterChildPaths_returns hopen hsnapshot hdir
          obtain ⟨c₂, hc₂⟩ := hchildren children c₁ fun q hq =>
            ((mem_iterChildPaths hfound).1 hq).1.isReached hp
          refine ⟨c₂, ?_⟩
          rw [bind_eq_ok]
          refine ⟨_, rfl, ?_⟩
          show (if true = false ∨ _ then _ else _) = _
          rw [if_neg (by simp [hdir]), bind_eq_ok]
          exact ⟨children, hfound, hc₂⟩
        · refine ⟨c₁, ?_⟩
          rw [bind_eq_ok]
          exact ⟨_, rfl, if_pos (Or.inr hdir)⟩
      obtain ⟨c₂, hc₂⟩ := hround
      exact ⟨c₂, hc₂, fun q hq => hps q (List.mem_cons_of_mem _ hq), (snapshotRequested_ok hc hc₂).1⟩)
    ⟨hreached, hempty⟩
  unfold snapshotBundle
  rw [dif_pos hlimit]
  dsimp only
  rw [hc']
  exact ⟨_, rfl⟩

end

/-! ## One tree -/

private def house : LocalPath := ⟨"/", ["house"]⟩

private def roof : LocalPath := ⟨"/", []⟩

private def stone : TreeNode := ⟨⟨2, .directory 0, 0o755, 0, 0⟩, 1, false, true, none⟩

private theorem child_eq_house (p : LocalPath) (name : String) : p.child name = house ↔ p = roof ∧ name = "house" := by
  obtain ⟨anchor, parts⟩ := p
  cases parts with
  | nil => simp [LocalPath.child, house, roof]
  | cons part parts => simp [LocalPath.child, house, roof]

private theorem child_ne_roof (p : LocalPath) (name : String) : p.child name ≠ roof := by
  simp [LocalPath.child, roof]

private def standing : StableTree .posix where
  nodeAt := fun p => if p = roof ∨ p = house then some stone else none
  names := fun p => if p = roof then ["house"] else []
  depth := 1
  mem_names := by
    intro p name
    by_cases hp : p = roof
    · simp [hp, child_eq_house, child_ne_roof]
    · simp [hp, child_eq_house, child_ne_roof]
  inside := by
    intro p name h
    by_cases hp : p = roof
    · exact ⟨stone, by simp [hp], rfl⟩
    · simp [hp, child_eq_house, child_ne_roof] at h
  bounded := by
    intro p h
    split at h
    · next hp => rcases hp with rfl | rfl <;> decide
    · cases h
  reparsed := by
    intro _ p n h
    split at h
    · cases h; rfl
    · cases h

private theorem standing_opens (p : LocalPath) (n : TreeNode) (h : standing.nodeAt p = some n) : n.mayOpen = true := by
  simp only [standing] at h
  split at h
  · cases h; rfl
  · cases h

private theorem roof_reached : ∀ p ∈ [roof, house], IsReached standing p := by
  intro p hp above habove
  have : above = roof := by
    rcases List.mem_cons.1 hp with rfl | hp
    · exact List.mem_singleton.1 habove
    · rw [List.mem_singleton.1 hp] at habove
      exact List.mem_singleton.1 habove
  rw [this]
  rfl

/-- The anchor is requested, and what is below it is not entered. -/
theorem snapshot_bundle_anchor : ¬ ∀ (tree : StableTree .posix) (absolute : String → LocalPath)
    (paths : PathArgument) (hashing : Hashing) (bundle : SnapshotBundle),
    snapshotBundle tree absolute paths true hashing = .ok bundle →
      IsExact tree (normalizePaths absolute paths) bundle := by
  intro h
  have hreturns : ∃ bundle, snapshotBundle standing (fun _ => roof) (.one "/") true ⟨.metadataOnly, 0⟩ = .ok bundle :=
    snapshotBundle_returns standing_opens (Int.le_refl 0) fun p hp => roof_reached p (by
      rw [List.mem_singleton.1 hp]
      exact List.mem_cons_self)
  obtain ⟨bundle, hbundle⟩ := hreturns
  obtain ⟨hpaths, -, -⟩ := snapshotBundle_ok hbundle
  have hentered := ((h _ _ _ _ _ hbundle).mem_iff house).2
    (Or.inr ⟨roof, List.mem_cons_self, rfl, @Below.child _ _ roof "house" rfl, rfl⟩)
  obtain ⟨p, hp, hlead⟩ := (hpaths house).1 hentered
  rw [List.mem_singleton.1 hp] at hlead
  rcases hlead with heq | ⟨hshows, -, -⟩
  · cases heq
  · cases hshows

/-- The same tree, asked for the directory below the anchor. -/
theorem snapshot_bundle_of_house : ∃ bundle,
    snapshotBundle standing (fun _ => house) (.one "/house") true ⟨.metadataOnly, 0⟩ = .ok bundle ∧
      IsExact standing [house] bundle := by
  have hreturns : ∃ bundle, snapshotBundle standing (fun _ => house) (.one "/house") true ⟨.metadataOnly, 0⟩
      = .ok bundle :=
    snapshotBundle_returns standing_opens (Int.le_refl 0) fun p hp => roof_reached p (List.mem_cons_of_mem _ hp)
  obtain ⟨bundle, hbundle⟩ := hreturns
  refine ⟨bundle, hbundle, ?_⟩
  apply ((snapshot_bundle_exact_iff standing (fun _ => house) (.one "/house") ⟨.metadataOnly, 0⟩).2
    bundle hbundle).2
  refine ⟨?_, ?_⟩
  · intro p hp _ hanchor
    rw [List.mem_singleton.1 hp] at hanchor
    cases hanchor
  · intro p hp q hbelow hdangling
    obtain ⟨n, hn, hn'⟩ := is_true.1 hdangling
    rw [TreeNode.isDangling, decide_eq_true_eq, standing.reparsed rfl q n hn] at hn'
    cases hn'.2

end SafeFsOps.Bundles
