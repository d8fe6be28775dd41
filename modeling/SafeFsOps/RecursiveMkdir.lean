import Mathlib.Data.List.Infix
import SafeFsOps.OperationJournal.Coordinator

/-!
# Planning a recursive mkdir

`recursive_mkdir.py`: which directories are to be made, from the nearest one that is
there down to the target. The walk goes up from the target and ends at the first path
that exists; what it met on its way, read backwards, is the plan.

The planner only looks: it is a function of what the inspector says of each path. A
turn of its loop is `climb`, and `collectMissingChain` makes as many of them as it is
given fuel for.

> `collectMissingChain_ends`: one turn more than the target has parts is enough.
> `planDirectoryCreation_exact`: the steps are the missing paths between the nearest
> existing ancestor and the target, parents first.
-/

namespace SafeFsOps

/-- `RecursiveMkdirStep`. -/
structure RecursiveMkdirStep where
  path : Path
  resourceKey : String
  existedBefore : Bool
  cleanupEligible : Bool
deriving DecidableEq

/-- `RecursiveMkdirPlan`. -/
structure RecursiveMkdirPlan where
  target : Path
  parents : Bool
  existOk : Bool
  rootBoundary : Option Path
  targetExistedBefore : Bool
  steps : List RecursiveMkdirStep
deriving DecidableEq

/-- `_require_safe_existing_directory`, of what the inspector says. -/
def requireSafeExistingDirectory (safety : PathSafety) (path : Path) (role operation : String) :
    Except FilesystemError Unit := do
  let refused (what : String) : FilesystemError :=
    .unsafePath (operation ++ " refused because " ++ role ++ " is " ++ what ++ ": " ++ pathText path)
  require (safety.fileType ≠ .symlink) (refused "a symlink")
  require (safety.isMount = false) (refused "a mount point")
  require (safety.fileType = .directory) (refused "not a directory")

section Planning

variable (inspect : Path → PathSafety)

/-- `_require_path_within_boundary`. -/
def requirePathWithinBoundary (path boundary : Path) : Except FilesystemError Unit :=
  require (boundary <+: path)
    (.unsafePath ("mkdir plan refused because target escapes root boundary: " ++ pathText path))

/-- `_require_existing_directory`. -/
def requireExistingDirectory (path : Path) (role operation : String) : Except FilesystemError Unit := do
  require ((inspect path).pathExists = true) (.fileNotFound path)
  requireSafeExistingDirectory (inspect path) path role operation

/-- What a turn of the loop in `_collect_missing_chain` comes to. -/
inductive Climb where
  | up (current : Path) (missingChain : List Path)
  | ended (result : Except FilesystemError (List Path))

/-- A turn of the loop in `_collect_missing_chain`. -/
def climb (boundary : Option Path) (current : Path) (missingChain : List Path) : Climb :=
  if (inspect current).pathExists then
    .ended ((requireSafeExistingDirectory (inspect current) current "ancestor" "mkdir plan").map fun _ => missingChain)
  else if boundary = some current then .ended (.error (.fileNotFound current))
  else if parentPath current = current then .ended (.error (.fileNotFound current))
  else .up (parentPath current) (missingChain ++ [current])

/-- `_collect_missing_chain`, or `none` where the fuel ends before the loop. -/
def collectMissingChain (boundary : Option Path) : Nat → Path → List Path → Option (Except FilesystemError (List Path))
  | 0, _, _ => none
  | fuel + 1, current, missingChain =>
    match climb inspect boundary current missingChain with
    | .ended result => some result
    | .up current missingChain => collectMissingChain boundary fuel current missingChain

/-- The boundary, where there is one, is a directory above the target. -/
def requireBoundary (target : Path) (rootBoundary : Option Path) : Except FilesystemError Unit :=
  match rootBoundary with
  | none => .ok ()
  | some boundary => do
    requirePathWithinBoundary target boundary
    requireExistingDirectory inspect boundary "root boundary" "mkdir plan"

/-- A step of a plan, as it is written down for a missing path. -/
def plannedStep (path : Path) : RecursiveMkdirStep := ⟨path, directoryResourceKey path, false, false⟩

/-- `plan_directory_creation` of a target that is there. -/
def planExisting (target : Path) (parents existOk : Bool) (rootBoundary : Option Path) :
    Except FilesystemError RecursiveMkdirPlan := do
  requireSafeExistingDirectory (inspect target) target "target" "mkdir plan"
  require (existOk = true) (.fileExists target)
  return ⟨target, parents, existOk, rootBoundary, true, []⟩

/-- `plan_directory_creation` from the missing chain on. -/
def planMissing (target : Path) (parents existOk : Bool) (rootBoundary : Option Path) (missingChain : List Path) :
    Except FilesystemError RecursiveMkdirPlan := do
  require (parents = true ∨ missingChain.length = 1) (.fileNotFound (parentPath target))
  return ⟨target, parents, existOk, rootBoundary, false, missingChain.reverse.map plannedStep⟩

/-- `plan_directory_creation`, or `none` where the fuel ends before the walk. -/
def planDirectoryCreation (fuel : Nat) (target : Path) (parents existOk : Bool) (rootBoundary : Option Path) :
    Option (Except FilesystemError RecursiveMkdirPlan) :=
  match requireBoundary inspect target rootBoundary with
  | .error e => some (.error e)
  | .ok _ =>
    if (inspect target).pathExists then some (planExisting inspect target parents existOk rootBoundary)
    else (collectMissingChain inspect rootBoundary fuel target []).map fun chain =>
      chain.bind (planMissing target parents existOk rootBoundary)

/-! ## The walk -/

variable {inspect} {boundary : Option Path} {target current existing : Path} {chain found : List Path}

theorem parentPath_concat (p : Path) (name : String) : parentPath (p ++ [name]) = p := by
  rw [parentPath, List.dropLast_concat]

/-- Only the root is its own parent. -/
theorem parentPath_eq_self {p : Path} : parentPath p = p ↔ p = [] := by
  constructor
  · intro h
    have hlen : p.length - 1 = p.length := by rw [← List.length_dropLast, ← parentPath, h]
    exact List.eq_nil_of_length_eq_zero (by omega)
  · intro h
    rw [h]
    rfl

/-- A path is last among its ancestors. -/
theorem inits_parentPath {p : Path} (h : p ≠ []) : p.inits = (parentPath p).inits ++ [p] := by
  obtain ⟨parent, name, rfl⟩ : ∃ parent name, p = parent ++ [name] :=
    ⟨p.dropLast, p.getLast h, (List.dropLast_append_getLast h).symm⟩
  rw [parentPath_concat, List.inits_append]
  rfl

/-- A turn that goes up has the parent next, which is shorter. -/
theorem climb_up {p : Path} {chain' : List Path} (h : climb inspect boundary current chain = .up p chain') :
    p = parentPath current ∧ chain' = chain ++ [current] ∧ (inspect current).pathExists = false ∧ current ≠ [] := by
  unfold climb at h
  split at h
  · cases h
  · next hmissing =>
    split at h
    · cases h
    · split at h
      · cases h
      · next hroot =>
        cases h
        exact ⟨rfl, rfl, Bool.eq_false_iff.2 hmissing, fun hnil => hroot (parentPath_eq_self.2 hnil)⟩

/-- **The walk ends**: every turn but the last shortens the path. -/
theorem collectMissingChain_ends {fuel : Nat} (hfuel : current.length < fuel) :
    ∃ r, collectMissingChain inspect boundary fuel current chain = some r := by
  induction fuel generalizing current chain with
  | zero => omega
  | succ fuel ih =>
    rw [collectMissingChain]
    cases hturn : climb inspect boundary current chain with
    | ended r => exact ⟨r, rfl⟩
    | up p chain' =>
      obtain ⟨rfl, -, -, hne⟩ := climb_up hturn
      have hpos := List.length_pos_iff.2 hne
      refine ih ?_
      rw [parentPath, List.length_dropLast]
      omega

/-- What passes the check is an ordinary directory, if anything is there. -/
theorem isPlainDirectory_of_require {safety : PathSafety} {path : Path} {role operation : String}
    (hexists : safety.pathExists = true) (h : requireSafeExistingDirectory safety path role operation = .ok ()) :
    safety.isPlainDirectory = true := by
  simp only [requireSafeExistingDirectory, bind_eq_ok, require_eq_ok] at h
  obtain ⟨-, -, -, hmount, hdirectory⟩ := h
  simp [PathSafety.isPlainDirectory, hexists, hmount, hdirectory]

/-- **What the walk collects**: below the first path that exists, everything down to where it
started. -/
theorem collectMissingChain_spec {fuel : Nat} {result : List Path}
    (h : collectMissingChain inspect boundary fuel current chain = some (.ok result)) :
    ∃ existing found, (inspect existing).isPlainDirectory = true ∧ current.inits = existing.inits ++ found ∧
      result = chain ++ found.reverse ∧ ∀ p ∈ found, (inspect p).pathExists = false := by
  induction fuel generalizing current chain with
  | zero => cases h
  | succ fuel ih =>
    rw [collectMissingChain] at h
    cases hturn : climb inspect boundary current chain with
    | up p chain' =>
      rw [hturn] at h
      obtain ⟨rfl, rfl, hmissing, hne⟩ := climb_up hturn
      obtain ⟨existing, found, hexisting, hinits, rfl, hall⟩ := ih h
      refine ⟨existing, found ++ [current], hexisting, ?_, ?_, ?_⟩
      · rw [inits_parentPath hne, hinits, List.append_assoc]
      · rw [List.reverse_append, List.reverse_singleton, List.append_assoc]
      · intro p hp
        rcases List.mem_append.1 hp with hp | hp
        · exact hall p hp
        · rw [List.mem_singleton.1 hp]
          exact hmissing
    | ended r =>
      rw [hturn] at h
      cases h
      unfold climb at hturn
      split at hturn
      · next hexists =>
        cases hsafe : requireSafeExistingDirectory (inspect current) current "ancestor" "mkdir plan" with
        | error e =>
          rw [hsafe] at hturn
          cases hturn
        | ok u =>
          rw [hsafe] at hturn
          cases hturn
          refine ⟨current, [], isPlainDirectory_of_require hexists hsafe, ?_, ?_, ?_⟩
          · rw [List.append_nil]
          · rw [List.reverse_nil, List.append_nil]
          · intro p hp
            cases hp
      · split at hturn
        · cases hturn
        · split at hturn <;> cases hturn

/-! ## What is planned -/

/-- The paths of a plan. -/
def RecursiveMkdirPlan.paths (plan : RecursiveMkdirPlan) : List Path := plan.steps.map RecursiveMkdirStep.path

/-- The ancestors of a path and itself have the lengths from nothing up. -/
theorem map_length_inits (p : Path) : p.inits.map List.length = List.range (p.length + 1) := by
  refine List.ext_getElem ?_ fun n h₁ h₂ => ?_
  · rw [List.length_map, List.length_inits, List.length_range]
  · rw [List.getElem_map, List.getElem_inits, List.getElem_range, List.length_take]
    rw [List.length_range] at h₂
    omega

/-- What is below the existing path is longer than it, and each path is longer than the one before. -/
theorem map_length_below (h : target.inits = existing.inits ++ found) :
    found.map List.length = List.range' (existing.length + 1) (target.length - existing.length) := by
  have hdrop : found = target.inits.drop (existing.length + 1) := by
    rw [h, ← List.length_inits, List.drop_left]
  rw [hdrop, List.map_drop, map_length_inits, List.range_eq_range', List.drop_range']
  congr 1 <;> omega

theorem nodup_below (h : target.inits = existing.inits ++ found) : found.Nodup := by
  refine List.Nodup.of_map List.length ?_
  rw [map_length_below h]
  exact List.nodup_range'

theorem length_lt_of_mem_below (h : target.inits = existing.inits ++ found) {p : Path} (hp : p ∈ found) :
    existing.length < p.length := by
  have hlen : p.length ∈ found.map List.length := List.mem_map_of_mem hp
  rw [map_length_below h, List.mem_range'_1] at hlen
  omega

theorem getLast?_inits (p : Path) : p.inits.getLast? = some p := by
  by_cases h : p = []
  · rw [h]
    rfl
  · rw [inits_parentPath h, List.getLast?_concat]

/-- The ancestors of a path and itself, each the parent of the next. -/
theorem isChain_inits (p : Path) : p.inits.IsChain fun parent child => parentPath child = parent := by
  induction p using List.reverseRecOn with
  | nil => exact List.isChain_singleton []
  | append_singleton p name ih =>
    have hinits : (p ++ [name]).inits = p.inits ++ [p ++ [name]] := by
      rw [inits_parentPath (by simp), parentPath_concat]
    rw [hinits, List.isChain_append]
    refine ⟨ih, List.isChain_singleton _, fun parent hparent child hchild => ?_⟩
    rw [getLast?_inits, Option.mem_some_iff] at hparent
    rw [List.head?_cons, Option.mem_some_iff] at hchild
    rw [← hparent, ← hchild, parentPath_concat]

/-- Nothing is at the path, nor between it and the target. -/
def MissingDownTo (inspect : Path → PathSafety) (target path : Path) : Prop :=
  path <+: target ∧ ∀ q, path <+: q → q <+: target → (inspect q).pathExists = false

/-- The plan of a target: what is missing between the target and the nearest ancestor that is
there, parents first and the target last. -/
structure ExactPlan (inspect : Path → PathSafety) (target : Path) (plan : RecursiveMkdirPlan) : Prop where
  exactly : ∀ p, p ∈ plan.paths ↔ MissingDownTo inspect target p
  distinct : plan.paths.Nodup
  linked : plan.paths.IsChain fun parent child => parentPath child = parent
  grounded : ∀ p ∈ plan.paths.head?, (inspect (parentPath p)).isPlainDirectory = true
  ends : plan.paths.getLast? = if (inspect target).pathExists then none else some target
  spelled : plan.steps = plan.paths.map plannedStep

/-- What the walk finds is missing, and nothing else on the way is. -/
theorem mem_below_iff (hinits : target.inits = existing.inits ++ found)
    (hexisting : (inspect existing).pathExists = true) (hall : ∀ p ∈ found, (inspect p).pathExists = false) (p : Path) :
    p ∈ found ↔ MissingDownTo inspect target p := by
  have hsplit : ∀ q, q <+: target ↔ q <+: existing ∨ q ∈ found := by
    intro q
    rw [← List.mem_inits, hinits, List.mem_append, List.mem_inits]
  constructor
  · intro hp
    refine ⟨(hsplit p).2 (Or.inr hp), fun q hpq hq => ?_⟩
    rcases (hsplit q).1 hq with hq | hq
    · -- a path below the existing one is longer than it
      have hlen := length_lt_of_mem_below hinits hp
      have hle := (hpq.trans hq).length_le
      omega
    · exact hall q hq
  · intro h
    rcases (hsplit p).1 h.1 with hp | hp
    · have hmissing := h.2 existing hp ((hsplit existing).2 (Or.inl List.prefix_rfl))
      rw [hexisting] at hmissing
      cases hmissing
    · exact hp

theorem exists_of_isPlainDirectory {s : PathSafety} (h : s.isPlainDirectory = true) : s.pathExists = true := by
  simp only [PathSafety.isPlainDirectory, decide_eq_true_eq] at h
  exact h.1

/-- The plan of what the walk found. -/
theorem exactPlan_below {parents existOk : Bool} {rootBoundary : Option Path}
    (hinits : target.inits = existing.inits ++ found) (hexisting : (inspect existing).isPlainDirectory = true)
    (hall : ∀ p ∈ found, (inspect p).pathExists = false) (htarget : (inspect target).pathExists = false) :
    ExactPlan inspect target ⟨target, parents, existOk, rootBoundary, false, found.map plannedStep⟩ := by
  have hpaths : (found.map plannedStep).map RecursiveMkdirStep.path = found := by
    rw [List.map_map]
    exact List.map_id found
  have hchain := isChain_inits target
  rw [hinits, List.isChain_append] at hchain
  constructor <;> simp only [RecursiveMkdirPlan.paths, hpaths]
  case exactly => exact mem_below_iff hinits (exists_of_isPlainDirectory hexisting) hall
  case distinct => exact nodup_below hinits
  case linked => exact hchain.2.1
  case grounded =>
    intro p hp
    rw [hchain.2.2 existing (getLast?_inits existing) p hp]
    exact hexisting
  case ends =>
    rw [htarget, if_neg Bool.false_ne_true]
    have hlast : (existing.inits ++ found).getLast? = some target := by rw [← hinits, getLast?_inits]
    rw [List.getLast?_append] at hlast
    cases hfound : found.getLast? with
    | some p =>
      rw [hfound] at hlast
      exact hlast
    | none =>
      -- the walk started at a path that is not there, so it found that one at least
      rw [hfound, getLast?_inits, Option.none_or, Option.some.injEq] at hlast
      rw [← hlast, exists_of_isPlainDirectory hexisting] at htarget
      cases htarget

/-- There is nothing to do for a target that is there. -/
theorem exactPlan_existing {parents existOk : Bool} {rootBoundary : Option Path}
    (htarget : (inspect target).pathExists = true) :
    ExactPlan inspect target ⟨target, parents, existOk, rootBoundary, true, []⟩ where
  exactly p := by
    constructor
    · intro hp
      exact absurd hp List.not_mem_nil
    · intro hp
      have hmissing := hp.2 target hp.1 List.prefix_rfl
      rw [htarget] at hmissing
      cases hmissing
  distinct := List.nodup_nil
  linked := List.isChain_nil
  grounded p hp := by cases hp
  ends := by rw [htarget, if_pos rfl]; rfl
  spelled := rfl

/-- **The plan is exact**, for every inspector, target and boundary. -/
theorem planDirectoryCreation_exact {fuel : Nat} {parents existOk : Bool} {plan : RecursiveMkdirPlan}
    (h : planDirectoryCreation inspect fuel target parents existOk boundary = some (.ok plan)) :
    ExactPlan inspect target plan := by
  unfold planDirectoryCreation at h
  split at h
  · cases h
  · split at h
    · next htarget =>
      simp only [planExisting, Option.some.injEq, bind_eq_ok, pure_eq_ok] at h
      obtain ⟨-, -, -, -, rfl⟩ := h
      exact exactPlan_existing htarget
    · next htarget =>
      obtain ⟨walked, hwalked, hplan⟩ := Option.map_eq_some_iff.1 h
      cases walked with
      | error e => cases hplan
      | ok chain =>
        obtain ⟨existing, found, hexisting, hinits, rfl, hall⟩ := collectMissingChain_spec hwalked
        have hplan : planMissing target parents existOk boundary ([] ++ found.reverse) = .ok plan := hplan
        simp only [planMissing, bind_eq_ok, pure_eq_ok, List.nil_append, List.reverse_reverse] at hplan
        obtain ⟨-, -, rfl⟩ := hplan
        exact exactPlan_below hinits hexisting hall (Bool.eq_false_iff.2 htarget)

/-- What is above a path that is there is there too. -/
theorem exists_above (hclosed : ∀ p, (inspect p).pathExists = true → (inspect (parentPath p)).pathExists = true)
    {p q : Path} (hpq : p <+: q) (hq : (inspect q).pathExists = true) : (inspect p).pathExists = true := by
  obtain ⟨names, rfl⟩ := hpq
  induction names using List.reverseRecOn with
  | nil =>
    rw [List.append_nil] at hq
    exact hq
  | append_singleton names name ih =>
    have hparent := hclosed _ hq
    rw [← List.append_assoc, parentPath_concat] at hparent
    exact ih hparent

/-- Where a path that is there has its parent there, the plan is everything missing on the way. -/
theorem ExactPlan.mem_iff {plan : RecursiveMkdirPlan} (h : ExactPlan inspect target plan)
    (hclosed : ∀ p, (inspect p).pathExists = true → (inspect (parentPath p)).pathExists = true) (p : Path) :
    p ∈ plan.paths ↔ p <+: target ∧ (inspect p).pathExists = false := by
  rw [h.exactly]
  constructor
  · intro hp
    exact ⟨hp.1, hp.2 p List.prefix_rfl hp.1⟩
  · intro hp
    refine ⟨hp.1, fun q hpq _ => ?_⟩
    cases hq : (inspect q).pathExists with
    | false => rfl
    | true =>
      have habove := exists_above hclosed hpq hq
      rw [hp.2] at habove
      cases habove

/-- The planner always comes to an end. -/
theorem planDirectoryCreation_ends {fuel : Nat} {parents existOk : Bool} (hfuel : target.length < fuel) :
    ∃ r, planDirectoryCreation inspect fuel target parents existOk boundary = some r := by
  unfold planDirectoryCreation
  split
  · exact ⟨_, rfl⟩
  · split
    · exact ⟨_, rfl⟩
    · obtain ⟨r, hr⟩ : ∃ r, collectMissingChain inspect boundary fuel target [] = some r :=
        collectMissingChain_ends hfuel
      exact ⟨_, by rw [hr]; rfl⟩

/-- The walk gets past what is missing to a directory that is there. -/
theorem collectMissingChain_arrives {fuel : Nat} (hfuel : current.length < fuel) (habove : existing <+: current)
    (hexisting : (inspect existing).isPlainDirectory = true)
    (hmissing : ∀ q, existing <+: q → q ≠ existing → q <+: current → (inspect q).pathExists = false) :
    ∃ result, collectMissingChain inspect none fuel current chain = some (.ok result) := by
  induction fuel generalizing current chain with
  | zero => omega
  | succ fuel ih =>
    rw [collectMissingChain]
    by_cases hcurrent : current = existing
    · obtain ⟨hexists, hdirectory, hmount⟩ : (inspect existing).pathExists = true ∧
          (inspect existing).fileType = .directory ∧ (inspect existing).isMount = false := by
        simpa [PathSafety.isPlainDirectory] using hexisting
      have hsafe : requireSafeExistingDirectory (inspect existing) existing "ancestor" "mkdir plan" = .ok () := by
        simp [requireSafeExistingDirectory, hdirectory, hmount]
      refine ⟨chain, ?_⟩
      rw [climb, hcurrent, if_pos hexists, hsafe]
      rfl
    · have hne : current ≠ [] := by
        intro hnil
        rw [hnil] at habove hcurrent
        exact hcurrent (List.prefix_nil.1 habove).symm
      have hturn : climb inspect none current chain = .up (parentPath current) (chain ++ [current]) := by
        have hroot : parentPath current ≠ current := fun h => hne (parentPath_eq_self.1 h)
        simp [climb, hmissing current habove hcurrent List.prefix_rfl, hroot]
      rw [hturn]
      have hparent : parentPath current <+: current := List.dropLast_prefix current
      have hshorter : (parentPath current).length < current.length := by
        rw [parentPath, List.length_dropLast]
        have hpos := List.length_pos_iff.2 hne
        omega
      refine ih (by omega) ?_ fun q hq hqne hqp => hmissing q hq hqne (hqp.trans hparent)
      -- the existing path is above the current one, and another
      refine List.prefix_of_prefix_length_le habove hparent ?_
      have hle := habove.length_le
      have hlen : existing.length ≠ current.length := fun h => hcurrent (habove.eq_of_length h).symm
      rw [parentPath, List.length_dropLast]
      omega

/-- A missing target below an ordinary directory is planned. -/
theorem planDirectoryCreation_made {fuel : Nat} {existOk : Bool} (hfuel : target.length < fuel)
    (habove : existing <+: target) (hne : target ≠ existing) (hexisting : (inspect existing).isPlainDirectory = true)
    (hmissing : ∀ q, existing <+: q → q ≠ existing → q <+: target → (inspect q).pathExists = false) :
    ∃ plan, planDirectoryCreation inspect fuel target true existOk none = some (.ok plan) := by
  have htarget : (inspect target).pathExists = false := hmissing target habove hne List.prefix_rfl
  obtain ⟨result, hresult⟩ : ∃ result, collectMissingChain inspect none fuel target [] = some (.ok result) :=
    collectMissingChain_arrives hfuel habove hexisting hmissing
  have hplan : planDirectoryCreation inspect fuel target true existOk none =
      some (planMissing target true existOk none result) := by
    rw [planDirectoryCreation, requireBoundary]
    simp only [htarget, Bool.false_eq_true, if_false, hresult]
    rfl
  exact ⟨_, by rw [hplan, planMissing, require, if_pos (Or.inl rfl)]; rfl⟩

end Planning

end SafeFsOps
