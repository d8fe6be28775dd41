import Mathlib.Data.List.Basic
import Mathlib.Tactic.Common

/-!
# POSIX paths

`pathlib.PurePosixPath`: a root and the parts below it. A part is not empty, not a
single dot and holds no slash, so a path has one text, and reading a text drops empty
parts and dots. Two leading slashes are a root of their own, three are not.

> `ofText_text`: the text of a path is read back as the path.
-/

namespace SafeFsOps

/-- What a path starts with. -/
inductive PathRoot where
  | relative | slash | doubleSlash
deriving DecidableEq

def PathRoot.chars : PathRoot → List Char
  | relative => []
  | slash => ['/']
  | doubleSlash => ['/', '/']

/-- What can stand between slashes and counts. -/
def isPathPart (part : List Char) : Bool := part ≠ [] && part ≠ ['.'] && '/' ∉ part

/-- A path without redundant slashes and dots. -/
structure PosixPath where
  root : PathRoot
  parts : List String
  ok : ∀ part ∈ parts, isPathPart part.toList = true
deriving DecidableEq

/-- `splitroot`: the root of a text, and what follows. -/
def splitRoot : List Char → PathRoot × List Char
  | '/' :: '/' :: '/' :: cs => (.slash, '/' :: '/' :: cs)
  | '/' :: '/' :: cs => (.doubleSlash, cs)
  | '/' :: cs => (.slash, cs)
  | cs => (.relative, cs)

namespace PosixPath

/-- `path.is_absolute()`. -/
def isAbsolute (p : PosixPath) : Bool := p.root ≠ .relative

/-- The characters of `str(path)`. -/
def chars (p : PosixPath) : List Char :=
  if p.root = .relative ∧ p.parts = [] then ['.']
  else p.root.chars ++ ['/'].intercalate (p.parts.map String.toList)

/-- `str(path)`. -/
def text (p : PosixPath) : String := String.ofList p.chars

/-- The parts of what follows the root; that they hold no slash is how they were split. -/
def partsOf (cs : List Char) : List (List Char) := (cs.splitOn '/').filter isPathPart

/-- `Path(text)`. -/
def ofText (s : String) : PosixPath where
  root := (splitRoot s.toList).1
  parts := (partsOf (splitRoot s.toList).2).map String.ofList
  ok := by
    intro part hpart
    obtain ⟨cs, hcs, rfl⟩ := List.mem_map.1 hpart
    rw [String.toList_ofList]
    exact (List.mem_filter.1 hcs).2

@[ext] theorem ext_parts {p q : PosixPath} (hroot : p.root = q.root) (hparts : p.parts = q.parts) : p = q := by
  cases p
  cases q
  subst hroot hparts
  rfl

theorem isPathPart_iff {part : List Char} : isPathPart part = true ↔ part ≠ [] ∧ part ≠ ['.'] ∧ '/' ∉ part := by
  simp only [isPathPart, Bool.and_eq_true, decide_eq_true_eq, and_assoc]

/-- The parts of a path, as characters. -/
theorem partsOf_intercalate (p : PosixPath) :
    partsOf (['/'].intercalate (p.parts.map String.toList)) = p.parts.map String.toList := by
  have hall : ∀ cs ∈ p.parts.map String.toList, isPathPart cs = true := by
    intro cs hcs
    obtain ⟨part, hpart, rfl⟩ := List.mem_map.1 hcs
    exact p.ok part hpart
  by_cases hnil : p.parts.map String.toList = []
  · rw [hnil]
    rfl
  · have hslash : ∀ cs ∈ p.parts.map String.toList, '/' ∉ cs := fun cs hcs => (isPathPart_iff.1 (hall cs hcs)).2.2
    rw [partsOf, List.splitOn_intercalate '/' hslash hnil, List.filter_eq_self.2 hall]

/-- What follows the root of a path does not start with a slash. -/
theorem head_ne_slash (p : PosixPath) (cs : List Char) :
    ['/'].intercalate (p.parts.map String.toList) ≠ '/' :: cs := by
  cases hparts : p.parts with
  | nil => intro h; cases h
  | cons part parts =>
    obtain ⟨hne, -, hslash⟩ := isPathPart_iff.1 (p.ok part (by rw [hparts]; exact List.mem_cons_self))
    cases hpart : part.toList with
    | nil => exact absurd hpart hne
    | cons c rest =>
      rw [hpart] at hslash
      have hc : c ≠ '/' := fun h => hslash (h ▸ List.mem_cons_self)
      intro h
      rw [List.map_cons, hpart] at h
      cases parts with
      | nil =>
        rw [List.map_nil, List.intercalate_singleton] at h
        exact hc (List.cons.inj h).1
      | cons part' parts' =>
        rw [List.map_cons, List.intercalate_cons_cons] at h
        exact hc (List.cons.inj h).1

/-- The root is read off the text. -/
theorem splitRoot_chars (r : PathRoot) {cs : List Char} (h : ∀ cs', cs ≠ '/' :: cs') :
    splitRoot (r.chars ++ cs) = (r, cs) := by
  cases cs with
  | nil => cases r <;> rfl
  | cons c cs =>
    have hc : c ≠ '/' := fun heq => h cs (by rw [heq])
    cases r <;> simp [PathRoot.chars, splitRoot, hc]

/-- `Path(str(path)) == path`. -/
theorem ofText_text (p : PosixPath) : ofText p.text = p := by
  have hread : splitRoot p.text.toList = (p.root, ['/'].intercalate (p.parts.map String.toList)) ∨
      p.root = .relative ∧ p.parts = [] ∧ p.text.toList = ['.'] := by
    rw [text, String.toList_ofList, chars]
    by_cases hempty : p.root = .relative ∧ p.parts = []
    · rw [if_pos hempty]
      exact Or.inr ⟨hempty.1, hempty.2, rfl⟩
    · rw [if_neg hempty, splitRoot_chars p.root (head_ne_slash p)]
      exact Or.inl rfl
  rcases hread with hread | ⟨hroot, hparts, htext⟩
  · refine ext_parts ?_ ?_
    · show (splitRoot p.text.toList).1 = p.root
      rw [hread]
    · show (partsOf (splitRoot p.text.toList).2).map String.ofList = p.parts
      rw [hread, partsOf_intercalate, List.map_map]
      exact (List.map_congr_left fun part _ => String.ofList_toList).trans (List.map_id' p.parts)
  · -- the relative path without parts is written as a dot
    refine ext_parts ?_ ?_
    · show (splitRoot p.text.toList).1 = p.root
      rw [htext, hroot]
      rfl
    · show (partsOf (splitRoot p.text.toList).2).map String.ofList = p.parts
      rw [htext, hparts]
      rfl

end PosixPath

end SafeFsOps
