/-!
# Path text

A path is written as text with slashes between its segments. This module reads such a text as a
list of steps, joins two texts, and defines `FileName`, the names that a directory can give to its
entries.
-/

namespace DebugRelay

/-- A text that can name a directory entry: not empty, neither of the two dots, without a slash. -/
def IsFileName (s : String) : Prop :=
  s ≠ "" ∧ s ≠ "." ∧ s ≠ ".." ∧ '/' ∉ s.toList

instance (s : String) : Decidable (IsFileName s) :=
  inferInstanceAs (Decidable (_ ∧ _))

/-- The name of a directory entry. -/
structure FileName where
  /-- The name as written. -/
  text : String
  /-- It is neither empty nor a dot name, and has no slash. -/
  ordinary : IsFileName text
  deriving DecidableEq

namespace FileName

/-- Names are ordered by code points. -/
instance : Ord FileName := ⟨compareOn FileName.text⟩

instance : Std.TransOrd FileName :=
  inferInstanceAs (Std.TransCmp (compareOn FileName.text))

instance : Std.LawfulEqOrd FileName where
  compare_self {a} := (Std.compare_self : compare a.text a.text = .eq)
  eq_of_compare {a b} h := by
    obtain ⟨s, hs⟩ := a
    obtain ⟨t, ht⟩ := b
    have : s = t := Std.compare_eq_iff_eq.1 h
    subst this
    rfl

end FileName

namespace Path

/-- One step of a path, taken from the place that the steps before it lead to. -/
inductive Step where
  /-- Stay: an empty segment or a single dot. -/
  | here
  /-- Go to the directory above. -/
  | parent
  /-- Go to an entry. -/
  | name (n : FileName)
  deriving DecidableEq

/-- The segments of a path text: what stands before, between and after its slashes. -/
def segments : List Char → List (List Char)
  | [] => [[]]
  | c :: rest =>
    if c = '/' then [] :: segments rest
    else
      match segments rest with
      | [] => [[c]]
      | s :: more => (c :: s) :: more

/-- The step that a segment stands for. -/
def Step.ofSegment (segment : List Char) : Step :=
  let s := String.ofList segment
  if s = ".." then .parent
  else if h : IsFileName s then .name ⟨s, h⟩
  else .here

/-- The steps of a path text. -/
def steps (path : String) : List Step :=
  (segments path.toList).map Step.ofSegment

/-- Whether a path starts at the root. -/
def isAbsolute (path : String) : Bool :=
  path.toList.head? == some '/'

/-- The text of a path in front of its last segment that is a step of its own. What only stays in
place right before or after that segment is left out as well. -/
def above (path : String) : String :=
  let stays := fun segment => Step.ofSegment segment == .here
  let before := (((segments path.toList).reverse.dropWhile stays).drop 1).dropWhile stays
  String.intercalate "/" (before.reverse.map String.ofList)

/-- Appends a path to a directory; an absolute path replaces the directory. -/
def join (dir path : String) : String :=
  if isAbsolute path then path
  else if dir = "" || dir.toList.getLast? == some '/' then dir ++ path
  else dir ++ "/" ++ path

end Path

end DebugRelay
