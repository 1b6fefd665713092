import DebugRelay.FileTree

/-!
# Source files

A `SourceFile` identifies a script by its absolute path in normal form: the root and then names
only. `SourceFile.locate` brings any absolute path into that form. What exists is followed through
its links; anything else is cleaned by its text alone.
-/

namespace DebugRelay

/-- The absolute path of a source file, as the names below the root. -/
structure SourceFile where
  /-- The names from the root down. -/
  names : List FileName
  deriving DecidableEq

namespace SourceFile

/-- Files are ordered name by name. -/
instance : Ord SourceFile := ⟨compareOn SourceFile.names⟩

instance : Std.TransOrd SourceFile :=
  inferInstanceAs (Std.TransCmp (compareOn SourceFile.names))

instance : Std.LawfulEqOrd SourceFile where
  compare_self {a} := (Std.compare_self : compare a.names a.names = .eq)
  eq_of_compare {a b} h := by
    obtain ⟨l⟩ := a
    obtain ⟨l'⟩ := b
    have : l = l' := Std.compare_eq_iff_eq.1 h
    subst this
    rfl

/-- The path as text: a slash before each name, and a lone slash for the root. -/
def text (f : SourceFile) : String :=
  "/" ++ String.intercalate "/" (f.names.map FileName.text)

/-- Takes one step by name alone: a name goes down, a parent step goes up and stays at the root. -/
def take (f : SourceFile) : Path.Step → SourceFile
  | .here => f
  | .parent => ⟨f.names.dropLast⟩
  | .name n => ⟨f.names ++ [n]⟩

/-- Where steps from the root lead by name alone. -/
def ofSteps (steps : List Path.Step) : SourceFile :=
  steps.foldl take ⟨[]⟩

/-- The source file that an absolute path denotes; there is none for a relative path. -/
def locate? (files : FileTree) (path : String) : Option SourceFile :=
  if Path.isAbsolute path then
    match files.follow [] (Path.steps path) with
    | .ok place => some ⟨place⟩
    | .error _ => some (ofSteps (Path.steps path))
  else none

end SourceFile

end DebugRelay
