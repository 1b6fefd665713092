import DebugRelay.Error
import DebugRelay.SourceFile

/-!
# Breakpoints

A `Breakpoint` says where a script shall stop and under which circumstances. `StoredBreakpoint` is
a breakpoint as the IDE keeps it, whose every attribute is looked up and may fail to be found.
`Breakpoint.resolve` turns the second into the first and needs nothing but the file.
-/

namespace DebugRelay

/-- A place where a breakpoint can be: a file, and a line counted from one if it is known. -/
structure Location where
  file : SourceFile
  line : Option UInt32
  deriving DecidableEq

namespace Location

/-- Locations are ordered by file and then by line, the unknown line first. -/
instance : Ord Location := ⟨compareLex (compareOn Location.file) (compareOn Location.line)⟩

instance : Std.TransOrd Location :=
  inferInstanceAs (Std.TransCmp (compareLex (compareOn Location.file) (compareOn Location.line)))

instance : Std.LawfulEqOrd Location where
  compare_self {a} := by
    change compareLex (compareOn Location.file) (compareOn Location.line) a a = .eq
    simp [compareLex, compareOn]
  eq_of_compare {a b} h := by
    change compareLex (compareOn Location.file) (compareOn Location.line) a b = .eq at h
    rw [compareLex_eq_eq] at h
    obtain ⟨file, line⟩ := a
    obtain ⟨file', line'⟩ := b
    have hf : file = file' := Std.compare_eq_iff_eq.1 h.1
    have hl : line = line' := Std.compare_eq_iff_eq.1 h.2
    subst hf hl
    rfl

/-- The location as shown: the line after a colon, or a question mark for an unknown one. -/
def text (l : Location) : String :=
  l.file.text ++ ":" ++
    match l.line with
    | some line => toString line.toNat
    | none => "?"

end Location

/-- A breakpoint as the interpreter gets it. -/
structure Breakpoint where
  /-- The file to stop in. -/
  file : SourceFile
  /-- The line to stop at, counted from one; unknown if the IDE could not tell. -/
  line : Option UInt32
  /-- A condition, which is handed on as it is. -/
  condition : Option String
  /-- How often the line is passed before the first stop. -/
  hitCount : UInt32
  /-- Whether the breakpoint goes after its first stop. -/
  temporary : Bool
  /-- Whether the breakpoint shall be installed. -/
  enabled : Bool
  /-- The marker of the IDE that owns the breakpoint and stays when the line moves. -/
  marker : Option UInt64
  deriving DecidableEq

/-- A breakpoint as the IDE stores it: what each lookup answers. -/
structure StoredBreakpoint where
  /-- The kind of breakpoint. -/
  model : String
  /-- The path of the marked resource. -/
  path : Except Error String
  /-- The line, with zero for none. -/
  line : Except Error UInt32
  condition : Except Error (Option String)
  enabled : Except Error Bool
  marker : Option UInt64

namespace Breakpoint

/-- An enabled breakpoint at a line without further attributes; line zero is unknown. -/
def atLine (file : SourceFile) (line : UInt32) : Breakpoint where
  file := file
  line := if line = 0 then none else some line
  condition := none
  hitCount := 0
  temporary := false
  enabled := true
  marker := none

/-- Where the breakpoint is. -/
def location (b : Breakpoint) : Location := ⟨b.file, b.line⟩

/-- The breakpoint as shown: its location, its condition, and whether it is disabled. -/
def text (b : Breakpoint) : String :=
  b.location.text ++
    (match b.condition with
      | some c => " if " ++ c
      | none => "") ++
    (if b.enabled then "" else " (disabled)")

/-- Takes over the attributes of another breakpoint that may change in place. The location and the
owner stay. -/
def updateFrom (b other : Breakpoint) : Breakpoint :=
  { b with
    condition := other.condition
    hitCount := other.hitCount
    temporary := other.temporary
    enabled := other.enabled }

/-- The value of a lookup, or a default where it failed. -/
def valueOr {α : Type} (default : α) : Except Error α → α
  | .ok x => x
  | .error _ => default

/-- Resolves a stored breakpoint. Only the path is needed: without a line or a condition the field
stays empty, and a breakpoint that cannot tell whether it is enabled is not. -/
def resolve (files : FileTree) (stored : StoredBreakpoint) : Except Error Breakpoint :=
  match stored.path with
  | .error e => .error (.unresolved ("no source location: " ++ e.message))
  | .ok path =>
    match SourceFile.locate? files path with
    | none => .error (.relativePath path)
    | some file =>
      let line := valueOr 0 stored.line
      .ok {
        file := file
        line := if line = 0 then none else some line
        condition := valueOr none stored.condition
        hitCount := 0
        temporary := false
        enabled := valueOr false stored.enabled
        marker := stored.marker }

end Breakpoint

end DebugRelay
