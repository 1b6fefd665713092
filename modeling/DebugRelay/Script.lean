import DebugRelay.Json.Value
import DebugRelay.SourceFile
import DebugRelay.Uuid

/-!
# Scripts, threads and stack frames

What an interpreter reports about a run: the scripts it executes, the threads they run on, and the
frames of a suspended stack.
-/

namespace DebugRelay

/-- A thread of the interpreter, known by its name if it has one. -/
structure Thread where
  name : Option String
  deriving DecidableEq

/-- The thread as shown, given the text of its identity. -/
def Thread.text (identity : String) (t : Thread) : String :=
  match t.name with
  | some name => name ++ " (" ++ identity ++ ")"
  | none => identity

/-- Where the code of a script comes from. -/
inductive Source where
  | file (path : SourceFile)
  | inline (code : String)
  deriving DecidableEq

/-- The file of a source, if it has one. -/
def Source.file? : Source → Option SourceFile
  | .file path => some path
  | .inline _ => none

/-- A script that the interpreter runs. -/
structure Script where
  id : Uuid
  source : Source
  deriving DecidableEq

/-- The file of a script, if it has one. -/
def Script.file? (s : Script) : Option SourceFile := s.source.file?

/-- One frame of a suspended stack. -/
structure Frame where
  /-- What the IDE calls the frame. -/
  name : String
  /-- The current line; zero before the first statement. -/
  line : UInt32
  /-- The local variables, whose values are handed on as they are. -/
  locals : OrderedMap String Json
  /-- The script that the frame executes. -/
  script : Script

instance : Inhabited Frame := ⟨⟨"", 0, ∅, ⟨.zero, .inline ""⟩⟩⟩

/-- A frame of a file, named after it. -/
def Frame.ofFile (id : Uuid) (f : SourceFile) (line : UInt32)
    (locals : OrderedMap String Json) : Frame :=
  ⟨f.text, line, locals, ⟨id, .file f⟩⟩

end DebugRelay
