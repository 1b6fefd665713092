import DebugRelay.Command
import DebugRelay.Error
import DebugRelay.Tracer

/-!
# The interpreter from outside

What the relay knows of the interpreter in whose process it runs: how it answers while the debugger
is installed, and the debugger it hands over. That debugger may be any that understands commands;
`Hook` describes it by the commands that it refuses and by whether the others reach the tracer.
-/

namespace DebugRelay

/-- A call that the relay makes to the interpreter or to the IDE. -/
inductive Call where
  /-- The IDE learns that its target exists. -/
  | targetCreated (name : String)
  /-- The launch gets its target. -/
  | targetAdded (name : String)
  /-- The interpreter shall look for modules in a directory. -/
  | searchPath (dir : String)
  /-- The interpreter shall run the script that installs the debugger. -/
  | loadDebugger (path : String)
  /-- The debugger shall report to the relay. -/
  | attach
  | command (c : Command)
  deriving DecidableEq

/-- A debugger inside the interpreter. -/
structure Hook where
  /-- Whether accepted commands reach the tracer. -/
  traced : Bool
  /-- The error with which a command is refused, given all calls made before it. -/
  refuses : List Call → Command → Option Error

/-- The interpreter as it answers while the debugger is installed. -/
structure Interpreter where
  /-- Why the search path cannot be extended, if it cannot. -/
  searchPathError : Option Error
  /-- Why the setup script cannot be run, if it cannot. -/
  loadError : Option Error
  /-- Why the debugger does not accept the relay, if it does not. -/
  attachError : Option Error
  /-- The debugger that the setup script creates. -/
  hook : Hook

/-- The interpreter's side: its tracer and every call made so far. -/
structure Native where
  tracer : Tracer := {}
  calls : List Call := []

namespace Native

instance : Inhabited Native := ⟨{}⟩

/-- Records a call. -/
def record (n : Native) (c : Call) : Native :=
  { n with calls := n.calls ++ [c] }

/-- Sends a command to a debugger. -/
def invoke (n : Native) (h : Hook) (c : Command) : Native × Except Error Unit :=
  let recorded := n.record (.command c)
  match h.refuses n.calls c with
  | some e => (recorded, .error e)
  | none =>
    if h.traced then
      let (tracer, result) := recorded.tracer.invoke c
      ({ recorded with tracer := tracer }, result)
    else (recorded, .ok ())

/-- Makes a debugger report to the relay. -/
def attach (n : Native) (i : Interpreter) : Native × Except Error Unit :=
  let recorded := n.record .attach
  match i.attachError with
  | some e => (recorded, .error e)
  | none =>
    if i.hook.traced then
      ({ recorded with tracer := { recorded.tracer with observed := true } }, .ok ())
    else (recorded, .ok ())

end Native

end DebugRelay
