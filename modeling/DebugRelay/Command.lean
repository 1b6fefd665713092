import DebugRelay.Event

/-!
# Commands

The calls that an interpreter's own debugger understands.
-/

namespace DebugRelay

/-- A call to the interpreter's debugger. -/
inductive Command where
  | suspendOnStartup (enabled : Bool)
  | suspendOnScriptLoad (enabled : Bool)
  | setBreak (b : Breakpoint)
  | clearFile (f : SourceFile)
  | stepInto
  | stepOver
  | stepOut
  | continue_
  | quit
  deriving DecidableEq

namespace Command

/-- The name of the call in the interpreter. -/
def nativeName : Command → String
  | suspendOnStartup _ => "set_suspend_on_startup"
  | suspendOnScriptLoad _ => "set_suspend_on_script_load"
  | setBreak _ => "set_break"
  | clearFile _ => "clear_all_file_breaks"
  | stepInto => "step_stepinto"
  | stepOver => "step_stepover"
  | stepOut => "step_stepout"
  | continue_ => "step_continue"
  | quit => "step_quit"

/-- The command that lets a script go on in the way asked for. -/
def ofStep : StepKind → Command
  | .stepInto => stepInto
  | .stepOver => stepOver
  | .stepOut => stepOut
  | .resume | .client => continue_

end Command

end DebugRelay
