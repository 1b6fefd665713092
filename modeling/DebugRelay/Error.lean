/-!
# Errors

The causes for which an operation fails, and their wording.
-/

namespace DebugRelay

/-- Why an operation failed. -/
inductive Error where
  /-- The debugger could not be installed into the interpreter. -/
  | setup (reason : String)
  /-- The interpreter refused a command. -/
  | command (name reason : String)
  /-- A source path does not start at the root. -/
  | relativePath (path : String)
  /-- A stored breakpoint does not lead to a place in a file. -/
  | unresolved (reason : String)
  /-- An action does not apply in the present state. -/
  | wrongState (action state : String)
  /-- A processor could not handle an event. -/
  | processor (reason : String)
  /-- The dispatch loop could not be run or waited for. -/
  | dispatch (reason : String)
  /-- Settings are malformed or not acceptable. -/
  | settings (reason : String)
  /-- The file system refused an operation. -/
  | io (reason : String)
  deriving DecidableEq

namespace Error

/-- The wording of an error. -/
def message : Error → String
  | setup reason => "Debugger setup failed: " ++ reason
  | command name reason => "Interpreter command \x60" ++ name ++ "\x60 failed: " ++ reason
  | relativePath path => "Source path is not absolute: " ++ path
  | unresolved reason => "Breakpoint resolution failed: " ++ reason
  | wrongState action state => "Cannot " ++ action ++ " while target is " ++ state
  | processor reason => "Event processor failed: " ++ reason
  | dispatch reason => "Dispatcher error: " ++ reason
  | settings reason => "Invalid configuration: " ++ reason
  | io reason => "IO error: " ++ reason

/-- Whether an error makes the whole session unusable. -/
def isFatal : Error → Bool
  | setup _ => true
  | _ => false

end Error

end DebugRelay
