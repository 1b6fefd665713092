import DebugRelay.Breakpoint
import DebugRelay.Script

/-!
# Events

What travels over the relay. Events about the run go to the IDE, requests and breakpoint changes
go to the interpreter; `Event.route` tells which.
-/

namespace DebugRelay

/-- The side that an event travels to. -/
inductive Route where
  | ide
  | interpreter
  deriving DecidableEq

/-- How the IDE lets a suspended script go on. -/
inductive StepKind where
  | stepInto
  | stepOver
  | stepOut
  /-- Go on until something stops the script. -/
  | resume
  /-- Go on, for another reason than a user's action. -/
  | client
  deriving DecidableEq

namespace StepKind

/-- The step as shown. -/
def text : StepKind → String
  | stepInto => "step into"
  | stepOver => "step over"
  | stepOut => "step return"
  | resume => "resume"
  | client => "client request"

/-- Whether the script shall stop again of itself. -/
def isStep : StepKind → Bool
  | stepInto | stepOver | stepOut => true
  | resume | client => false

end StepKind

/-- Why a script stopped. -/
inductive StopReason where
  | breakpoint
  | stepEnd
  | startup
  | scriptLoad
  | client
  deriving DecidableEq

/-- What travels over the relay. -/
inductive Event where
  /-- The interpreter started with the debugger installed. -/
  | engineStarted
  /-- The interpreter finished. -/
  | engineTerminated
  /-- The script stopped; the innermost frame comes first. -/
  | suspended (thread : Thread) (frames : List Frame) (reason : StopReason)
  /-- The script goes on. -/
  | resumed (thread : Option Thread) (step : StepKind)
  /-- A script is about to run. -/
  | scriptReady (script : Script) (thread : Thread)
  | breakpointAdded (b : Breakpoint)
  | breakpointRemoved (b : Breakpoint)
  | breakpointChanged (b : Breakpoint)
  /-- The IDE asks to go on. -/
  | stepRequest (step : StepKind)
  /-- The IDE asks for the current stack. -/
  | framesRequest
  /-- The IDE asks to end the run. -/
  | terminateRequest

namespace Event

/-- The side that an event travels to. -/
def route : Event → Route
  | engineStarted | engineTerminated | suspended .. | resumed .. | scriptReady .. => .ide
  | breakpointAdded _ | breakpointRemoved _ | breakpointChanged _ | stepRequest _
  | framesRequest | terminateRequest => .interpreter

/-- The name of an event's kind. -/
def kind : Event → String
  | engineStarted => "engine_started"
  | engineTerminated => "engine_terminated"
  | suspended .. => "suspended"
  | resumed .. => "resumed"
  | scriptReady .. => "script_ready"
  | breakpointAdded _ => "breakpoint_added"
  | breakpointRemoved _ => "breakpoint_removed"
  | breakpointChanged _ => "breakpoint_changed"
  | stepRequest _ => "step_request"
  | framesRequest => "get_stack_frames_request"
  | terminateRequest => "terminate_request"

end Event

end DebugRelay
