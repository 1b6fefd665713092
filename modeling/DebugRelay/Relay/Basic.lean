import DebugRelay.Dispatch.Basic
import DebugRelay.Interpreter
import DebugRelay.Registry
import DebugRelay.Settings
import DebugRelay.Target

/-!
# The relay

A `Relay` is everything that takes part in debugging one run: the wanted breakpoints, the event
queue, the link to the interpreter, the IDE's target, and the interpreter's side itself. The
functions of the relay are steps on this state. What they tell the outside is collected in it:
calls, deliveries to the IDE, outcomes of traced lines, and the log.
-/

namespace DebugRelay

/-- A stop as the interpreter reported it. -/
structure Suspension where
  thread : Thread
  frames : List Frame
  reason : StopReason

/-- The link to the interpreter. -/
structure Link where
  /-- The installed debugger; without one the link is detached. -/
  hook : Option Hook := none
  /-- The current stop, until the script goes on. -/
  suspension : Option Suspension := none
  /-- The thread of the latest stop. -/
  lastThread : Option Thread := none

/-- What the engine reports to the tracer while it runs a script. -/
inductive Report where
  | enter (f : SourceFile)
  | leave
  /-- The line at the top of a stack is about to run. -/
  | line (stack : List Frame)

/-- A thread that runs a script. -/
structure Engine where
  thread : Thread
  /-- What is still to be reported. -/
  rest : List Report
  /-- Whether the thread is parked in a stop. -/
  parked : Bool := false

/-- The dispatch loop of a relay. -/
inductive Loop where
  /-- The loop was not started. -/
  | waiting
  | running (stats : Dispatch.Statistics)
  | ended (stats : Dispatch.Statistics)
  | crashed

/-- The consumers of events that a relay can have. -/
inductive Consumer where
  /-- The link, which gets requests. -/
  | link
  /-- The target, which gets notifications. -/
  | target
  /-- One that keeps the notifications it sees. -/
  | ideRecorder
  /-- One that keeps the requests it sees. -/
  | interpreterRecorder
  deriving DecidableEq

/-- Everything that takes part in debugging one run. -/
structure Relay where
  settings : DebuggerSettings
  /-- The files that paths are looked up in. -/
  files : FileTree
  /-- The breakpoints that the IDE stores. -/
  store : List StoredBreakpoint
  /-- The message with which the IDE panics when it is told of an event, if it does. -/
  sinkPanic : Event → Option String
  /-- The consumers of events in order of registration. -/
  consumers : List Consumer
  registry : Registry := .empty
  queue : Queue := {}
  link : Link := {}
  target : Target := {}
  native : Native := {}
  engine : Option Engine := none
  loop : Loop := .waiting
  /-- On whose behalf the current step is done. -/
  actor : Actor := .caller
  log : List LogEntry := []
  /-- What the IDE was told: each event with the state after it. -/
  delivered : List (Event × Target.State) := []
  /-- What the recorders saw. -/
  recorded : List Event := []
  /-- What traced lines came to. -/
  outcomes : List Outcome := []

namespace Relay

/-- Writes a log entry on behalf of the current actor. -/
def note (r : Relay) (severity : Severity) (text : String) : Relay :=
  { r with log := r.log ++ [⟨r.actor, severity, text⟩] }

/-- Writes a warning. -/
def warn (r : Relay) (text : String) : Relay := r.note .warning text

/-- Offers an event to the queue. -/
def enqueue (r : Relay) (e : Event) : Relay × Bool :=
  let (queue, accepted) := r.queue.enqueue e
  ({ r with queue := queue }, accepted)

/-- Offers an event to the queue, whether or not it is accepted. -/
def send (r : Relay) (e : Event) : Relay := (r.enqueue e).1

/-- Records a call to the interpreter or the IDE. -/
def call (r : Relay) (c : Call) : Relay :=
  { r with native := r.native.record c }

/-- Whether a debugger is installed. -/
def isAttached (r : Relay) : Bool := r.link.hook.isSome

/-! ## The registry -/

/-- Puts a breakpoint into the registry. -/
def put (r : Relay) (b : Breakpoint) : Relay × Registry.Change :=
  let (registry, change) := r.registry.put b
  ({ r with registry := registry }, change)

/-- Takes the entry at a location out of the registry. One that is not there is worth a warning. -/
def remove (r : Relay) (l : Location) : Relay × Option Breakpoint :=
  let (registry, removed) := r.registry.remove l
  let r := { r with registry := registry }
  match removed with
  | some b => (r, some b)
  | none => (r.warn ("Removing unknown breakpoint " ++ l.text), none)

/-- Takes the entry that a breakpoint's marker owns, or the one at its location, out of the
registry. -/
def removeOwned (r : Relay) (b : Breakpoint) : Relay × Option Breakpoint :=
  r.remove (r.registry.removalTarget b)

/-- Takes all entries of a file out of the registry. -/
def unload (r : Relay) (f : SourceFile) : Relay × List Breakpoint :=
  let (registry, removed) := r.registry.unload f
  ({ r with registry := registry }, removed)

end Relay

end DebugRelay
