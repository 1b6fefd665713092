import DebugRelay.Event

/-!
# The debug target

The target is the IDE's view of one run: the state of its life cycle, the frames of the current
suspension, and the scripts seen so far. `Target.apply` is what one event does to it.
-/

namespace DebugRelay

/-- The states of a target's life. -/
inductive Target.State where
  /-- The interpreter has not started. -/
  | created
  /-- The interpreter executes. -/
  | running
  /-- The interpreter is stopped and its frames are known. -/
  | suspended
  /-- The interpreter finished. -/
  | terminated
  deriving DecidableEq

namespace Target.State

/-- The state as shown. -/
def text : State → String
  | created => "Created"
  | running => "Running"
  | suspended => "Suspended"
  | terminated => "Terminated"

/-- Whether one state may follow another. Nothing follows the end, not even itself. -/
def canBecome : State → State → Bool
  | created, running | created, terminated => true
  | running, suspended | running, terminated => true
  | suspended, running | suspended, terminated => true
  | terminated, _ => false
  | a, b => a = b

/-- Whether a state is the last. -/
def isFinal : State → Bool
  | terminated => true
  | _ => false

end Target.State

/-- The IDE's view of a run. -/
structure Target where
  state : Target.State := .created
  /-- The frames of the current suspension, innermost first. -/
  frames : List Frame := []
  /-- The scripts shown so far, in order of arrival. -/
  scripts : List Script := []

/-- What an event did to a target. -/
structure Target.Applied where
  target : Target
  /-- The state that could not be entered, if one could not. -/
  refused : Option Target.State := none
  /-- Whether the IDE is told of the event. -/
  shown : Bool := true

namespace Target

instance : Inhabited Target := ⟨{}⟩

/-- Enters a state if it may follow the present one. -/
def enter (t : Target) (next : State) : Applied :=
  if t.state.canBecome next then { target := { t with state := next } }
  else { target := t, refused := some next }

/-- Applies an event. Requests to the interpreter mean nothing to the target, and a script without
a file is passed over unless such scripts are shown. -/
def apply (showDynamicCode : Bool) (t : Target) : Event → Applied
  | .engineStarted => t.enter .running
  | .suspended _ frames _ =>
    let entered := t.enter .suspended
    if entered.target.state = .suspended then
      { entered with target := { entered.target with frames := frames } }
    else entered
  | .resumed _ _ => { t with frames := [] }.enter .running
  | .scriptReady script _ =>
    if script.file?.isNone && !showDynamicCode then { target := t, shown := false }
    else { target := { t with scripts := t.scripts ++ [script] } }
  | .engineTerminated => { t with frames := [] }.enter .terminated
  | .breakpointAdded _ | .breakpointRemoved _ | .breakpointChanged _ | .stepRequest _
  | .framesRequest | .terminateRequest => { target := t, shown := false }

end Target

end DebugRelay
