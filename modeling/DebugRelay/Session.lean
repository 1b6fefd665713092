import DebugRelay.Instant
import DebugRelay.Relay.Run

/-!
# Sessions

A session lives for one run of the interpreter. Launching it fills the registry, starts the
dispatch loop and hands the target to the launch. The end of the engine is announced once; it
detaches the link and closes the queue, and the loop ends after what was queued before.
-/

namespace DebugRelay

/-- A panic that leaves the library. -/
inductive Panic where
  /-- A thread cannot be named with a NUL character. -/
  | nulInThreadName
  deriving DecidableEq

/-- What a session or a relay of its own is made from. -/
structure Relay.Parts where
  settings : DebuggerSettings
  files : FileTree
  store : List StoredBreakpoint
  sinkPanic : Event → Option String

/-- A relay with a target that the IDE has been told of. -/
def Relay.create (parts : Relay.Parts) (consumers : List Consumer) : Relay :=
  let r : Relay := {
    settings := parts.settings
    files := parts.files
    store := parts.store
    sinkPanic := parts.sinkPanic
    consumers := consumers }
  r.call (.targetCreated parts.settings.targetName)

/-- Starts the dispatch loop of a relay on a thread of the given name. A loop starts once; if its
thread cannot be named, the loop is lost, and with it what waits in the queue. -/
def Relay.spawnLoop (r : Relay) (threadName : String) : Relay × Except Panic Unit :=
  match r.loop with
  | .waiting =>
    if Dispatch.isThreadName threadName then ({ r with loop := .running {} }, .ok ())
    else ({ r with queue := r.queue.abandon, loop := .crashed }, .error .nulInThreadName)
  | _ => (r, .ok ())

/-- One run of the interpreter under the debugger. -/
structure Session where
  id : Uuid
  startedAt : Instant
  relay : Relay
  /-- Whether the end of the engine has been announced. -/
  terminated : Bool := false
  /-- Whether someone has waited for the dispatch loop. -/
  joined : Bool := false

/-- What is shown of a session. -/
structure Session.Info where
  id : Uuid
  targetName : String
  startedAt : Instant
  state : Target.State
  /-- How many breakpoints are wanted. -/
  breakpoints : UInt64
  deriving DecidableEq

namespace Session

/-- Launches a session with an identity of its own at a point in time. -/
def launch (id : Uuid) (now : Instant) (settings : Settings) (files : FileTree)
    (store : List StoredBreakpoint) (sinkPanic : Event → Option String) : Except Panic Session :=
  let r := Relay.create ⟨settings.debugger, files, store, sinkPanic⟩ [.link, .target]
  let (r, _) := r.loadBreakpoints
  match r.spawnLoop settings.dispatch.threadName with
  | (_, .error p) => .error p
  | (r, .ok ()) =>
    .ok {
      id := id
      startedAt := now
      relay := r.call (.targetAdded settings.debugger.targetName) }

/-- The engine finished. Only the first announcement counts. -/
def engineTerminated (s : Session) : Session × Bool :=
  if s.terminated then (s, false)
  else
    let r := (s.relay.send .engineTerminated).detach
    ({ s with relay := { r with queue := r.queue.close.1 }, terminated := true }, true)

/-- The interpreter started: the debugger is installed, and if that fails the session ends. -/
def engineStarted (s : Session) (i : Interpreter) : Session × Except Error Unit :=
  match s.relay.setup i with
  | (r, .ok ()) => ({ s with relay := r.send .engineStarted }, .ok ())
  | (r, .error e) =>
    let r := r.note .error ("Debugger setup failed: " ++ e.message)
    ({ s with relay := r }.engineTerminated.1, .error e)

/-- Takes what the dispatch loop counted, once it has come to its end. -/
def joinLoop (s : Session) : Session × Except Error Dispatch.Statistics :=
  match s.relay.loop with
  | .ended stats => (s, .ok stats)
  | _ => (s, .error (.dispatch "dispatch thread panicked"))

/-- Waits for the dispatch loop, which has to have been told to end. It can be waited for once. -/
def join (s : Session) : Session × Except Error Dispatch.Statistics :=
  if s.terminated then
    if s.joined then (s, .error (.dispatch "dispatch thread already joined"))
    else { s with relay := s.relay.settle, joined := true }.joinLoop
  else (s, .error (.wrongState "join" "running"))

/-- Announces the end of the engine and waits for the dispatch loop. -/
def shutdown (s : Session) : Session × Except Error Dispatch.Statistics :=
  s.engineTerminated.1.join

/-- What is shown of the session. -/
def info (s : Session) : Info where
  id := s.id
  startedAt := s.startedAt
  targetName := s.relay.settings.targetName
  state := s.relay.target.state
  breakpoints := .ofNat s.relay.registry.size

end Session

end DebugRelay
