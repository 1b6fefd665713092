import DebugRelay.Relay.Ide
import DebugRelay.Relay.Link

/-!
# Running a relay

Two things go on of themselves: the dispatch loop hands events to their consumers, and the engine
runs its script until it is done or parked. Each has a function for one step of it, and `settle`
takes such steps until neither can take one.
-/

namespace DebugRelay.Relay

/-! ## The dispatch loop -/

/-- Where a relay keeps its queue and its log. -/
def host : Dispatch.Host Relay where
  queue := Relay.queue
  setQueue r q := { r with queue := q }
  note := note

/-- A consumer as a processor of events. -/
def Consumer.processor : Consumer → Processor Relay
  | .link => ⟨some .interpreter, fun e r => (r.handleRequest e, .handled)⟩
  | .target => ⟨some .ide, fun e r => r.handleNotification e⟩
  | .ideRecorder => ⟨some .ide, fun e r => ({ r with recorded := r.recorded ++ [e] }, .handled)⟩
  | .interpreterRecorder =>
    ⟨some .interpreter, fun e r => ({ r with recorded := r.recorded ++ [e] }, .handled)⟩

/-- The consumers of a relay as processors. -/
def processors (r : Relay) : List (Processor Relay) := r.consumers.map Consumer.processor

/-- One step of the dispatch loop, if it runs and has something to do. -/
def dispatch? (r : Relay) : Option Relay :=
  match r.loop with
  | .running stats =>
    match Dispatch.next host r.processors { r with actor := .dispatcher } stats with
    | .idle => none
    | .dispatched r stats => some { r with loop := .running stats, actor := .caller }
    | .ended stats => some { r with loop := .ended stats }
    | .crashed r => some { r with loop := .crashed, actor := .caller }
  | _ => none

/-! ## The engine -/

/-- The engine enters a frame of a file. A load is reported and handled before the frame runs. -/
def enterFrame (r : Relay) (f : SourceFile) : Relay :=
  let (tracer, loaded) := r.native.tracer.enter f
  let r := { r with native := { r.native with tracer := tracer } }
  match loaded with
  | some f => r.onScriptLoad f
  | none => r

/-- The engine leaves a frame. -/
def leaveFrame (r : Relay) : Relay :=
  { r with native := { r.native with tracer := r.native.tracer.leave } }

/-- The engine is about to run a line. Without an outcome its thread is parked; the stop has been
reported by then. -/
def traceLine (r : Relay) (thread : Thread) (stack : List Frame) : Relay × Option Outcome :=
  let (tracer, verdict) := r.native.tracer.line stack
  let r := { r with native := { r.native with tracer := tracer } }
  match verdict with
  | .passed outcome => (r, some outcome)
  | .stopped reason =>
    (if tracer.observed then r.onSuspend ⟨thread, stack, reason⟩ else r, none)

/-- The parked thread goes on, if it is released. -/
def wake? (r : Relay) : Option (Relay × Outcome) :=
  r.native.tracer.wake?.map fun (tracer, outcome) =>
    ({ r with native := { r.native with tracer := tracer } }, outcome)

/-- Whether the engine's thread is parked in a stop. -/
def isParked (r : Relay) : Bool := r.engine.any (·.parked)

/-- Records what a traced line came to. -/
def finishLine (r : Relay) (outcome : Outcome) : Relay :=
  { r with outcomes := r.outcomes ++ [outcome] }

/-- One step of the engine, if it has one to take: a report, waking up, or being done. -/
def runEngine? (r : Relay) : Option Relay :=
  match r.engine with
  | none => none
  | some engine =>
    -- a parked thread takes no report before it is awake
    if engine.parked then
      r.wake?.map fun (r, outcome) =>
        { r.finishLine outcome with engine := some { engine with parked := false } }
    else
      match engine.rest with
      | [] => some { r with engine := none }
      | report :: rest =>
        let r := { r with engine := some { engine with rest := rest }, actor := .engine }
        let r :=
          match report with
          | .enter f => r.enterFrame f
          | .leave => r.leaveFrame
          | .line stack =>
            match r.traceLine engine.thread stack with
            | (r, some outcome) => r.finishLine outcome
            | (r, none) => { r with engine := some { engine with rest := rest, parked := true } }
        some { r with actor := .caller }

/-- Starts a thread that runs a script, unless one is parked. Tells whether it was started. -/
def startEngine (r : Relay) (thread : Thread) (trace : List Report) : Relay × Bool :=
  match r.engine with
  | some _ => (r, false)
  | none => ({ r with engine := some ⟨thread, trace, false⟩ }, true)

/-! ## Coming to rest -/

/-- How many steps the dispatch of an event can lead to, itself included. A request leads to one
notification at most by each link that takes it. -/
def eventWeight (r : Relay) (e : Event) : Nat :=
  match e.route with
  | .ide => 1
  | .interpreter => 1 + r.consumers.count .link

/-- A bound on the steps until a relay is at rest: those for the waiting events, three for each
report of the engine, and a few for waking up, for being done, and for the end of the loop. -/
def stepBound (r : Relay) : Nat :=
  (r.queue.waiting.map r.eventWeight).foldr (· + ·) 0 +
    (match r.engine with
      | some engine => 3 * engine.rest.length + 2
      | none => 0) + 2

/-- Takes a step of the dispatch loop, or else one of the engine. -/
def advance? (r : Relay) : Option Relay :=
  match r.dispatch? with
  | some r => some r
  | none => r.runEngine?

/-- Takes steps for as long as there are any, up to a number of them. -/
def settleWithin : Nat → Relay → Relay
  | 0, r => r
  | fuel + 1, r =>
    match r.advance? with
    | some r => settleWithin fuel r
    | none => r

/-- Takes steps until there are none to take. -/
def settle (r : Relay) : Relay := settleWithin r.stepBound r

end DebugRelay.Relay
