import DebugRelay.Error
import DebugRelay.Log
import DebugRelay.Queue

/-!
# Dispatching events

The dispatch loop takes events from the queue and hands each one, in the order of registration, to
the processors of its route. A processor that fails or panics is counted and logged and does not
keep the others from the event. The loop ends when the queue is closed and empty.

A processor acts on a state `σ` that holds the queue, so that it can enqueue and close while it
handles an event. `Dispatch.next` is one step of the loop.
-/

namespace DebugRelay

/-- How a processor's call ends. -/
inductive Reply where
  | handled
  | failed (e : Error)
  /-- The call panicked, with a message if the panic carried one. -/
  | panicked (message : Option String)

/-- A consumer of the events of one route. -/
structure Processor (σ : Type) where
  /-- The route whose events it gets. There is none if asking for it panics. -/
  route? : Option Route
  /-- Handles one event. -/
  handle : Event → σ → σ × Reply

/-- How the dispatch loop reaches the queue and the log in a state. -/
structure Dispatch.Host (σ : Type) where
  queue : σ → Queue
  setQueue : σ → Queue → σ
  note : σ → Severity → String → σ

/-- What the dispatch loop counted, modulo `2 ^ 64`. -/
structure Dispatch.Statistics where
  /-- Events taken off the queue and dispatched. -/
  delivered : UInt64 := 0
  /-- Events that the queue did not accept. -/
  droppedAfterClose : UInt64 := 0
  /-- Calls of processors that failed or panicked. -/
  processorFailures : UInt64 := 0
  deriving DecidableEq

/-- What one step of the dispatch loop came to. -/
inductive Dispatch.Step (σ : Type) where
  /-- The queue is open and nothing waits. -/
  | idle
  /-- An event was dispatched. -/
  | dispatched (s : σ) (stats : Dispatch.Statistics)
  /-- The queue is closed and nothing waits: the loop ended. -/
  | ended (stats : Dispatch.Statistics)
  /-- Asking a processor for its route panicked, which ends the loop and drops what waits. -/
  | crashed (s : σ)

namespace Dispatch

variable {σ : Type}

/-- What the log says of a panic. -/
def panicText (message : Option String) : String := message.getD "unknown panic payload"

/-- Has one processor handle an event, and counts and logs a failure. -/
def callOne (host : Host σ) (p : Processor σ) (e : Event) (s : σ) (failures : UInt64) :
    σ × UInt64 :=
  match p.handle e s with
  | (s, .handled) => (s, failures)
  | (s, .failed err) =>
    (host.note s .warning ("Processor failed on " ++ e.kind ++ " event: " ++ err.message),
      failures + 1)
  | (s, .panicked message) =>
    (host.note s .error ("Processor panicked on " ++ e.kind ++ " event: " ++ panicText message),
      failures + 1)

/-- Hands an event to the processors of its route, and tells whether all of them could be asked. -/
def deliver (host : Host σ) (e : Event) :
    List (Processor σ) → σ → UInt64 → σ × UInt64 × Bool
  | [], s, failures => (s, failures, true)
  | p :: rest, s, failures =>
    match p.route? with
    | none => (s, failures, false)
    | some route =>
      if route = e.route then
        let (s, failures) := callOne host p e s failures
        deliver host e rest s failures
      else deliver host e rest s failures

/-- One step of the dispatch loop. -/
def next (host : Host σ) (processors : List (Processor σ)) (s : σ) (stats : Statistics) : Step σ :=
  match (host.queue s).pop? with
  | some (e, rest) =>
    match deliver host e processors (host.setQueue s rest) stats.processorFailures with
    | (s, failures, true) =>
      .dispatched s
        { stats with delivered := stats.delivered + 1, processorFailures := failures }
    | (s, _, false) => .crashed (host.setQueue s (host.queue s).abandon)
  | none =>
    if (host.queue s).closed then .ended { stats with droppedAfterClose := (host.queue s).dropped }
    else .idle

/-- How a run of the dispatch loop ends. -/
inductive End (σ : Type) where
  /-- The queue was closed and drained. -/
  | finished (s : σ) (stats : Statistics)
  | crashed (s : σ)
  /-- The loop still waits for events, or has more to do than the number of steps allowed. -/
  | unfinished (s : σ)

/-- Runs the dispatch loop for a number of steps at most. -/
def run (host : Host σ) (processors : List (Processor σ)) :
    Nat → σ → Statistics → End σ
  | 0, s, _ => .unfinished s
  | fuel + 1, s, stats =>
    match next host processors s stats with
    | .idle => .unfinished s
    | .dispatched s stats => run host processors fuel s stats
    | .ended stats => .finished s stats
    | .crashed s => .crashed s

/-- Whether a thread can be started under a name: no NUL character may be in it. -/
def isThreadName (name : String) : Bool := !name.toList.contains '\x00'

end Dispatch

end DebugRelay
