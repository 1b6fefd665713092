import DebugRelay.Dispatch.Basic

/-!
# Processors that follow rules

A processor can be described by what it does at which events: close the queue, enqueue further
events, fail or panic. `Trial` is the state that such processors share with the dispatch loop; it
remembers who saw which event.
-/

namespace DebugRelay.Dispatch

/-- What a rule does. -/
inductive Action where
  | close
  | enqueue (e : Event)
  /-- The processor fails and does nothing more. -/
  | fail (e : Error)
  /-- The processor panics, with a message or without. -/
  | panic (message : Option String)

/-- What is done at events of a kind. -/
structure Rule where
  kind : String
  /-- At which event of the kind, counted from one; without it at each. -/
  nth : Option Nat
  actions : List Action

/-- What processors with rules act on. -/
structure Trial where
  queue : Queue := {}
  log : List LogEntry := []
  /-- The events seen so far, latest first, each with the position of the processor that saw it. -/
  seen : List (Nat × Event) := []

namespace Trial

/-- Where a trial keeps its queue and its log. -/
def host : Host Trial where
  queue := Trial.queue
  setQueue t q := { t with queue := q }
  note t severity text := { t with log := t.log ++ [⟨.dispatcher, severity, text⟩] }

/-- How many events of a kind a processor saw. -/
def count (t : Trial) (position : Nat) (kind : String) : Nat :=
  t.seen.countP fun s => s.1 = position ∧ s.2.kind = kind

/-- Performs actions up to one that ends the processor's call. -/
def perform (t : Trial) : List Action → Trial × Reply
  | [] => (t, .handled)
  | .close :: rest => { t with queue := t.queue.close.1 }.perform rest
  | .enqueue e :: rest => { t with queue := (t.queue.enqueue e).1 }.perform rest
  | .fail e :: _ => (t, .failed e)
  | .panic message :: _ => (t, .panicked message)

/-- What a processor with rules does at an event: it remembers the event and then follows every rule
that applies. -/
def follow (position : Nat) (rules : List Rule) (e : Event) (t : Trial) : Trial × Reply :=
  let t := { t with seen := (position, e) :: t.seen }
  let applying := rules.filter fun r =>
    r.kind = e.kind && (r.nth.isNone || r.nth = some (t.count position e.kind))
  t.perform (applying.flatMap Rule.actions)

/-- A processor with rules. -/
def processor (position : Nat) (route? : Option Route) (rules : List Rule) : Processor Trial :=
  ⟨route?, follow position rules⟩

end Trial

end DebugRelay.Dispatch
