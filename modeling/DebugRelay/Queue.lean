import DebugRelay.Event

/-!
# The event queue

A queue of events with any number of producers and one consumer. Closing it is final: from then on
it accepts nothing, and what waits can still be taken.
-/

namespace DebugRelay

/-- The event queue. -/
structure Queue where
  /-- The accepted events that nobody took yet, oldest first. -/
  waiting : List Event := []
  /-- Whether the queue is closed. -/
  closed : Bool := false
  /-- Whether the consumer is gone. -/
  abandoned : Bool := false
  /-- How many events were not accepted; counts modulo `2 ^ 64`. -/
  dropped : UInt64 := 0

namespace Queue

instance : Inhabited Queue := ⟨{}⟩

/-- Whether the queue accepts events. -/
def accepts (q : Queue) : Bool := !q.closed && !q.abandoned

/-- Offers an event. It is accepted, or dropped and counted. -/
def enqueue (q : Queue) (e : Event) : Queue × Bool :=
  if q.accepts then ({ q with waiting := q.waiting ++ [e] }, true)
  else ({ q with dropped := q.dropped + 1 }, false)

/-- Closes the queue, and tells whether it was open. -/
def close (q : Queue) : Queue × Bool :=
  ({ q with closed := true }, !q.closed)

/-- Takes the oldest event. -/
def pop? (q : Queue) : Option (Event × Queue) :=
  match q.waiting with
  | [] => none
  | e :: rest => some (e, { q with waiting := rest })

/-- The consumer goes, and with it what waits. -/
def abandon (q : Queue) : Queue :=
  { q with waiting := [], abandoned := true }

/-- Offering an event neither opens nor closes the queue. -/
@[simp]
theorem accepts_enqueue (q : Queue) (e : Event) : (q.enqueue e).1.accepts = q.accepts := by
  unfold enqueue
  split <;> rfl

end Queue

end DebugRelay
