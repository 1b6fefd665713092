import DebugRelay.Queue

/-!
# Many events offered to the queue

Offering a list of events to the queue keeps it open or closed. An open queue takes all of them
(`offerAll_of_accepts`), and another one drops and counts them (`offerAll_of_not_accepts`).
-/

namespace DebugRelay.Queue

/-- The queue after events were offered to it, in order. -/
def offerAll (q : Queue) (events : List Event) : Queue :=
  events.foldl (fun q e => (q.enqueue e).1) q

theorem offerAll_append (q : Queue) (events more : List Event) :
    q.offerAll (events ++ more) = (q.offerAll events).offerAll more :=
  List.foldl_append

/-- An open queue takes everything that is offered. -/
theorem offerAll_of_accepts {q : Queue} (h : q.accepts = true) (events : List Event) :
    q.offerAll events = { q with waiting := q.waiting ++ events } := by
  induction events generalizing q with
  | nil => simp [offerAll]
  | cons e rest ih =>
    have hone : (q.enqueue e).1 = { q with waiting := q.waiting ++ [e] } := by
      simp [enqueue, h]
    calc q.offerAll (e :: rest)
        = (q.enqueue e).1.offerAll rest := rfl
      _ = { q with waiting := q.waiting ++ [e] ++ rest } := by
          rw [ih ((q.accepts_enqueue e).trans h), hone]
      _ = { q with waiting := q.waiting ++ e :: rest } := by
          rw [List.append_assoc, List.singleton_append]

/-- A queue that is not open takes nothing. -/
theorem offerAll_of_not_accepts {q : Queue} (h : q.accepts = false) (events : List Event) :
    ∃ dropped, q.offerAll events = { q with dropped := dropped } := by
  induction events generalizing q with
  | nil => exact ⟨q.dropped, rfl⟩
  | cons e rest ih =>
    have hone : (q.enqueue e).1 = { q with dropped := q.dropped + 1 } := by
      simp [enqueue, h]
    obtain ⟨dropped, hrest⟩ := ih ((q.accepts_enqueue e).trans h)
    refine ⟨dropped, ?_⟩
    calc q.offerAll (e :: rest)
        = (q.enqueue e).1.offerAll rest := rfl
      _ = { q with dropped := dropped } := by rw [hrest, hone]

/-- What is offered arrives behind what waits, or is dropped and counted. -/
theorem offerAll_eq (q : Queue) (events : List Event) :
    ∃ arrived dropped, q.offerAll events =
      { q with waiting := q.waiting ++ arrived, dropped := dropped } ∧
      (q.accepts = true → arrived = events) ∧ (q.accepts = false → arrived = []) := by
  cases h : q.accepts with
  | true => exact ⟨events, q.dropped, offerAll_of_accepts h events, fun _ => rfl, by simp⟩
  | false =>
    obtain ⟨dropped, heq⟩ := offerAll_of_not_accepts h events
    exact ⟨[], dropped, by rw [heq, List.append_nil], by simp, fun _ => rfl⟩

end DebugRelay.Queue
