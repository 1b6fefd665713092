import DebugRelay.Dispatch.Basic

/-!
# Interleavings of producers and the dispatch loop

A `World` is the state that a dispatch loop and its processors act on, with what the loop is at,
what it has counted, and a journal of what happened. The steps of the loop (`LoopStep`) are those of
`Dispatch.next`, one at a time: it takes an event off the queue, asks each processor for its route,
has those of the event's route handle the event (`Dispatch.callOne`), and ends. Producers offer
events to the queue and close it at any time, also while a processor is at work, and processors do
the same (`Processor.Serves`). `Runs` is every interleaving of all this.

`Law` says what the journal of every run satisfies. With what the counters stand for (`Counted`) it
holds at the start, each action and each step keeps it, and so does a run (`Counted.runs`).
-/

namespace DebugRelay

/-- Whether the dispatch loop counts the call as a failure. -/
def Reply.isFailure : Reply → Bool
  | .handled => false
  | .failed _ | .panicked _ => true

/-- What can be done to a queue. -/
inductive Queue.Action where
  | offer (e : Event)
  | close

/-- The queue after an action. -/
def Queue.act (q : Queue) : Queue.Action → Queue
  | .offer e => (q.enqueue e).1
  | .close => q.close.1

/-- The host keeps the queue that it is given and nothing else changes with it, and writing to the
log does not touch it. -/
structure Dispatch.Host.Lawful {σ : Type} (host : Dispatch.Host σ) : Prop where
  queue_setQueue : ∀ s q, host.queue (host.setQueue s q) = q
  setQueue_queue : ∀ s, host.setQueue s (host.queue s) = s
  queue_note : ∀ s severity text, host.queue (host.note s severity text) = host.queue s

/-- The processor can be asked for its route, and acts on the queue by offering events and closing
it, whatever else it does. -/
structure Processor.Serves {σ : Type} (host : Dispatch.Host σ) (p : Processor σ) : Prop where
  asked : p.route?.isSome
  acts : ∀ e s, ∃ own : List Queue.Action,
    host.queue (p.handle e s).1 = own.foldl Queue.act (host.queue s)

namespace Dispatch

/-- What happens at a queue and its dispatch loop. -/
inductive Happening where
  /-- An event was offered to the queue, which accepted it or not. -/
  | offered (e : Event) (accepted : Bool)
  /-- The queue was closed, for the first time or again. -/
  | closed (first : Bool)
  /-- The loop took an event off the queue. -/
  | dispatched (e : Event)
  /-- The call of a processor returned. -/
  | called (position : Nat) (e : Event) (reply : Reply)
  /-- The loop ended. -/
  | ended (stats : Statistics)

namespace Happening

/-- The event, if one was accepted. -/
@[simp]
def accepted? : Happening → Option Event
  | offered e true => some e
  | _ => none

/-- The event, if one was turned away. -/
@[simp]
def rejected? : Happening → Option Event
  | offered e false => some e
  | _ => none

/-- The event, if one was taken off the queue. -/
@[simp]
def dispatched? : Happening → Option Event
  | dispatched e => some e
  | _ => none

/-- The processor and the event, if a call returned. -/
@[simp]
def call? : Happening → Option (Nat × Event)
  | called position e _ => some (position, e)
  | _ => none

/-- The reply, if a call failed. -/
@[simp]
def failure? : Happening → Option Reply
  | called _ _ reply => if reply.isFailure then some reply else none
  | _ => none

/-- The answer, if the queue was closed. -/
@[simp]
def closing? : Happening → Option Bool
  | closed first => some first
  | _ => none

end Happening

/-- The events that were accepted, in order. -/
def accepted (journal : List Happening) : List Event := journal.filterMap Happening.accepted?

/-- The events that were turned away, in order. -/
def rejected (journal : List Happening) : List Event := journal.filterMap Happening.rejected?

/-- The events that were taken off the queue, in order. -/
def dispatched (journal : List Happening) : List Event := journal.filterMap Happening.dispatched?

/-- The calls that returned, in order. -/
def calls (journal : List Happening) : List (Nat × Event) := journal.filterMap Happening.call?

/-- The replies of calls that failed, in order. -/
def failures (journal : List Happening) : List Reply := journal.filterMap Happening.failure?

/-- The answers to those who closed the queue, in order. -/
def closings (journal : List Happening) : List Bool := journal.filterMap Happening.closing?

/-- What an action on a queue comes to. -/
def happening (q : Queue) : Queue.Action → Happening
  | .offer e => .offered e (q.enqueue e).2
  | .close => .closed q.close.2

section World

variable {σ : Type}

/-- The calls that an event is due to: one for each processor of its route, in their order. -/
def recipients (processors : List (Processor σ × Nat)) (e : Event) : List (Nat × Event) :=
  processors.filterMap fun p => if p.1.route? = some e.route then some (p.2, e) else none

/-- What the dispatch loop is at. -/
inductive Phase (σ : Type) where
  /-- Between two events. -/
  | between
  /-- Handing out an event, which the processors left have not got yet. -/
  | handing (e : Event) (left : List (Processor σ × Nat))
  | finished

/-- The calls that are still to come for the event at hand. -/
def Phase.due : Phase σ → List (Nat × Event)
  | .handing e left => recipients left e
  | .between | .finished => []

/-- The state that a dispatch loop and its processors act on, and what happened so far. -/
structure World (σ : Type) where
  state : σ
  stats : Statistics := {}
  phase : Phase σ := .between
  journal : List Happening := []

namespace World

/-- The world after one more thing happened. -/
@[simp]
def noting (w : World σ) (h : Happening) : World σ := { w with journal := w.journal ++ [h] }

/-- The queue. -/
def queue (host : Host σ) (w : World σ) : Queue := host.queue w.state

/-- The world after an action on the queue. -/
def act (host : Host σ) (w : World σ) (a : Queue.Action) : World σ :=
  { w with state := host.setQueue w.state ((w.queue host).act a) }.noting
    (happening (w.queue host) a)

/-- The world after the call of a processor. It does to the state what it does, and to the queue was
done meanwhile what was done. -/
def called (host : Host σ) (w : World σ) (p : Processor σ) (i : Nat) (e : Event)
    (left : List (Processor σ × Nat)) (actions : List Queue.Action) : World σ :=
  let acted := actions.foldl (act host) w
  let after := callOne host p e w.state w.stats.processorFailures
  { acted with
    state := host.setQueue after.1 (acted.queue host)
    phase := .handing e left
    stats := { w.stats with processorFailures := after.2 } }.noting
    (.called i e (p.handle e w.state).2)

end World

/-- What others than the loop and its processors do. -/
inductive Outside (host : Host σ) : World σ → World σ → Prop
  /-- Someone offers an event or closes the queue. -/
  | act (w : World σ) (a : Queue.Action) : Outside host w (w.act host a)
  /-- Someone changes the state and leaves the queue as it is. -/
  | other (w : World σ) (s : σ) (hs : host.queue s = w.queue host) :
      Outside host w { w with state := s }

/-- One step of a dispatch loop with the given processors. -/
inductive LoopStep (host : Host σ) (processors : List (Processor σ)) : World σ → World σ → Prop
  /-- The oldest event is taken off the queue. -/
  | take {w : World σ} {e : Event} {q : Queue} (hp : w.phase = .between)
      (hq : (w.queue host).pop? = some (e, q)) :
      LoopStep host processors w
        ({ w with
          state := host.setQueue w.state q
          phase := .handing e processors.zipIdx }.noting (.dispatched e))
  /-- A processor of the other route is passed over. -/
  | skip {w : World σ} {e : Event} {p : Processor σ} {i : Nat} {left : List (Processor σ × Nat)}
      {route : Route} (hp : w.phase = .handing e ((p, i) :: left)) (hr : p.route? = some route)
      (hne : route ≠ e.route) :
      LoopStep host processors w { w with phase := .handing e left }
  /-- A processor handles the event. Its own actions on the queue are among those that are done
  while it is at work. -/
  | call {w : World σ} {e : Event} {p : Processor σ} {i : Nat} {left : List (Processor σ × Nat)}
      {own actions : List Queue.Action} (hp : w.phase = .handing e ((p, i) :: left))
      (hr : p.route? = some e.route)
      (hown : host.queue (p.handle e w.state).1 = own.foldl Queue.act (w.queue host))
      (hactions : own.Sublist actions) :
      LoopStep host processors w (w.called host p i e left actions)
  /-- All processors have got the event. -/
  | finish {w : World σ} {e : Event} (hp : w.phase = .handing e []) :
      LoopStep host processors w
        { w with
          phase := .between
          stats := { w.stats with delivered := w.stats.delivered + 1 } }
  /-- The queue is closed and nothing waits. -/
  | stop {w : World σ} (hp : w.phase = .between) (hq : (w.queue host).pop? = none)
      (hc : (w.queue host).closed = true) :
      LoopStep host processors w
        ({ w with
          phase := .finished
          stats := { w.stats with droppedAfterClose := (w.queue host).dropped } }.noting
          (.ended { w.stats with droppedAfterClose := (w.queue host).dropped }))

/-- The interleavings that lead from one world to another, with the number of steps of the loop. -/
inductive Runs (host : Host σ) (processors : List (Processor σ)) (w : World σ) :
    Nat → World σ → Prop
  | refl : Runs host processors w 0 w
  | outside {k : Nat} {v u : World σ} (hr : Runs host processors w k v) (ho : Outside host v u) :
      Runs host processors w k u
  | loop {k : Nat} {v u : World σ} (hr : Runs host processors w k v)
      (hl : LoopStep host processors v u) : Runs host processors w (k + 1) u

end World

/-! ## The law -/

/-- What a journal counts up to. -/
def totals (journal : List Happening) : Statistics where
  delivered := .ofNat (accepted journal).length
  droppedAfterClose := .ofNat (rejected journal).length
  processorFailures := .ofNat (failures journal).length

section Law

variable {σ : Type} (host : Host σ) (processors : List (Processor σ))

/-- The law of delivery, as far as a run has come. -/
structure Law (w : World σ) : Prop where
  /-- What was accepted is what was dispatched and then what waits, in this order. -/
  inOrder : accepted w.journal = dispatched w.journal ++ (w.queue host).waiting
  /-- The calls, with those still to come for the event at hand, are one for each dispatched event
  and each processor of its route, in the order of the events and then of the processors. -/
  handed : calls w.journal ++ w.phase.due =
    (dispatched w.journal).flatMap (recipients processors.zipIdx)
  /-- Nothing is accepted after the queue was closed. -/
  refused : w.journal.Pairwise fun x y => x.closing?.isSome → y.accepted? = none
  /-- Of those who closed the queue, the first one did. -/
  closedOnce : closings w.journal = [] ∧ (w.queue host).closed = false ∨
    ∃ n, closings w.journal = true :: List.replicate n false ∧ (w.queue host).closed = true
  /-- The loop ends after everything accepted was dispatched, counts what happened up to then, and
  nothing is accepted, dispatched or handed out any more. -/
  ended : w.phase = .finished → ∃ before after, w.journal = before ++ .ended w.stats :: after ∧
    w.stats = totals before ∧ dispatched before = accepted before ∧
    accepted after = [] ∧ dispatched after = [] ∧ calls after = []

/-- Whether an event is at hand that is not counted as delivered yet. -/
def Phase.pending : Phase σ → Nat
  | .handing _ _ => 1
  | .between | .finished => 0

/-- The processors that have not got the event at hand yet. -/
def Phase.left : Phase σ → List (Processor σ × Nat)
  | .handing _ left => left
  | .between | .finished => []

/-- The law together with what the counters of the queue and the loop stand for. -/
structure Counted (w : World σ) : Prop where
  law : Law host processors w
  kept : (w.queue host).abandoned = false
  dropped : (w.queue host).dropped = .ofNat (rejected w.journal).length
  delivered : w.stats.delivered + .ofNat w.phase.pending = .ofNat (dispatched w.journal).length
  failed : w.stats.processorFailures = .ofNat (failures w.journal).length
  closed : w.phase = .finished → (w.queue host).closed = true
  among : ∀ x ∈ w.phase.left, x.1 ∈ processors

variable {host processors} in
theorem counted_init {s : σ} (hs : host.queue s = {}) :
    Counted host processors { state := s } where
  law := {
    inOrder := by simp [World.queue, hs, accepted, dispatched]
    handed := rfl
    refused := List.Pairwise.nil
    closedOnce := Or.inl ⟨rfl, by simp [World.queue, hs]⟩
    ended := by simp }
  kept := by simp [World.queue, hs]
  dropped := by simp [World.queue, hs, rejected]
  delivered := rfl
  failed := rfl
  closed := by simp
  among := by simp [Phase.left]

end Law

section Journal

variable (journal : List Happening) (h : Happening)

theorem filterMap_concat {α : Type} (f : Happening → Option α) :
    (journal ++ [h]).filterMap f = journal.filterMap f ++ (f h).toList := by
  rw [List.filterMap_append]
  cases hh : f h <;> simp [hh]

@[simp]
theorem accepted_concat :
    accepted (journal ++ [h]) = accepted journal ++ h.accepted?.toList :=
  filterMap_concat journal h _

@[simp]
theorem rejected_concat :
    rejected (journal ++ [h]) = rejected journal ++ h.rejected?.toList :=
  filterMap_concat journal h _

@[simp]
theorem dispatched_concat :
    dispatched (journal ++ [h]) = dispatched journal ++ h.dispatched?.toList :=
  filterMap_concat journal h _

theorem accepted_append (before after : List Happening) :
    accepted (before ++ after) = accepted before ++ accepted after :=
  List.filterMap_append

theorem dispatched_append (before after : List Happening) :
    dispatched (before ++ after) = dispatched before ++ dispatched after :=
  List.filterMap_append

theorem accepted_cons : accepted (h :: journal) = h.accepted?.toList ++ accepted journal := by
  rw [← List.singleton_append, accepted_append, ← List.nil_append [h], accepted_concat]
  rfl

theorem dispatched_cons :
    dispatched (h :: journal) = h.dispatched?.toList ++ dispatched journal := by
  rw [← List.singleton_append, dispatched_append, ← List.nil_append [h], dispatched_concat]
  rfl

@[simp]
theorem calls_concat : calls (journal ++ [h]) = calls journal ++ h.call?.toList :=
  filterMap_concat journal h _

@[simp]
theorem failures_concat :
    failures (journal ++ [h]) = failures journal ++ h.failure?.toList :=
  filterMap_concat journal h _

@[simp]
theorem closings_concat :
    closings (journal ++ [h]) = closings journal ++ h.closing?.toList :=
  filterMap_concat journal h _

end Journal

theorem refused_concat {journal : List Happening} {h : Happening}
    (hj : journal.Pairwise fun x y => x.closing?.isSome → y.accepted? = none)
    (hh : closings journal = [] ∨ h.accepted? = none) :
    (journal ++ [h]).Pairwise fun x y => x.closing?.isSome → y.accepted? = none := by
  refine List.pairwise_append.2 ⟨hj, List.pairwise_singleton _ _, fun x hx y hy hc => ?_⟩
  rw [List.mem_singleton.1 hy]
  rcases hh with hnone | hh
  -- before the first close there is nothing to be refused after
  · obtain ⟨first, hfirst⟩ := Option.isSome_iff_exists.1 hc
    have hmem : first ∈ closings journal := List.mem_filterMap.2 ⟨x, hx, hfirst⟩
    simp [hnone] at hmem
  · exact hh

/-! ## Actions on the queue -/

section Actions

variable {σ : Type} {host : Host σ} {processors : List (Processor σ)} {w : World σ}

@[simp]
theorem phase_act (w : World σ) (a : Queue.Action) : (w.act host a).phase = w.phase := rfl

@[simp]
theorem stats_act (w : World σ) (a : Queue.Action) : (w.act host a).stats = w.stats := rfl

theorem queue_act (hl : host.Lawful) (w : World σ) (a : Queue.Action) :
    (w.act host a).queue host = (w.queue host).act a :=
  hl.queue_setQueue _ _

theorem queue_acts (hl : host.Lawful) (w : World σ) (actions : List Queue.Action) :
    (actions.foldl (World.act host) w).queue host = actions.foldl Queue.act (w.queue host) := by
  induction actions generalizing w with
  | nil => rfl
  | cons a rest ih => rw [List.foldl_cons, ih, queue_act hl, List.foldl_cons]

/-- The queue after the call of a processor is what was made of it meanwhile. -/
theorem queue_called (hl : host.Lawful) (w : World σ) (p : Processor σ) (i : Nat) (e : Event)
    (left : List (Processor σ × Nat)) (actions : List Queue.Action) :
    (w.called host p i e left actions).queue host =
      (actions.foldl (World.act host) w).queue host :=
  hl.queue_setQueue _ _

/-- Actions on the queue are no steps of the loop. -/
theorem acts_eq (host : Host σ) (w : World σ) (actions : List Queue.Action) :
    (actions.foldl (World.act host) w).phase = w.phase ∧
      (actions.foldl (World.act host) w).stats = w.stats := by
  induction actions generalizing w with
  | nil => exact ⟨rfl, rfl⟩
  | cons a rest ih => exact ih (w.act host a)

theorem Counted.accepts_eq (hw : Counted host processors w) :
    (w.queue host).accepts = !(w.queue host).closed := by
  simp [Queue.accepts, hw.kept]

theorem Law.closings_of_open (hw : Law host processors w) (h : (w.queue host).closed = false) :
    closings w.journal = [] := by
  rcases hw.closedOnce with ⟨hnone, -⟩ | ⟨n, -, hclosed⟩
  · exact hnone
  · simp [h] at hclosed

/-- What happens after the end, other than acceptance, dispatch and calls, changes nothing about
the end. -/
theorem Law.ended_noting (hw : Law host processors w) {v : World σ} {h : Happening}
    (hphase : v.phase = w.phase) (hstats : v.stats = w.stats)
    (hjournal : v.journal = w.journal ++ [h]) (ha : h.accepted? = none)
    (hd : h.dispatched? = none) (hc : h.call? = none) (hfinished : v.phase = .finished) :
    ∃ before after, v.journal = before ++ .ended v.stats :: after ∧
      v.stats = totals before ∧ dispatched before = accepted before ∧
      accepted after = [] ∧ dispatched after = [] ∧ calls after = [] := by
  obtain ⟨before, after, hj, htotals, hall, ha', hd', hc'⟩ := hw.ended (hphase ▸ hfinished)
  refine ⟨before, after ++ [h], ?_, hstats ▸ htotals, hall, ?_, ?_, ?_⟩
  · rw [hjournal, hj, hstats, List.append_assoc, List.cons_append]
  · rw [accepted_concat, ha', ha]
    rfl
  · rw [dispatched_concat, hd', hd]
    rfl
  · rw [calls_concat, hc', hc]
    rfl

theorem Counted.offer (hl : host.Lawful) (hw : Counted host processors w) (e : Event) :
    Counted host processors (w.act host (.offer e)) := by
  have hlaw := hw.law
  have hqueue := queue_act hl w (.offer e)
  have haccepts := hw.accepts_eq
  cases hclosed : (w.queue host).closed with
  | false =>
    have hrunning : w.phase ≠ .finished := by
      intro hfinished
      simp [hw.closed hfinished] at hclosed
    -- an open queue was never closed, and its loop has not ended
    have hnone := hlaw.closings_of_open hclosed
    rw [hclosed] at haccepts
    have hjournal : (w.act host (.offer e)).journal = w.journal ++ [.offered e true] := by
      simp [World.act, happening, Queue.enqueue, haccepts]
    simp only [Queue.act, Queue.enqueue, haccepts, Bool.not_false, if_true] at hqueue
    exact {
      law := {
        inOrder := by simp [hjournal, hqueue, hlaw.inOrder]
        handed := by simpa [hjournal] using hlaw.handed
        refused := hjournal ▸ refused_concat hlaw.refused (Or.inl hnone)
        closedOnce := Or.inl ⟨by simp [hjournal, hnone], by rw [hqueue]; exact hclosed⟩
        ended := fun hfinished => absurd hfinished hrunning }
      kept := by rw [hqueue]; exact hw.kept
      dropped := by simpa [hjournal, hqueue] using hw.dropped
      delivered := by simpa [hjournal] using hw.delivered
      failed := by simpa [hjournal] using hw.failed
      closed := fun hfinished => absurd hfinished hrunning
      among := hw.among }
  | true =>
    rw [hclosed] at haccepts
    have hjournal : (w.act host (.offer e)).journal = w.journal ++ [.offered e false] := by
      simp [World.act, happening, Queue.enqueue, haccepts]
    simp only [Queue.act, Queue.enqueue, haccepts, Bool.not_true, Bool.false_eq_true, if_false]
      at hqueue
    exact {
      law := {
        inOrder := by simpa [hjournal, hqueue] using hlaw.inOrder
        handed := by simpa [hjournal] using hlaw.handed
        refused := hjournal ▸ refused_concat hlaw.refused (Or.inr rfl)
        closedOnce := by simpa [hjournal, hqueue] using hlaw.closedOnce
        ended := hlaw.ended_noting rfl rfl hjournal rfl rfl rfl }
      kept := by rw [hqueue]; exact hw.kept
      dropped := by simp [hjournal, hqueue, UInt64.ofNat_add, hw.dropped]
      delivered := by simpa [hjournal] using hw.delivered
      failed := by simpa [hjournal] using hw.failed
      closed := fun _ => by rw [hqueue]; exact hclosed
      among := hw.among }

theorem Counted.close (hl : host.Lawful) (hw : Counted host processors w) :
    Counted host processors (w.act host .close) := by
  have hlaw := hw.law
  have hqueue := queue_act hl w .close
  have hjournal : (w.act host .close).journal =
      w.journal ++ [.closed !(w.queue host).closed] := rfl
  simp only [Queue.act, Queue.close] at hqueue
  exact {
    law := {
      inOrder := by simpa [hjournal, hqueue] using hlaw.inOrder
      handed := by simpa [hjournal] using hlaw.handed
      refused := refused_concat hlaw.refused (Or.inr rfl)
      closedOnce := by
        rw [hjournal, hqueue]
        rcases hlaw.closedOnce with ⟨hnone, hclosed⟩ | ⟨n, hall, hclosed⟩
        · exact Or.inr ⟨0, by simp [hnone, hclosed], rfl⟩
        · refine Or.inr ⟨n + 1, ?_, rfl⟩
          simp [hall, hclosed, List.replicate_succ']
      ended := hlaw.ended_noting rfl rfl hjournal rfl rfl rfl }
    kept := by rw [hqueue]; exact hw.kept
    dropped := by simpa [hjournal, hqueue] using hw.dropped
    delivered := by simpa [hjournal] using hw.delivered
    failed := by simpa [hjournal] using hw.failed
    closed := fun _ => by rw [hqueue]
    among := hw.among }

theorem Counted.acts (hl : host.Lawful) (hw : Counted host processors w)
    (actions : List Queue.Action) :
    Counted host processors (actions.foldl (World.act host) w) := by
  induction actions generalizing w with
  | nil => exact hw
  | cons a rest ih =>
    cases a with
    | offer e => exact ih (hw.offer hl e)
    | close => exact ih (hw.close hl)

/-- The law is about the queue, and not about the rest of the state. -/
theorem Counted.other (hw : Counted host processors w) {s : σ}
    (hs : host.queue s = w.queue host) : Counted host processors { w with state := s } := by
  have hqueue : World.queue host { w with state := s } = w.queue host := hs
  have hlaw := hw.law
  exact {
    law := {
      inOrder := by rw [hqueue]; exact hlaw.inOrder
      handed := hlaw.handed
      refused := hlaw.refused
      closedOnce := by rw [hqueue]; exact hlaw.closedOnce
      ended := hlaw.ended }
    kept := by rw [hqueue]; exact hw.kept
    dropped := by rw [hqueue]; exact hw.dropped
    delivered := hw.delivered
    failed := hw.failed
    closed := by rw [hqueue]; exact hw.closed
    among := hw.among }

end Actions

/-! ## Steps of the loop -/

theorem pop?_eq_some_iff {q rest : Queue} {e : Event} :
    q.pop? = some (e, rest) ↔
      q.waiting = e :: rest.waiting ∧ rest = { q with waiting := rest.waiting } := by
  unfold Queue.pop?
  cases hw : q.waiting with
  | nil => simp
  | cons e' more =>
    simp only [Option.some.injEq, Prod.mk.injEq, List.cons.injEq]
    constructor
    · rintro ⟨rfl, rfl⟩
      exact ⟨⟨rfl, rfl⟩, rfl⟩
    · rintro ⟨⟨rfl, rfl⟩, hrest⟩
      exact ⟨rfl, hrest.symm⟩

theorem pop?_eq_none_iff {q : Queue} : q.pop? = none ↔ q.waiting = [] := by
  unfold Queue.pop?
  cases q.waiting <;> simp

section Steps

variable {σ : Type} {host : Host σ} {processors : List (Processor σ)} {w : World σ}

/-- Having a processor handle an event counts a failure, and leaves the queue as the processor left
it. -/
theorem callOne_spec (hl : host.Lawful) (p : Processor σ) (e : Event) (s : σ)
    (failures : UInt64) :
    host.queue (callOne host p e s failures).1 = host.queue (p.handle e s).1 ∧
      (callOne host p e s failures).2 =
        failures + if (p.handle e s).2.isFailure then 1 else 0 := by
  unfold callOne
  cases p.handle e s with
  | mk s' reply =>
    cases reply with
    | handled => exact ⟨rfl, by simp [Reply.isFailure]⟩
    | failed err => exact ⟨hl.queue_note _ _ _, by simp [Reply.isFailure]⟩
    | panicked message => exact ⟨hl.queue_note _ _ _, by simp [Reply.isFailure]⟩

theorem recipients_cons (p : Processor σ) (i : Nat) (left : List (Processor σ × Nat)) (e : Event) :
    recipients ((p, i) :: left) e =
      if p.route? = some e.route then (i, e) :: recipients left e else recipients left e := by
  rw [recipients, List.filterMap_cons]
  split <;> simp_all [recipients]

theorem Counted.take (hl : host.Lawful) (hw : Counted host processors w) {e : Event} {q : Queue}
    (hp : w.phase = .between) (hq : (w.queue host).pop? = some (e, q)) :
    Counted host processors
      ({ w with
        state := host.setQueue w.state q
        phase := .handing e processors.zipIdx }.noting (.dispatched e)) := by
  have hlaw := hw.law
  have horder := hlaw.inOrder
  have hhanded := hlaw.handed
  have hdelivered := hw.delivered
  obtain ⟨hwaiting, hrest⟩ := pop?_eq_some_iff.1 hq
  have hqueue : host.queue (host.setQueue w.state q) = q := hl.queue_setQueue _ _
  rw [hwaiting] at horder
  rw [hp, Phase.due, List.append_nil] at hhanded
  rw [hp] at hdelivered
  exact {
    law := {
      inOrder := by simp [World.queue, hqueue, horder]
      handed := by simp [Phase.due, hhanded]
      refused := refused_concat hlaw.refused (Or.inr rfl)
      closedOnce := by
        simp only [World.queue, World.noting, hqueue]
        rw [hrest]
        simpa using hlaw.closedOnce
      ended := by simp }
    kept := by
      simp only [World.queue, World.noting, hqueue]
      rw [hrest]
      exact hw.kept
    dropped := by
      simp only [World.queue, World.noting, hqueue]
      rw [hrest]
      simpa using hw.dropped
    delivered := by
      -- the event is dispatched now, and counted as delivered when all processors have got it
      simp only [Phase.pending, World.noting, dispatched_concat, Happening.dispatched?,
        Option.toList, List.length_append, List.length_singleton, UInt64.ofNat_add] at hdelivered ⊢
      rw [← hdelivered]
      simp
    failed := by simpa using hw.failed
    closed := by simp
    among := fun x hx => List.fst_mem_of_mem_zipIdx hx }

theorem Counted.skip (hw : Counted host processors w) {e : Event} {p : Processor σ} {i : Nat}
    {left : List (Processor σ × Nat)} {route : Route}
    (hp : w.phase = .handing e ((p, i) :: left)) (hr : p.route? = some route)
    (hne : route ≠ e.route) : Counted host processors { w with phase := .handing e left } := by
  have hlaw := hw.law
  have hhanded := hlaw.handed
  have hdelivered := hw.delivered
  have hamong := hw.among
  have hother : p.route? ≠ some e.route := by simp [hr, hne]
  rw [hp, Phase.due, recipients_cons, if_neg hother] at hhanded
  rw [hp] at hdelivered hamong
  exact {
    law := {
      inOrder := hlaw.inOrder
      handed := hhanded
      refused := hlaw.refused
      closedOnce := hlaw.closedOnce
      ended := by simp }
    kept := hw.kept
    dropped := hw.dropped
    delivered := hdelivered
    failed := hw.failed
    closed := by simp
    among := fun x hx => hamong x (List.mem_cons_of_mem _ hx) }

theorem Counted.call (hl : host.Lawful) (hw : Counted host processors w) {e : Event}
    {p : Processor σ} {i : Nat} {left : List (Processor σ × Nat)}
    (hp : w.phase = .handing e ((p, i) :: left)) (hr : p.route? = some e.route)
    (actions : List Queue.Action) : Counted host processors (w.called host p i e left actions) := by
  -- what is done meanwhile keeps the law, and the return of the call is one thing more
  obtain ⟨hphase, hstats⟩ := acts_eq host w actions
  have hacted := hw.acts hl actions
  have hlaw := hacted.law
  have hhanded := hlaw.handed
  have hdelivered := hacted.delivered
  have hamong := hw.among
  have hqueue := queue_called hl w p i e left actions
  rw [hphase, hp, Phase.due, recipients_cons, if_pos hr] at hhanded
  rw [hphase, hp, hstats] at hdelivered
  rw [hp] at hamong
  exact {
    law := {
      inOrder := by rw [hqueue]; simpa [World.called] using hlaw.inOrder
      handed := by simpa [World.called, Phase.due] using hhanded
      refused := refused_concat hlaw.refused (Or.inr rfl)
      closedOnce := by rw [hqueue]; simpa [World.called] using hlaw.closedOnce
      ended := by simp [World.called] }
    kept := by rw [hqueue]; exact hacted.kept
    dropped := by rw [hqueue]; simpa [World.called] using hacted.dropped
    delivered := by simpa [World.called, Phase.pending] using hdelivered
    failed := by
      have hfailed := hacted.failed
      rw [hstats] at hfailed
      obtain ⟨-, hcount⟩ := callOne_spec hl p e w.state w.stats.processorFailures
      rw [World.called, World.noting, hcount, hfailed]
      cases hf : (p.handle e w.state).2.isFailure with
      | true => simp [hf, UInt64.ofNat_add]
      | false => simp [hf]
    closed := by simp [World.called]
    among := fun x hx => hamong x (List.mem_cons_of_mem _ hx) }

theorem Counted.finish (hw : Counted host processors w) {e : Event}
    (hp : w.phase = .handing e []) :
    Counted host processors
      { w with
        phase := .between
        stats := { w.stats with delivered := w.stats.delivered + 1 } } := by
  have hlaw := hw.law
  have hhanded := hlaw.handed
  have hdelivered := hw.delivered
  rw [hp] at hhanded hdelivered
  exact {
    law := {
      inOrder := hlaw.inOrder
      handed := hhanded
      refused := hlaw.refused
      closedOnce := hlaw.closedOnce
      ended := by simp }
    kept := hw.kept
    dropped := hw.dropped
    delivered := by simpa [Phase.pending] using hdelivered
    failed := hw.failed
    closed := by simp
    among := by simp [Phase.left] }

theorem Counted.stop (hw : Counted host processors w) (hp : w.phase = .between)
    (hq : (w.queue host).pop? = none) (hc : (w.queue host).closed = true) :
    Counted host processors
      ({ w with
        phase := .finished
        stats := { w.stats with droppedAfterClose := (w.queue host).dropped } }.noting
        (.ended { w.stats with droppedAfterClose := (w.queue host).dropped })) := by
  have hlaw := hw.law
  have horder := hlaw.inOrder
  have hhanded := hlaw.handed
  have hdelivered := hw.delivered
  rw [pop?_eq_none_iff.1 hq, List.append_nil] at horder
  rw [hp] at hhanded hdelivered
  have hcount : w.stats.delivered = .ofNat (dispatched w.journal).length := by
    simpa [Phase.pending] using hdelivered
  exact {
    law := {
      inOrder := by simpa [World.queue] using hlaw.inOrder
      handed := by simpa [Phase.due] using hhanded
      refused := refused_concat hlaw.refused (Or.inr rfl)
      closedOnce := by simpa [World.queue] using hlaw.closedOnce
      ended := fun _ => by
        -- the end is the last thing that happened so far, and nothing waits
        refine ⟨w.journal, [], rfl, ?_, horder.symm, rfl, rfl, rfl⟩
        rw [totals, horder, ← hcount, ← hw.dropped, ← hw.failed]
        rfl }
    kept := hw.kept
    dropped := by simpa [World.queue] using hw.dropped
    delivered := by simpa [Phase.pending] using hdelivered
    failed := by simpa using hw.failed
    closed := fun _ => hc
    among := by simp [Phase.left] }

theorem Counted.loopStep (hl : host.Lawful) (hw : Counted host processors w) {v : World σ}
    (hs : LoopStep host processors w v) : Counted host processors v := by
  cases hs with
  | take hp hq => exact hw.take hl hp hq
  | skip hp hr hne => exact hw.skip hp hr hne
  | call hp hr hown hactions => exact hw.call hl hp hr _
  | finish hp => exact hw.finish hp
  | stop hp hq hc => exact hw.stop hp hq hc

theorem Counted.runs (hl : host.Lawful) (hw : Counted host processors w) {k : Nat} {v : World σ}
    (hr : Runs host processors w k v) : Counted host processors v := by
  induction hr with
  | refl => exact hw
  | outside _ ho ih =>
    cases ho with
    | act a => exact ih.acts hl [a]
    | other s hs => exact ih.other hs
  | loop _ hs ih => exact ih.loopStep hl hs

end Steps

end Dispatch

end DebugRelay
