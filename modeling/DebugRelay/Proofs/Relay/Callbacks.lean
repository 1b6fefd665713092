import DebugRelay.Proofs.Queue
import DebugRelay.Proofs.Registry.Soundness
import DebugRelay.Proofs.Relay.Operations

/-!
# Callbacks about a breakpoint

The IDE tells of a breakpoint that is new, gone or changed. All three callbacks resolve it first,
and then differ in the registry that they leave (`Callback.registry`), in the events that they offer
to the queue (`Callback.events`) and in what they warn of (`Callback.warnings`).
`callback_of_resolves` is the one equation for them.
-/

namespace DebugRelay.Relay

variable {r : Relay} {stored : StoredBreakpoint} {b : Breakpoint}

/-! ## Resolving -/

/-- A stored breakpoint is of the accepted kind and resolves to a breakpoint. -/
def Resolves (r : Relay) (stored : StoredBreakpoint) (b : Breakpoint) : Prop :=
  r.supports stored.model = true ∧ Breakpoint.resolve r.files stored = .ok b

theorem withResolved_of_resolves (h : r.Resolves stored b) (act : Breakpoint → Relay) :
    r.withResolved stored act = (act b, .ok ()) := by
  rw [withResolved, if_pos h.1, h.2]

/-- A callback about a breakpoint acts on what the breakpoint resolves to, or does nothing. -/
theorem resolves_or (r : Relay) (stored : StoredBreakpoint) :
    (∃ b, r.Resolves stored b) ∨
      (∀ b, ¬ r.Resolves stored b) ∧ ∀ act, (r.withResolved stored act).1 = r := by
  by_cases hmodel : r.supports stored.model = true
  · cases hb : Breakpoint.resolve r.files stored with
    | ok b => exact Or.inl ⟨b, hmodel, hb⟩
    | error e =>
      refine Or.inr ⟨fun b h => ?_, fun act => ?_⟩
      · rw [h.2] at hb
        simp at hb
      · rw [withResolved, if_pos hmodel, hb]
  · refine Or.inr ⟨fun b h => hmodel h.1, fun act => ?_⟩
    rw [withResolved, if_neg hmodel]

/-! ## The callbacks -/

/-- What the IDE has to tell of one of its breakpoints. -/
inductive Callback where
  | added
  | removed
  | changed

/-- The relay after a callback, and its answer. -/
def callback (r : Relay) : Callback → StoredBreakpoint → Relay × Except Error Unit
  | .added, stored => r.breakpointAdded stored
  | .removed, stored => r.breakpointRemoved stored
  | .changed, stored => r.breakpointChanged stored

/-- The announcement of the file that a changed breakpoint left, if it left one. -/
def departures (b : Breakpoint) : Registry.Change → List Event
  | .moved previous => if previous.file = b.file then [] else [.breakpointRemoved previous]
  | _ => []

namespace Callback

/-- The registry that a callback leaves, given what the breakpoint resolves to. -/
def registry (c : Callback) (g : Registry) (b : Breakpoint) : Registry :=
  match c with
  | added | changed => (g.put b).1
  | removed => g.clear (g.removalTarget b)

/-- The events that a callback offers to the queue. -/
def events (c : Callback) (g : Registry) (b : Breakpoint) : List Event :=
  match c with
  | added => [.breakpointAdded b]
  | removed => [.breakpointRemoved ((g.find? (g.removalTarget b)).getD b)]
  | changed => departures b (g.put b).2 ++ [.breakpointChanged (g.entryAfter b)]

/-- What a callback warns of: a breakpoint that is gone and was not there. -/
def warnings (c : Callback) (g : Registry) (b : Breakpoint) : List String :=
  match c with
  | added | changed => []
  | removed =>
    if (g.find? (g.removalTarget b)).isNone then
      ["Removing unknown breakpoint " ++ (g.removalTarget b).text]
    else []

end Callback

/-- The relay after warnings. -/
def warnAll (r : Relay) (texts : List String) : Relay :=
  { r with log := r.log ++ texts.map fun text => ⟨r.actor, .warning, text⟩ }

@[simp]
theorem warnAll_nil (r : Relay) : r.warnAll [] = r := by
  rw [warnAll, List.map_nil, List.append_nil]

theorem exists_file_of_mem_departures {change : Registry.Change} {e : Event}
    (h : e ∈ departures b change) : ∃ f, e.file? = some f := by
  unfold departures at h
  split at h
  · split at h
    · simp at h
    · rw [List.mem_singleton.1 h]
      exact ⟨_, rfl⟩
  · simp at h

/-- All events that a callback offers are about breakpoints. -/
theorem exists_file_of_mem_events {c : Callback} {g : Registry} {e : Event}
    (h : e ∈ c.events g b) : ∃ f, e.file? = some f := by
  cases c with
  | added => exact ⟨_, by rw [List.mem_singleton.1 h]; rfl⟩
  | removed => exact ⟨_, by rw [List.mem_singleton.1 h]; rfl⟩
  | changed =>
    rcases List.mem_append.1 h with hleft | hhere
    · exact exists_file_of_mem_departures hleft
    · exact ⟨_, by rw [List.mem_singleton.1 hhere]; rfl⟩

/-! ## Callbacks as updates -/

theorem put_eq (r : Relay) (b : Breakpoint) :
    r.put b = ({ r with registry := (r.registry.put b).1 }, (r.registry.put b).2) := rfl

theorem removeOwned_eq (r : Relay) (b : Breakpoint) : r.removeOwned b =
    (({ r with registry := r.registry.clear (r.registry.removalTarget b) } : Relay).warnAll
      (Callback.removed.warnings r.registry b),
      r.registry.find? (r.registry.removalTarget b)) := by
  simp only [removeOwned, remove, Registry.remove, Callback.warnings]
  cases r.registry.find? (r.registry.removalTarget b) with
  | none => rfl
  | some x => simp [warnAll]

/-- Every callback resolves the breakpoint before it does anything. -/
theorem callback_eq_withResolved (r : Relay) (c : Callback) (stored : StoredBreakpoint) :
    ∃ act, r.callback c stored = r.withResolved stored act := by
  cases c <;> exact ⟨_, rfl⟩

/-- A callback about a breakpoint that resolves changes the registry, offers its events to the queue
and answers yes. -/
theorem callback_of_resolves (c : Callback) (h : r.Resolves stored b) :
    r.callback c stored = (({ r with
      registry := c.registry r.registry b
      queue := r.queue.offerAll (c.events r.registry b) } : Relay).warnAll
        (c.warnings r.registry b), .ok ()) := by
  cases c with
  | added =>
    rw [callback, breakpointAdded, withResolved_of_resolves h]
    simp only [Callback.warnings, warnAll_nil]
    rfl
  | removed =>
    rw [callback, breakpointRemoved, withResolved_of_resolves h, removeOwned_eq]
    rfl
  | changed =>
    have hhere : ((r.registry.put b).1.find? b.location).getD b = r.registry.entryAfter b := by
      rw [Registry.find?_put, if_pos rfl]
      rfl
    have hevents : Callback.changed.events r.registry b = departures b (r.registry.put b).2 ++
        [.breakpointChanged (((r.registry.put b).1.find? b.location).getD b)] := by
      rw [hhere]
      rfl
    rw [callback, breakpointChanged, withResolved_of_resolves h, put_eq, hevents]
    simp only [Callback.warnings, warnAll_nil]
    cases (r.registry.put b).2 with
    | moved previous =>
      -- a move within a file is announced once, a move to another file twice
      by_cases hfile : previous.file = b.file
      · simp only [departures, hfile, if_true]
        rfl
      · simp only [departures, hfile, if_false]
        rfl
    | inserted => rfl
    | updated => rfl
    | unchanged => rfl

/-- A callback changes the registry and the log, and offers events about breakpoints. -/
theorem callback_eq (r : Relay) (c : Callback) (stored : StoredBreakpoint) :
    ∃ registry log offered, (r.callback c stored).1 =
      { r with registry := registry, log := log, queue := r.queue.offerAll offered } ∧
      ∀ e ∈ offered, e.file?.isSome := by
  rcases r.resolves_or stored with ⟨b, hb⟩ | ⟨-, hnone⟩
  · refine ⟨c.registry r.registry b, (r.callback c stored).1.log, c.events r.registry b, ?_,
      fun e he => ?_⟩
    · rw [callback_of_resolves c hb]
      rfl
    · obtain ⟨f, hf⟩ := exists_file_of_mem_events he
      rw [hf, Option.isSome_some]
  · obtain ⟨act, hact⟩ := r.callback_eq_withResolved c stored
    refine ⟨r.registry, r.log, [], ?_, by simp⟩
    rw [hact, hnone act]
    rfl

/-- With an open queue all events of a callback arrive. -/
theorem callback_of_accepts (ha : r.queue.accepts = true) (c : Callback)
    (h : r.Resolves stored b) : (r.callback c stored).1 = ({ r with
      registry := c.registry r.registry b
      queue := { r.queue with waiting := r.queue.waiting ++ c.events r.registry b } } :
        Relay).warnAll (c.warnings r.registry b) := by
  rw [callback_of_resolves c h, Queue.offerAll_of_accepts ha]

theorem breakpointAdded_eq (ha : r.queue.accepts = true) (h : r.Resolves stored b) :
    (r.breakpointAdded stored).1 =
      { r with
        registry := (r.registry.put b).1
        queue := { r.queue with waiting := r.queue.waiting ++ [.breakpointAdded b] } } :=
  (callback_of_accepts ha .added h).trans (warnAll_nil _)

theorem breakpointRemoved_eq (ha : r.queue.accepts = true) (h : r.Resolves stored b) :
    ∃ log, (r.breakpointRemoved stored).1 =
      { r with
        registry := r.registry.clear (r.registry.removalTarget b)
        queue := { r.queue with waiting := r.queue.waiting ++ [.breakpointRemoved
          ((r.registry.find? (r.registry.removalTarget b)).getD b)] }
        log := log } :=
  ⟨_, callback_of_accepts ha .removed h⟩

theorem breakpointChanged_eq (ha : r.queue.accepts = true) (h : r.Resolves stored b) :
    (r.breakpointChanged stored).1 =
      { r with
        registry := (r.registry.put b).1
        queue := { r.queue with waiting := r.queue.waiting ++
          (departures b (r.registry.put b).2 ++
            [.breakpointChanged (r.registry.entryAfter b)]) } } :=
  (callback_of_accepts ha .changed h).trans (warnAll_nil _)

end DebugRelay.Relay
