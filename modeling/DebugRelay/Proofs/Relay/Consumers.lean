import DebugRelay.Proofs.Dispatch.Delivery
import DebugRelay.Relay.Run

/-!
# The consumers of a relay

Commands to the interpreter leave the queue alone; letting the script go on and reporting a stop
again offer one event to it. So every consumer of a relay serves, and the law of delivery applies to
the loop of a relay, whatever debugger is installed (`serves_processors`).
-/

namespace DebugRelay.Relay

/-- The route whose events a consumer gets. -/
def Consumer.route : Consumer → Route
  | .link | .interpreterRecorder => .interpreter
  | .target | .ideRecorder => .ide

@[simp]
theorem route?_processor (c : Consumer) :
    (Consumer.processor c).route? = some (Consumer.route c) := by
  cases c <;> rfl

theorem lawful_host : host.Lawful where
  queue_setQueue _ _ := rfl
  setQueue_queue _ := rfl
  queue_note _ _ _ := rfl

/-! ## Commands leave the queue alone -/

@[simp]
theorem queue_invoke (r : Relay) (h : Hook) (c : Command) :
    (r.invoke h c).1.queue = r.queue := by
  unfold invoke
  cases r.native.invoke h c with
  | mk native result => cases result <;> rfl

@[simp]
theorem queue_fire (r : Relay) (c : Command) : (r.fire c).1.queue = r.queue := by
  unfold fire
  split
  · exact queue_invoke r _ c
  · rfl

@[simp]
theorem queue_setBreakpoint (r : Relay) (b : Breakpoint) :
    (r.setBreakpoint b).1.queue = r.queue := by
  unfold setBreakpoint
  split
  · exact queue_fire r _
  · rfl

theorem queue_setBreakpoints (r : Relay) (bs : List Breakpoint) :
    (r.setBreakpoints bs).1.queue = r.queue := by
  induction bs generalizing r with
  | nil => rfl
  | cons b rest ih => exact (ih _).trans (queue_setBreakpoint r b)

@[simp]
theorem queue_reconcile (r : Relay) (f : SourceFile) : (r.reconcile f).1.queue = r.queue := by
  unfold reconcile
  split
  · exact (queue_setBreakpoints _ _).trans (queue_fire r _)
  · rfl

theorem queue_step (r : Relay) (kind : StepKind) :
    (r.step kind).1.queue = r.queue ∨
      (r.step kind).1.queue = r.queue.act (.offer (.resumed r.link.lastThread kind)) := by
  unfold step
  split
  · exact Or.inl rfl
  -- the event is offered before the command goes to the debugger
  · refine Or.inr ?_
    rw [queue_invoke]
    rfl

theorem queue_terminate (r : Relay) : r.terminate.1.queue = r.queue := by
  unfold terminate
  split
  · rfl
  · exact queue_invoke _ _ _

theorem queue_resendSuspension (r : Relay) :
    r.resendSuspension.queue = r.queue ∨
      ∃ e, r.resendSuspension.queue = r.queue.act (.offer e) := by
  unfold resendSuspension
  split
  · exact Or.inr ⟨_, rfl⟩
  · exact Or.inl rfl

/-! ## Serving -/

/-- A request makes the link offer one event at most. -/
theorem queue_handleRequest (r : Relay) (e : Event) :
    (r.handleRequest e).queue = r.queue ∨
      ∃ x, (r.handleRequest e).queue = r.queue.act (.offer x) := by
  cases e with
  | breakpointAdded b => exact Or.inl (queue_reconcile r b.file)
  | breakpointRemoved b => exact Or.inl (queue_reconcile r b.file)
  | breakpointChanged b => exact Or.inl (queue_reconcile r b.file)
  | stepRequest kind => exact (queue_step r kind).imp_right fun h => ⟨_, h⟩
  | framesRequest => exact queue_resendSuspension r
  | terminateRequest => exact Or.inl (queue_terminate r)
  | engineStarted => exact Or.inl rfl
  | engineTerminated => exact Or.inl rfl
  | suspended thread frames reason => exact Or.inl rfl
  | resumed thread kind => exact Or.inl rfl
  | scriptReady script thread => exact Or.inl rfl

theorem queue_handleNotification (r : Relay) (e : Event) :
    (r.handleNotification e).1.queue = r.queue := by
  unfold handleNotification
  cases r.target.apply r.settings.showDynamicCode e with
  | mk target refused shown =>
    cases refused <;> cases shown <;> cases hpanic : r.sinkPanic e <;>
      simp [warn, note, hpanic]

theorem serves_processor (c : Consumer) : (Consumer.processor c).Serves host where
  asked := by simp
  acts e r := by
    cases c with
    | link =>
      rcases queue_handleRequest r e with h | ⟨x, h⟩
      · exact ⟨[], h⟩
      · exact ⟨[.offer x], h⟩
    | target => exact ⟨[], queue_handleNotification r e⟩
    | ideRecorder => exact ⟨[], rfl⟩
    | interpreterRecorder => exact ⟨[], rfl⟩

/-- The processors of a relay serve, whatever consumers it has. -/
theorem serves_processors (r : Relay) : ∀ p ∈ r.processors, p.Serves host := by
  intro p hp
  obtain ⟨c, -, rfl⟩ := List.mem_map.1 hp
  exact serves_processor c

end DebugRelay.Relay
