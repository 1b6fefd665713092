import DebugRelay.Target

/-!
# What a target shows

`Target.after` is a target after a list of events. Requests change nothing (`after_of_requests`).
A started target shows the script as suspended in some frames or as running without frames
(`Target.Shows`), whichever the last stop or release among the events says (`Shows.suspended`,
`Shows.resumed`). The end of the engine is the last that a target takes (`ended_apply`).
-/

namespace DebugRelay

/-- Whether the IDE is told of an event: of notifications only, and of a script without a file only
if such scripts are shown. -/
def Event.isShown (dynamic : Bool) : Event → Bool
  | .engineStarted | .engineTerminated | .suspended .. | .resumed .. => true
  | .scriptReady script _ => dynamic || script.file?.isSome
  | .breakpointAdded _ | .breakpointRemoved _ | .breakpointChanged _ | .stepRequest _
  | .framesRequest | .terminateRequest => false

namespace Target

variable {dynamic : Bool} {t : Target}

/-- The target after events, oldest first. -/
def after (dynamic : Bool) (t : Target) (events : List Event) : Target :=
  events.foldl (fun t e => (t.apply dynamic e).target) t

theorem after_append (dynamic : Bool) (t : Target) (events more : List Event) :
    t.after dynamic (events ++ more) = (t.after dynamic events).after dynamic more :=
  List.foldl_append

theorem after_concat (dynamic : Bool) (t : Target) (events : List Event) (e : Event) :
    t.after dynamic (events ++ [e]) = ((t.after dynamic events).apply dynamic e).target :=
  after_append dynamic t events [e]

theorem apply_of_request {e : Event} (h : e.route = .interpreter) :
    (t.apply dynamic e).target = t := by
  cases e <;> first | rfl | simp [Event.route] at h

theorem after_of_requests {events : List Event} (h : ∀ e ∈ events, e.route = .interpreter) :
    t.after dynamic events = t := by
  induction events with
  | nil => rfl
  | cons e rest ih =>
    rw [after, List.foldl_cons, apply_of_request (h e List.mem_cons_self)]
    exact ih fun x hx => h x (List.mem_cons_of_mem e hx)

/-- The target shows the script as suspended in the given frames, or else as running. -/
def Shows (t : Target) : Option (List Frame) → Prop
  | some frames => t.state = .suspended ∧ t.frames = frames
  | none => t.state = .running ∧ t.frames = []

theorem Shows.state_eq {view : Option (List Frame)} (h : t.Shows view) :
    t.state = .suspended ∨ t.state = .running := by
  cases view with
  | some frames => exact Or.inl h.1
  | none => exact Or.inr h.1

theorem shows_of_engineStarted (hs : t.state = .created) (hf : t.frames = []) :
    (t.apply dynamic .engineStarted).target.Shows none := by
  simp [apply, enter, hs, State.canBecome, Shows, hf]

theorem Shows.engineStarted (h : t.Shows none) :
    (t.apply dynamic .engineStarted).target.Shows none := by
  simp [apply, enter, h.1, State.canBecome, Shows, h.2]

theorem Shows.suspended {view : Option (List Frame)} (h : t.Shows view) (thread : Thread)
    (frames : List Frame) (reason : StopReason) :
    (t.apply dynamic (.suspended thread frames reason)).target.Shows (some frames) := by
  rcases h.state_eq with hs | hs <;> simp [apply, enter, hs, State.canBecome, Shows]

theorem Shows.resumed {view : Option (List Frame)} (h : t.Shows view) (thread : Option Thread)
    (kind : StepKind) : (t.apply dynamic (.resumed thread kind)).target.Shows none := by
  rcases h.state_eq with hs | hs <;> simp [apply, enter, hs, State.canBecome, Shows]

theorem isShown_of_request {e : Event} (h : e.route = .interpreter) :
    e.isShown dynamic = false := by
  cases e <;> first | rfl | simp [Event.route] at h

/-! ## The end -/

theorem shown_enter (t : Target) (next : State) : (t.enter next).shown = true := by
  unfold enter
  split <;> rfl

theorem shown_apply (t : Target) (e : Event) : (t.apply dynamic e).shown = e.isShown dynamic := by
  cases e with
  | engineStarted => exact shown_enter _ _
  | engineTerminated => exact shown_enter _ _
  | suspended thread frames reason =>
    simp only [apply, Event.isShown]
    split <;> exact shown_enter _ _
  | resumed thread kind => exact shown_enter _ _
  | scriptReady script thread =>
    simp only [apply, Event.isShown]
    cases dynamic <;> cases script.file? <;> rfl
  | breakpointAdded b => rfl
  | breakpointRemoved b => rfl
  | breakpointChanged b => rfl
  | stepRequest kind => rfl
  | framesRequest => rfl
  | terminateRequest => rfl

theorem state_enter (t : Target) (next : State) :
    (t.enter next).target.state = next ∨ (t.enter next).target.state = t.state := by
  unfold enter
  split
  · exact Or.inl rfl
  · exact Or.inr rfl

/-- Only the end of the engine ends a target. -/
theorem apply_ne_terminated {e : Event} (he : e ≠ .engineTerminated)
    (h : t.state ≠ .terminated) : (t.apply dynamic e).target.state ≠ .terminated := by
  have henter : ∀ (t' : Target) next, t'.state = t.state → next ≠ .terminated →
      (t'.enter next).target.state ≠ .terminated := by
    intro t' next hsame hnext
    rcases t'.state_enter next with hs | hs
    · rw [hs]
      exact hnext
    · rw [hs, hsame]
      exact h
  cases e with
  | engineStarted => exact henter _ _ rfl (by simp)
  | engineTerminated => exact absurd rfl he
  | suspended thread frames reason =>
    simp only [apply]
    split <;> exact henter _ _ rfl (by simp)
  | resumed thread kind => exact henter _ _ rfl (by simp)
  | scriptReady script thread =>
    simp only [apply]
    split <;> exact h
  | breakpointAdded b => exact h
  | breakpointRemoved b => exact h
  | breakpointChanged b => exact h
  | stepRequest kind => exact h
  | framesRequest => exact h
  | terminateRequest => exact h

theorem after_ne_terminated {events : List Event} (h : t.state ≠ .terminated)
    (he : .engineTerminated ∉ events) : (t.after dynamic events).state ≠ .terminated := by
  induction events generalizing t with
  | nil => exact h
  | cons e rest ih =>
    apply ih
    · apply apply_ne_terminated _ h
      rintro rfl
      exact he List.mem_cons_self
    · intro hrest
      exact he (List.mem_cons_of_mem e hrest)

/-- The end of the engine ends a target and takes its frames. -/
theorem ended_apply (h : t.state ≠ .terminated) :
    (t.apply dynamic .engineTerminated).target.state = .terminated ∧
      (t.apply dynamic .engineTerminated).target.frames = [] := by
  have hmay : t.state.canBecome .terminated = true := by
    cases hs : t.state with
    | created => rfl
    | running => rfl
    | suspended => rfl
    | terminated => exact absurd hs h
  simp [apply, enter, hmay]

end Target

end DebugRelay
