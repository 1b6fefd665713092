import DebugRelay.Proofs.Relay.Dispatching

/-!
# Stopping and going on

What the operations of a relay have to do with the stops of its engine. A thread that *waits*
(`Tracer.Waits`) wakes up only after a command through the installed debugger (`wake?_step`,
`wake?_terminate`); the engine *goes* (`Tracer.goes`) as long as its thread may come to another
stop. Most operations are `Calm`: they neither show nor record a stop, and let no thread get further
than before. What the dispatch of an event comes to otherwise is listed by `Passage`.
-/

namespace DebugRelay

/-- What an event has to do with stopping and going on. -/
inductive Event.Role where
  /-- The user wants the script to go on. -/
  | request
  /-- The script is announced to go on. -/
  | release
  /-- The script is reported to have stopped. -/
  | report
  | other
  deriving DecidableEq

/-- The role of an event. -/
def Event.role : Event → Role
  | stepRequest _ => .request
  | resumed _ _ => .release
  | suspended _ _ _ => .report
  | engineStarted | engineTerminated | scriptReady _ _ | breakpointAdded _ | breakpointRemoved _
  | breakpointChanged _ | framesRequest | terminateRequest => .other

theorem Event.role_of_file? {e : Event} (h : e.file?.isSome) : e.role = .other := by
  cases e <;> first | rfl | simp [file?] at h

/-- A target that shows the script as suspended has just been told so, or did before and was not
told that the script goes on. -/
theorem Target.suspended_of_apply {dynamic : Bool} {t : Target} {e : Event}
    (h : (t.apply dynamic e).target.state = .suspended) :
    e.role = .report ∨ e.role ≠ .release ∧ t.state = .suspended := by
  have hrunning : ∀ t' : Target, (t'.enter .running).target.state ≠ .suspended := by
    intro t'
    unfold enter
    cases hstate : t'.state <;> simp [State.canBecome, hstate]
  cases e with
  | suspended thread frames reason => exact Or.inl rfl
  | engineStarted => exact absurd h (hrunning t)
  | resumed thread kind => exact absurd h (hrunning _)
  | engineTerminated =>
    refine Or.inr ⟨by simp [Event.role], ?_⟩
    rcases state_enter { t with frames := [] } .terminated with hs | hs
    · simp [apply, hs] at h
    · exact hs.symm.trans h
  | scriptReady script thread =>
    refine Or.inr ⟨by simp [Event.role], ?_⟩
    simp only [apply] at h
    split at h <;> exact h
  | breakpointAdded b => exact Or.inr ⟨by simp [Event.role], h⟩
  | breakpointRemoved b => exact Or.inr ⟨by simp [Event.role], h⟩
  | breakpointChanged b => exact Or.inr ⟨by simp [Event.role], h⟩
  | stepRequest kind => exact Or.inr ⟨by simp [Event.role], h⟩
  | framesRequest => exact Or.inr ⟨by simp [Event.role], h⟩
  | terminateRequest => exact Or.inr ⟨by simp [Event.role], h⟩

/-- The engine's thread may come to another stop: it is not parked or has been released, and was not
asked to quit. -/
def Tracer.goes (t : Tracer) : Bool := !t.quitting && (!t.suspended || t.release.isSome)

theorem Tracer.StopsLike.goes {t t' : Tracer} (h : t.StopsLike t') : t'.goes = t.goes := by
  rw [Tracer.goes, Tracer.goes, h.quitting, h.suspended, h.release]

/-- A thread that is not parked and comes to a stop could get there, and gets no further. -/
theorem Tracer.goes_line {t : Tracer} {stack : List Frame} {reason : StopReason}
    (hfree : t.suspended = false) (hstop : (t.line stack).2 = .stopped reason) :
    t.goes = true ∧ (t.line stack).1.goes = false := by
  obtain ⟨-, hquitting, hsuspended, hrelease⟩ := line_of_stopped hstop
  have hwilling : t.quitting = false := by
    rcases t.line_cases stack with ⟨hl, -⟩ | ⟨hl, -⟩ | ⟨-, -, -, hquit, -⟩
    · simp [hl] at hstop
    · simp [hl] at hstop
    · exact hquit
  simp [goes, hwilling, hfree, hquitting, hsuspended, hrelease]

/-- A thread is parked, and neither released nor asked to quit. -/
structure Tracer.Waits (t : Tracer) : Prop where
  suspended : t.suspended = true
  release : t.release = none
  willing : t.quitting = false

/-- After a step into a function the next line with a place is a stop. -/
theorem Tracer.stopped_of_into {t : Tracer} {stack : List Frame} {f : SourceFile} {n : UInt32}
    (hmode : t.mode = .into) (hquit : t.quitting = false) (htop : top? stack = some (f, n)) :
    ∃ reason, (t.line stack).2 = .stopped reason := by
  simp only [t.line_eq_stopped_iff htop hquit]
  obtain ⟨first, load, hr | hr | hr⟩ := t.reason_cases f n
  · exact ⟨.startup, by rw [hr]⟩
  · exact ⟨.scriptLoad, by rw [hr]⟩
  · obtain ⟨table, hhit⟩ := hit_eq { t with atFirstLine := first, loadPending := load } f n
    have hends :
        ({ t with atFirstLine := first, loadPending := load }.hit f n).1.stepEnds = true := by
      rw [hhit, stepEnds, hmode]
    rw [hr, reasonHere]
    simp only [hends, if_true]
    split
    · exact ⟨.breakpoint, rfl⟩
    · exact ⟨.stepEnd, rfl⟩

namespace Relay

variable {r s : Relay} {events : List Event} {e : Event} {rest : List Event}

/-- Letting the script go on hands the command to the tracer. -/
theorem tracer_step (hook : r.link.hook = some .direct) (kind : StepKind) :
    (r.step kind).1.native.tracer = (r.native.tracer.invoke (.ofStep kind)).1 := by
  let told : Relay :=
    { r with link := { r.link with suspension := none } }.send (.resumed r.link.lastThread kind)
  have hstep : (r.step kind).1 = (told.invoke .direct (.ofStep kind)).1 := by
    simp only [step, hook, told]
  obtain ⟨calls, log, hinvoke⟩ := told.invoke_direct (.ofStep kind)
  rw [hstep, hinvoke]
  rfl

/-- A waiting thread wakes up after a step exactly if a debugger is installed. -/
theorem wake?_step (hook : r.link.hook = none ∨ r.link.hook = some .direct)
    (hw : r.native.tracer.Waits) (kind : StepKind) :
    (r.step kind).1.wake?.isSome = r.isAttached := by
  rcases hook with hook | hook
  · rw [step_detached hook, isAttached, hook]
    simp [wake?, Tracer.wake?, hw.willing, hw.release]
  · obtain ⟨mode, hmode⟩ := r.native.tracer.invoke_ofStep kind
    rw [wake?, tracer_step hook, hmode, Tracer.releaseIn, if_pos hw.suspended, isAttached, hook]
    simp [Tracer.wake?, hw.willing]

/-- The same holds after the script is told to end. -/
theorem wake?_terminate (hook : r.link.hook = none ∨ r.link.hook = some .direct)
    (hw : r.native.tracer.Waits) : r.terminate.1.wake?.isSome = r.isAttached := by
  rcases hook with hook | hook
  · have hsame : r.terminate.1 = r := by simp only [terminate, hook]
    rw [hsame, isAttached, hook]
    simp [wake?, Tracer.wake?, hw.willing, hw.release]
  · rw [wake?, isAttached, hook]
    simp [Tracer.wake?, quitting_terminate hook]

/-! ## Changes that are not about stops -/

/-- The loop runs on an open queue, and the debugger, if there is one, is the tracer. -/
structure Serves (r : Relay) : Prop where
  plain : r.Plain
  running : ∃ stats, r.loop = .running stats
  accepts : r.queue.accepts = true
  hook : r.link.hook = none ∨ r.link.hook = some .direct

theorem Serves.of_eq (h : r.Serves) (hc : s.consumers = r.consumers) (he : s.engine = r.engine)
    (hl : ∃ stats, s.loop = .running stats) (hq : s.queue.accepts = r.queue.accepts)
    (hh : s.link.hook = none ∨ s.link.hook = some .direct) : s.Serves where
  plain := ⟨hc.trans h.plain.consumers, he.trans h.plain.engine⟩
  running := hl
  accepts := hq.trans h.accepts
  hook := hh

theorem Serves.taken (h : r.Serves) (rest : List Event) : (r.taken rest).Serves :=
  h.of_eq rfl rfl h.running rfl h.hook

/-- A change that queues events which are not about stops, and neither records a stop, nor lets the
thread get further, nor shows the script as suspended. -/
structure Calm (r s : Relay) (events : List Event) : Prop where
  serves : s.Serves
  waiting : s.queue.waiting = r.queue.waiting ++ events
  held : s.link.suspension.isSome → r.link.suspension.isSome
  goes : s.native.tracer.goes = true → r.native.tracer.goes = true
  state : s.target.state = .suspended → r.target.state = .suspended
  aside : ∀ e ∈ events, e.role = .other

theorem Serves.calm (h : r.Serves) {registry : Registry} {link : Link} {native : Native}
    {log : List LogEntry} {queue : Queue} (hw : queue.waiting = r.queue.waiting ++ events)
    (hq : queue.accepts = r.queue.accepts) (hh : link.hook = none ∨ link.hook = some .direct)
    (hheld : link.suspension.isSome → r.link.suspension.isSome)
    (hgoes : native.tracer.goes = true → r.native.tracer.goes = true)
    (haside : ∀ e ∈ events, e.role = .other) :
    r.Calm { r with
      registry := registry, link := link, native := native, log := log, queue := queue }
      events where
  serves := h.of_eq rfl rfl h.running hq hh
  waiting := hw
  held := hheld
  goes := hgoes
  state hs := hs
  aside := haside

/-- A change that queues nothing. -/
theorem Serves.calm_nil (h : r.Serves) {registry : Registry} {native : Native}
    {log : List LogEntry} (hgoes : native.tracer.goes = true → r.native.tracer.goes = true) :
    r.Calm { r with registry := registry, native := native, log := log } [] :=
  h.calm (List.append_nil _).symm rfl h.hook (fun hs => hs) hgoes (by simp)

theorem Serves.calm_send (h : r.Serves) (he : e.role = .other) : r.Calm (r.send e) [e] := by
  rw [send_of_accepts h.accepts]
  exact h.calm rfl rfl h.hook (fun hs => hs) (fun hg => hg) (by simpa using he)

theorem Serves.calm_setup (h : r.Serves) :
    r.Calm ((r.setup .direct).1.send .engineStarted) [.engineStarted] := by
  obtain ⟨calls, log, hsetup⟩ := r.setup_direct
  obtain ⟨table, htable⟩ := plantAll_eq r.ready.native.tracer r.registry.enabled
  rw [htable] at hsetup
  have haccepts : (r.setup .direct).1.queue.accepts = true := by
    rw [hsetup]
    exact h.accepts
  rw [send_of_accepts haccepts, hsetup]
  exact h.calm rfl rfl (Or.inr rfl) (fun hs => hs) (fun hg => hg) (by simp [Event.role])

theorem Serves.calm_requestTermination (h : r.Serves) :
    ∃ events, r.Calm r.requestTermination events := by
  unfold requestTermination
  split
  · exact ⟨[], h.calm_nil fun hg => hg⟩
  · exact ⟨_, h.calm_send rfl⟩

theorem Serves.calm_load (h : r.Serves) : r.Calm r.loadBreakpoints.1 [] := by
  obtain ⟨registry, log, heq⟩ := r.load_eq
  rw [heq]
  exact h.calm_nil fun hg => hg

theorem Serves.calm_edit (h : r.Serves) (d : Edit) : ∃ events, r.Calm (r.edit d) events := by
  obtain ⟨registry, log, offered, heq, hfiles⟩ := r.edit_eq d
  obtain ⟨arrived, dropped, hqueue, hopen, -⟩ := r.queue.offerAll_eq offered
  obtain rfl := hopen h.accepts
  rw [heq, hqueue]
  exact ⟨arrived, h.calm rfl rfl h.hook (fun hs => hs) (fun hg => hg) fun e he =>
    Event.role_of_file? (hfiles e he)⟩

theorem Serves.calm_enter (h : r.Serves) (f : SourceFile) : r.Calm (r.enterFrame f) [] := by
  obtain ⟨entered, tracer, calls, log, heq, ⟨current, load, rfl⟩, htracer⟩ :=
    enterFrame_cases h.hook f
  rw [heq]
  refine h.calm_nil fun hg => ?_
  rcases htracer with rfl | ⟨-, rfl⟩
  · exact hg
  · rwa [(Tracer.StopsLike.reconciled ⟨rfl, rfl, rfl, rfl⟩ f _).goes] at hg

theorem Serves.calm_wake (h : r.Serves) : r.Calm (r.move .wake) [] := by
  rw [move]
  rcases r.wake?_cases with ⟨heq, -⟩ | ⟨hquit, heq⟩ | ⟨mode, hquit, hrelease, heq⟩
  · rw [heq]
    exact h.calm_nil fun hg => hg
  · rw [heq]
    exact h.calm_nil fun hg => by simp [Tracer.goes, hquit] at hg
  -- a thread that was released could get further before it went on
  · rw [heq]
    exact h.calm_nil fun _ => by simp [Tracer.goes, hquit, hrelease]

theorem Serves.calm_reconcile (h : r.Serves) (f : SourceFile) : r.Calm (r.reconcile f).1 [] := by
  rcases h.hook with hook | hook
  · rw [reconcile_detached hook]
    exact h.calm_nil fun hg => hg
  · obtain ⟨calls, log, heq⟩ := reconcile_direct hook f
    rw [heq]
    refine h.calm_nil fun hg => ?_
    rwa [(Tracer.StopsLike.reconciled ⟨rfl, rfl, rfl, rfl⟩ f _).goes] at hg

theorem Serves.calm_terminate (h : r.Serves) : r.Calm r.terminate.1 [] := by
  rcases h.hook with hook | hook
  · simp only [terminate, hook]
    exact h.calm_nil fun hg => hg
  · obtain ⟨calls, log, heq⟩ :=
      invoke_direct { r with link := { r.link with hook := none } } .quit
    simp only [terminate, hook]
    rw [heq]
    exact h.calm (List.append_nil _).symm rfl (Or.inl rfl) (by simp)
      (by simp [Tracer.goes, Tracer.invoke]) (by simp)

/-- What consuming an event comes to: a change that is not about stops, the release of the thread
and its announcement, the report of a stop once more, or a change of what is shown. -/
inductive Passage (r : Relay) (e : Event) (s : Relay) : List Event → Prop
  | calm {events : List Event} (he : e.role ≠ .release) (h : r.Calm s events) : Passage r e s events
  | released {u : Event} (he : e.role = .request) (hu : u.role = .release) (hs : s.Serves)
      (hw : s.queue.waiting = r.queue.waiting ++ [u]) (hheld : s.link.suspension = none)
      (hstate : s.target = r.target) : Passage r e s [u]
  | reported {u : Event} (he : e.role ≠ .release) (hu : u.role = .report) (hs : s.Serves)
      (hw : s.queue.waiting = r.queue.waiting ++ [u]) (hheld : r.link.suspension.isSome)
      (hnative : s.native = r.native) (hstate : s.target = r.target) : Passage r e s [u]
  | shown (hs : s.Serves) (hw : s.queue.waiting = r.queue.waiting) (hlink : s.link = r.link)
      (hnative : s.native = r.native)
      (hstate : s.target = (r.target.apply r.settings.showDynamicCode e).target) : Passage r e s []

theorem Serves.passage_step (h : r.Serves) (kind : StepKind) :
    ∃ events, r.Passage (.stepRequest kind) (r.step kind).1 events := by
  rcases h.hook with hook | hook
  · rw [step_detached hook]
    exact ⟨[], .calm (by simp [Event.role]) (h.calm_nil fun hg => hg)⟩
  · obtain ⟨calls, log, mode, heq⟩ := step_direct hook h.accepts kind
    rw [heq]
    exact ⟨_, .released rfl rfl (h.of_eq rfl rfl h.running rfl h.hook) rfl rfl rfl⟩

theorem Serves.passage_resendSuspension (h : r.Serves) :
    ∃ events, r.Passage .framesRequest r.resendSuspension events := by
  rw [resendSuspension_eq h.accepts]
  cases hs : r.link.suspension with
  | none =>
    exact ⟨[], .calm (by simp [Event.role])
      (h.calm rfl rfl h.hook (fun hheld => hheld) (fun hg => hg) (by simp))⟩
  | some stop =>
    exact ⟨_, .reported (by simp [Event.role]) rfl (h.of_eq rfl rfl h.running rfl h.hook) rfl
      (by simp [hs]) rfl rfl⟩

theorem Serves.passage_consume (h : r.Serves) (e : Event) :
    ∃ events, r.Passage e (r.consume e) events := by
  by_cases hend : e = .terminateRequest
  · rw [hend]
    exact ⟨[], .calm (by simp [Event.role]) h.calm_terminate⟩
  · have hconsumed := r.consumed_consume hend
    generalize r.consume e = s at hconsumed
    cases hconsumed with
    | @aligned _ f hf =>
      have hrole := Event.role_of_file? (e := e) (by simp [hf])
      exact ⟨[], .calm (by simp [hrole]) (h.calm_reconcile f)⟩
    | stepped kind => exact h.passage_step kind
    | resent => exact h.passage_resendSuspension
    | notified hroute =>
      obtain ⟨log, heq⟩ := r.handleNotification_spec e
      rw [heq]
      exact ⟨[], .shown (h.of_eq rfl rfl h.running rfl h.hook) rfl rfl rfl rfl⟩

/-- What the loop records of a dispatch is not about stops. -/
theorem Passage.record (h : r.Passage e s events) (stats : Dispatch.Statistics)
    (log : List LogEntry) :
    r.Passage e { s with loop := .running stats, actor := .caller, log := log } events := by
  have hserves : s.Serves →
      ({ s with loop := .running stats, actor := .caller, log := log } : Relay).Serves :=
    fun hs => hs.of_eq rfl rfl ⟨stats, rfl⟩ rfl hs.hook
  cases h with
  | calm he hc => exact .calm he { hc with serves := hserves hc.serves }
  | released he hu hs hw hheld hstate => exact .released he hu (hserves hs) hw hheld hstate
  | reported he hu hs hw hheld hnative hstate =>
    exact .reported he hu (hserves hs) hw hheld hnative hstate
  | shown hs hw hlink hnative hstate => exact .shown (hserves hs) hw hlink hnative hstate

theorem Passage.waiting (h : r.Passage e s events) :
    s.queue.waiting = r.queue.waiting ++ events := by
  cases h with
  | calm _ hc => exact hc.waiting
  | released _ _ _ hw _ _ => exact hw
  | reported _ _ _ hw _ _ _ => exact hw
  | shown _ hw _ _ _ => rw [hw, List.append_nil]

/-! ## Releases -/

/-- A request to step that is dispatched releases the thread in this way. -/
theorem Serves.dispatch_stepInto (h : r.Serves) (hook : r.link.hook = some .direct)
    (hwaits : r.native.tracer.Waits) {left : List Event}
    (hw : r.queue.waiting = .stepRequest .stepInto :: left) :
    (r.move .dispatch).native.tracer = { r.native.tracer with release := some .into } ∧
      (r.move .dispatch).link.hook = some .direct := by
  obtain ⟨stats, hl⟩ := h.running
  obtain ⟨stats', log, -, hd⟩ := dispatch?_of_cons h.plain.consumers hl hw
  have htaken : (r.taken left).link.hook = some .direct := hook
  obtain ⟨calls, log', mode, hstep⟩ := step_direct htaken h.accepts .stepInto
  rw [move, hd]
  change ((r.taken left).step .stepInto).1.native.tracer = _ ∧
    ((r.taken left).step .stepInto).1.link.hook = _
  refine ⟨?_, by rw [hstep]; exact hook⟩
  rw [tracer_step htaken]
  change r.native.tracer.releaseIn .into = _
  rw [Tracer.releaseIn, if_pos hwaits.suspended]

/-- A waiting thread wakes up after the dispatch of a request exactly if a debugger is installed. -/
theorem Serves.wake?_dispatch (h : r.Serves) (hwaits : r.native.tracer.Waits)
    {kind : StepKind} {left : List Event} (hw : r.queue.waiting = .stepRequest kind :: left) :
    (r.move .dispatch).wake?.isSome = r.isAttached := by
  obtain ⟨stats, hl⟩ := h.running
  obtain ⟨stats', log, -, hd⟩ := dispatch?_of_cons h.plain.consumers hl hw
  have hstep : ((r.taken left).step kind).1.wake?.isSome = r.isAttached :=
    wake?_step (r := r.taken left) h.hook hwaits kind
  rw [move, hd]
  rw [wake?, Option.isSome_map] at hstep ⊢
  exact hstep

/-- A released thread goes on in the mode that it was released in. -/
theorem wake_of_released {mode : Tracer.Mode} (hquit : r.native.tracer.quitting = false)
    (hrelease : r.native.tracer.release = some mode) :
    (r.move .wake).native.tracer.quitting = false ∧
      (r.move .wake).native.tracer.suspended = false ∧
      (r.move .wake).native.tracer.mode = mode ∧ (r.move .wake).link = r.link := by
  rw [move]
  rcases r.wake?_cases with ⟨-, -, hnone⟩ | ⟨hq, -⟩ | ⟨mode', -, hmode, heq⟩
  · simp [hrelease] at hnone
  · simp [hquit] at hq
  · rw [hrelease, Option.some.injEq] at hmode
    rw [heq]
    exact ⟨hquit, rfl, hmode.symm, rfl⟩

/-- The thread waits at a line that stops. -/
theorem waits_of_stopped {stack : List Frame} {reason : StopReason}
    (h : r.Serves) (hquit : r.native.tracer.quitting = false)
    (hstop : (r.native.tracer.line stack).2 = .stopped reason) (thread : Thread) :
    (r.traceLine thread stack).2 = none ∧ (r.traceLine thread stack).1.link.hook = r.link.hook ∧
      (r.traceLine thread stack).1.native.tracer.Waits := by
  obtain ⟨-, hquitting, hsuspended, hrelease⟩ := Tracer.line_of_stopped hstop
  have hwaits : (r.native.tracer.line stack).1.Waits :=
    ⟨hsuspended, hrelease, hquitting.trans hquit⟩
  rcases traceLine_cases h.accepts thread stack with
    ⟨outcome, hpass, -⟩ | ⟨_, -, -, heq⟩ | ⟨_, -, -, heq⟩
  · simp [hstop] at hpass
  · rw [heq]
    exact ⟨rfl, rfl, hwaits⟩
  · rw [heq]
    exact ⟨rfl, rfl, hwaits⟩

end Relay

end DebugRelay
