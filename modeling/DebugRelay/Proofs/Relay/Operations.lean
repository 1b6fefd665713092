import DebugRelay.Proofs.Tracer.Table
import DebugRelay.Relay.Run

/-!
# The operations of a relay as updates

For a relay with an open queue and a debugger that hands every command to the tracer, each
operation is an update of a few fields of the state. This file states these updates, one equation
for each operation; what is only recorded (calls, the log, the statistics of the loop) is left
open. `dispatch?_of_cons` reduces a step of the dispatch loop to `Relay.consume`.
-/

namespace DebugRelay

/-- A debugger that refuses nothing and hands every command to the tracer. -/
def Hook.direct : Hook := ⟨true, fun _ _ => none⟩

/-- An interpreter whose debugger is the tracer itself, and whose installation meets no error. -/
def Interpreter.direct : Interpreter := ⟨none, none, none, .direct⟩

/-- The file that an event about a breakpoint concerns. Other events concern none. -/
def Event.file? : Event → Option SourceFile
  | breakpointAdded b | breakpointRemoved b | breakpointChanged b => some b.file
  | _ => none

theorem Event.route_of_file? {e : Event} {f : SourceFile} (h : e.file? = some f) :
    e.route = .interpreter := by
  cases e <;> first | rfl | simp [file?] at h

/-- A notification concerns no file. -/
theorem Event.file?_of_route {e : Event} (h : e.route = .ide) : e.file? = none := by
  cases e <;> first | rfl | simp [route] at h

theorem Native.invoke_direct (n : Native) (c : Command) :
    n.invoke .direct c =
      (⟨(n.tracer.invoke c).1, n.calls ++ [.command c]⟩, (n.tracer.invoke c).2) := rfl

theorem Tracer.invoke_setBreak (t : Tracer) (b : Breakpoint) :
    (t.invoke (.setBreak b)).1 = t.plantAll [b] := by
  cases hb : b.line <;> simp [Tracer.invoke, Tracer.plantAll, hb]

/-- The commands that let a script go on release the parked thread. -/
theorem Tracer.invoke_ofStep (t : Tracer) (kind : StepKind) :
    ∃ mode, (t.invoke (.ofStep kind)).1 = t.releaseIn mode := by
  cases kind
  · exact ⟨.into, rfl⟩
  · exact ⟨.atOrAbove t.depth, rfl⟩
  · exact ⟨.above t.depth, rfl⟩
  · exact ⟨.free, rfl⟩
  · exact ⟨.free, rfl⟩

theorem Tracer.releaseIn_eq (t : Tracer) (mode : Mode) :
    ∃ release, t.releaseIn mode = { t with release := release } := by
  unfold releaseIn
  split
  · exact ⟨some mode, rfl⟩
  · exact ⟨t.release, rfl⟩

theorem Tracer.plantAll_append (t : Tracer) (bs bs' : List Breakpoint) :
    t.plantAll (bs ++ bs') = (t.plantAll bs).plantAll bs' := by
  induction bs generalizing t with
  | nil => rfl
  | cons b rest ih =>
    simp only [List.cons_append, Tracer.plantAll]
    cases b.line with
    | none => exact ih t
    | some line => exact ih (t.plant line b)

namespace Relay

variable {r : Relay}

theorem send_of_accepts (h : r.queue.accepts = true) (e : Event) :
    r.send e = { r with queue := { r.queue with waiting := r.queue.waiting ++ [e] } } := by
  simp [send, enqueue, Queue.enqueue, h]

/-! ## Commands to the tracer -/

theorem invoke_direct (r : Relay) (c : Command) :
    ∃ calls log, (r.invoke .direct c).1 =
      { r with native := ⟨(r.native.tracer.invoke c).1, calls⟩, log := log } := by
  unfold invoke
  rw [Native.invoke_direct]
  simp only
  split
  · exact ⟨_, _, rfl⟩
  · exact ⟨_, _, rfl⟩

theorem clearFile_direct (h : r.link.hook = some .direct) (f : SourceFile) :
    ∃ calls log, (r.clearFile f).1 =
      { r with native := ⟨r.native.tracer.clearFile f, calls⟩, log := log } := by
  simp only [clearFile, fire, h]
  exact r.invoke_direct (.clearFile f)

theorem setBreakpoint_direct (h : r.link.hook = some .direct) {b : Breakpoint}
    (hb : b.enabled = true) :
    ∃ calls log, (r.setBreakpoint b).1 =
      { r with native := ⟨r.native.tracer.plantAll [b], calls⟩, log := log } := by
  simp only [setBreakpoint, hb, if_true, fire, h]
  rw [← Tracer.invoke_setBreak]
  exact r.invoke_direct (.setBreak b)

theorem setBreakpoints_direct {bs : List Breakpoint} (h : r.link.hook = some .direct)
    (hbs : ∀ b ∈ bs, b.enabled = true) :
    ∃ calls log, (r.setBreakpoints bs).1 =
      { r with native := ⟨r.native.tracer.plantAll bs, calls⟩, log := log } := by
  induction bs generalizing r with
  | nil => exact ⟨r.native.calls, r.log, rfl⟩
  | cons b rest ih =>
    obtain ⟨calls, log, hone⟩ := setBreakpoint_direct h (hbs b List.mem_cons_self)
    have hhook : (r.setBreakpoint b).1.link.hook = some .direct := by
      rw [hone]
      exact h
    obtain ⟨calls', log', hrest⟩ := ih hhook fun b' hb' => hbs b' (List.mem_cons_of_mem _ hb')
    refine ⟨calls', log', ?_⟩
    -- the first step keeps the debugger, so the rest acts on the relay after it
    change ((r.setBreakpoint b).1.setBreakpoints rest).1 = _
    rw [hrest, hone, ← Tracer.plantAll_append]
    rfl

/-- Bringing a file in line clears it and plants what the registry wants in it. -/
theorem reconcile_direct (h : r.link.hook = some .direct) (f : SourceFile) :
    ∃ calls log, (r.reconcile f).1 =
      { r with
        native := ⟨(r.native.tracer.clearFile f).plantAll (r.registry.enabledOf f), calls⟩
        log := log } := by
  obtain ⟨calls, log, hclear⟩ := clearFile_direct h f
  have hhook : (r.clearFile f).1.link.hook = some .direct := by
    rw [hclear]
    exact h
  have henabled : ∀ b ∈ (r.clearFile f).1.registry.enabledOf f, b.enabled = true := by
    intro b hb
    exact (Bool.and_eq_true _ _ ▸ (List.mem_filter.1 hb).2 : _ ∧ _).1
  obtain ⟨calls', log', hset⟩ := setBreakpoints_direct hhook henabled
  refine ⟨calls', log', ?_⟩
  simp only [reconcile, isAttached, h, Option.isSome_some, if_true]
  rw [hset, hclear]

theorem reconcile_of_detached (h : r.link.hook = none) (f : SourceFile) :
    r.reconcile f = (r, 0) := by
  simp [reconcile, isAttached, h]

theorem reconcile_detached (h : r.link.hook = none) (f : SourceFile) : (r.reconcile f).1 = r :=
  congrArg Prod.fst (reconcile_of_detached h f)

/-- The relay within a setup, once the debugger is installed and configured, and before its
breakpoints are set. -/
def ready (r : Relay) : Relay :=
  { r with
    link := { r.link with hook := some .direct }
    native :=
      ⟨{ r.native.tracer with
          observed := true
          stopsAtStart := r.settings.suspendOnStartup
          stopsAtLoad := r.settings.suspendOnScriptLoad },
        r.native.calls ++ [.searchPath r.settings.supportDir] ++
          [.loadDebugger (Path.join r.settings.supportDir r.settings.setupScript)] ++ [.attach] ++
          [.command (.suspendOnStartup r.settings.suspendOnStartup)] ++
          [.command (.suspendOnScriptLoad r.settings.suspendOnScriptLoad)]⟩ }

theorem setup_eq (r : Relay) : r.setup .direct = (r.ready.installAll.1, .ok ()) := rfl

/-- Installing the debugger makes the tracer report, configures it, and plants all that the
registry wants. -/
theorem setup_direct (r : Relay) :
    ∃ calls log, r.setup .direct =
      ({ r with
        link := { r.link with hook := some .direct }
        native := ⟨r.ready.native.tracer.plantAll r.registry.enabled, calls⟩
        log := log }, .ok ()) := by
  have henabled : ∀ b ∈ r.registry.enabled, b.enabled = true := by
    intro b hb
    simpa using (List.mem_filter.1 hb).2
  obtain ⟨calls, log, hset⟩ := setBreakpoints_direct (r := r.ready) rfl henabled
  refine ⟨calls, log, ?_⟩
  rw [setup_eq]
  exact congrArg (fun s => (s, (.ok () : Except Error Unit))) hset

/-- Letting the script go on forgets the stop, announces it, and releases the parked thread. -/
theorem step_direct (h : r.link.hook = some .direct) (ha : r.queue.accepts = true)
    (kind : StepKind) :
    ∃ calls log mode, (r.step kind).1 =
      { r with
        link := { r.link with suspension := none }
        queue := { r.queue with
          waiting := r.queue.waiting ++ [.resumed r.link.lastThread kind] }
        native := ⟨r.native.tracer.releaseIn mode, calls⟩
        log := log } := by
  obtain ⟨mode, hmode⟩ := r.native.tracer.invoke_ofStep kind
  -- the announcement is queued before the command goes to the tracer
  let told : Relay := { r with
    link := { r.link with suspension := none }
    queue := { r.queue with waiting := r.queue.waiting ++ [.resumed r.link.lastThread kind] } }
  obtain ⟨calls, log, hinvoke⟩ := told.invoke_direct (.ofStep kind)
  refine ⟨calls, log, mode, ?_⟩
  have hstep : (r.step kind).1 = (told.invoke .direct (.ofStep kind)).1 := by
    have hsend := send_of_accepts (r := { r with link := { r.link with suspension := none } }) ha
      (.resumed r.link.lastThread kind)
    simp only [step, h] at hsend ⊢
    rw [hsend]
    simp only [told, h]
  rw [hstep, hinvoke]
  simp only [told, hmode]

theorem step_of_detached (h : r.link.hook = none) (kind : StepKind) :
    r.step kind = (r, false) := by
  simp only [step, h]

theorem step_detached (h : r.link.hook = none) (kind : StepKind) : (r.step kind).1 = r :=
  congrArg Prod.fst (step_of_detached h kind)

/-! ## The dispatch loop -/

/-- What an event does when it is dispatched: a request goes to the link, a notification to the
target. -/
def consume (r : Relay) (e : Event) : Relay :=
  match e.route with
  | .interpreter => r.handleRequest e
  | .ide => (r.handleNotification e).1

/-- Handing an event to the target changes the target, the log and what the IDE was told. -/
theorem handleNotification_spec (r : Relay) (e : Event) :
    ∃ log, (r.handleNotification e).1 = { r with
      target := (r.target.apply r.settings.showDynamicCode e).target
      log := log
      delivered := r.delivered ++
        if (r.target.apply r.settings.showDynamicCode e).shown then
          [(e, (r.target.apply r.settings.showDynamicCode e).target.state)]
        else [] } := by
  unfold handleNotification
  -- only whether it is shown and refused matters, not what the target makes of the event
  generalize r.target.apply r.settings.showDynamicCode e = applied
  obtain ⟨target, refused, shown⟩ := applied
  cases shown with
  | false => cases refused <;> exact ⟨_, by simp [warn, note]; rfl⟩
  | true =>
    cases hpanic : r.sinkPanic e <;> cases refused <;>
      exact ⟨_, by simp only [warn, note, hpanic, if_true]; rfl⟩

theorem dispatch?_of_nil (h : r.queue.waiting = []) (hopen : r.queue.closed = false) :
    r.dispatch? = none := by
  unfold dispatch?
  split
  · simp [Dispatch.next, host, Queue.pop?, h, hopen]
  · rfl

/-- Handing an event to a link and a target comes to consuming it. -/
theorem deliver_link_target (r : Relay) (e : Event) (failures : UInt64) :
    ∃ failures' log, Dispatch.deliver host e [Consumer.processor .link, Consumer.processor .target]
        r failures = ({ r.consume e with log := log }, failures', true) := by
  unfold consume
  cases hroute : e.route with
  | interpreter =>
    refine ⟨failures, (r.handleRequest e).log, ?_⟩
    simp [Dispatch.deliver, Dispatch.callOne, Consumer.processor, hroute]
  | ide =>
    simp only [Dispatch.deliver, Dispatch.callOne, Consumer.processor, hroute, reduceCtorEq,
      if_false, if_true]
    cases r.handleNotification e with
    | mk r' reply =>
      cases reply <;> exact ⟨_, _, rfl⟩

/-- One step of the dispatch loop of a relay with a link and a target: the oldest event is taken,
consumed and counted. -/
theorem dispatch?_of_cons {stats : Dispatch.Statistics} {e : Event} {rest : List Event}
    (hc : r.consumers = [.link, .target]) (hl : r.loop = .running stats)
    (hw : r.queue.waiting = e :: rest) :
    ∃ stats' log, stats'.delivered = stats.delivered + 1 ∧ r.dispatch? = some
      { { r with
          queue := { r.queue with waiting := rest }
          actor := .dispatcher }.consume e with
        loop := .running stats'
        actor := .caller
        log := log } := by
  obtain ⟨failures, log, hdeliver⟩ := deliver_link_target
    { r with queue := { r.queue with waiting := rest }, actor := .dispatcher } e
    stats.processorFailures
  refine ⟨{ stats with delivered := stats.delivered + 1, processorFailures := failures }, log, rfl,
    ?_⟩
  have hp : r.processors = [Consumer.processor .link, Consumer.processor .target] := by
    simp [processors, hc]
  have hpop : ({ r with actor := .dispatcher } : Relay).queue.pop? =
      some (e, { r.queue with waiting := rest }) := by
    simp only [Queue.pop?, hw]
  simp only [dispatch?, hl, hp, Dispatch.next, host, hpop]
  simp only [host, hl] at hdeliver
  rw [hdeliver]

end Relay

end DebugRelay
