import DebugRelay.Proofs.Opacity.Data
import DebugRelay.Proofs.Relay.Consumers
import DebugRelay.Proofs.Relay.Dispatching
import DebugRelay.Proofs.Relay.Installing

/-!
# Relays that differ by conditions and locals

`Relay.Alike` relates two relays that are the same but for the conditions of breakpoints, the locals
of frames, and what the IDE panics at. Every operation keeps it, whatever conditions and locals its
own arguments have: the callbacks of the IDE, the requests to the link, the reports of the engine
(`Alike.traceLine`), and the dispatch of an event (`Alike.dispatch`).
-/

namespace DebugRelay.Relay

/-- What the IDE was told, without conditions and locals. -/
def told (r : Relay) : List (Event × Target.State) :=
  r.delivered.map fun d => (d.1.bare, d.2)

/-- Two relays differ by conditions and locals at most, and by the log. Their debugger does not look
at conditions. -/
structure Alike (r s : Relay) : Prop where
  settings : r.settings = s.settings
  files : r.files = s.files
  store : r.store.map StoredBreakpoint.bare = s.store.map StoredBreakpoint.bare
  consumers : r.consumers = s.consumers
  registry : r.registry.bare = s.registry.bare
  queue : r.queue.bare = s.queue.bare
  link : r.link.bare = s.link.bare
  target : r.target.bare = s.target.bare
  native : r.native.bare = s.native.bare
  loop : r.loop.bare = s.loop.bare
  told : r.told = s.told
  blind : ∀ h, r.link.hook = some h → h.Blind

variable {r s t : Relay}

namespace Alike

theorem hook (h : r.Alike s) : r.link.hook = s.link.hook :=
  (congrArg Link.hook h.link :)

theorem lastThread (h : r.Alike s) : r.link.lastThread = s.link.lastThread :=
  (congrArg Link.lastThread h.link :)

theorem suspension (h : r.Alike s) :
    r.link.suspension.map Suspension.bare = s.link.suspension.map Suspension.bare :=
  (congrArg Link.suspension h.link :)

theorem state (h : r.Alike s) : r.target.state = s.target.state :=
  (congrArg Target.state h.target :)

theorem tracer (h : r.Alike s) : r.native.tracer.bare = s.native.tracer.bare :=
  (congrArg Native.tracer h.native :)

theorem symm (h : r.Alike s) : s.Alike r where
  settings := h.settings.symm
  files := h.files.symm
  store := h.store.symm
  consumers := h.consumers.symm
  registry := h.registry.symm
  queue := h.queue.symm
  link := h.link.symm
  target := h.target.symm
  native := h.native.symm
  loop := h.loop.symm
  told := h.told.symm
  blind k hk := h.blind k (h.hook.trans hk)

theorem trans (h : r.Alike s) (h' : s.Alike t) : r.Alike t where
  settings := h.settings.trans h'.settings
  files := h.files.trans h'.files
  store := h.store.trans h'.store
  consumers := h.consumers.trans h'.consumers
  registry := h.registry.trans h'.registry
  queue := h.queue.trans h'.queue
  link := h.link.trans h'.link
  target := h.target.trans h'.target
  native := h.native.trans h'.native
  loop := h.loop.trans h'.loop
  told := h.told.trans h'.told
  blind := h.blind

/-- An operation that does the same to bare arguments does the same to any two arguments that differ
by conditions and locals. -/
theorem of_bare {α : Type} {bare : α → α} (h : r.Alike s) (op : Relay → α → Relay)
    (hop : ∀ {r s : Relay}, r.Alike s → ∀ x, (op r x).Alike (op s (bare x))) {x y : α}
    (hxy : bare x = bare y) : (op r x).Alike (op s y) := by
  have hx : (op r x).Alike (op s (bare x)) := hop h x
  have hy : (op s y).Alike (op s (bare y)) := hop (h.symm.trans h) y
  rw [hxy] at hx
  exact hx.trans hy.symm

/-- What is in the log is no part of the comparison. -/
theorem log (h : r.Alike s) (l l' : List LogEntry) :
    { r with log := l }.Alike { s with log := l' } :=
  { h with }

/-! ## The registry -/

theorem put (h : r.Alike s) {b c : Breakpoint} (hb : b.bare = c.bare) :
    (r.put b).1.Alike (s.put c).1 ∧ (r.put b).2.bare = (s.put c).2.bare := by
  obtain ⟨hr, hrchange⟩ := r.registry.put_bare b
  obtain ⟨hs, hschange⟩ := s.registry.put_bare c
  rw [h.registry, hb] at hr hrchange
  exact ⟨{ h with registry := hr.symm.trans hs }, hrchange.symm.trans hschange⟩

theorem find? (h : r.Alike s) (l : Location) :
    (r.registry.find? l).map Breakpoint.bare = (s.registry.find? l).map Breakpoint.bare := by
  rw [← Registry.find?_bare, ← Registry.find?_bare, h.registry]

theorem clear (h : r.Alike s) (l : Location) :
    (r.registry.clear l).bare = (s.registry.clear l).bare := by
  rw [← Registry.clear_bare, ← Registry.clear_bare, h.registry]

theorem removalTarget (h : r.Alike s) {b c : Breakpoint} (hb : b.bare = c.bare) :
    r.registry.removalTarget b = s.registry.removalTarget c := by
  have hr := r.registry.removalTarget_bare b
  rw [h.registry, hb] at hr
  exact hr.symm.trans (s.registry.removalTarget_bare c)

theorem removeOwned (h : r.Alike s) {b c : Breakpoint} (hb : b.bare = c.bare) :
    (r.removeOwned b).1.Alike (s.removeOwned c).1 ∧
      (r.removeOwned b).2.map Breakpoint.bare = (s.removeOwned c).2.map Breakpoint.bare := by
  have hclear := h.clear (s.registry.removalTarget c)
  unfold Relay.removeOwned Relay.remove Registry.remove
  rw [h.removalTarget hb]
  rcases map_eq_map_cases (h.find? (s.registry.removalTarget c)) with
    ⟨hr, hs⟩ | ⟨x, y, hr, hs, hxy⟩
  · rw [hr, hs]
    exact ⟨{ h with registry := hclear }, rfl⟩
  · rw [hr, hs]
    exact ⟨{ h with registry := hclear }, congrArg some hxy⟩

theorem unload (h : r.Alike s) (f : SourceFile) :
    (r.unload f).1.Alike (s.unload f).1 ∧
      (r.unload f).2.map Breakpoint.bare = (s.unload f).2.map Breakpoint.bare := by
  have hpair : ((r.registry.unload f).1.bare, (r.registry.unload f).2.map Breakpoint.bare) =
      ((s.registry.unload f).1.bare, (s.registry.unload f).2.map Breakpoint.bare) := by
    rw [← Registry.unload_bare, ← Registry.unload_bare, h.registry]
  exact ⟨{ h with registry := congrArg Prod.fst hpair }, congrArg Prod.snd hpair⟩

theorem enabledOf (h : r.Alike s) (f : SourceFile) :
    (r.registry.enabledOf f).map Breakpoint.bare =
      (s.registry.enabledOf f).map Breakpoint.bare := by
  rw [← Registry.enabledOf_bare, ← Registry.enabledOf_bare, h.registry]

theorem enabled (h : r.Alike s) :
    r.registry.enabled.map Breakpoint.bare = s.registry.enabled.map Breakpoint.bare := by
  rw [← Registry.enabled_bare, ← Registry.enabled_bare, h.registry]

end Alike

/-! ## The side of the IDE -/

/-- What changing a breakpoint tells of a put: that an entry went, if it moved out of its file. -/
def tellMove (r : Relay) (f : SourceFile) : Registry.Change → Relay
  | .moved previous => if previous.file = f then r else r.send (.breakpointRemoved previous)
  | _ => r

/-- The edit with a bare stored breakpoint. -/
def Edit.bare : Edit → Edit
  | added stored => added stored.bare
  | removed stored => removed stored.bare
  | changed stored => changed stored.bare
  | unloaded f => unloaded f

namespace Alike

theorem send (h : r.Alike s) {e e' : Event} (he : e.bare = e'.bare) :
    (r.send e).Alike (s.send e') := by
  have hqueue : (r.queue.enqueue e).1.bare = (s.queue.enqueue e').1.bare := by
    rw [← Queue.enqueue_bare, ← Queue.enqueue_bare, h.queue, he]
  exact { h with queue := hqueue }

theorem supports (h : r.Alike s) (model : String) : r.supports model = s.supports model := by
  simp only [Relay.supports, h.settings]

/-- A stored breakpoint resolves to breakpoints that differ by the condition, or not at all. -/
theorem withResolved (h : r.Alike s) (stored : StoredBreakpoint) {act act' : Breakpoint → Relay}
    (hact : ∀ b, (act b).Alike (act' b.bare)) :
    (r.withResolved stored act).1.Alike (s.withResolved stored.bare act').1 := by
  have hmodel : s.supports stored.bare.model = r.supports stored.model :=
    (h.supports stored.model).symm
  unfold Relay.withResolved
  rw [hmodel, Breakpoint.resolve_bare, ← h.files]
  split
  · cases Breakpoint.resolve r.files stored with
    | ok b => exact hact b
    | error e => exact h
  · exact h

theorem breakpointAdded (h : r.Alike s) (stored : StoredBreakpoint) :
    (r.breakpointAdded stored).1.Alike (s.breakpointAdded stored.bare).1 := by
  refine h.withResolved stored fun b => ?_
  have hput := (h.put b.bare_bare.symm).1
  exact hput.send rfl

theorem breakpointRemoved (h : r.Alike s) (stored : StoredBreakpoint) :
    (r.breakpointRemoved stored).1.Alike (s.breakpointRemoved stored.bare).1 := by
  refine h.withResolved stored fun b => ?_
  obtain ⟨hremoved, hgone⟩ := h.removeOwned b.bare_bare.symm
  -- the event carries the entry that went, or the breakpoint itself if none did
  exact hremoved.send
    (congrArg Event.breakpointRemoved (Breakpoint.bare_getD hgone b.bare_bare.symm))

theorem tellMove (h : r.Alike s) (f : SourceFile) {change change' : Registry.Change}
    (hc : change.bare = change'.bare) : (r.tellMove f change).Alike (s.tellMove f change') := by
  cases change with
  | moved previous =>
    cases change' with
    | moved previous' =>
      have hprevious : previous.bare = previous'.bare := Registry.Change.moved.inj hc
      have hfile : previous.file = previous'.file := (congrArg Breakpoint.file hprevious :)
      unfold Relay.tellMove
      dsimp only
      rw [hfile]
      split
      · exact h
      · exact h.send (congrArg Event.breakpointRemoved hprevious)
    | inserted => cases hc
    | updated => cases hc
    | unchanged => cases hc
  | inserted => cases change' <;> first | exact h | cases hc
  | updated => cases change' <;> first | exact h | cases hc
  | unchanged => cases change' <;> first | exact h | cases hc

theorem breakpointChanged (h : r.Alike s) (stored : StoredBreakpoint) :
    (r.breakpointChanged stored).1.Alike (s.breakpointChanged stored.bare).1 := by
  refine h.withResolved stored fun b => ?_
  obtain ⟨hput, hchange⟩ := h.put b.bare_bare.symm
  have hmoved := hput.tellMove b.file hchange
  exact hmoved.send (congrArg Event.breakpointChanged
    (Breakpoint.bare_getD (hmoved.find? b.location) b.bare_bare.symm))

theorem sourceUnloaded (h : r.Alike s) (f : SourceFile) :
    (r.sourceUnloaded f).1.Alike (s.sourceUnloaded f).1 := by
  obtain ⟨hunloaded, hgone⟩ := h.unload f
  have hlast : (r.unload f).2.getLast?.map Breakpoint.bare =
      (s.unload f).2.getLast?.map Breakpoint.bare := by
    rw [← List.getLast?_map, ← List.getLast?_map, hgone]
  unfold Relay.sourceUnloaded
  dsimp only
  rcases map_eq_map_cases hlast with ⟨hr, hs⟩ | ⟨last, last', hr, hs, hsame⟩
  · rw [hr, hs]
    exact hunloaded
  · rw [hr, hs]
    exact hunloaded.send (congrArg Event.breakpointRemoved hsame)

theorem edit (h : r.Alike s) (d : Edit) : (r.edit d).Alike (s.edit d.bare) := by
  cases d with
  | added stored => exact h.breakpointAdded stored
  | removed stored => exact h.breakpointRemoved stored
  | changed stored => exact h.breakpointChanged stored
  | unloaded f => exact h.sourceUnloaded f

theorem putAll (h : r.Alike s) (stored : List StoredBreakpoint) :
    (r.putAll stored).1.Alike (s.putAll (stored.map StoredBreakpoint.bare)).1 := by
  induction stored generalizing r s with
  | nil => exact h
  | cons first rest ih =>
    simp only [List.map_cons, Relay.putAll, Breakpoint.resolve_bare, ← h.files]
    cases Breakpoint.resolve r.files first with
    | ok b => exact ih (h.put b.bare_bare.symm).1
    | error e => exact ih (h.log _ _)

theorem loadBreakpoints (h : r.Alike s) : r.loadBreakpoints.1.Alike s.loadBreakpoints.1 := by
  refine h.of_bare (fun r stored => (r.putAll stored).1) (fun h stored => h.putAll stored) ?_
  -- the kind of a breakpoint does not depend on its condition
  have hfilter : ∀ l : List StoredBreakpoint,
      (l.filter fun stored => s.supports stored.model).map StoredBreakpoint.bare =
        (l.map StoredBreakpoint.bare).filter fun stored => s.supports stored.model := by
    intro l
    rw [List.filter_map]
    rfl
  simp only [h.supports]
  rw [hfilter, hfilter, h.store]

theorem requestStep (h : r.Alike s) (kind : StepKind) :
    (r.requestStep kind).1.Alike (s.requestStep kind).1 := by
  unfold Relay.requestStep
  rw [h.state]
  split
  · exact h.send rfl
  · exact h

theorem requestTermination (h : r.Alike s) : r.requestTermination.Alike s.requestTermination := by
  unfold Relay.requestTermination
  rw [h.state]
  split
  · exact h
  · exact h.send rfl

theorem handleNotification (h : r.Alike s) (e : Event) :
    (r.handleNotification e).1.Alike (s.handleNotification e.bare).1 := by
  obtain ⟨log, hr⟩ := r.handleNotification_spec e
  obtain ⟨log', hs⟩ := s.handleNotification_spec e.bare
  have happlied : (r.target.apply r.settings.showDynamicCode e).bare =
      (s.target.apply s.settings.showDynamicCode e.bare).bare := by
    rw [← Target.apply_bare, ← Target.apply_bare, h.target, h.settings, e.bare_bare]
  rw [hr, hs]
  generalize r.target.apply r.settings.showDynamicCode e = applied at happlied
  generalize s.target.apply s.settings.showDynamicCode e.bare = applied' at happlied
  have htarget : applied.target.bare = applied'.target.bare :=
    (congrArg Target.Applied.target happlied :)
  have hstate : applied.target.state = applied'.target.state := (congrArg Target.state htarget :)
  have hshown : applied.shown = applied'.shown := (congrArg Target.Applied.shown happlied :)
  refine { h with target := htarget, told := ?_ }
  have htold : r.delivered.map (fun d => (d.1.bare, d.2)) =
    s.delivered.map fun d => (d.1.bare, d.2) := h.told
  simp only [Relay.told, List.map_append, htold, hshown, hstate]
  split <;> simp

/-! ## The link to the interpreter -/

theorem native_invoke (h : r.Alike s) {k : Hook} (hk : k.Blind) {c c' : Command}
    (hc : c.bare = c'.bare) :
    (r.native.invoke k c).1.bare = (s.native.invoke k c').1.bare ∧
      (r.native.invoke k c).2 = (s.native.invoke k c').2 := by
  have hpair := Native.invoke_bare hk r.native c
  rw [h.native, hc, Native.invoke_bare hk s.native c', Prod.mk.injEq] at hpair
  exact ⟨hpair.1.symm, hpair.2.symm⟩

theorem invoke (h : r.Alike s) {k : Hook} (hk : k.Blind) {c c' : Command}
    (hc : c.bare = c'.bare) : (r.invoke k c).1.Alike (s.invoke k c').1 := by
  obtain ⟨log, hr⟩ := r.invoke_eq k c
  obtain ⟨log', hs⟩ := s.invoke_eq k c'
  rw [hr, hs]
  exact { h with native := (h.native_invoke hk hc).1 }

theorem fire (h : r.Alike s) {c c' : Command} (hc : c.bare = c'.bare) :
    (r.fire c).1.Alike (s.fire c').1 := by
  unfold Relay.fire
  rw [← h.hook]
  cases hk : r.link.hook with
  | none => exact h
  | some k => exact h.invoke (h.blind k hk) hc

theorem setBreakpoint (h : r.Alike s) {b c : Breakpoint} (hb : b.bare = c.bare) :
    (r.setBreakpoint b).1.Alike (s.setBreakpoint c).1 := by
  have henabled : b.enabled = c.enabled := (congrArg Breakpoint.enabled hb :)
  unfold Relay.setBreakpoint
  rw [henabled]
  split
  · exact h.fire (congrArg Command.setBreak hb)
  · exact h

theorem setBreakpoints (h : r.Alike s) (bs : List Breakpoint) :
    (r.setBreakpoints bs).1.Alike (s.setBreakpoints (bs.map Breakpoint.bare)).1 := by
  induction bs generalizing r s with
  | nil => exact h
  | cons b rest ih => exact ih (h.setBreakpoint b.bare_bare.symm)

theorem setBreakpoints_of_bare (h : r.Alike s) {bs cs : List Breakpoint}
    (hbs : bs.map Breakpoint.bare = cs.map Breakpoint.bare) :
    (r.setBreakpoints bs).1.Alike (s.setBreakpoints cs).1 :=
  h.of_bare (fun r bs => (r.setBreakpoints bs).1) (fun h bs => h.setBreakpoints bs) hbs

theorem reconcile (h : r.Alike s) (f : SourceFile) :
    (r.reconcile f).1.Alike (s.reconcile f).1 := by
  have hcleared : (r.clearFile f).1.Alike (s.clearFile f).1 := h.fire rfl
  have hattached : r.isAttached = s.isAttached := congrArg Option.isSome h.hook
  unfold Relay.reconcile
  rw [hattached]
  split
  · exact hcleared.setBreakpoints_of_bare (hcleared.enabledOf f)
  · exact h

theorem installAll (h : r.Alike s) : r.installAll.1.Alike s.installAll.1 :=
  h.setBreakpoints_of_bare h.enabled

theorem forgetStop (h : r.Alike s) :
    ({ r with link := { r.link with suspension := none } } : Relay).Alike
      { s with link := { s.link with suspension := none } } :=
  { h with link := by simp only [Link.bare, h.hook, h.lastThread, Option.map_none] }

theorem setHook (h : r.Alike s) (hook : Option Hook) (hblind : ∀ k, hook = some k → k.Blind) :
    ({ r with link := { r.link with hook := hook } } : Relay).Alike
      { s with link := { s.link with hook := hook } } :=
  { h with
    link := congrArg (fun l : Link => { l with hook := hook }) h.link
    blind := hblind }

theorem step (h : r.Alike s) (kind : StepKind) : (r.step kind).1.Alike (s.step kind).1 := by
  cases hk : r.link.hook with
  | none =>
    rw [step_detached hk, step_detached (h.hook.symm.trans hk)]
    exact h
  | some k =>
    have hresumed : (Event.resumed r.link.lastThread kind).bare =
        (Event.resumed s.link.lastThread kind).bare := by rw [h.lastThread]
    have hsent := h.forgetStop.send hresumed
    have hstepped := hsent.invoke (h.blind k hk) (c := .ofStep kind) rfl
    simp only [Relay.step, ← h.hook, hk] at hstepped ⊢
    exact hstepped

theorem terminate (h : r.Alike s) : r.terminate.1.Alike s.terminate.1 := by
  unfold Relay.terminate
  rw [← h.hook]
  cases hk : r.link.hook with
  | none => exact h
  | some k =>
    have hdropped := h.setHook none fun _ hnone => by cases hnone
    exact (hdropped.invoke (h.blind k hk) (c := .quit) rfl).forgetStop

theorem detach (h : r.Alike s) : r.detach.Alike s.detach :=
  h.forgetStop.setHook none fun _ hnone => by cases hnone

theorem resendSuspension (h : r.Alike s) : r.resendSuspension.Alike s.resendSuspension := by
  unfold Relay.resendSuspension
  rcases map_eq_map_cases h.suspension with ⟨hr, hs⟩ | ⟨stop, stop', hr, hs, hsame⟩
  · rw [hr, hs]
    exact h
  · rw [hr, hs]
    exact h.send (congrArg
      (fun stop : Suspension => Event.suspended stop.thread stop.frames stop.reason) hsame)

theorem onSuspend (h : r.Alike s) (stop : Suspension) :
    (r.onSuspend stop).Alike (s.onSuspend stop.bare) := by
  have hstopped : ({ r with link := { r.link with
        lastThread := some stop.thread, suspension := some stop } } : Relay).Alike
      { s with link := { s.link with
        lastThread := some stop.thread, suspension := some stop.bare } } :=
    { h with
      link := by simp [Link.bare, Suspension.bare, h.hook]
      blind := h.blind }
  exact hstopped.send (by simp [Event.bare, Suspension.bare])

theorem handleRequest (h : r.Alike s) (e : Event) :
    (r.handleRequest e).Alike (s.handleRequest e.bare) := by
  cases e with
  | breakpointAdded b => exact h.reconcile b.file
  | breakpointRemoved b => exact h.reconcile b.file
  | breakpointChanged b => exact h.reconcile b.file
  | stepRequest kind => exact h.step kind
  | framesRequest => exact h.resendSuspension
  | terminateRequest => exact h.terminate
  | engineStarted => exact h
  | engineTerminated => exact h
  | suspended thread frames reason => exact h
  | resumed thread kind => exact h
  | scriptReady script thread => exact h

/-! ## Installing the debugger -/

theorem call (h : r.Alike s) (c : Call) : (r.call c).Alike (s.call c) := by
  have hrecord : (r.native.record c).bare = (s.native.record c).bare := by
    rw [← Native.record_bare, ← Native.record_bare, h.native]
  exact { h with native := hrecord }

/-- Commands that have to be accepted are accepted by both debuggers or by none. -/
theorem invokeAll (h : r.Alike s) {k : Hook} (hk : k.Blind) (cs : List Command) :
    (r.invokeAll k cs).1.Alike (s.invokeAll k cs).1 ∧
      (r.invokeAll k cs).2 = (s.invokeAll k cs).2 := by
  induction cs generalizing r s with
  | nil => exact ⟨h, rfl⟩
  | cons c rest ih =>
    obtain ⟨hnative, hresult⟩ := h.native_invoke hk (c := c) rfl
    have hsent : ({ r with native := (r.native.invoke k c).1 } : Relay).Alike
        { s with native := (s.native.invoke k c).1 } := { h with native := hnative }
    simp only [Relay.invokeAll, hresult]
    cases (s.native.invoke k c).2 with
    | ok _ => exact ih hsent
    | error e => exact ⟨hsent, rfl⟩

theorem native_attach (h : r.Alike s) (i : Interpreter) :
    (r.native.attach i).1.bare = (s.native.attach i).1.bare ∧
      (r.native.attach i).2 = (s.native.attach i).2 := by
  have hpair := r.native.attach_bare i
  rw [h.native, s.native.attach_bare, Prod.mk.injEq] at hpair
  exact ⟨hpair.1.symm, hpair.2.symm⟩

theorem reported (h : r.Alike s) (i : Interpreter) : (r.reported i).Alike (s.reported i) := by
  unfold Relay.reported
  rw [← h.settings]
  have hloaded := (h.call (.searchPath r.settings.supportDir)).call
    (.loadDebugger (Path.join r.settings.supportDir r.settings.setupScript))
  exact { hloaded with native := (hloaded.native_attach i).1 }

theorem finishSetup (i : Interpreter) (hi : i.hook.Blind) {p q : Relay × Except Error Unit}
    (hconfigured : p.1.Alike q.1) (haccepted : p.2 = q.2) :
    (Relay.finishSetup i p).1.Alike (Relay.finishSetup i q).1 := by
  obtain ⟨r, result⟩ := p
  obtain ⟨s, result'⟩ := q
  subst haccepted
  cases result with
  | error e => exact hconfigured
  | ok _ => exact (hconfigured.setHook (some i.hook) fun k hk => Option.some.inj hk ▸ hi).installAll

theorem setup (h : r.Alike s) (i : Interpreter) (hi : i.hook.Blind) :
    (r.setup i).1.Alike (s.setup i).1 := by
  have hsearched := h.call (.searchPath r.settings.supportDir)
  have hloaded := hsearched.call
    (.loadDebugger (Path.join r.settings.supportDir r.settings.setupScript))
  obtain ⟨hconfigured, haccepted⟩ := (h.reported i).invokeAll hi r.settings.startCommands
  rw [setup_fst, setup_fst, ← h.settings]
  split
  · exact hsearched
  · exact hloaded
  · exact h.reported i
  · exact finishSetup i hi hconfigured haccepted

end Alike

/-! ## Dispatching -/

/-- What a consumer makes of an event is what its call makes of it, up to the log. -/
theorem callOne_fst (p : Processor Relay) (e : Event) (r : Relay) (failures : UInt64) :
    ∃ log, (Dispatch.callOne host p e r failures).1 = { (p.handle e r).1 with log := log } := by
  unfold Dispatch.callOne
  cases p.handle e r with
  | mk r' reply => cases reply <;> exact ⟨_, rfl⟩

/-- Every consumer can be asked for its route. -/
theorem deliver_asks (e : Event) (cs : List Consumer) (r : Relay) (failures : UInt64) :
    (Dispatch.deliver host e (cs.map Consumer.processor) r failures).2.2 = true := by
  induction cs generalizing r failures with
  | nil => rfl
  | cons c rest ih =>
    simp only [List.map_cons, Dispatch.deliver, route?_processor]
    split
    · exact ih _ _
    · exact ih _ _

theorem next_of_pop? {e : Event} {queue : Queue} (h : r.queue.pop? = some (e, queue))
    (cs : List Consumer) (stats : Dispatch.Statistics) :
    ∃ stats', Dispatch.next host (cs.map Consumer.processor) r stats =
      .dispatched (Dispatch.deliver host e (cs.map Consumer.processor) { r with queue := queue }
        stats.processorFailures).1 stats' := by
  have hasked := deliver_asks e cs { r with queue := queue } stats.processorFailures
  have hpop : (host.queue r).pop? = some (e, queue) := h
  have hset : host.setQueue r queue = { r with queue := queue } := rfl
  simp only [Dispatch.next, hpop, hset]
  generalize Dispatch.deliver host e _ _ _ = delivered at hasked ⊢
  obtain ⟨r', failures, asked⟩ := delivered
  dsimp only at hasked
  subst hasked
  exact ⟨_, rfl⟩

/-- A dispatch of a running loop, whatever the consumers are: the oldest event is handed to them, or
the loop ends or waits. What it counts is left open. -/
theorem dispatch_of_running {stats : Dispatch.Statistics}
    (hl : r.loop = .running stats) :
    ∃ stats', r.move .dispatch =
      match r.queue.pop? with
      | some (e, queue) =>
        { (Dispatch.deliver host e (r.consumers.map Consumer.processor)
            { r with queue := queue, actor := .dispatcher } stats.processorFailures).1 with
          loop := .running stats', actor := .caller }
      | none => if r.queue.closed then { r with loop := .ended stats' } else r := by
  cases hp : r.queue.pop? with
  | none =>
    refine ⟨{ stats with droppedAfterClose := r.queue.dropped }, ?_⟩
    simp only [move, dispatch?, hl, Dispatch.next, host, hp]
    by_cases hclosed : r.queue.closed = true
    · rw [if_pos hclosed, if_pos hclosed]
      rfl
    · rw [if_neg hclosed, if_neg hclosed]
      rfl
  | some taken =>
    obtain ⟨e, queue⟩ := taken
    obtain ⟨stats', hnext⟩ := next_of_pop? (r := { r with actor := .dispatcher }) hp
      r.consumers stats
    refine ⟨stats', ?_⟩
    simp only [move, dispatch?, hl, processors] at hnext ⊢
    rw [hnext]
    rfl

theorem dispatch_of_not_running (hl : ∀ stats, r.loop ≠ .running stats) :
    r.move .dispatch = r := by
  rw [move, dispatch?]
  split
  · next stats h => exact absurd h (hl stats)
  · rfl

namespace Alike

theorem handle (h : r.Alike s) (c : Consumer) (e : Event) :
    ((Consumer.processor c).handle e r).1.Alike ((Consumer.processor c).handle e.bare s).1 := by
  cases c with
  | link => exact h.handleRequest e
  | target => exact h.handleNotification e
  | ideRecorder => exact { h with }
  | interpreterRecorder => exact { h with }

theorem deliver (h : r.Alike s) (e : Event) (cs : List Consumer) (failures failures' : UInt64) :
    (Dispatch.deliver host e (cs.map Consumer.processor) r failures).1.Alike
      (Dispatch.deliver host e.bare (cs.map Consumer.processor) s failures').1 := by
  induction cs generalizing r s failures failures' with
  | nil => exact h
  | cons c rest ih =>
    simp only [List.map_cons, Dispatch.deliver, route?_processor, Event.route_bare]
    split
    · obtain ⟨log, hr⟩ := callOne_fst (Consumer.processor c) e r failures
      obtain ⟨log', hs⟩ := callOne_fst (Consumer.processor c) e.bare s failures'
      refine ih ?_ _ _
      rw [hr, hs]
      exact (h.handle c e).log log log'
    · exact ih h _ _

theorem deliver_of_bare (h : r.Alike s) {e e' : Event} (he : e.bare = e'.bare)
    {cs cs' : List Consumer} (hcs : cs = cs') (failures failures' : UInt64) :
    (Dispatch.deliver host e (cs.map Consumer.processor) r failures).1.Alike
      (Dispatch.deliver host e' (cs'.map Consumer.processor) s failures').1 := by
  subst hcs
  have hr := h.deliver e cs failures failures'
  have hs := (h.symm.trans h).deliver e' cs failures' failures'
  rw [he] at hr
  exact hr.trans hs.symm

/-- Both loops run, or none does. -/
theorem loop_cases (h : r.Alike s) :
    (∃ stats stats', r.loop = .running stats ∧ s.loop = .running stats') ∨
      (∀ stats, r.loop ≠ .running stats) ∧ ∀ stats, s.loop ≠ .running stats := by
  have hloop := h.loop
  cases hr : r.loop <;> cases hs : s.loop <;> simp_all [Loop.bare]

theorem dispatch (h : r.Alike s) : (r.move .dispatch).Alike (s.move .dispatch) := by
  rcases h.loop_cases with ⟨n, n', hnr, hns⟩ | ⟨hnr, hns⟩
  · obtain ⟨stats, hr⟩ := dispatch_of_running hnr
    obtain ⟨stats', hs⟩ := dispatch_of_running hns
    have hpop : r.queue.pop?.map (fun p => (p.1.bare, p.2.bare)) =
        s.queue.pop?.map fun p => (p.1.bare, p.2.bare) := by
      rw [← Queue.pop?_bare, ← Queue.pop?_bare, h.queue]
    have hclosed : r.queue.closed = s.queue.closed := (congrArg Queue.closed h.queue :)
    rw [hr, hs]
    rcases map_eq_map_cases hpop with ⟨hpr, hps⟩ | ⟨taken, taken', hpr, hps, hsame⟩
    · rw [hpr, hps]
      dsimp only
      rw [hclosed]
      split
      · exact { h with loop := rfl }
      · exact h
    · rw [hpr, hps]
      have htaken : ({ r with queue := taken.2, actor := .dispatcher } : Relay).Alike
          { s with queue := taken'.2, actor := .dispatcher } :=
        { h with queue := congrArg Prod.snd hsame }
      have hdelivered := htaken.deliver_of_bare (congrArg Prod.fst hsame) h.consumers
        n.processorFailures n'.processorFailures
      exact { hdelivered with loop := rfl }
  · rw [dispatch_of_not_running hnr, dispatch_of_not_running hns]
    exact h

/-! ## Reports of the engine -/

theorem setTracer (h : r.Alike s) {t t' : Tracer} (ht : t.bare = t'.bare) :
    ({ r with native := { r.native with tracer := t } } : Relay).Alike
      { s with native := { s.native with tracer := t' } } :=
  { h with native := congrArg₂ Native.mk ht (congrArg Native.calls h.native) }

theorem enterFrame (h : r.Alike s) (f : SourceFile) : (r.enterFrame f).Alike (s.enterFrame f) := by
  have hpair := r.native.tracer.enter_bare f
  rw [h.tracer, s.native.tracer.enter_bare, Prod.mk.injEq] at hpair
  have hentered := h.setTracer hpair.1.symm
  unfold Relay.enterFrame
  dsimp only
  rw [← hpair.2]
  cases (s.native.tracer.enter f).2 with
  | none => exact hentered
  | some f => exact hentered.reconcile f

theorem leaveFrame (h : r.Alike s) : r.leaveFrame.Alike s.leaveFrame :=
  h.setTracer (congrArg Tracer.leave h.tracer)

theorem line (h : r.Alike s) (stack : List Frame) :
    (r.native.tracer.line stack).1.bare =
        (s.native.tracer.line (stack.map Frame.bare)).1.bare ∧
      (r.native.tracer.line stack).2 = (s.native.tracer.line (stack.map Frame.bare)).2 := by
  have hpair := r.native.tracer.line_bare stack
  have hbare := s.native.tracer.line_bare (stack.map Frame.bare)
  have hstack : (stack.map Frame.bare).map Frame.bare = stack.map Frame.bare := by simp
  rw [hstack] at hbare
  rw [h.tracer, hbare, Prod.mk.injEq] at hpair
  exact ⟨hpair.1.symm, hpair.2.symm⟩

theorem traceLine (h : r.Alike s) (thread : Thread) (stack : List Frame) :
    (r.traceLine thread stack).1.Alike (s.traceLine thread (stack.map Frame.bare)).1 := by
  obtain ⟨htracer, hverdict⟩ := h.line stack
  have htraced := h.setTracer htracer
  have hobserved : (r.native.tracer.line stack).1.observed =
    (s.native.tracer.line (stack.map Frame.bare)).1.observed :=
      (congrArg Tracer.observed htracer :)
  unfold Relay.traceLine
  dsimp only
  rw [hverdict, hobserved]
  split
  · exact htraced
  · next reason _ =>
    split
    · exact htraced.onSuspend ⟨thread, stack, reason⟩
    · exact htraced

theorem wake? (h : r.Alike s) :
    r.native.tracer.wake?.map (fun w => (w.1.bare, w.2)) =
      s.native.tracer.wake?.map fun w => (w.1.bare, w.2) := by
  rw [← Tracer.wake?_bare, ← Tracer.wake?_bare, h.tracer]

theorem wake (h : r.Alike s) : (r.move .wake).Alike (s.move .wake) := by
  unfold Relay.move Relay.wake?
  rcases map_eq_map_cases h.wake? with ⟨hr, hs⟩ | ⟨w, w', hr, hs, hsame⟩
  · rw [hr, hs]
    exact h
  · rw [hr, hs]
    exact h.setTracer (congrArg Prod.fst hsame)

end Alike

/-- The move with a bare stored breakpoint or bare frames. -/
def Move.bare : Move → Move
  | load => load
  | edit d => edit d.bare
  | requestStep kind => requestStep kind
  | requestFrames => requestFrames
  | enter f => enter f
  | leave => leave
  | line thread stack => line thread (stack.map Frame.bare)
  | wake => wake
  | dispatch => dispatch

theorem Alike.move (h : r.Alike s) (m : Move) : (r.move m).Alike (s.move m.bare) := by
  cases m with
  | load => exact h.loadBreakpoints
  | edit d => exact h.edit d
  | requestStep kind => exact h.requestStep kind
  | requestFrames => exact h.send rfl
  | enter f => exact h.enterFrame f
  | leave => exact h.leaveFrame
  | line thread stack => exact h.traceLine thread stack
  | wake => exact h.wake
  | dispatch => exact h.dispatch

end DebugRelay.Relay
