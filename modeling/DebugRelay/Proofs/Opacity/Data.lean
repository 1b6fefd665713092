import DebugRelay.Proofs.Registry.Soundness
import DebugRelay.Proofs.Tracer.Table
import DebugRelay.Relay.Basic

/-!
# Data without conditions and locals

The condition of a breakpoint and the locals of a frame are handed on as they are. `bare` takes them
out of everything that can hold them. The registry, the tracer, the target and the queue do not look
at them: each of their functions commutes with `bare` (`Registry.put_bare`, `Tracer.line_bare`,
`Target.apply_bare`), so what it does to bare data is the bare form of what it does.
-/

namespace DebugRelay

/-- Two optional values that look the same are both missing, or both there and look the same. -/
theorem map_eq_map_cases {α β : Type} {f : α → β} {x y : Option α} (h : x.map f = y.map f) :
    (x = none ∧ y = none) ∨ ∃ a b, x = some a ∧ y = some b ∧ f a = f b := by
  cases x with
  | none =>
    cases y with
    | none => exact Or.inl ⟨rfl, rfl⟩
    | some b => simp at h
  | some a =>
    cases y with
    | none => simp at h
    | some b => exact Or.inr ⟨a, b, rfl, rfl, Option.some.inj h⟩

/-! ## Breakpoints, frames and events -/

/-- The breakpoint without its condition. -/
def Breakpoint.bare (b : Breakpoint) : Breakpoint := { b with condition := none }

/-- The stored breakpoint, whose condition is looked up and found missing. -/
def StoredBreakpoint.bare (s : StoredBreakpoint) : StoredBreakpoint :=
  { s with condition := .ok none }

/-- The frame without its locals. -/
def Frame.bare (f : Frame) : Frame := { f with locals := ∅ }

/-- The stop with bare frames. -/
def Suspension.bare (s : Suspension) : Suspension := { s with frames := s.frames.map Frame.bare }

/-- The event with bare breakpoints and frames. -/
def Event.bare : Event → Event
  | engineStarted => engineStarted
  | engineTerminated => engineTerminated
  | suspended thread frames reason => suspended thread (frames.map Frame.bare) reason
  | resumed thread step => resumed thread step
  | scriptReady script thread => scriptReady script thread
  | breakpointAdded b => breakpointAdded b.bare
  | breakpointRemoved b => breakpointRemoved b.bare
  | breakpointChanged b => breakpointChanged b.bare
  | stepRequest step => stepRequest step
  | framesRequest => framesRequest
  | terminateRequest => terminateRequest

/-- The command with a bare breakpoint. -/
def Command.bare : Command → Command
  | setBreak b => setBreak b.bare
  | c => c

/-- The call with a bare command. -/
def Call.bare : Call → Call
  | command c => command c.bare
  | c => c

@[simp]
theorem Breakpoint.bare_bare (b : Breakpoint) : b.bare.bare = b.bare := rfl

@[simp]
theorem Frame.bare_bare (f : Frame) : f.bare.bare = f.bare := rfl

@[simp]
theorem Event.bare_bare (e : Event) : e.bare.bare = e.bare := by
  cases e <;> simp [bare]

@[simp]
theorem Command.bare_bare (c : Command) : c.bare.bare = c.bare := by
  cases c <;> simp [bare]

@[simp]
theorem Event.route_bare (e : Event) : e.bare.route = e.route := by
  cases e <;> rfl

@[simp]
theorem Event.kind_bare (e : Event) : e.bare.kind = e.kind := by
  cases e <;> rfl

theorem Breakpoint.bare_getD {found found' : Option Breakpoint} {b c : Breakpoint}
    (hfound : found.map bare = found'.map bare) (hb : b.bare = c.bare) :
    (found.getD b).bare = (found'.getD c).bare := by
  rcases map_eq_map_cases hfound with ⟨rfl, rfl⟩ | ⟨x, y, rfl, rfl, hxy⟩
  · exact hb
  · exact hxy

theorem Breakpoint.bare_updateFrom (b other : Breakpoint) :
    (b.updateFrom other).bare = b.bare.updateFrom other.bare := rfl

/-- A condition that is missing, found or not to be had neither makes a stored breakpoint resolve
nor keeps it from resolving. -/
theorem Breakpoint.resolve_bare (files : FileTree) (stored : StoredBreakpoint) :
    resolve files stored.bare = (resolve files stored).map bare := by
  unfold resolve
  simp only [StoredBreakpoint.bare]
  cases stored.path with
  | error e => rfl
  | ok path =>
    dsimp only
    cases SourceFile.locate? files path <;> rfl

/-! ## The registry -/

namespace Registry

/-- The registry with bare entries. -/
def bare (r : Registry) : Registry := { r with entries := r.entries.map Breakpoint.bare }

/-- What a change of a registry comes to without conditions: whether an entry got other attributes
can depend on its condition. -/
def Change.bare : Change → Change
  | inserted => inserted
  | updated | unchanged => unchanged
  | moved previous => moved previous.bare

@[simp]
theorem find?_bare (r : Registry) (l : Location) : r.bare.find? l = (r.find? l).map .bare :=
  OrderedMap.find?_map _ r.entries l

theorem clear_bare (r : Registry) (l : Location) : r.bare.clear l = (r.clear l).bare := by
  simp only [clear, bare, OrderedMap.map_erase]

theorem own_bare (r : Registry) (marker : Option UInt64) (l : Location) :
    r.bare.own marker l = (r.own marker l).bare := by
  cases marker <;> rfl

/-- Storing an entry commutes with taking out the conditions. -/
theorem insert_bare (r : Registry) (l : Location) (b : Breakpoint) :
    { r.bare with entries := r.bare.entries.insert l b.bare } =
      bare { r with entries := r.entries.insert l b } := by
  simp only [bare, OrderedMap.map_insert]

/-- An entry that differs from the one at its place by its condition only need not be stored. -/
theorem insert_bare_of_find? {r : Registry} {l : Location} {b existing : Breakpoint}
    (h : r.find? l = some existing) (hb : b.bare = existing.bare) :
    bare { r with entries := r.entries.insert l b } = r.bare := by
  have hfind : r.bare.entries.find? l = some b.bare := by
    rw [hb]
    exact (r.find?_bare l).trans (congrArg _ h)
  rw [← insert_bare, OrderedMap.insert_of_find? hfind]

/-- A put does the same whatever the conditions are. -/
theorem put_bare (r : Registry) (b : Breakpoint) :
    (r.bare.put b.bare).1 = (r.put b).1.bare ∧
      (r.bare.put b.bare).2.bare = (r.put b).2.bare := by
  have helsewhere : r.bare.ownedElsewhere? b.bare.marker b.bare.location =
    r.ownedElsewhere? b.marker b.location := rfl
  cases hformer : r.ownedElsewhere? b.marker b.location with
  | some former =>
    rw [put_of_elsewhere (helsewhere.trans hformer), put_of_elsewhere hformer]
    constructor
    · rw [clear_bare, own_bare]
      exact insert_bare ..
    · rw [find?_bare]
      cases r.find? former <;> rfl
  | none =>
    cases hold : r.find? b.location with
    | none =>
      have holdBare : r.bare.find? b.bare.location = none := by
        rw [find?_bare]
        exact congrArg _ hold
      rw [put_of_free (helsewhere.trans hformer) holdBare, put_of_free hformer hold]
      constructor
      · rw [own_bare]
        exact insert_bare ..
      · rfl
    | some existing =>
      have holdBare : r.bare.find? b.bare.location = some existing.bare := by
        rw [find?_bare]
        exact congrArg _ hold
      rw [put_of_here (helsewhere.trans hformer) holdBare, put_of_here hformer hold,
        ← Breakpoint.bare_updateFrom]
      -- without conditions fewer updates change the entry, and those do not show
      by_cases hsame : existing.updateFrom b = existing
      · rw [if_pos hsame, if_pos (congrArg Breakpoint.bare hsame)]
        exact ⟨own_bare .., rfl⟩
      · rw [if_neg hsame]
        split
        · next hbare =>
          refine ⟨?_, rfl⟩
          rw [own_bare]
          exact (insert_bare_of_find? ((r.find?_own ..).trans hold) hbare).symm
        · refine ⟨?_, rfl⟩
          rw [own_bare]
          exact insert_bare ..

theorem removalTarget_bare (r : Registry) (b : Breakpoint) :
    r.bare.removalTarget b.bare = r.removalTarget b := rfl

theorem foldl_clear_bare (ls : List Location) (r : Registry) :
    ls.foldl clear r.bare = (ls.foldl clear r).bare := by
  induction ls generalizing r with
  | nil => rfl
  | cons l rest ih => rw [List.foldl_cons, List.foldl_cons, clear_bare, ih]

theorem unload_bare (r : Registry) (f : SourceFile) :
    r.bare.unload f = ((r.unload f).1.bare, (r.unload f).2.map .bare) := by
  have hkeys : r.bare.entries.keys = r.entries.keys := OrderedMap.keys_map ..
  simp only [unload, hkeys, foldl_clear_bare, List.map_filterMap]
  congr 2
  funext l
  rw [find?_bare]

theorem enabled_bare (r : Registry) : r.bare.enabled = r.enabled.map .bare := by
  simp only [enabled, bare, OrderedMap.values_map, List.filter_map]
  rfl

theorem enabledOf_bare (r : Registry) (f : SourceFile) :
    r.bare.enabledOf f = (r.enabledOf f).map .bare := by
  simp only [enabledOf, bare, OrderedMap.values_map, List.filter_map]
  rfl

end Registry

/-! ## The tracer -/

namespace Tracer

/-- The breakpoint in the table without its condition. -/
def Planted.bare (p : Planted) : Planted := { p with condition := none }

/-- The tracer with a bare table. -/
def bare (t : Tracer) : Tracer := { t with table := t.table.map Planted.bare }

/-- The place that a stack is at does not depend on locals. -/
@[simp]
theorem top?_bare (stack : List Frame) : top? (stack.map Frame.bare) = top? stack := by
  cases stack <;> rfl

theorem planted?_bare (t : Tracer) (f : SourceFile) (n : UInt32) :
    t.bare.planted? f n = (t.planted? f n).map Planted.bare :=
  OrderedMap.find?_map _ t.table ⟨f, n⟩

/-- Whether a breakpoint stops, and what is left of it, does not depend on conditions. -/
theorem hit_bare (t : Tracer) (f : SourceFile) (n : UInt32) :
    t.bare.hit f n = ((t.hit f n).1.bare, (t.hit f n).2) := by
  cases hp : t.planted? f n with
  | none =>
    have hpBare : t.bare.planted? f n = none := by
      rw [planted?_bare, hp]
      rfl
    rw [hit_of_none hp, hit_of_none hpBare]
  | some p =>
    have hpBare : t.bare.planted? f n = some p.bare := by
      rw [planted?_bare, hp]
      rfl
    rw [hit_of_some hp, hit_of_some hpBare]
    by_cases hignore : 0 < p.ignore
    · simp only [Planted.bare, hignore, if_true, bare, OrderedMap.map_insert]
    · cases htemporary : p.temporary with
      | true =>
        simp only [Planted.bare, hignore, if_false, htemporary, if_true, bare,
          OrderedMap.map_erase]
      | false =>
        simp only [Planted.bare, hignore, if_false, htemporary, Bool.false_eq_true, bare,
          OrderedMap.map_insert]

theorem reasonHere_bare (t : Tracer) (f : SourceFile) (n : UInt32) :
    t.bare.reasonHere f n = ((t.reasonHere f n).1.bare, (t.reasonHere f n).2) := by
  unfold reasonHere
  rw [hit_bare]
  obtain ⟨t', stops⟩ := t.hit f n
  have hends : t'.bare.stepEnds = t'.stepEnds := rfl
  dsimp only
  rw [hends]
  cases stops <;> cases t'.stepEnds <;> rfl

theorem reason_bare (t : Tracer) (f : SourceFile) (n : UInt32) :
    t.bare.reason f n = ((t.reason f n).1.bare, (t.reason f n).2) := by
  have hhere := reasonHere_bare { t with atFirstLine := false, loadPending := false } f n
  have hfirst : t.bare.atFirstLine = t.atFirstLine := rfl
  have hload : t.bare.loadPending = t.loadPending := rfl
  have hstart : t.bare.stopsAtStart = t.stopsAtStart := rfl
  unfold reason
  dsimp only
  rw [hfirst, hload, hstart]
  split
  · split
    · rfl
    · exact hhere
  · split
    · rfl
    · exact t.reasonHere_bare f n

/-- What a traced line comes to depends neither on conditions nor on locals. -/
theorem line_bare (t : Tracer) (stack : List Frame) :
    t.bare.line (stack.map Frame.bare) = ((t.line stack).1.bare, (t.line stack).2) := by
  unfold line
  rw [top?_bare]
  cases top? stack with
  | none => rfl
  | some place =>
    obtain ⟨f, n⟩ := place
    have hquitting : t.bare.quitting = t.quitting := rfl
    dsimp only
    rw [hquitting, reason_bare]
    cases t.quitting with
    | true => rfl
    | false =>
      obtain ⟨t', reason⟩ := t.reason f n
      cases reason <;> rfl

theorem enter_bare (t : Tracer) (f : SourceFile) :
    t.bare.enter f = ((t.enter f).1.bare, (t.enter f).2) := by
  unfold enter
  have hcurrent : t.bare.currentFile = t.currentFile := rfl
  rw [hcurrent]
  split <;> rfl

theorem wake?_bare (t : Tracer) : t.bare.wake? = t.wake?.map fun w => (w.1.bare, w.2) := by
  unfold wake?
  have hquitting : t.bare.quitting = t.quitting := rfl
  have hrelease : t.bare.release = t.release := rfl
  rw [hquitting, hrelease]
  cases t.quitting with
  | true => rfl
  | false => cases t.release <;> rfl

theorem releaseIn_bare (t : Tracer) (mode : Mode) :
    t.bare.releaseIn mode = (t.releaseIn mode).bare := by
  unfold releaseIn
  have hsuspended : t.bare.suspended = t.suspended := rfl
  rw [hsuspended]
  split <;> rfl

/-- A command is accepted or refused whatever the conditions are. -/
theorem invoke_bare (t : Tracer) (c : Command) :
    t.bare.invoke c.bare = ((t.invoke c).1.bare, (t.invoke c).2) := by
  cases c with
  | setBreak b =>
    simp only [Command.bare, invoke, Breakpoint.bare]
    cases b.line with
    | none => rfl
    | some line => simp only [plant, bare, OrderedMap.map_insert]; rfl
  | clearFile f => simp only [Command.bare, invoke, clearFile, bare, OrderedMap.map_filter]
  | stepInto => simp only [Command.bare, invoke, releaseIn_bare]
  | stepOver => simp only [Command.bare, invoke, releaseIn_bare]; rfl
  | stepOut => simp only [Command.bare, invoke, releaseIn_bare]; rfl
  | continue_ => simp only [Command.bare, invoke, releaseIn_bare]
  | suspendOnStartup enabled => rfl
  | suspendOnScriptLoad enabled => rfl
  | quit => rfl

end Tracer

/-! ## The interpreter's side -/

/-- A debugger that refuses commands without looking at conditions. -/
def Hook.Blind (h : Hook) : Prop :=
  ∀ calls c, h.refuses (calls.map Call.bare) c.bare = h.refuses calls c

namespace Native

/-- The interpreter's side with a bare tracer and bare calls. -/
def bare (n : Native) : Native := ⟨n.tracer.bare, n.calls.map Call.bare⟩

theorem record_bare (n : Native) (c : Call) : n.bare.record c.bare = (n.record c).bare := by
  simp only [record, bare, List.map_append, List.map_cons, List.map_nil]

theorem invoke_bare {h : Hook} (hb : h.Blind) (n : Native) (c : Command) :
    n.bare.invoke h c.bare = ((n.invoke h c).1.bare, (n.invoke h c).2) := by
  have hrefuses : h.refuses n.bare.calls c.bare = h.refuses n.calls c := hb n.calls c
  have hrecord : n.bare.record (.command c.bare) = (n.record (.command c)).bare :=
    n.record_bare (.command c)
  have htracer : (n.record (.command c)).bare.tracer.invoke c.bare = _ :=
    n.tracer.invoke_bare c
  unfold invoke
  rw [hrefuses, hrecord]
  cases h.refuses n.calls c with
  | some e => rfl
  | none =>
    cases h.traced with
    | true =>
      simp only [if_true, htracer]
      rfl
    | false => rfl

theorem attach_bare (n : Native) (i : Interpreter) :
    n.bare.attach i = ((n.attach i).1.bare, (n.attach i).2) := by
  have hrecord : n.bare.record .attach = (n.record .attach).bare := n.record_bare .attach
  unfold attach
  rw [hrecord]
  cases i.attachError with
  | some e => rfl
  | none => cases i.hook.traced <;> rfl

end Native

/-! ## The IDE's side -/

namespace Queue

/-- The queue with bare events. -/
def bare (q : Queue) : Queue := { q with waiting := q.waiting.map Event.bare }

theorem enqueue_bare (q : Queue) (e : Event) :
    (q.bare.enqueue e.bare).1 = (q.enqueue e).1.bare := by
  have haccepts : q.bare.accepts = q.accepts := rfl
  unfold enqueue
  rw [haccepts]
  split
  · simp only [bare, List.map_append, List.map_cons, List.map_nil]
  · rfl

theorem pop?_bare (q : Queue) : q.bare.pop? = q.pop?.map fun p => (p.1.bare, p.2.bare) := by
  obtain ⟨waiting, closed, abandoned, dropped⟩ := q
  cases waiting <;> rfl

end Queue

namespace Target

/-- The target with bare frames. -/
def bare (t : Target) : Target := { t with frames := t.frames.map Frame.bare }

/-- What was done to a target, with bare frames. -/
def Applied.bare (a : Applied) : Applied := { a with target := a.target.bare }

theorem enter_bare (t : Target) (next : State) : t.bare.enter next = (t.enter next).bare := by
  have hstate : t.bare.state = t.state := rfl
  unfold enter
  rw [hstate]
  split <;> rfl

/-- An event does the same to a target whatever the locals are. -/
theorem apply_bare (showDynamicCode : Bool) (t : Target) (e : Event) :
    t.bare.apply showDynamicCode e.bare = (t.apply showDynamicCode e).bare := by
  cases e with
  | engineStarted => exact t.enter_bare .running
  | engineTerminated => exact enter_bare { t with frames := [] } .terminated
  | resumed thread step => exact enter_bare { t with frames := [] } .running
  | suspended thread frames reason =>
    have hstate : (t.enter .suspended).bare.target.state = (t.enter .suspended).target.state := rfl
    simp only [Event.bare, apply, enter_bare, hstate]
    split <;> rfl
  | scriptReady script thread =>
    simp only [Event.bare, apply]
    split <;> rfl
  | breakpointAdded b => rfl
  | breakpointRemoved b => rfl
  | breakpointChanged b => rfl
  | stepRequest step => rfl
  | framesRequest => rfl
  | terminateRequest => rfl

end Target

/-- The link with a bare stop. -/
def Link.bare (l : Link) : Link := { l with suspension := l.suspension.map Suspension.bare }

/-- The phase of the loop. What the loop counts depends on how often the IDE panicked, which it may
do for a condition. -/
def Loop.bare : Loop → Loop
  | waiting => waiting
  | running _ => running {}
  | ended _ => ended {}
  | crashed => crashed

end DebugRelay
