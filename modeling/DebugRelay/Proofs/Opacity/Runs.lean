import DebugRelay.Proofs.Opacity.Relay
import DebugRelay.Proofs.Relay.Convergence
import DebugRelay.Proofs.Session.Histories

/-!
# Conditions and locals do not influence execution

`Relay.Act` is everything that can happen to a target, a link and a tracer: what the IDE calls, what
the engine reports, what is asked of the link, the registry, the queue or the tracer directly, and
the dispatch of an event. `Relay.observe` is what a run shows of execution. Two runs that differ by
the conditions of breakpoints and the locals of frames show the same (`observe_eq_of_bare`).
-/

namespace DebugRelay

/-- The operation with a bare breakpoint. -/
def Registry.Op.bare : Op → Op
  | put b => put b.bare
  | remove l => remove l
  | removeOwned b => removeOwned b.bare
  | unload f => unload f

@[simp]
theorem Registry.Op.bare_bare (o : Op) : o.bare.bare = o.bare := by
  cases o <;> rfl

theorem Registry.perform_bare (r : Registry) (o : Op) :
    r.bare.perform o.bare = (r.perform o).bare := by
  cases o with
  | put b => exact (r.put_bare b).1
  | remove l => exact r.clear_bare l
  | removeOwned b => exact r.clear_bare (r.removalTarget b)
  | unload f => exact congrArg Prod.fst (r.unload_bare f)

/-- The tracer refuses nothing for its condition. -/
theorem Hook.blind_direct : Hook.direct.Blind := fun _ _ => rfl

namespace Relay

/-- The call with a bare breakpoint, stop or event. -/
def LinkCall.bare : LinkCall → LinkCall
  | setup i => setup i
  | setBreakpoint b => setBreakpoint b.bare
  | clearFile f => clearFile f
  | reconcile f => reconcile f
  | installAll => installAll
  | step kind => step kind
  | terminate => terminate
  | detach => detach
  | onSuspend stop => onSuspend stop.bare
  | onScriptLoad f => onScriptLoad f
  | request e => request e.bare

/-- Something that happens to a target, a link and a tracer. -/
inductive Act where
  /-- A call of the IDE, a report of the engine, or a dispatch. -/
  | move (m : Move)
  /-- The user wants the run to end. -/
  | requestTermination
  /-- A script is about to run. -/
  | scriptReady (script : Script) (thread : Thread)
  | link (c : LinkCall)
  | registry (o : Registry.Op)
  /-- The target takes a notification. -/
  | notify (e : Event)
  | enqueue (e : Event)
  /-- The queue is closed. -/
  | close
  /-- The dispatch loop is started on a thread. -/
  | startLoop (threadName : String)
  /-- The tracer gets a command from elsewhere. -/
  | command (c : Command)

namespace Act

/-- What happens, with bare breakpoints and frames. -/
def bare : Act → Act
  | move m => move m.bare
  | requestTermination => requestTermination
  | scriptReady script thread => scriptReady script thread
  | link c => link c.bare
  | registry o => registry o.bare
  | notify e => notify e.bare
  | enqueue e => enqueue e.bare
  | close => close
  | startLoop threadName => startLoop threadName
  | command c => command c.bare

/-- If a debugger is installed, it does not look at conditions. The tracer is one of those. -/
def Blind : Act → Prop
  | link (.setup i) => i.hook.Blind
  | _ => True

theorem blind_bare_iff (a : Act) : a.bare.Blind ↔ a.Blind := by
  cases a with
  | link c => cases c <;> rfl
  | move m => rfl
  | requestTermination => rfl
  | scriptReady script thread => rfl
  | registry o => rfl
  | notify e => rfl
  | enqueue e => rfl
  | close => rfl
  | startLoop threadName => rfl
  | command c => rfl

end Act

/-- The relay after something happened. -/
def act (r : Relay) : Act → Relay
  | .move m => r.move m
  | .requestTermination => r.requestTermination
  | .scriptReady script thread => r.scriptReady script thread
  | .link c => r.callLink c
  | .registry o => { r with registry := r.registry.perform o }
  | .notify e => (r.handleNotification e).1
  | .enqueue e => r.send e
  | .close => { r with queue := r.queue.close.1 }
  | .startLoop threadName => (r.spawnLoop threadName).1
  | .command c => { r with native := { r.native with tracer := (r.native.tracer.invoke c).1 } }

/-- The relay after a run, whose first act is done first. -/
def after (r : Relay) (acts : List Act) : Relay := acts.foldl act r

/-- What is seen of a traced line. -/
inductive Sight where
  /-- It comes back to the engine, at once or after a stop. -/
  | passed (outcome : Outcome)
  /-- It stops, at a line of a file. -/
  | stopped (place : Option (SourceFile × UInt32)) (reason : StopReason)
  deriving DecidableEq

/-- What is seen of the verdict on the line at the top of a stack. -/
def Sight.ofVerdict (stack : List Frame) : Tracer.Verdict → Sight
  | .passed outcome => .passed outcome
  | .stopped reason => .stopped (Tracer.top? stack) reason

theorem Sight.ofVerdict_bare (stack : List Frame) (v : Tracer.Verdict) :
    ofVerdict (stack.map Frame.bare) v = ofVerdict stack v := by
  cases v with
  | passed outcome => rfl
  | stopped reason => exact congrArg (stopped · reason) (Tracer.top?_bare stack)

/-- What is seen while something happens. -/
def sight? (r : Relay) : Act → Option Sight
  | .move (.line _ stack) => some (.ofVerdict stack (r.native.tracer.line stack).2)
  | .move .wake => r.wake?.map fun w => .passed w.2
  | _ => none

/-- What is seen in the course of a run. -/
def sights (r : Relay) : List Act → List Sight
  | [] => []
  | a :: rest => (r.sight? a).toList ++ (r.act a).sights rest

/-- What a run shows of execution. -/
structure Observation where
  /-- The outcomes of traced lines and the stops, in order. -/
  sights : List Sight
  /-- The commands sent to the debugger, without conditions. -/
  commands : List Command
  /-- The kind of each event that the IDE was told of, with the state after it. -/
  told : List (String × Target.State)
  /-- The registry without conditions. -/
  registry : Registry
  /-- The tracer's table without conditions. -/
  table : OrderedMap Tracer.Spot Tracer.Planted
  deriving DecidableEq

/-- What a run from a relay shows. -/
def observe (r : Relay) (acts : List Act) : Observation where
  sights := r.sights acts
  commands := (r.after acts).commands.map Command.bare
  told := (r.after acts).delivered.map fun d => (d.1.kind, d.2)
  registry := (r.after acts).registry.bare
  table := (r.after acts).native.tracer.bare.table

namespace Alike

variable {r s : Relay}

theorem callLink (h : r.Alike s) {c : LinkCall} (hc : (Act.link c).Blind) :
    (r.callLink c).Alike (s.callLink c.bare) := by
  cases c with
  | setup i => exact h.setup i hc
  | setBreakpoint b => exact h.setBreakpoint b.bare_bare.symm
  | clearFile f => exact h.fire rfl
  | reconcile f => exact h.reconcile f
  | installAll => exact h.installAll
  | step kind => exact h.step kind
  | terminate => exact h.terminate
  | detach => exact h.detach
  | onSuspend stop => exact h.onSuspend stop
  | onScriptLoad f => exact h.reconcile f
  | request e => exact h.handleRequest e

theorem spawnLoop (h : r.Alike s) (threadName : String) :
    (r.spawnLoop threadName).1.Alike (s.spawnLoop threadName).1 := by
  have hloop := h.loop
  unfold Relay.spawnLoop
  cases hr : r.loop <;> cases hs : s.loop <;> rw [hr, hs] at hloop <;>
    first | exact h | simp only [Loop.bare, reduceCtorEq] at hloop
  have habandoned : r.queue.abandon.bare = s.queue.abandon.bare :=
    (congrArg Queue.abandon h.queue :)
  dsimp only
  split
  · exact { h with loop := rfl }
  · exact { h with queue := habandoned, loop := rfl }

theorem act (h : r.Alike s) {a : Act} (ha : a.Blind) : (r.act a).Alike (s.act a.bare) := by
  cases a with
  | move m => exact h.move m
  | requestTermination => exact h.requestTermination
  | scriptReady script thread => exact h.send rfl
  | link c => exact h.callLink ha
  | registry o =>
    have hregistry : (r.registry.perform o).bare = (s.registry.perform o.bare).bare := by
      rw [← Registry.perform_bare, ← Registry.perform_bare, h.registry, o.bare_bare]
    exact { h with registry := hregistry }
  | notify e => exact h.handleNotification e
  | enqueue e => exact h.send e.bare_bare.symm
  | close => exact { h with queue := congrArg (fun q : Queue => q.close.1) h.queue }
  | startLoop threadName => exact h.spawnLoop threadName
  | command c =>
    have hpair := r.native.tracer.invoke_bare c
    have hbare := s.native.tracer.invoke_bare c.bare
    rw [c.bare_bare] at hbare
    rw [h.tracer, hbare, Prod.mk.injEq] at hpair
    exact h.setTracer hpair.1.symm

theorem sight? (h : r.Alike s) (a : Act) : r.sight? a = s.sight? a.bare := by
  cases a with
  | move m =>
    cases m with
    | line thread stack =>
      simp only [Relay.sight?, Act.bare, Move.bare, (h.line stack).2, Sight.ofVerdict_bare]
    | wake =>
      have hwoken := congrArg (Option.map fun w => Sight.passed w.2) h.wake?
      simp only [Relay.sight?, Act.bare, Move.bare, Relay.wake?, Option.map_map] at hwoken ⊢
      exact hwoken
    | load => rfl
    | edit d => rfl
    | requestStep kind => rfl
    | requestFrames => rfl
    | enter f => rfl
    | leave => rfl
    | dispatch => rfl
  | requestTermination => rfl
  | scriptReady script thread => rfl
  | link c => rfl
  | registry o => rfl
  | notify e => rfl
  | enqueue e => rfl
  | close => rfl
  | startLoop threadName => rfl
  | command c => rfl

/-- A run and its bare form show the same and end in relays that differ by conditions and locals. -/
theorem run (h : r.Alike s) {acts : List Act} (hblind : ∀ a ∈ acts, a.Blind) :
    (r.after acts).Alike (s.after (acts.map Act.bare)) ∧
      r.sights acts = s.sights (acts.map Act.bare) := by
  induction acts generalizing r s with
  | nil => exact ⟨h, rfl⟩
  | cons a rest ih =>
    obtain ⟨hafter, hsights⟩ := ih (h.act (hblind a List.mem_cons_self)) fun b hb =>
      hblind b (List.mem_cons_of_mem a hb)
    refine ⟨hafter, ?_⟩
    simp only [sights, List.map_cons, h.sight? a, hsights]

theorem commands (h : r.Alike s) :
    r.commands.map Command.bare = s.commands.map Command.bare := by
  have hcalls : ∀ calls : List Call, (calls.filterMap Call.command?).map Command.bare =
      (calls.map Call.bare).filterMap Call.command? := by
    intro calls
    rw [List.map_filterMap, List.filterMap_map]
    congr 1
    funext c
    cases c <;> rfl
  have hbare : r.native.calls.map Call.bare = s.native.calls.map Call.bare :=
    congrArg Native.calls h.native
  rw [Relay.commands, Relay.commands, hcalls, hcalls, hbare]

theorem kinds (h : r.Alike s) :
    r.delivered.map (fun d => (d.1.kind, d.2)) = s.delivered.map fun d => (d.1.kind, d.2) := by
  have htold := congrArg (List.map fun d => (d.1.kind, d.2)) h.told
  simpa [Relay.told, Function.comp_def] using htold

/-- A run shows what its bare form shows. -/
theorem observe (h : r.Alike s) {acts : List Act} (hblind : ∀ a ∈ acts, a.Blind) :
    r.observe acts = s.observe (acts.map Act.bare) := by
  obtain ⟨hafter, hsights⟩ := h.run hblind
  have htable : (r.after acts).native.tracer.bare.table =
      (s.after (acts.map Act.bare)).native.tracer.bare.table := congrArg Tracer.table hafter.tracer
  simp only [Relay.observe, hsights, hafter.commands, hafter.kinds, hafter.registry, htable]

end Alike

/-- New relays whose stores differ by conditions differ by conditions. -/
theorem alike_create {parts parts' : Parts} (hsettings : parts.settings = parts'.settings)
    (hfiles : parts.files = parts'.files)
    (hstore : parts.store.map StoredBreakpoint.bare = parts'.store.map StoredBreakpoint.bare)
    (consumers : List Consumer) : (create parts consumers).Alike (create parts' consumers) where
  settings := hsettings
  files := hfiles
  store := hstore
  consumers := rfl
  registry := rfl
  queue := rfl
  link := rfl
  target := rfl
  native := by rw [create, create, hsettings]; rfl
  loop := rfl
  told := rfl
  blind := fun _ hnone => by cases hnone

theorem blind_of_bare {acts acts' : List Act} (hacts : acts.map Act.bare = acts'.map Act.bare)
    (hblind : ∀ a ∈ acts, a.Blind) : ∀ a ∈ acts', a.Blind := by
  intro a ha
  have hbare : a.bare ∈ acts.map Act.bare := hacts ▸ List.mem_map_of_mem ha
  obtain ⟨b, hb, hba⟩ := List.mem_map.1 hbare
  rw [← Act.blind_bare_iff, ← hba, Act.blind_bare_iff]
  exact hblind b hb

/-- Two runs of any length from new relays that differ only by the conditions of breakpoints and the
locals of frames show the same outcomes and stops, the same commands up to conditions, the same
kinds of events with the same states, and the same registry and table up to conditions. -/
theorem observe_eq_of_bare {parts parts' : Parts} (consumers : List Consumer)
    {acts acts' : List Act} (hsettings : parts.settings = parts'.settings)
    (hfiles : parts.files = parts'.files)
    (hstore : parts.store.map StoredBreakpoint.bare = parts'.store.map StoredBreakpoint.bare)
    (hacts : acts.map Act.bare = acts'.map Act.bare) (hblind : ∀ a ∈ acts, a.Blind) :
    (create parts consumers).observe acts = (create parts' consumers).observe acts' := by
  have hcreated := alike_create hsettings hfiles hstore consumers
  have hrun := hcreated.observe hblind
  have hrun' := (hcreated.symm.trans hcreated).observe (blind_of_bare hacts hblind)
  rw [hrun, hrun', hacts]

/-! ## A run that stops at a conditional breakpoint -/

/-- The breakpoint at line 10 of `/a.py`, with what its condition is found to be. -/
def sampleConditional (condition : Except Error (Option String)) : StoredBreakpoint :=
  { sampleStored with condition := condition }

/-- A run that loads the breakpoint, installs the tracer, changes the breakpoint, stops at its line
with some locals, and goes on. -/
def sampleActs (condition : Except Error (Option String)) (locals : OrderedMap String Json) :
    List Act :=
  [.move .load, .startLoop "", .link (.setup .direct), .enqueue .engineStarted, .move .dispatch,
    .move (.edit (.changed (sampleConditional condition))), .move .dispatch,
    .move (.enter sampleFile), .move (.line ⟨none⟩ [.ofFile .zero sampleFile 10 locals]),
    .move .dispatch, .move (.requestStep .resume), .move .dispatch, .move .wake]

theorem blind_sampleActs (condition : Except Error (Option String))
    (locals : OrderedMap String Json) : ∀ a ∈ sampleActs condition locals, a.Blind := by
  simp [sampleActs, Act.Blind, Interpreter.direct, Hook.blind_direct]

/-- One run finds a condition that would never hold, the other cannot look it up and has a local.
Both stop at the line and go on. -/
theorem observe_sampleActs :
    let parts (condition : Except Error (Option String)) : Parts :=
      { sampleParts with store := [sampleConditional condition] }
    let never : Except Error (Option String) := .ok (some "False")
    let lost : Except Error (Option String) := .error (.unresolved "gone")
    let run := (create (parts never) [.link, .target]).observe (sampleActs never ∅)
    run = (create (parts lost) [.link, .target]).observe
        (sampleActs lost (.ofList [("x", .null)])) ∧
      run.sights = [.stopped (some (sampleFile, 10)) .breakpoint, .passed .continue_] ∧
      run.told = [("engine_started", .running), ("suspended", .suspended)] := by
  refine ⟨?_, by cbv, by cbv⟩
  exact observe_eq_of_bare [.link, .target] rfl rfl rfl rfl (blind_sampleActs _ _)

end Relay

end DebugRelay
