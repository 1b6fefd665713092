import DebugRelay.Relay.Basic

/-!
# The side of the IDE

The IDE tells the relay what happened to its breakpoints and what its user wants, and gets told of
the run. Every change of the registry queues an event for each file that it touched.
-/

namespace DebugRelay.Relay

/-! ## Breakpoints -/

/-- Whether a kind of breakpoint is accepted. -/
def supports (r : Relay) (model : String) : Bool := model = r.settings.breakpointModel

/-- The wanted breakpoints of a script's file; a script without a file has none. -/
def breakpointsOf (r : Relay) (script : Script) : List Breakpoint :=
  match script.file? with
  | some f => r.registry.ofFile f
  | none => []

/-- Puts every stored breakpoint that resolves into the registry, and counts them. -/
def putAll (r : Relay) : List StoredBreakpoint → Relay × Nat
  | [] => (r, 0)
  | stored :: rest =>
    match Breakpoint.resolve r.files stored with
    | .ok b =>
      let (r, _) := r.put b
      let (r, count) := r.putAll rest
      (r, count + 1)
    | .error e => (r.warn ("Skipping breakpoint: " ++ e.message)).putAll rest

/-- Fills the registry from the IDE's store. -/
def loadBreakpoints (r : Relay) : Relay × Nat :=
  r.putAll (r.store.filter fun stored => r.supports stored.model)

/-- Does something with a breakpoint of the IDE, once it is resolved. One of another kind is none
of the relay's business. -/
def withResolved (r : Relay) (stored : StoredBreakpoint) (act : Breakpoint → Relay) :
    Relay × Except Error Unit :=
  if r.supports stored.model then
    match Breakpoint.resolve r.files stored with
    | .ok b => (act b, .ok ())
    | .error e => (r, .error e)
  else (r, .ok ())

/-- The IDE got a new breakpoint. -/
def breakpointAdded (r : Relay) (stored : StoredBreakpoint) : Relay × Except Error Unit :=
  r.withResolved stored fun b =>
    let (r, _) := r.put b
    r.send (.breakpointAdded b)

/-- A breakpoint of the IDE is gone. -/
def breakpointRemoved (r : Relay) (stored : StoredBreakpoint) : Relay × Except Error Unit :=
  r.withResolved stored fun b =>
    let (r, removed) := r.removeOwned b
    r.send (.breakpointRemoved (removed.getD b))

/-- A breakpoint of the IDE changed. If it moved to another file, both files have to be brought in
line. -/
def breakpointChanged (r : Relay) (stored : StoredBreakpoint) : Relay × Except Error Unit :=
  r.withResolved stored fun b =>
    let (r, change) := r.put b
    -- a move within a file is covered by the event about the new location
    let r :=
      match change with
      | .moved previous =>
        if previous.file = b.file then r else r.send (.breakpointRemoved previous)
      | _ => r
    r.send (.breakpointChanged ((r.registry.find? b.location).getD b))

/-- The IDE unloaded a file, whose breakpoints go with it. Tells how many went. -/
def sourceUnloaded (r : Relay) (f : SourceFile) : Relay × Nat :=
  let (r, removed) := r.unload f
  -- one event is enough, since it brings the whole file in line
  match removed.getLast? with
  | some last => (r.send (.breakpointRemoved last), removed.length)
  | none => (r, 0)

/-! ## Requests -/

/-- The user wants to see the stack. -/
def requestFrames (r : Relay) : Relay := r.send .framesRequest

/-- The user wants the script to go on, which needs a suspended target. -/
def requestStep (r : Relay) (kind : StepKind) : Relay × Except Error Unit :=
  if r.target.state = .suspended then (r.send (.stepRequest kind), .ok ())
  else (r, .error (.wrongState kind.text r.target.state.text))

/-- The user wants the run to end. -/
def requestTermination (r : Relay) : Relay :=
  if r.target.state.isFinal then r else r.send .terminateRequest

/-! ## Notifications -/

/-- The target takes a notification, and the IDE is told. -/
def handleNotification (r : Relay) (e : Event) : Relay × Reply :=
  let before := r.target.state
  let applied := r.target.apply r.settings.showDynamicCode e
  let r := { r with target := applied.target }
  let r :=
    match applied.refused with
    | some next =>
      r.warn ("Target " ++ r.settings.targetName ++ ": ignoring transition " ++ before.text ++
        " -> " ++ next.text)
    | none => r
  if applied.shown then
    let r := { r with delivered := r.delivered ++ [(e, r.target.state)] }
    match r.sinkPanic e with
    | some message => (r, .panicked (some message))
    | none => (r, .handled)
  else (r, .handled)

end DebugRelay.Relay
