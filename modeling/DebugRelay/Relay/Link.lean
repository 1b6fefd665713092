import DebugRelay.Relay.Basic

/-!
# The link to the interpreter

Commands go through the installed debugger and are dropped without one. A refused command is logged
and otherwise treated as not sent. `reconcile` makes the interpreter's breakpoints of a file those
of the registry: it clears the file and sets each enabled breakpoint anew.
-/

namespace DebugRelay

/-- The command that sets up whether the first line stops, and the one for loaded files. -/
def DebuggerSettings.startCommands (s : DebuggerSettings) : List Command :=
  [.suspendOnStartup s.suspendOnStartup, .suspendOnScriptLoad s.suspendOnScriptLoad]

namespace Relay

/-! ## Commands -/

/-- Sends a command to a debugger, and tells whether it was accepted. -/
def invoke (r : Relay) (h : Hook) (c : Command) : Relay × Bool :=
  let (native, result) := r.native.invoke h c
  let r := { r with native := native }
  match result with
  | .ok () => (r, true)
  | .error e =>
    (r.warn ("Interpreter call " ++ c.nativeName ++ " failed: " ++ e.message), false)

/-- Sends a command to the installed debugger, if there is one. -/
def fire (r : Relay) (c : Command) : Relay × Bool :=
  match r.link.hook with
  | some h => r.invoke h c
  | none => (r, false)

/-- Sets a breakpoint in the interpreter, unless it is disabled. -/
def setBreakpoint (r : Relay) (b : Breakpoint) : Relay × Bool :=
  if b.enabled then r.fire (.setBreak b) else (r, false)

/-- Clears a file's breakpoints in the interpreter. -/
def clearFile (r : Relay) (f : SourceFile) : Relay × Bool := r.fire (.clearFile f)

/-- Sets breakpoints in the interpreter, and counts those that were accepted. -/
def setBreakpoints (r : Relay) : List Breakpoint → Relay × Nat
  | [] => (r, 0)
  | b :: rest =>
    let (r, accepted) := r.setBreakpoint b
    let (r, count) := r.setBreakpoints rest
    (r, count + if accepted then 1 else 0)

/-- Brings the interpreter's breakpoints of a file in line with the registry, and counts those that
were set. Without a debugger there is nothing to do; installing one sets all breakpoints. -/
def reconcile (r : Relay) (f : SourceFile) : Relay × Nat :=
  if r.isAttached then
    let (r, _) := r.clearFile f
    r.setBreakpoints (r.registry.enabledOf f)
  else (r, 0)

/-- Sets every enabled breakpoint of the registry in the interpreter. -/
def installAll (r : Relay) : Relay × Nat := r.setBreakpoints r.registry.enabled

/-! ## Installing the debugger -/

/-- Sends commands that have to be accepted. -/
def invokeAll (r : Relay) (h : Hook) : List Command → Relay × Except Error Unit
  | [] => (r, .ok ())
  | c :: rest =>
    let (native, result) := r.native.invoke h c
    let r := { r with native := native }
    match result with
    | .ok () => r.invokeAll h rest
    | .error e => (r, .error (.setup (c.nativeName ++ " failed: " ++ e.message)))

/-- Installs the debugger into an interpreter that has just started: extends its search path, runs
the setup script, makes the debugger report, configures it, and sets all breakpoints. A failure on
the way ends the setup and leaves the link as it was. -/
def setup (r : Relay) (i : Interpreter) : Relay × Except Error Unit :=
  let script := Path.join r.settings.supportDir r.settings.setupScript
  let r := r.call (.searchPath r.settings.supportDir)
  match i.searchPathError with
  | some e => (r, .error (.setup ("cannot extend search path: " ++ e.message)))
  | none =>
    let r := r.call (.loadDebugger script)
    match i.loadError with
    | some e => (r, .error (.setup ("failed to execute " ++ script ++ ": " ++ e.message)))
    | none =>
      let (native, attached) := r.native.attach i
      let r := { r with native := native }
      match attached with
      | .error e => (r, .error (.setup ("cannot register debugger: " ++ e.message)))
      | .ok () =>
        match r.invokeAll i.hook r.settings.startCommands with
        | (r, .error e) => (r, .error e)
        | (r, .ok ()) =>
          -- the debugger counts as installed only now, and the breakpoints go through it
          let (r, _) := { r with link := { r.link with hook := some i.hook } }.installAll
          (r, .ok ())

/-! ## Execution control -/

/-- Lets the script go on. The IDE is told before the interpreter is, so that it learns of going on
before it learns of the next stop. -/
def step (r : Relay) (kind : StepKind) : Relay × Bool :=
  match r.link.hook with
  | none => (r, false)
  | some h =>
    let r := { r with link := { r.link with suspension := none } }
    let r := r.send (.resumed r.link.lastThread kind)
    r.invoke h (.ofStep kind)

/-- Ends the script and drops the debugger. Tells whether there was one. -/
def terminate (r : Relay) : Relay × Bool :=
  match r.link.hook with
  | none => (r, false)
  | some h =>
    -- commands that are sent meanwhile find no debugger any more
    let r := { r with link := { r.link with hook := none } }
    let (r, _) := r.invoke h .quit
    ({ r with link := { r.link with suspension := none } }, true)

/-- Drops the debugger without a word to it. -/
def detach (r : Relay) : Relay :=
  { r with link := { r.link with hook := none, suspension := none } }

/-- Announces that a script is about to run. -/
def scriptReady (r : Relay) (script : Script) (thread : Thread) : Relay :=
  r.send (.scriptReady script thread)

/-- Reports the current stop again, if there is one. -/
def resendSuspension (r : Relay) : Relay :=
  match r.link.suspension with
  | some s => r.send (.suspended s.thread s.frames s.reason)
  | none => r

/-! ## Reports of the interpreter -/

/-- The interpreter stopped. -/
def onSuspend (r : Relay) (s : Suspension) : Relay :=
  let r := { r with link := { r.link with lastThread := some s.thread, suspension := some s } }
  r.send (.suspended s.thread s.frames s.reason)

/-- The interpreter is about to run a file that it did not run before. -/
def onScriptLoad (r : Relay) (f : SourceFile) : Relay := (r.reconcile f).1

/-! ## Requests of the IDE -/

/-- What a request does on the interpreter's side. Notifications to the IDE mean nothing here. -/
def handleRequest (r : Relay) : Event → Relay
  | .breakpointAdded b | .breakpointRemoved b | .breakpointChanged b => (r.reconcile b.file).1
  | .stepRequest kind => (r.step kind).1
  | .framesRequest => r.resendSuspension
  | .terminateRequest => r.terminate.1
  | .engineStarted | .engineTerminated | .suspended .. | .resumed .. | .scriptReady .. => r

end Relay

end DebugRelay
