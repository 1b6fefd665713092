import DebugRelay.Proofs.Relay.Exactness
import DebugRelay.Proofs.Relay.Installing

/-!
# The calls of a setup

A setup makes a list of calls that have to be done (`DebuggerSettings.setupCalls`), the first
failure of which ends it, and then sends the debugger the enabled breakpoints, of which it may
refuse any. `Interpreter.attempt` does the first part as one recursion over the calls, and
`setup_eq_attempt` shows that a setup is just that. Whether the interpreter does all calls is
`Interpreter.Performs`, which decides what a setup comes to (`setup_exact`).
-/

namespace DebugRelay

/-- The calls that a setup makes before any breakpoint is set, if none of them fails. -/
def DebuggerSettings.setupCalls (s : DebuggerSettings) : List Call :=
  [.searchPath s.supportDir, .loadDebugger (Path.join s.supportDir s.setupScript), .attach] ++
    s.startCommands.map .command

/-- The wording of a failure in a setup, by the call that failed. -/
def Call.failureText (c : Call) (e : Error) : String :=
  match c with
  | searchPath _ => "cannot extend search path: " ++ e.message
  | loadDebugger script => "failed to execute " ++ script ++ ": " ++ e.message
  | attach => "cannot register debugger: " ++ e.message
  | command c => c.nativeName ++ " failed: " ++ e.message
  | targetCreated _ | targetAdded _ => e.message

/-- Does a call of a setup. -/
def Native.perform (n : Native) (i : Interpreter) : Call → Native × Except Error Unit
  | .searchPath dir => (n.record (.searchPath dir), i.searchPathError.elim (.ok ()) .error)
  | .loadDebugger path => (n.record (.loadDebugger path), i.loadError.elim (.ok ()) .error)
  | .attach => n.attach i
  | .command c => n.invoke i.hook c
  | .targetCreated name => (n.record (.targetCreated name), .ok ())
  | .targetAdded name => (n.record (.targetAdded name), .ok ())

namespace Interpreter

/-- Why a call of a setup fails after the calls made before, if it does. -/
def failure? (i : Interpreter) (before : List Call) : Call → Option Error
  | .searchPath _ => i.searchPathError
  | .loadDebugger _ => i.loadError
  | .attach => i.attachError
  | .command c => i.hook.refuses before c
  | .targetCreated _ | .targetAdded _ => none

/-- Whether calls succeed that are made one after the other. -/
def Performs (i : Interpreter) (before : List Call) : List Call → Prop
  | [] => True
  | c :: rest => i.failure? before c = none ∧ i.Performs (before ++ [c]) rest

/-- Makes calls one after the other, until one fails. -/
def attempt (i : Interpreter) (n : Native) : List Call → Native × Except Error Unit
  | [] => (n, .ok ())
  | c :: rest =>
    match (n.perform i c).2 with
    | .ok () => i.attempt (n.perform i c).1 rest
    | .error e => ((n.perform i c).1, .error (.setup (c.failureText e)))

variable {i : Interpreter} {n : Native} {before calls : List Call}

/-- Calls that do not all succeed have a first one that fails. -/
theorem performs_or (i : Interpreter) (before calls : List Call) :
    i.Performs before calls ∨ ∃ ahead c behind e, calls = ahead ++ c :: behind ∧
      i.Performs before ahead ∧ i.failure? (before ++ ahead) c = some e := by
  induction calls generalizing before with
  | nil => exact Or.inl trivial
  | cons c rest ih =>
    cases hc : i.failure? before c with
    | some e => exact Or.inr ⟨[], c, rest, e, rfl, trivial, by rwa [List.append_nil]⟩
    | none =>
      rcases ih (before ++ [c]) with hrest | ⟨ahead, d, behind, e, rfl, hahead, hd⟩
      · exact Or.inl ⟨hc, hrest⟩
      · refine Or.inr ⟨c :: ahead, d, behind, e, rfl, ⟨hc, hahead⟩, ?_⟩
        rwa [List.append_assoc] at hd

end Interpreter

namespace Native

variable {s : DebuggerSettings} {c : Call}

theorem calls_attach (n : Native) (i : Interpreter) :
    (n.attach i).1.calls = n.calls ++ [.attach] := by
  unfold attach
  cases i.attachError with
  | some e => rfl
  | none => cases i.hook.traced <;> rfl

theorem calls_perform (n : Native) (i : Interpreter) (c : Call) :
    (n.perform i c).1.calls = n.calls ++ [c] := by
  cases c with
  | attach => exact n.calls_attach i
  | command c => exact n.calls_invoke i.hook c
  | searchPath dir => rfl
  | loadDebugger path => rfl
  | targetCreated name => rfl
  | targetAdded name => rfl

/-- A command that sets no breakpoint fails exactly if the debugger refuses it. -/
theorem invoke_snd_of_not_lineless (n : Native) (h : Hook) {c : Command}
    (hc : c.isLineless = false) :
    (n.invoke h c).2 = (h.refuses n.calls c).elim (.ok ()) .error := by
  unfold invoke
  cases h.refuses n.calls c with
  | some e => rfl
  | none =>
    cases h.traced with
    | false => rfl
    | true =>
      have hok : (((n.record (.command c)).tracer.invoke c).2) = .ok () := by
        cases hresult : ((n.record (.command c)).tracer.invoke c).2 with
        | ok _ => rfl
        | error e =>
          have hlineless := (Tracer.invoke_snd _ c).1 ⟨e, hresult⟩
          rw [hc] at hlineless
          cases hlineless
      exact hok

/-- The calls of a setup fail where the interpreter or its debugger says so. -/
theorem perform_snd (n : Native) (i : Interpreter) (hc : c ∈ s.setupCalls) :
    (n.perform i c).2 = (i.failure? n.calls c).elim (.ok ()) .error := by
  cases c with
  | searchPath dir => rfl
  | loadDebugger path => rfl
  | attach =>
    rw [perform, attach_snd, Interpreter.failure?]
    cases i.attachError <;> rfl
  | command c =>
    apply invoke_snd_of_not_lineless
    simp only [DebuggerSettings.setupCalls, DebuggerSettings.startCommands] at hc
    rcases (by simpa using hc : c = _ ∨ c = _) with rfl | rfl <;> rfl
  | targetCreated name => rfl
  | targetAdded name => rfl

end Native

namespace Interpreter

variable {i : Interpreter} {n : Native} {s : DebuggerSettings} {calls : List Call}

theorem attempt_of_none {c : Call} (hc : c ∈ s.setupCalls) (h : i.failure? n.calls c = none)
    (rest : List Call) : i.attempt n (c :: rest) = i.attempt (n.perform i c).1 rest := by
  have hok : (n.perform i c).2 = .ok () := by rw [n.perform_snd i hc, h, Option.elim_none]
  simp only [attempt, hok]

theorem attempt_of_some {c : Call} {e : Error} (hc : c ∈ s.setupCalls)
    (h : i.failure? n.calls c = some e) (rest : List Call) :
    i.attempt n (c :: rest) = ((n.perform i c).1, .error (.setup (c.failureText e))) := by
  have herror : (n.perform i c).2 = .error e := by rw [n.perform_snd i hc, h, Option.elim_some]
  simp only [attempt, herror]

/-- Calls that succeed are all made. -/
theorem attempt_of_performs (hcalls : ∀ c ∈ calls, c ∈ s.setupCalls)
    (h : i.Performs n.calls calls) (more : List Call) :
    ∃ n', n'.calls = n.calls ++ calls ∧ i.attempt n (calls ++ more) = i.attempt n' more := by
  induction calls generalizing n with
  | nil => exact ⟨n, (List.append_nil _).symm, rfl⟩
  | cons c rest ih =>
    obtain ⟨hc, hrest⟩ := h
    rw [← n.calls_perform i c] at hrest
    obtain ⟨n', hmade, heq⟩ := ih (fun d hd => hcalls d (List.mem_cons_of_mem c hd)) hrest
    refine ⟨n', ?_, ?_⟩
    · rw [hmade, n.calls_perform, List.append_assoc]
      rfl
    · rw [List.cons_append, attempt_of_none (hcalls c List.mem_cons_self) hc, heq]

end Interpreter

namespace Relay

variable {r : Relay} {i : Interpreter}

theorem invokeAll_eq_attempt (r : Relay) (i : Interpreter) (cs : List Command) :
    r.invokeAll i.hook cs =
      ({ r with native := (i.attempt r.native (cs.map .command)).1 },
        (i.attempt r.native (cs.map .command)).2) := by
  induction cs generalizing r with
  | nil => rfl
  | cons c rest ih =>
    rw [List.map_cons, Interpreter.attempt, invokeAll, Native.perform]
    cases r.native.invoke i.hook c with
    | mk native result =>
      cases result with
      | ok _ => exact ih { r with native := native }
      | error e => rfl

/-- An interpreter that hands over its debugger is left with the commands of the setup. -/
theorem setup_of_handsOver (r : Relay) (hover : i.HandsOver) :
    r.setup i =
      finishSetup i ((r.reported i).invokeAll i.hook r.settings.startCommands) := by
  obtain ⟨hs, hl, ha⟩ := hover
  unfold setup
  simp only [hs, hl, Native.attach_snd, ha]
  rfl

theorem attempt_of_handsOver (r : Relay) (hover : i.HandsOver) :
    i.attempt r.native r.settings.setupCalls =
      i.attempt (r.reported i).native (r.settings.startCommands.map .command) := by
  obtain ⟨hs, hl, ha⟩ := hover
  simp only [DebuggerSettings.setupCalls, List.cons_append, List.nil_append, Interpreter.attempt,
    Native.perform, hs, hl, Option.elim_none, Native.attach_snd, ha]
  rfl

/-- A setup attempts its calls and then installs the debugger, unless a call failed. -/
theorem setup_eq_attempt (r : Relay) (i : Interpreter) :
    r.setup i =
      let attempted := i.attempt r.native r.settings.setupCalls
      match attempted.2 with
      | .error e => ({ r with native := attempted.1 }, .error e)
      | .ok () =>
        ({ r with
          native := attempted.1
          link := { r.link with hook := some i.hook } }.installAll.1, .ok ()) := by
  by_cases hover : i.HandsOver
  · rw [setup_of_handsOver r hover, attempt_of_handsOver r hover, invokeAll_eq_attempt]
    obtain ⟨native, result⟩ :=
      i.attempt (r.reported i).native (r.settings.startCommands.map .command)
    cases result <;> rfl
  -- the setup ends with one of the three calls that hand over the debugger
  · unfold setup
    rw [DebuggerSettings.setupCalls]
    simp only [List.cons_append, List.nil_append, Interpreter.attempt, Native.perform]
    cases hs : i.searchPathError with
    | some e => rfl
    | none =>
      cases hl : i.loadError with
      | some e => rfl
      | none =>
        cases ha : i.attachError with
        | none => exact absurd ⟨hs, hl, ha⟩ hover
        | some e =>
          simp only [Option.elim_none, Native.attach_snd, ha]
          rfl

/-! ## What a setup comes to -/

/-- If all calls succeed, the debugger is installed and is sent the enabled breakpoints. -/
theorem setup_of_performs (h : i.Performs r.native.calls r.settings.setupCalls) :
    (r.setup i).2 = .ok () ∧ (r.setup i).1.link.hook = some i.hook ∧
      (r.setup i).1.native.calls = r.native.calls ++ r.settings.setupCalls ++
        r.registry.enabled.map (.command <| .setBreak ·) := by
  obtain ⟨native, hmade, hattempt⟩ := Interpreter.attempt_of_performs (fun _ hc => hc) h []
  rw [List.append_nil] at hattempt
  let s : Relay := { r with native := native, link := { r.link with hook := some i.hook } }
  have hsetup : r.setup i = (s.installAll.1, .ok ()) := by
    rw [setup_eq_attempt, hattempt]
    rfl
  have henabled : ∀ b ∈ s.registry.enabled, b.enabled = true :=
    fun b hb => (Registry.mem_enabled_iff.1 hb).2
  have hsent : s.installAll.1.native.calls =
      native.calls ++ r.registry.enabled.map (.command <| .setBreak ·) :=
    (setBreakpoints_sends rfl henabled).1
  rw [hsetup]
  exact ⟨rfl, congrArg Link.hook (s.link_setBreakpoints _), by rw [hsent, hmade]⟩

/-- A call that fails is the last one, and no debugger is installed. -/
theorem setup_of_failure {ahead behind : List Call} {c : Call} {e : Error}
    (hsplit : r.settings.setupCalls = ahead ++ c :: behind)
    (hahead : i.Performs r.native.calls ahead)
    (hc : i.failure? (r.native.calls ++ ahead) c = some e) :
    ∃ native, native.calls = r.native.calls ++ ahead ++ [c] ∧
      r.setup i = ({ r with native := native }, .error (.setup (c.failureText e))) := by
  have hcalls : ∀ d ∈ ahead, d ∈ r.settings.setupCalls := by
    intro d hd
    rw [hsplit]
    exact List.mem_append_left _ hd
  have hlast : c ∈ r.settings.setupCalls := by
    rw [hsplit]
    exact List.mem_append_right _ List.mem_cons_self
  obtain ⟨native, hmade, hattempt⟩ :=
    Interpreter.attempt_of_performs hcalls hahead (c :: behind)
  rw [← hmade] at hc
  rw [← hsplit, Interpreter.attempt_of_some hlast hc] at hattempt
  refine ⟨(native.perform i c).1, by rw [native.calls_perform, hmade], ?_⟩
  rw [setup_eq_attempt, hattempt]

/-- Before the debugger is installed, it is sent its configuration and nothing else. -/
theorem mem_setupCalls_iff {s : DebuggerSettings} {c : Command} :
    .command c ∈ s.setupCalls ↔ c ∈ s.startCommands := by
  simp [DebuggerSettings.setupCalls]

/-- Every command of a setup configures the debugger or sets an enabled breakpoint. -/
theorem calls_setup (r : Relay) (i : Interpreter) :
    ∃ calls, (r.setup i).1.native.calls = r.native.calls ++ calls ∧
      ∀ c, .command c ∈ calls → c ∈ r.settings.startCommands ∨
        ∃ b ∈ r.registry.enabled, c = .setBreak b := by
  rcases i.performs_or r.native.calls r.settings.setupCalls with
    h | ⟨ahead, c, behind, e, hsplit, hahead, hc⟩
  · obtain ⟨-, -, hcalls⟩ := setup_of_performs h
    refine ⟨_, hcalls.trans (List.append_assoc ..), fun c hmem => ?_⟩
    rcases List.mem_append.1 hmem with hmem | hmem
    · exact Or.inl (mem_setupCalls_iff.1 hmem)
    · obtain ⟨b, hb, heq⟩ := List.mem_map.1 hmem
      exact Or.inr ⟨b, hb, (Call.command.inj heq).symm⟩
  · obtain ⟨native, hcalls, hsetup⟩ := setup_of_failure hsplit hahead hc
    refine ⟨ahead ++ [c], by rw [hsetup, hcalls, List.append_assoc], fun d hmem => Or.inl ?_⟩
    rw [← mem_setupCalls_iff, hsplit, List.append_cons]
    exact List.mem_append_left _ hmem

/-- A tracer that is installed when it is new gets exactly what the registry wants. -/
theorem planted?_setup (hs : r.registry.Sound) (hnew : r.native.tracer = {}) (f : SourceFile)
    (n : UInt32) :
    (r.setup .direct).1.native.tracer.planted? f n =
      (r.registry.wanted? f n).map .ofBreakpoint := by
  obtain ⟨calls, log, hsetup⟩ := r.setup_direct
  have hempty : r.ready.native.tracer.planted? f n = none := by
    rw [ready, hnew]
    rfl
  rw [hsetup]
  change (r.ready.native.tracer.plantAll r.registry.enabled).planted? f n = _
  rw [Tracer.planted?_installed _ hs, hempty, Option.or_none]

/-- An interpreter that does the calls of a setup and whose debugger is a tracer has no failure in
store. -/
theorem eq_direct_of_performs {s : DebuggerSettings} {before : List Call}
    (h : i.Performs before s.setupCalls) (hi : i.hook = .direct) : i = .direct := by
  obtain ⟨hs, hl, ha, -⟩ := h
  obtain ⟨searchPathError, loadError, attachError, hook⟩ := i
  cases hs
  cases hl
  cases ha
  cases hi
  rfl

/-- A setup, with any registry and any interpreter. If the search path, the setup script, attaching
and the two commands of the configuration all succeed, it goes through, whatever the debugger
refuses afterwards: the debugger gets the configuration and then, in the order of files and lines,
each enabled entry of the registry once. A new tracer has exactly the enabled entries whose line is
known then, in every file. The first of the calls that fails ends the setup with its error: it is
the last call made, no breakpoint was set, and the link is what it was. -/
theorem setup_exact (ops : List Registry.Op) (r : Relay) (i : Interpreter)
    (hr : r.registry = Registry.empty.after ops) :
    ((r.setup i).2 = .ok () ↔ i.Performs r.native.calls r.settings.setupCalls) ∧
    (i.Performs r.native.calls r.settings.setupCalls →
      (r.setup i).1.link.hook = some i.hook ∧
      (r.setup i).1.native.calls = r.native.calls ++ r.settings.setupCalls ++
        r.registry.enabled.map (.command <| .setBreak ·) ∧
      (∀ b, b ∈ r.registry.enabled ↔ (∃ l, r.registry.find? l = some b) ∧ b.enabled = true) ∧
      r.registry.enabled.Pairwise Breakpoint.Before ∧
      (i.hook = .direct → r.native.tracer = {} → ∀ f,
        (r.setup i).1.native.tracer.linesOf f = knownLines (r.registry.enabledOf f) ∧
        ∀ n p, (r.setup i).1.native.tracer.planted? f n = some p ↔
          ∃ b, r.registry.find? ⟨f, some n⟩ = some b ∧ b.enabled = true ∧
            p = ⟨b.condition, b.hitCount, b.temporary, 0⟩)) ∧
    ∀ ahead c behind e, r.settings.setupCalls = ahead ++ c :: behind →
      i.Performs r.native.calls ahead → i.failure? (r.native.calls ++ ahead) c = some e →
      (r.setup i).2 = .error (.setup (c.failureText e)) ∧
      (r.setup i).1.native.calls = r.native.calls ++ ahead ++ [c] ∧
      (∀ b, .command (.setBreak b) ∉ ahead ++ [c]) ∧
      (r.setup i).1.link = r.link ∧ (r.setup i).1.registry = r.registry := by
  have hs : r.registry.Sound := hr ▸ (Registry.coherent_after ops).toSound
  refine ⟨?outcome, ?through, ?failing⟩
  case outcome =>
    constructor
    · intro hok
      rcases i.performs_or r.native.calls r.settings.setupCalls with
        h | ⟨ahead, c, behind, e, hsplit, hahead, hc⟩
      · exact h
      · obtain ⟨native, -, hsetup⟩ := setup_of_failure hsplit hahead hc
        rw [hsetup] at hok
        cases hok
    · intro h
      exact (setup_of_performs h).1
  case through =>
    intro h
    obtain ⟨-, hhook, hcalls⟩ := setup_of_performs h
    refine ⟨hhook, hcalls, fun b => Registry.mem_enabled_iff, hs.pairwise_values.filter _, ?_⟩
    intro hi hnew f
    obtain rfl : i = .direct := eq_direct_of_performs h hi
    have hplanted := planted?_setup hs hnew f
    constructor
    · refine Tracer.linesOf_eq hs fun n => ?_
      rw [hplanted, Option.isSome_map]
    · intro n p
      rw [hplanted, Option.map_eq_some_iff]
      constructor
      · rintro ⟨b, hb, rfl⟩
        obtain ⟨hfind, henabled⟩ := Registry.wanted?_eq_some_iff.1 hb
        exact ⟨b, hfind, henabled, rfl⟩
      · rintro ⟨b, hfind, henabled, rfl⟩
        exact ⟨b, Registry.wanted?_eq_some_iff.2 ⟨hfind, henabled⟩, rfl⟩
  case failing =>
    intro ahead c behind e hsplit hahead hc
    obtain ⟨native, hcalls, hsetup⟩ := setup_of_failure hsplit hahead hc
    have hunset : ∀ b, .command (.setBreak b) ∉ ahead ++ [c] := by
      intro b hmem
      have hin : .command (.setBreak b) ∈ r.settings.setupCalls := by
        rw [hsplit, List.append_cons]
        exact List.mem_append_left _ hmem
      simpa [DebuggerSettings.startCommands] using mem_setupCalls_iff.1 hin
    rw [hsetup]
    exact ⟨rfl, hcalls, hunset, rfl, rfl⟩

/-! ## A debugger that is told and one that is not -/

/-- A relay with a breakpoint without a line, one at line 10 and a disabled one. -/
def sampleFilled : Relay := { started sampleParts with registry := Registry.empty.after sampleOps }

/-- An interpreter whose debugger does not learn about loaded files. -/
def sampleDeaf : Interpreter :=
  ⟨none, none, none, true, fun _ c =>
    if c = .suspendOnScriptLoad false then some (.io "busy") else none⟩

/-- The tracer stops at line 10 once it is installed. The other debugger is asked to accept the
relay and gets two commands, the second of which ends the setup. -/
theorem setup_sampleFilled :
    (sampleFilled.setup .direct).2 = .ok () ∧
    (sampleFilled.setup .direct).1.native.tracer.linesOf sampleFile = [10] ∧
    (sampleFilled.setup sampleDeaf).2 =
      .error (.setup "set_suspend_on_script_load failed: IO error: busy") ∧
    (sampleFilled.setup sampleDeaf).1.native.calls =
      sampleFilled.native.calls ++ sampleFilled.settings.setupCalls := by
  obtain ⟨hok, hthrough, -⟩ := setup_exact sampleOps sampleFilled .direct rfl
  obtain ⟨-, -, hfailing⟩ := setup_exact sampleOps sampleFilled sampleDeaf rfl
  have hall : Interpreter.direct.Performs sampleFilled.native.calls
      sampleFilled.settings.setupCalls :=
    ⟨rfl, rfl, rfl, rfl, rfl, trivial⟩
  obtain ⟨-, -, -, -, htable⟩ := hthrough hall
  obtain ⟨herror, hcalls, -⟩ := hfailing (sampleFilled.settings.setupCalls.take 4)
    (.command (.suspendOnScriptLoad false)) [] (.io "busy") rfl
    ⟨rfl, rfl, rfl, rfl, trivial⟩ rfl
  refine ⟨hok.2 hall, ?_, herror.trans (by decide), hcalls.trans rfl⟩
  exact (htable rfl rfl sampleFile).1.trans (by cbv)

end Relay

end DebugRelay
