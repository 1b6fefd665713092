import DebugRelay.Proofs.Relay.Effects

/-!
# Installing a debugger

A setup fails before it sends a command, or while it configures the debugger, or it installs the
debugger and sets its breakpoints (`setup_cases`). It sends commands exactly if the interpreter
hands over its debugger (`commands_setup`), and installs it or leaves the link alone
(`link_setup`).
-/

namespace DebugRelay

/-- The command, if the call is one. -/
def Call.command? : Call → Option Command
  | command c => some c
  | _ => none

/-- The interpreter hands over its debugger, which accepts the relay; commands are sent then. -/
def Interpreter.HandsOver (i : Interpreter) : Prop :=
  i.searchPathError = none ∧ i.loadError = none ∧ i.attachError = none

namespace Native

/-- Whether attaching works is up to the interpreter. -/
theorem attach_snd (n : Native) (i : Interpreter) :
    (n.attach i).2 =
      match i.attachError with
      | some e => .error e
      | none => .ok () := by
  unfold attach
  cases i.attachError with
  | some e => rfl
  | none => cases i.hook.traced <;> rfl

end Native

namespace Relay

variable {r s : Relay} {events : List Event}

/-! ## The stages of a setup -/

theorem invokeAll_cons_eq (r : Relay) (h : Hook) (c : Command) (rest : List Command) :
    (∃ e, r.invokeAll h (c :: rest) =
      ({ r with native := (r.native.invoke h c).1 }, .error e)) ∨
    r.invokeAll h (c :: rest) =
      { r with native := (r.native.invoke h c).1 }.invokeAll h rest := by
  rw [invokeAll]
  cases r.native.invoke h c with
  | mk native result =>
    cases result with
    | ok _ => exact Or.inr rfl
    | error e => exact Or.inl ⟨_, rfl⟩

theorem effect_invokeAll (r : Relay) (h : Hook) (cs : List Command) :
    r.Effect (r.invokeAll h cs).1 [] ∧ (r.invokeAll h cs).1.link = r.link := by
  induction cs generalizing r with
  | nil => exact ⟨(Steady.refl r).toEffect, rfl⟩
  | cons c rest ih =>
    have hfirst : r.Effect { r with native := (r.native.invoke h c).1 } [] := by
      refine effect_of_eq ?_ fun hq => Native.quitting_invoke hq h c
      rw [Native.calls_invoke]
      exact List.prefix_append _ _
    rcases r.invokeAll_cons_eq h c rest with ⟨e, heq⟩ | heq
    · rw [heq]
      exact ⟨hfirst, rfl⟩
    · rw [heq]
      obtain ⟨hrest, hlink⟩ := ih { r with native := (r.native.invoke h c).1 }
      exact ⟨hfirst.trans hrest, hlink⟩

/-- The relay within a setup, once the debugger was asked to report to it. -/
def reported (r : Relay) (i : Interpreter) : Relay :=
  let s := (r.call (.searchPath r.settings.supportDir)).call
    (.loadDebugger (Path.join r.settings.supportDir r.settings.setupScript))
  { s with native := (s.native.attach i).1 }

/-- The relay within a setup, once the debugger was configured or refused to be. -/
def configured (r : Relay) (i : Interpreter) : Relay :=
  ((r.reported i).invokeAll i.hook r.settings.startCommands).1

/-- The relay within a setup, once the debugger counts as installed. -/
def equipped (r : Relay) (i : Interpreter) : Relay :=
  { r.configured i with link := { (r.configured i).link with hook := some i.hook } }

theorem reported_eq (r : Relay) (i : Interpreter) :
    ∃ observed calls, r.reported i = { r with
      native := ⟨{ r.native.tracer with observed := observed }, r.native.calls ++ calls⟩ } ∧
      calls.filterMap Call.command? = [] := by
  let calls : List Call := [.searchPath r.settings.supportDir,
    .loadDebugger (Path.join r.settings.supportDir r.settings.setupScript), .attach]
  unfold reported Native.attach
  cases i.attachError with
  | some e => exact ⟨r.native.tracer.observed, calls, by simp [call, Native.record, calls], rfl⟩
  | none =>
    cases i.hook.traced with
    | false => exact ⟨r.native.tracer.observed, calls, by simp [call, Native.record, calls], rfl⟩
    | true => exact ⟨true, calls, by simp [call, Native.record, calls], rfl⟩

theorem effect_reported (r : Relay) (i : Interpreter) : r.Effect (r.reported i) [] := by
  obtain ⟨observed, calls, heq, -⟩ := r.reported_eq i
  rw [heq]
  exact effect_of_eq (List.prefix_append _ _) id

theorem effect_configured (r : Relay) (i : Interpreter) :
    r.Effect (r.configured i) [] ∧ (r.configured i).link = r.link := by
  obtain ⟨hinvoked, hlink⟩ := (r.reported i).effect_invokeAll i.hook r.settings.startCommands
  refine ⟨(r.effect_reported i).trans hinvoked, hlink.trans ?_⟩
  obtain ⟨observed, calls, heq, -⟩ := r.reported_eq i
  rw [heq]

/-- A setup fails before any command is sent, or while the debugger is configured, or it installs
the debugger and sets the breakpoints. -/
theorem setup_cases (r : Relay) (i : Interpreter) :
    (¬ i.HandsOver ∧ ∃ calls e, r.setup i =
      ({ r with native := { r.native with calls := r.native.calls ++ calls } }, .error e) ∧
      calls.filterMap Call.command? = []) ∨
    (i.HandsOver ∧ ∃ e, r.setup i = (r.configured i, .error e)) ∨
    (i.HandsOver ∧ r.setup i = ((r.equipped i).installAll.1, .ok ())) := by
  let script := Path.join r.settings.supportDir r.settings.setupScript
  cases hs : i.searchPathError with
  | some e =>
    refine Or.inl ⟨fun h => by simp [Interpreter.HandsOver, hs] at h,
      [.searchPath r.settings.supportDir], .setup ("cannot extend search path: " ++ e.message), ?_,
      rfl⟩
    simp only [setup, hs]
    rfl
  | none =>
    cases hl : i.loadError with
    | some e =>
      refine Or.inl ⟨fun h => by simp [Interpreter.HandsOver, hl] at h,
        [.searchPath r.settings.supportDir, .loadDebugger script],
        .setup ("failed to execute " ++ script ++ ": " ++ e.message), ?_, rfl⟩
      simp [setup, hs, hl, call, Native.record, script]
    | none =>
      cases ha : i.attachError with
      | some e =>
        refine Or.inl ⟨fun h => by simp [Interpreter.HandsOver, ha] at h,
          [.searchPath r.settings.supportDir, .loadDebugger script, .attach],
          .setup ("cannot register debugger: " ++ e.message), ?_, rfl⟩
        simp [setup, hs, hl, Native.attach, ha, call, Native.record, script]
      | none =>
        have hover : i.HandsOver := ⟨hs, hl, ha⟩
        have hattach : ∀ n : Native, n.attach i = ((n.attach i).1, .ok ()) := by
          intro n
          unfold Native.attach
          rw [ha]
          cases i.hook.traced <;> rfl
        refine Or.inr ?_
        generalize hp : r.setup i = p
        simp only [setup, hs, hl] at hp
        rw [hattach] at hp
        simp only at hp
        split at hp
        · next s e h =>
          have hc : (r.reported i).invokeAll i.hook r.settings.startCommands = (s, .error e) := h
          exact Or.inl ⟨hover, e, by rw [← hp, configured, hc]⟩
        · next s h =>
          have hc : (r.reported i).invokeAll i.hook r.settings.startCommands = (s, .ok ()) := h
          exact Or.inr ⟨hover, by rw [← hp, equipped, configured, hc]⟩

/-- The end of a setup, after the debugger was configured or refused to be. -/
def finishSetup (i : Interpreter) : Relay × Except Error Unit → Relay × Except Error Unit
  | (r, .error e) => (r, .error e)
  | (r, .ok ()) => ({ r with link := { r.link with hook := some i.hook } }.installAll.1, .ok ())

/-- How far a setup gets depends on the interpreter alone, up to the debugger's configuration. -/
theorem setup_fst (r : Relay) (i : Interpreter) :
    (r.setup i).1 =
      match i.searchPathError, i.loadError, i.attachError with
      | some _, _, _ => r.call (.searchPath r.settings.supportDir)
      | none, some _, _ => (r.call (.searchPath r.settings.supportDir)).call
          (.loadDebugger (Path.join r.settings.supportDir r.settings.setupScript))
      | none, none, some _ => r.reported i
      | none, none, none =>
        (finishSetup i ((r.reported i).invokeAll i.hook r.settings.startCommands)).1 := by
  unfold setup
  cases i.searchPathError with
  | some e => rfl
  | none =>
    cases i.loadError with
    | some e => rfl
    | none =>
      simp only [Native.attach_snd]
      cases i.attachError with
      | some e => rfl
      | none => rfl

theorem effect_setup (r : Relay) (i : Interpreter) : r.Effect (r.setup i).1 [] := by
  rcases r.setup_cases i with ⟨-, calls, e, heq, -⟩ | ⟨-, e, heq⟩ | ⟨-, heq⟩
  · rw [heq]
    exact effect_of_eq (List.prefix_append _ _) id
  · rw [heq]
    exact (r.effect_configured i).1
  · rw [heq]
    have hequipped : (r.configured i).Effect (r.equipped i) [] := effect_of_eq List.prefix_rfl id
    exact ((r.effect_configured i).1.trans hequipped).trans (steady_setBreakpoints _ _).toEffect

/-- A setup installs the debugger, or fails and leaves the link as it was. -/
theorem link_setup (r : Relay) (i : Interpreter) :
    ((r.setup i).2 = .ok () ∧ (r.setup i).1.link.hook = some i.hook) ∨
    ∃ e, (r.setup i).2 = .error e ∧ (r.setup i).1.link = r.link := by
  rcases r.setup_cases i with ⟨-, calls, e, heq, -⟩ | ⟨-, e, heq⟩ | ⟨-, heq⟩
  · rw [heq]
    exact Or.inr ⟨e, rfl, rfl⟩
  · rw [heq]
    exact Or.inr ⟨e, rfl, (r.effect_configured i).2⟩
  · rw [heq]
    exact Or.inl ⟨rfl, congrArg Link.hook ((r.equipped i).link_setBreakpoints _)⟩

theorem handsOver_of_setup {i : Interpreter} (h : (r.setup i).2 = .ok ()) : i.HandsOver := by
  rcases r.setup_cases i with ⟨-, calls, e, heq, -⟩ | ⟨-, e, heq⟩ | ⟨hover, -⟩
  · simp [heq] at h
  · simp [heq] at h
  · exact hover

/-! ## The commands of a setup -/

/-- The commands sent so far. -/
def commands (r : Relay) : List Command := r.native.calls.filterMap Call.command?

theorem Grows.commands (h : r.Grows s) : r.commands <+: s.commands :=
  h.calls.filterMap _

theorem commands_native_invoke (r : Relay) (h : Hook) (c : Command) :
    ({ r with native := (r.native.invoke h c).1 } : Relay).commands = r.commands ++ [c] := by
  simp only [Relay.commands, Native.calls_invoke, List.filterMap_append]
  rfl

theorem length_commands_configured (r : Relay) (i : Interpreter) :
    r.commands.length < (r.configured i).commands.length := by
  obtain ⟨observed, calls, heq, hnone⟩ := r.reported_eq i
  have hreported : (r.reported i).commands = r.commands := by
    simp [heq, Relay.commands, hnone]
  let c : Command := .suspendOnStartup r.settings.suspendOnStartup
  let first : Relay := { r.reported i with native := ((r.reported i).native.invoke i.hook c).1 }
  -- the first command is sent whether or not it is refused, and none is taken back
  have hprefix : first.commands <+: (r.configured i).commands := by
    rw [configured, DebuggerSettings.startCommands]
    rcases (r.reported i).invokeAll_cons_eq i.hook c
      [.suspendOnScriptLoad r.settings.suspendOnScriptLoad] with ⟨e, hall⟩ | hall
    · exact hall ▸ List.prefix_rfl
    · rw [hall]
      exact (effect_invokeAll _ _ _).1.commands
  calc r.commands.length < (r.commands ++ [c]).length := by simp
    _ = first.commands.length := by rw [commands_native_invoke, hreported]
    _ ≤ (r.configured i).commands.length := hprefix.length_le

/-- A setup sends commands exactly if the interpreter hands over its debugger. -/
theorem commands_setup (r : Relay) (i : Interpreter) :
    (r.setup i).1.commands = r.commands ↔ ¬ i.HandsOver := by
  have hmore : (r.configured i).commands <+: (r.setup i).1.commands →
      (r.setup i).1.commands ≠ r.commands := by
    intro hprefix hsame
    have hlt := r.length_commands_configured i
    have hle := hprefix.length_le
    rw [hsame] at hle
    omega
  rcases r.setup_cases i with ⟨hover, calls, e, heq, hnone⟩ | ⟨hover, e, heq⟩ | ⟨hover, heq⟩
  · refine iff_of_true ?_ hover
    simp [heq, Relay.commands, hnone]
  · refine iff_of_false (hmore ?_) (not_not.2 hover)
    exact heq ▸ List.prefix_rfl
  · refine iff_of_false (hmore ?_) (not_not.2 hover)
    rw [heq]
    exact ((r.equipped i).steady_setBreakpoints _).commands

end Relay

end DebugRelay
