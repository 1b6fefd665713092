import DebugRelay.Proofs.Tracer.Quitting

/-!
# Acts on a tracer

`Tracer.Act` is what the engine, the listener and the senders of commands can do to a tracer in one
step, and `Tracer.after` is the tracer after a list of acts. Each kind of act is described once by
what it changes: a command releases the parked thread, asks to quit, or sets something else
(`invoke_cases`), a line leaves the thread going or parks it (`line_eq_of_passed`,
`line_eq_of_stopped`), and a parked thread stays, quits or goes on (`wake?_cases`).
-/

namespace DebugRelay

namespace Command

/-- The mode in which a command lets a thread go on that is parked at a depth, if the command lets
threads go on. -/
def mode? (depth : Nat) : Command → Option Tracer.Mode
  | stepInto => some .into
  | stepOver => some (.atOrAbove depth)
  | stepOut => some (.above depth)
  | continue_ => some .free
  | _ => none

/-- The command lets a parked thread go on. -/
def isRelease : Command → Bool
  | stepInto | stepOver | stepOut | continue_ => true
  | _ => false

/-- The command is about something else than the parked thread. -/
def isAside : Command → Bool
  | suspendOnStartup _ | suspendOnScriptLoad _ | setBreak _ | clearFile _ => true
  | _ => false

theorem isSome_mode? (c : Command) (depth : Nat) : (c.mode? depth).isSome = c.isRelease := by
  cases c <;> rfl

theorem isRelease_of_mode? {c : Command} {depth : Nat} {mode : Tracer.Mode}
    (h : c.mode? depth = some mode) : c.isRelease = true := by
  rw [← c.isSome_mode? depth, h]
  rfl

theorem exists_mode? {c : Command} (h : c.isRelease = true) (depth : Nat) :
    ∃ mode, c.mode? depth = some mode := by
  rw [← c.isSome_mode? depth] at h
  exact Option.isSome_iff_exists.1 h

end Command

namespace Tracer

/-- Something that is done to a tracer in one step. -/
inductive Act where
  /-- Someone listens from now on. -/
  | attach
  | command (c : Command)
  /-- The engine reports. -/
  | report (p : Report)
  /-- The parked thread goes on, if it may. -/
  | proceed

/-- The tracer after an act. -/
def act (t : Tracer) : Act → Tracer
  | .attach => { t with observed := true }
  | .command c => (t.invoke c).1
  | .report (.enter f) => (t.enter f).1
  | .report .leave => t.leave
  | .report (.line stack) => (t.line stack).1
  | .proceed =>
    match t.wake? with
    | some (woken, _) => woken
    | none => t

/-- The tracer after a list of acts, the first of them done first. -/
def after (t : Tracer) (acts : List Act) : Tracer := acts.foldl act t

@[simp]
theorem after_nil (t : Tracer) : t.after [] = t := rfl

@[simp]
theorem after_cons (t : Tracer) (a : Act) (acts : List Act) :
    t.after (a :: acts) = (t.act a).after acts := rfl

theorem after_append (t : Tracer) (acts more : List Act) :
    t.after (acts ++ more) = (t.after acts).after more :=
  List.foldl_append

/-! ## What an act changes -/

/-- A command releases the parked thread, asks to quit, or sets something else. -/
theorem invoke_cases (t : Tracer) (c : Command) :
    (∃ mode, c.mode? t.depth = some mode ∧ (t.invoke c).1 = t.releaseIn mode) ∨
    (c = .quit ∧ (t.invoke c).1 = { t with quitting := true }) ∨
    (c.isAside = true ∧ ∃ start load table, (t.invoke c).1 =
      { t with stopsAtStart := start, stopsAtLoad := load, table := table }) := by
  cases c with
  | suspendOnStartup enabled => exact Or.inr (Or.inr ⟨rfl, enabled, _, _, rfl⟩)
  | suspendOnScriptLoad enabled => exact Or.inr (Or.inr ⟨rfl, _, enabled, _, rfl⟩)
  | setBreak b =>
    obtain ⟨table, heq⟩ := Relay.plantAll_eq t [b]
    exact Or.inr (Or.inr ⟨rfl, _, _, table, (t.invoke_setBreak b).trans heq⟩)
  | clearFile f => exact Or.inr (Or.inr ⟨rfl, _, _, _, rfl⟩)
  | stepInto => exact Or.inl ⟨_, rfl, rfl⟩
  | stepOver => exact Or.inl ⟨_, rfl, rfl⟩
  | stepOut => exact Or.inl ⟨_, rfl, rfl⟩
  | continue_ => exact Or.inl ⟨_, rfl, rfl⟩
  | quit => exact Or.inr (Or.inl ⟨rfl, rfl⟩)

/-- No command touches the depth, the mode in which the thread goes, or the mark of a stop. -/
theorem invoke_eq (t : Tracer) (c : Command) :
    ∃ start load table release quitting, (t.invoke c).1 =
      { t with
        stopsAtStart := start
        stopsAtLoad := load
        table := table
        release := release
        quitting := quitting } := by
  rcases t.invoke_cases c with ⟨mode, -, heq⟩ | ⟨-, heq⟩ | ⟨-, start, load, table, heq⟩
  · obtain ⟨release, hrelease⟩ := t.releaseIn_eq mode
    exact ⟨_, _, _, release, _, heq.trans hrelease⟩
  · exact ⟨_, _, _, _, true, heq⟩
  · exact ⟨start, load, table, _, _, heq⟩

theorem invoke_of_mode? {t : Tracer} {c : Command} {mode : Mode}
    (h : c.mode? t.depth = some mode) : (t.invoke c).1 = t.releaseIn mode := by
  rcases t.invoke_cases c with ⟨mode', hmode', heq⟩ | ⟨rfl, -⟩ | ⟨haside, -⟩
  · rw [heq, Option.some.inj (h.symm.trans hmode')]
  · simp [Command.mode?] at h
  · cases c <;> simp [Command.mode?, Command.isAside] at h haside

/-- A release that comes while no thread is parked changes nothing. -/
theorem invoke_of_not_suspended {t : Tracer} {c : Command} (hfree : t.suspended = false)
    (hc : c.isRelease = true) : (t.invoke c).1 = t := by
  obtain ⟨mode, hmode⟩ := Command.exists_mode? hc t.depth
  rw [invoke_of_mode? hmode, releaseIn, hfree]
  rfl

/-- A command about something else leaves the parked thread alone. -/
theorem invoke_of_isAside {t : Tracer} {c : Command} (hc : c.isAside = true) :
    ∃ start load table, (t.invoke c).1 =
      { t with stopsAtStart := start, stopsAtLoad := load, table := table } := by
  rcases t.invoke_cases c with ⟨mode, hmode, -⟩ | ⟨rfl, -⟩ | ⟨-, haside⟩
  · cases c <;> simp [Command.mode?, Command.isAside] at hmode hc
  · simp [Command.isAside] at hc
  · exact haside

theorem line_eq_of_passed {t : Tracer} {stack : List Frame} {outcome : Outcome}
    (h : (t.line stack).2 = .passed outcome) :
    ∃ table first load, (t.line stack).1 =
      { t with table := table, atFirstLine := first, loadPending := load } := by
  rcases t.line_cases stack with
    ⟨hl, -⟩ | ⟨hl, -⟩ | ⟨f, n, -, -, ⟨hl, -⟩ | ⟨reason, -, hl⟩⟩
  · exact ⟨t.table, t.atFirstLine, t.loadPending, by rw [hl]⟩
  · exact ⟨t.table, t.atFirstLine, t.loadPending, by rw [hl]⟩
  · obtain ⟨table, first, load, hr⟩ := t.reason_eq f n
    exact ⟨table, first, load, by rw [hl, hr]⟩
  · simp [hl] at h

theorem line_eq_of_stopped {t : Tracer} {stack : List Frame} {reason : StopReason}
    (h : (t.line stack).2 = .stopped reason) :
    t.quitting = false ∧ ∃ table first load, (t.line stack).1 =
      { t with
        table := table
        atFirstLine := first
        loadPending := load
        suspended := true
        release := none
        mode := .free } := by
  rcases t.line_cases stack with
    ⟨hl, -⟩ | ⟨hl, -⟩ | ⟨f, n, -, hquit, ⟨hl, -⟩ | ⟨reason, -, hl⟩⟩
  · simp [hl] at h
  · simp [hl] at h
  · simp [hl] at h
  · obtain ⟨table, first, load, hr⟩ := t.reason_eq f n
    exact ⟨hquit, table, first, load, by rw [hl, hr]⟩

/-- A report of the engine stops the thread at a line, or leaves it going as it was. -/
theorem report_cases (t : Tracer) (p : Report) :
    (∃ stack reason, p = .line stack ∧ (t.line stack).2 = .stopped reason) ∨
    ((∀ stack reason, p = .line stack → (t.line stack).2 ≠ .stopped reason) ∧
      ∃ table first current load depth, t.act (.report p) =
        { t with
          table := table
          atFirstLine := first
          currentFile := current
          loadPending := load
          depth := depth }) := by
  cases p with
  | enter f =>
    obtain ⟨current, load, heq, -⟩ := Relay.tracer_enter_eq t f
    exact Or.inr ⟨by simp, _, _, current, load, _, heq⟩
  | leave => exact Or.inr ⟨by simp, _, _, _, _, t.depth - 1, rfl⟩
  | line stack =>
    cases hline : (t.line stack).2 with
    | passed outcome =>
      obtain ⟨table, first, load, heq⟩ := line_eq_of_passed hline
      refine Or.inr ⟨?_, table, first, _, load, _, heq⟩
      intro stack' reason hsame hstop
      obtain rfl := Report.line.inj hsame
      simp [hline] at hstop
    | stopped reason => exact Or.inl ⟨stack, reason, rfl, hline⟩

theorem wake?_of_release {t : Tracer} {mode : Mode} (hquit : t.quitting = false)
    (h : t.release = some mode) :
    t.wake? = some ({ t with suspended := false, release := none, mode := mode },
      .continue_) := by
  simp [wake?, hquit, h]

/-- A parked thread stays where it is, quits, or goes on in the mode of its release. -/
theorem wake?_cases (t : Tracer) :
    (t.wake? = none ∧ t.quitting = false ∧ t.release = none) ∨
    (t.quitting = true ∧ t.wake? = some ({ t with suspended := false }, .quit)) ∨
    ∃ mode, t.quitting = false ∧ t.release = some mode ∧
      t.wake? = some ({ t with suspended := false, release := none, mode := mode },
        .continue_) := by
  by_cases hquit : t.quitting = true
  · exact Or.inr (Or.inl ⟨hquit, wake?_of_quitting hquit⟩)
  · rw [Bool.not_eq_true] at hquit
    cases hrelease : t.release with
    | none => exact Or.inl ⟨by simp [wake?, hquit, hrelease], hquit, rfl⟩
    | some mode =>
      exact Or.inr (Or.inr ⟨mode, hquit, rfl, wake?_of_release hquit hrelease⟩)

/-- What a thread changes when it goes on is about its stop alone. -/
theorem act_proceed_eq (t : Tracer) :
    ∃ suspended release mode, t.act .proceed =
      { t with suspended := suspended, release := release, mode := mode } := by
  rcases t.wake?_cases with ⟨heq, -⟩ | ⟨-, heq⟩ | ⟨mode, -, -, heq⟩
  · exact ⟨_, _, _, by rw [act, heq]⟩
  · exact ⟨false, _, _, by rw [act, heq]⟩
  · exact ⟨false, none, mode, by rw [act, heq]⟩

/-- The mode of its release is all that a released thread needs. -/
theorem act_proceed_of_release {t : Tracer} {mode : Mode} (hquit : t.quitting = false)
    (h : t.release = some mode) :
    t.act .proceed = { t with suspended := false, release := none, mode := mode } := by
  rw [act, wake?_of_release hquit h]

/-! ## Depths -/

/-- The depth after an act: one more after a frame was entered, and one less after one was left, but
never less than none. -/
def Act.depthAfter (depth : Nat) : Act → Nat
  | .report (.enter _) => depth + 1
  | .report .leave => depth - 1
  | _ => depth

/-- The depth after a list of acts. -/
def depthAfter (depth : Nat) (acts : List Act) : Nat := acts.foldl Act.depthAfter depth

theorem depth_act (t : Tracer) (a : Act) : (t.act a).depth = a.depthAfter t.depth := by
  cases a with
  | attach => rfl
  | command c =>
    obtain ⟨start, load, table, release, quitting, heq⟩ := t.invoke_eq c
    change (t.invoke c).1.depth = t.depth
    rw [heq]
  | report p =>
    cases p with
    | enter f =>
      obtain ⟨current, load, heq, -⟩ := Relay.tracer_enter_eq t f
      exact congrArg depth heq
    | leave => rfl
    | line stack =>
      change (t.line stack).1.depth = t.depth
      cases hline : (t.line stack).2 with
      | passed outcome =>
        obtain ⟨table, first, load, heq⟩ := line_eq_of_passed hline
        rw [heq]
      | stopped reason =>
        obtain ⟨-, table, first, load, heq⟩ := line_eq_of_stopped hline
        rw [heq]
  | proceed =>
    obtain ⟨suspended, release, mode, heq⟩ := t.act_proceed_eq
    rw [heq]
    rfl

/-- The depth is that of the entered and left frames, whatever else is done. -/
theorem depth_after (t : Tracer) (acts : List Act) :
    (t.after acts).depth = depthAfter t.depth acts := by
  induction acts generalizing t with
  | nil => rfl
  | cons a rest ih =>
    rw [after_cons, ih, depth_act]
    rfl

end Tracer

end DebugRelay
