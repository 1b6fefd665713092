import Mathlib
import DebugRelay.Proofs.Tracer.Acts

/-!
# Where a step ends

A tracer is *parked* while its thread is in a stop (`Parked`), and *going* in a mode after the
thread was released in it (`Going`). No act but a stop or a request to quit changes that mode, so a
counted line at which nothing else stops the thread stops it exactly if the step ends at the depth
there. `Parked.stops_where_step_ends` says so for every command that releases the thread and every
run up to the next stop, after which the tracer is parked again and nothing is left of the step.
-/

namespace DebugRelay

/-- The step that a command asks for at a depth ends at another depth. Going on ends nowhere. -/
def Command.EndsAt (c : Command) (start depth : Nat) : Prop :=
  match c with
  | stepInto => True
  | stepOver => depth ≤ start
  | stepOut => depth < start
  | _ => False

namespace Tracer

/-- A line counts that is a line of a file, which the engine is about to run. -/
def Counts (stack : List Frame) : Prop :=
  ∃ frame rest, stack = frame :: rest ∧ 1 ≤ frame.line ∧ frame.script.file?.isSome

theorem counts_iff (stack : List Frame) : Counts stack ↔ (top? stack).isSome := by
  cases stack with
  | nil => simp [Counts, top?]
  | cons frame rest =>
    have hline : 1 ≤ frame.line ↔ ¬ frame.line < 1 := UInt32.not_lt.symm
    rw [top?]
    split
    · next h => simp [Counts, hline, h]
    · next h => simp [Counts, hline, h]

/-- The thread is in a stop, and the script shall not be aborted. -/
structure Parked (t : Tracer) : Prop where
  suspended : t.suspended = true
  willing : t.quitting = false

/-- The thread runs in a mode, and nothing is left of its latest release. -/
structure Going (t : Tracer) (mode : Mode) : Prop where
  mode : t.mode = mode
  free : t.suspended = false
  release : t.release = none
  willing : t.quitting = false

/-- An act is no stop and no request to quit. -/
def Lets (t : Tracer) : Act → Prop
  | .report (.line stack) => (t.line stack).2 = .passed .continue_
  | .command .quit => False
  | _ => True

/-- There is no stop and no request to quit in a list of acts. -/
def Passes (t : Tracer) : List Act → Prop
  | [] => True
  | a :: rest => t.Lets a ∧ (t.act a).Passes rest

/-- The act is neither the engine's nor about the parked thread. -/
def Act.isAside : Act → Bool
  | .attach => true
  | .command c => c.isAside
  | _ => false

variable {t : Tracer} {mode : Mode} {c : Command}

/-! ## Going in a mode -/

theorem Going.report (h : t.Going mode) {p : Report} (hp : t.Lets (.report p)) :
    (t.act (.report p)).Going mode := by
  rcases t.report_cases p with ⟨stack, reason, rfl, hstop⟩ | ⟨-, _, _, _, _, _, heq⟩
  · have hpassed : (t.line stack).2 = .passed .continue_ := hp
    rw [hstop] at hpassed
    simp at hpassed
  · rw [heq]
    exact ⟨h.mode, h.free, h.release, h.willing⟩

/-- A thread that is not parked cannot be released, so no command but a request to quit reaches
it. -/
theorem Going.command (h : t.Going mode) (hc : t.Lets (.command c)) :
    (t.act (.command c)).Going mode := by
  change (t.invoke c).1.Going mode
  rcases t.invoke_cases c with ⟨_, hmode, -⟩ | ⟨rfl, -⟩ | ⟨-, start, load, table, heq⟩
  · rw [invoke_of_not_suspended h.free (Command.isRelease_of_mode? hmode)]
    exact h
  · exact hc.elim
  · rw [heq]
    exact ⟨h.mode, h.free, h.release, h.willing⟩

theorem Going.act (h : t.Going mode) {a : Act} (ha : t.Lets a) : (t.act a).Going mode := by
  cases a with
  | attach => exact ⟨h.mode, h.free, h.release, h.willing⟩
  | command c => exact h.command ha
  | report p => exact h.report ha
  | proceed =>
    have hwake : t.wake? = none := by simp [wake?, h.willing, h.release]
    rw [Tracer.act, hwake]
    exact h

theorem Going.after (h : t.Going mode) {acts : List Act} (ha : t.Passes acts) :
    (t.after acts).Going mode := by
  induction acts generalizing t with
  | nil => exact h
  | cons a rest ih => exact ih (h.act ha.1) ha.2

/-! ## Ends of a step -/

theorem stepEnds_iff {depth : Nat} (hc : c.mode? depth = some t.mode) :
    t.stepEnds = true ↔ c.EndsAt depth t.depth := by
  cases c with
  | stepInto =>
    have hmode : t.mode = .into := (Option.some.inj hc).symm
    simp [stepEnds, hmode, Command.EndsAt]
  | stepOver =>
    have hmode : t.mode = .atOrAbove depth := (Option.some.inj hc).symm
    simp [stepEnds, hmode, Command.EndsAt]
  | stepOut =>
    have hmode : t.mode = .above depth := (Option.some.inj hc).symm
    simp [stepEnds, hmode, Command.EndsAt]
  | continue_ =>
    have hmode : t.mode = .free := (Option.some.inj hc).symm
    simp [stepEnds, hmode, Command.EndsAt]
  | suspendOnStartup enabled => simp [Command.mode?] at hc
  | suspendOnScriptLoad enabled => simp [Command.mode?] at hc
  | setBreak b => simp [Command.mode?] at hc
  | clearFile f => simp [Command.mode?] at hc
  | quit => simp [Command.mode?] at hc

/-- A line that is looked at for itself stops for a breakpoint, else where the step ends. -/
theorem reasonHere_snd_eq (t : Tracer) (f : SourceFile) (n : UInt32) :
    (t.reasonHere f n).2 =
      if (t.hit f n).2 then some .breakpoint else if t.stepEnds then some .stepEnd else none := by
  obtain ⟨table, heq⟩ := t.hit_eq f n
  have hends : (t.hit f n).1.stepEnds = t.stepEnds := by rw [heq, stepEnds, stepEnds]
  unfold reasonHere
  simp only [hends]
  split
  · rfl
  · split <;> rfl

/-- The search for a reason to stop finds one where the step ends, and finds the end of the step
nowhere else. -/
theorem reason_of_stepEnds (t : Tracer) (f : SourceFile) (n : UInt32) :
    (t.stepEnds = true → ∃ reason, (t.reason f n).2 = some reason) ∧
      ((t.reason f n).2 = some .stepEnd → t.stepEnds = true) := by
  obtain ⟨first, load, hr | hr | hr⟩ := t.reason_cases f n
  · rw [hr]
    exact ⟨fun _ => ⟨.startup, rfl⟩, fun h => by simp at h⟩
  · rw [hr]
    exact ⟨fun _ => ⟨.scriptLoad, rfl⟩, fun h => by simp at h⟩
  · have hsame : ({ t with atFirstLine := first, loadPending := load } : Tracer).stepEnds =
        t.stepEnds := rfl
    rw [hr, reasonHere_snd_eq, hsame]
    split
    · exact ⟨fun _ => ⟨.breakpoint, rfl⟩, fun h => by simp at h⟩
    · constructor
      · intro hends
        exact ⟨.stepEnd, by rw [if_pos hends]⟩
      · intro h
        by_contra hends
        rw [if_neg hends] at h
        simp at h

theorem line_of_stepEnds (hquit : t.quitting = false) {stack : List Frame} (hs : Counts stack) :
    (t.stepEnds = true → ∃ reason, (t.line stack).2 = .stopped reason) ∧
      ((t.line stack).2 = .stopped .stepEnd → t.stepEnds = true) := by
  obtain ⟨⟨f, n⟩, htop⟩ := Option.isSome_iff_exists.1 ((counts_iff stack).1 hs)
  obtain ⟨hstops, hends⟩ := t.reason_of_stepEnds f n
  simp only [t.line_eq_stopped_iff htop hquit]
  exact ⟨hstops, hends⟩

/-! ## From one stop to the next -/

/-- Two tracers agree on the parked thread, on where it is and on its release. -/
structure SameStop (t t' : Tracer) : Prop where
  depth : t'.depth = t.depth
  suspended : t'.suspended = t.suspended
  release : t'.release = t.release
  quitting : t'.quitting = t.quitting

theorem SameStop.trans {t t' t'' : Tracer} (h : t.SameStop t') (h' : t'.SameStop t'') :
    t.SameStop t'' where
  depth := h'.depth.trans h.depth
  suspended := h'.suspended.trans h.suspended
  release := h'.release.trans h.release
  quitting := h'.quitting.trans h.quitting

theorem sameStop_act (t : Tracer) {a : Act} (ha : a.isAside = true) : t.SameStop (t.act a) := by
  cases a with
  | attach => exact ⟨rfl, rfl, rfl, rfl⟩
  | command c =>
    obtain ⟨start, load, table, heq⟩ := invoke_of_isAside (t := t) ha
    change t.SameStop (t.invoke c).1
    rw [heq]
    exact ⟨rfl, rfl, rfl, rfl⟩
  | report p => simp [Act.isAside] at ha
  | proceed => simp [Act.isAside] at ha

/-- What is not about the parked thread leaves it alone. -/
theorem sameStop_after (t : Tracer) {waiting : List Act} (hw : ∀ a ∈ waiting, a.isAside = true) :
    t.SameStop (t.after waiting) := by
  induction waiting generalizing t with
  | nil => exact ⟨rfl, rfl, rfl, rfl⟩
  | cons a rest ih =>
    have hfirst := t.sameStop_act (hw a List.mem_cons_self)
    have hrest := ih (t.act a) fun a' ha' => hw a' (List.mem_cons_of_mem _ ha')
    exact hfirst.trans hrest

/-- A released thread goes on in the mode of its release, at the depth of its stop. -/
theorem Parked.going (h : t.Parked) (hc : c.mode? t.depth = some mode) {waiting : List Act}
    (hw : ∀ a ∈ waiting, a.isAside = true) :
    (t.after (.command c :: waiting ++ [.proceed])).Going mode ∧
      (t.after (.command c :: waiting ++ [.proceed])).depth = t.depth := by
  let released : Tracer := { t with release := some mode }
  have hreleased : t.act (.command c) = released := by
    change (t.invoke c).1 = _
    rw [invoke_of_mode? hc, releaseIn, if_pos h.suspended]
  -- the command is all that the thread finds when it wakes
  have hsame := released.sameStop_after hw
  have hwoken := act_proceed_of_release (hsame.quitting.trans h.willing) hsame.release
  have hafter : t.after (.command c :: waiting ++ [.proceed]) =
      (released.after waiting).act .proceed := by
    rw [after_append, after_cons, after_nil, after_cons, hreleased]
  rw [hafter, hwoken]
  exact ⟨⟨rfl, rfl, rfl, hsame.quitting.trans h.willing⟩, hsame.depth⟩

/-- From a stop, a command that lets the thread go on, with other things done until the thread
wakes, and a run without a stop and without a request to quit, a counted line stops if the step ends
at the depth there, and no line stops as the end of the step elsewhere. The depth is that of the
stop with the frames counted that were entered and left since. Whatever a line stops for, the tracer
is parked again at that depth, and nothing is left of the step. -/
theorem Parked.stops_where_step_ends (h : t.Parked) (hc : c.isRelease = true)
    {waiting acts : List Act} (hw : ∀ a ∈ waiting, a.isAside = true)
    (hp : (t.after (.command c :: waiting ++ [.proceed])).Passes acts) :
    let u := (t.after (.command c :: waiting ++ [.proceed])).after acts
    u.depth = depthAfter t.depth acts ∧
    ∀ stack, Counts stack →
      (c.EndsAt t.depth u.depth → ∃ reason, (u.line stack).2 = .stopped reason) ∧
      (¬ c.EndsAt t.depth u.depth → (u.line stack).2 ≠ .stopped .stepEnd) ∧
      ∀ reason, (u.line stack).2 = .stopped reason →
        (u.line stack).1.Parked ∧ (u.line stack).1.depth = u.depth ∧
          (u.line stack).1.mode = .free ∧ (u.line stack).1.release = none := by
  intro u
  obtain ⟨mode, hmode⟩ := Command.exists_mode? hc t.depth
  obtain ⟨hgoing, hdepth⟩ := h.going hmode hw
  have hu : u.Going mode := hgoing.after hp
  have hends : u.stepEnds = true ↔ c.EndsAt t.depth u.depth := stepEnds_iff (hu.mode ▸ hmode)
  refine ⟨?_, fun stack hs => ?_⟩
  · rw [depth_after, hdepth]
  · obtain ⟨hstops, hend⟩ := line_of_stepEnds hu.willing hs
    refine ⟨fun he => hstops (hends.2 he), fun he hstop => he (hends.1 (hend hstop)), ?_⟩
    intro reason hstop
    obtain ⟨-, table, first, load, heq⟩ := line_eq_of_stopped hstop
    rw [heq]
    exact ⟨⟨rfl, hu.willing⟩, rfl, rfl, rfl⟩

/-! ## A step over a call -/

/-- A stack at a line of a file. -/
def sampleAt (n : UInt32) : List Frame := [.ofFile .zero ⟨[]⟩ n ∅]

/-- A tracer that is parked at the first line of a file. -/
def sampleParked : Tracer :=
  ({} : Tracer).after
    [.command (.suspendOnStartup true), .report (.enter ⟨[]⟩), .report (.line (sampleAt 1))]

/-- A breakpoint that is set before the thread wakes. -/
def sampleWaiting : List Act := [.command (.setBreak (.atLine ⟨[]⟩ 7))]

/-- A function is called, runs a line and returns. -/
def sampleCall : List Act :=
  [.report (.enter ⟨[]⟩), .report (.line (sampleAt 10)), .report .leave]

/-- A step over a call ends at the line after it, back at the depth of the stop. -/
theorem stops_sampleCall :
    sampleParked.Parked ∧
    (sampleParked.after (.command .stepOver :: sampleWaiting ++ [.proceed])).Passes sampleCall ∧
    Counts (sampleAt 2) ∧
    ∃ reason, (((sampleParked.after (.command .stepOver :: sampleWaiting ++ [.proceed])).after
      sampleCall).line (sampleAt 2)).2 = .stopped reason := by
  have hparked : sampleParked.Parked := ⟨by cbv, by cbv⟩
  have hwaiting : ∀ a ∈ sampleWaiting, a.isAside = true := by
    simp [sampleWaiting, Act.isAside, Command.isAside]
  have hpasses : (sampleParked.after (.command .stepOver :: sampleWaiting ++ [.proceed])).Passes
      sampleCall := ⟨trivial, by cbv, trivial, trivial⟩
  have hcounts : Counts (sampleAt 2) := ⟨_, [], rfl, by decide, rfl⟩
  obtain ⟨hdepth, hlines⟩ :=
    hparked.stops_where_step_ends (c := .stepOver) rfl hwaiting hpasses
  have hd : depthAfter sampleParked.depth sampleCall = sampleParked.depth := by cbv
  obtain ⟨hends, -, -⟩ := hlines (sampleAt 2) hcounts
  exact ⟨hparked, hpasses, hcounts, hends (hdepth.trans hd).le⟩

end Tracer

end DebugRelay
