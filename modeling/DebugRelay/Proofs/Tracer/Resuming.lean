import Mathlib
import DebugRelay.Proofs.Tracer.Acts

/-!
# Stops and resumptions

A `Runner` is a tracer with the one thread that runs lines under it. A stop takes the thread through
stages: it tells the listener, who may issue commands before he returns; it looks whether it may go
on; and if it may not it sleeps until a command wakes it. A look and the falling asleep after it are
one step, as are a command and the waking that it does, and any commands come between two steps of
the thread.

The invariant of a run (`Runner.Sound`) says of the stop that is under way that the tracer holds the
mode of the latest release since the stop, and that a thread that was released does not sleep. So a
release is never lost (`Sound.over_of_released`), and none is left over from before a stop.
-/

namespace DebugRelay

/-- The mode in which a thread goes on after some commands, the latest release being decisive. -/
def Command.lastMode? (depth : Nat) (commands : List Command) : Option Tracer.Mode :=
  (commands.filterMap (Command.mode? depth)).getLast?

theorem Command.lastMode?_concat (depth : Nat) (commands : List Command) (c : Command) :
    lastMode? depth (commands ++ [c]) = (c.mode? depth).or (lastMode? depth commands) := by
  rw [lastMode?, lastMode?, List.filterMap_append, List.getLast?_append]
  cases hmode : c.mode? depth <;> simp [hmode]

theorem Command.isSome_lastMode?_iff (depth : Nat) (commands : List Command) :
    (lastMode? depth commands).isSome ↔ ∃ c ∈ commands, c.isRelease = true := by
  rw [lastMode?, Option.isSome_iff_ne_none, Ne, List.getLast?_eq_none_iff,
    List.filterMap_eq_nil_iff]
  simp only [← isSome_mode? _ depth, Option.isSome_iff_ne_none]
  push Not
  rfl

namespace Tracer

/-- A line that stopped the thread. -/
structure Halt where
  stack : List Frame
  reason : StopReason
  /-- How many frames are entered there. -/
  depth : Nat
  /-- Someone listened when it stopped. -/
  heard : Bool

/-- What the listener is told about a stop. -/
def Halt.message (h : Halt) : List Frame × StopReason := (h.stack, h.reason)

/-- Where a thread is in a stop. -/
inductive Stage where
  /-- It is about to call the listener. -/
  | telling
  /-- The listener has been called. -/
  | told
  /-- It is about to look whether it may go on. -/
  | looking
  /-- It waits to be woken. -/
  | asleep
  deriving DecidableEq

/-- Where a thread is after it was woken, if it slept. -/
def Stage.woken : Stage → Stage
  | asleep => looking
  | stage => stage

/-- How many steps of its own a thread that may go on still takes in a stop. -/
def Stage.left : Stage → Nat
  | telling => 3
  | told => 2
  | looking => 1
  | asleep => 0

theorem Stage.left_le (stage : Stage) : stage.left ≤ 3 := by
  cases stage <;> decide

/-- A stop that is under way. -/
structure Pause where
  halt : Halt
  stage : Stage
  /-- The commands since the thread was marked as suspended. -/
  commands : List Command := []

/-- A stop that is over. -/
structure Past where
  halt : Halt
  /-- The commands between the marks of the thread as suspended and as running. -/
  commands : List Command
  outcome : Outcome
  /-- The mode in which the thread went on. -/
  mode : Mode

/-- A stop as it begins. -/
def Pause.start (h : Halt) : Pause := ⟨h, if h.heard then .telling else .looking, []⟩

/-- A command is issued during the stop. -/
def Pause.command (p : Pause) (wakes : Bool) (c : Command) : Pause :=
  { p with commands := p.commands ++ [c], stage := if wakes then p.stage.woken else p.stage }

/-- The thread was released in the course of the stop, or asked to quit. -/
def Pause.Released (p : Pause) : Prop :=
  .quit ∈ p.commands ∨ ∃ c ∈ p.commands, c.isRelease = true

/-- The stop, unless the thread is still to tell of it. -/
def Pause.passedOn (p : Pause) : List Halt :=
  if p.stage = .telling then [] else [p.halt]

/-- The stop that a report makes, if it makes one. -/
def halt? (t : Tracer) : Report → Option Halt
  | .line stack =>
    match (t.line stack).2 with
    | .stopped reason => some ⟨stack, reason, t.depth, t.observed⟩
    | .passed _ => none
  | _ => none

/-- The command wakes sleeping threads. -/
def wakes (t : Tracer) : Command → Bool
  | .quit => true
  | c => c.isRelease && t.suspended

/-- A tracer with the one thread that runs lines under it. -/
structure Runner where
  tracer : Tracer := {}
  /-- The stop that the thread is in. -/
  pause : Option Pause := none
  /-- What the listener was told, in order. -/
  told : List (List Frame × StopReason) := []
  /-- The stops that are over, in order. -/
  past : List Past := []

namespace Runner

/-- The thread takes its next step in a stop. -/
def proceed (r : Runner) (p : Pause) : Runner :=
  match p.stage with
  | .telling =>
    { r with told := r.told ++ [p.halt.message], pause := some { p with stage := .told } }
  | .told => { r with pause := some { p with stage := .looking } }
  | .looking =>
    match r.tracer.wake? with
    | some (woken, outcome) =>
      { r with
        tracer := woken
        pause := none
        past := r.past ++ [⟨p.halt, p.commands, outcome, woken.mode⟩] }
    | none => { r with pause := some { p with stage := .asleep } }
  | .asleep => r

/-- The runner after an act. A thread that is in a stop reports nothing. -/
def act (r : Runner) : Act → Runner
  | .attach => { r with tracer := r.tracer.act .attach }
  | .command c =>
    { r with
      tracer := r.tracer.act (.command c)
      pause := r.pause.map (·.command (r.tracer.wakes c) c) }
  | .report p =>
    match r.pause with
    | none =>
      { r with tracer := r.tracer.act (.report p), pause := (r.tracer.halt? p).map .start }
    | some _ => r
  | .proceed =>
    match r.pause with
    | none => r
    | some p => r.proceed p

/-- The runner after a list of acts, the first of them done first. -/
def after (r : Runner) (acts : List Act) : Runner := acts.foldl act r

@[simp]
theorem after_nil (r : Runner) : r.after [] = r := rfl

@[simp]
theorem after_cons (r : Runner) (a : Act) (acts : List Act) :
    r.after (a :: acts) = (r.act a).after acts := rfl

/-- The stops so far. -/
def halts (r : Runner) : List Halt := r.past.map Past.halt ++ r.pause.toList.map Pause.halt

/-- The stops so far without one that the thread is still to tell of. -/
def passedOn (r : Runner) : List Halt :=
  r.past.map Past.halt ++ r.pause.toList.flatMap Pause.passedOn

/-- The stop that an act makes, if it makes one. -/
def halt? (r : Runner) : Act → Option Halt
  | .report p => if r.pause.isSome then none else r.tracer.halt? p
  | _ => none

/-- The stops that a list of acts makes. -/
def haltsOf (r : Runner) : List Act → List Halt
  | [] => []
  | a :: rest => (r.halt? a).toList ++ (r.act a).haltsOf rest

/-- The mode in which the thread went on after the latest stop. -/
def lastMode (r : Runner) : Mode := (r.past.getLast?.map Past.mode).getD .free

end Runner

variable {t : Tracer}

/-! ## What an act does to a stop -/

theorem wakes_iff (h : t.suspended = true) (c : Command) :
    t.wakes c = true ↔ c = .quit ∨ c.isRelease = true := by
  cases c <;> simp [wakes, Command.isRelease, h]

/-- A command that comes in a stop. -/
theorem invoke_of_suspended (h : t.suspended = true) (c : Command) :
    ∃ start load table, (t.invoke c).1 =
      { t with
        stopsAtStart := start
        stopsAtLoad := load
        table := table
        release := (c.mode? t.depth).or t.release
        quitting := t.quitting || decide (c = .quit) } := by
  rcases t.invoke_cases c with ⟨mode, hmode, heq⟩ | ⟨rfl, heq⟩ | ⟨haside, start, load, table, heq⟩
  · have hquit : c ≠ .quit := by
      rintro rfl
      simp [Command.mode?] at hmode
    refine ⟨t.stopsAtStart, t.stopsAtLoad, t.table, ?_⟩
    rw [heq, releaseIn, if_pos h, hmode, Option.some_or, decide_eq_false hquit, Bool.or_false]
  · refine ⟨t.stopsAtStart, t.stopsAtLoad, t.table, ?_⟩
    simp [heq, Command.mode?]
  · have hquit : c ≠ .quit := by
      rintro rfl
      simp [Command.isAside] at haside
    have hmode : c.mode? t.depth = none := by
      cases c <;> simp [Command.isAside, Command.mode?] at haside ⊢
    refine ⟨start, load, table, ?_⟩
    rw [heq, hmode, Option.none_or, decide_eq_false hquit, Bool.or_false]

theorem Stage.woken_ne_asleep (stage : Stage) : stage.woken ≠ .asleep := by
  cases stage <;> simp [woken]

theorem Stage.woken_eq_telling_iff (stage : Stage) :
    stage.woken = .telling ↔ stage = .telling := by
  cases stage <;> simp [woken]

theorem Stage.woken_of_ne {stage : Stage} (h : stage ≠ .asleep) : stage.woken = stage := by
  cases stage with
  | asleep => exact absurd rfl h
  | telling | told | looking => rfl

/-- A thread that sleeps after a command slept before, and the command did not wake it. -/
theorem Pause.stage_command_eq_asleep_iff (p : Pause) (wakes : Bool) (c : Command) :
    (p.command wakes c).stage = .asleep ↔ wakes = false ∧ p.stage = .asleep := by
  cases wakes <;> simp [command, Stage.woken_ne_asleep]

theorem Pause.stage_command_eq_telling_iff (p : Pause) (wakes : Bool) (c : Command) :
    (p.command wakes c).stage = .telling ↔ p.stage = .telling := by
  cases wakes <;> simp [command, Stage.woken_eq_telling_iff]

/-- A command moves no thread that does not sleep. -/
theorem Pause.stage_command {p : Pause} (h : p.stage ≠ .asleep) (wakes : Bool) (c : Command) :
    (p.command wakes c).stage = p.stage := by
  cases wakes with
  | false => rfl
  | true => exact Stage.woken_of_ne h

theorem Pause.passedOn_command (p : Pause) (wakes : Bool) (c : Command) :
    (p.command wakes c).passedOn = p.passedOn := by
  simp only [passedOn, stage_command_eq_telling_iff]
  rfl

theorem Pause.released_command (p : Pause) (wakes : Bool) (c : Command) :
    (p.command wakes c).Released ↔ p.Released ∨ c = .quit ∨ c.isRelease = true := by
  simp only [Released, command, List.mem_append, List.mem_singleton, or_and_right, exists_or,
    exists_eq_left]
  rw [or_or_or_comm, eq_comm]

/-! ## The invariant -/

/-- A tracer holds what the commands since a stop left. -/
structure Pause.Fits (p : Pause) (t : Tracer) : Prop where
  suspended : t.suspended = true
  depth : t.depth = p.halt.depth
  mode : t.mode = .free
  release : t.release = Command.lastMode? p.halt.depth p.commands
  quitting : t.quitting = true ↔ .quit ∈ p.commands
  /-- Who was released does not sleep. -/
  asleep : p.stage = .asleep → ¬ p.Released
  telling : p.stage = .telling → p.halt.heard = true

/-- What a stop came to is what the commands in its course asked for. -/
structure Past.Follows (q : Past) : Prop where
  quit : q.outcome = .quit ↔ .quit ∈ q.commands
  mode : q.outcome = .continue_ → Command.lastMode? q.halt.depth q.commands = some q.mode

variable {p : Pause}

theorem Pause.fits_start {halt : Halt} (hs : t.suspended = true) (hdepth : t.depth = halt.depth)
    (hm : t.mode = .free) (hr : t.release = none) (hquit : t.quitting = false) :
    (Pause.start halt).Fits t where
  suspended := hs
  depth := hdepth
  mode := hm
  release := hr
  quitting := by simp [start, hquit]
  asleep := by
    rw [start]
    split <;> simp
  telling h := by
    cases hheard : halt.heard with
    | true => exact hheard
    | false => simp [start, hheard] at h

/-- A report of the engine makes no stop, or it makes one with nothing left of an earlier release. -/
theorem halt?_cases (t : Tracer) (p : Report) :
    (t.halt? p = none ∧ (t.act (.report p)).suspended = t.suspended ∧
      (t.act (.report p)).mode = t.mode) ∨
    ∃ halt, t.halt? p = some halt ∧ (Pause.start halt).Fits (t.act (.report p)) := by
  rcases t.report_cases p with ⟨stack, reason, rfl, hstop⟩ | ⟨hpasses, _, _, _, _, _, heq⟩
  · obtain ⟨hquit, table, first, load, heq⟩ := line_eq_of_stopped hstop
    refine Or.inr ⟨⟨stack, reason, t.depth, t.observed⟩, by rw [halt?, hstop], ?_⟩
    change (Pause.start _).Fits (t.line stack).1
    rw [heq]
    exact Pause.fits_start rfl rfl rfl rfl hquit
  · refine Or.inl ⟨?_, by rw [heq], by rw [heq]⟩
    cases p with
    | enter f => rfl
    | leave => rfl
    | line stack =>
      cases hline : (t.line stack).2 with
      | passed outcome => rw [halt?, hline]
      | stopped reason => exact absurd hline (hpasses stack reason rfl)

theorem Pause.Fits.command (h : p.Fits t) (c : Command) :
    (p.command (t.wakes c) c).Fits (t.invoke c).1 := by
  obtain ⟨start, load, table, heq⟩ := invoke_of_suspended h.suspended c
  rw [heq]
  refine ⟨h.suspended, h.depth, h.mode, ?_, ?_, ?_, ?_⟩
  · change (c.mode? t.depth).or t.release = _
    rw [h.release, h.depth]
    exact (Command.lastMode?_concat _ _ _).symm
  · simp only [Bool.or_eq_true, decide_eq_true_eq, h.quitting, Pause.command, List.mem_append,
      List.mem_singleton, eq_comm (a := c)]
  · intro hasleep
    obtain ⟨hwakes, hslept⟩ := (p.stage_command_eq_asleep_iff _ c).1 hasleep
    rw [Pause.released_command, ← wakes_iff h.suspended c]
    simp [h.asleep hslept, hwakes]
  · intro htelling
    exact h.telling ((p.stage_command_eq_telling_iff _ c).1 htelling)

/-- A thread that looks goes on exactly if it was released or asked to quit. -/
theorem Pause.Fits.wake?_cases (h : p.Fits t) :
    (t.wake? = none ∧ ¬ p.Released) ∨
    ∃ woken outcome, t.wake? = some (woken, outcome) ∧ woken.suspended = false ∧
      (⟨p.halt, p.commands, outcome, woken.mode⟩ : Past).Follows := by
  rcases t.wake?_cases with ⟨hwake, hquit, hrelease⟩ | ⟨hquit, hwake⟩ | ⟨mode, hquit, hrelease, hwake⟩
  · left
    refine ⟨hwake, ?_⟩
    rw [Pause.Released, ← h.quitting, ← Command.isSome_lastMode?_iff p.halt.depth, ← h.release]
    simp [hquit, hrelease]
  · right
    refine ⟨_, _, hwake, rfl, ?_, ?_⟩
    · simpa using h.quitting.1 hquit
    · simp
  · right
    refine ⟨_, _, hwake, rfl, ?_, ?_⟩
    · simp [← h.quitting, hquit]
    · intro _
      exact h.release.symm.trans hrelease

namespace Runner

/-- The invariant of a run. -/
structure Sound (r : Runner) : Prop where
  paused : ∀ p, r.pause = some p → p.Fits r.tracer
  running : r.pause = none → r.tracer.suspended = false ∧ r.tracer.mode = r.lastMode
  past : ∀ q ∈ r.past, q.Follows
  told : r.told = (r.passedOn.filter Halt.heard).map Halt.message

theorem sound_new : Sound {} where
  paused p hp := by simp at hp
  running _ := ⟨rfl, rfl⟩
  past q hq := by simp at hq
  told := rfl

variable {r : Runner}

theorem Sound.command (h : r.Sound) (c : Command) : (r.act (.command c)).Sound := by
  cases hpause : r.pause with
  | none =>
    obtain ⟨hfree, hmode⟩ := h.running hpause
    obtain ⟨start, load, table, release, quitting, heq⟩ := r.tracer.invoke_eq c
    have hsuspended : (r.tracer.invoke c).1.suspended = r.tracer.suspended := by rw [heq]
    have hkept : (r.tracer.invoke c).1.mode = r.tracer.mode := by rw [heq]
    refine ⟨?_, fun _ => ⟨hsuspended.trans hfree, hkept.trans hmode⟩, h.past, ?_⟩
    · intro p hp
      simp [act, hpause] at hp
    · simpa [act, passedOn, hpause] using h.told
  | some p =>
    refine ⟨?_, ?_, h.past, ?_⟩
    · intro p' hp'
      simp only [act, hpause, Option.map_some, Option.some.injEq] at hp'
      exact hp' ▸ (h.paused p hpause).command c
    · intro hnone
      simp [act, hpause] at hnone
    · simpa [act, passedOn, hpause, Pause.passedOn_command] using h.told

theorem Sound.report (h : r.Sound) (p : Report) : (r.act (.report p)).Sound := by
  cases hpause : r.pause with
  | some _ =>
    simp only [act, hpause]
    exact h
  | none =>
    obtain ⟨hfree, hmode⟩ := h.running hpause
    have htold := h.told
    rcases r.tracer.halt?_cases p with ⟨hhalt, hsuspended, hkept⟩ | ⟨halt, hhalt, hfits⟩
    · simp only [act, hpause, hhalt, Option.map_none]
      refine ⟨fun p hp => by simp at hp, fun _ => ?_, h.past, ?_⟩
      · exact ⟨hsuspended.trans hfree, hkept.trans hmode⟩
      · simpa [passedOn, hpause] using htold
    · simp only [act, hpause, hhalt, Option.map_some]
      refine ⟨fun p hp => ?_, fun hnone => by simp at hnone, h.past, ?_⟩
      · exact Option.some.inj hp ▸ hfits
      · cases hheard : halt.heard <;>
          simpa [passedOn, hpause, Pause.start, Pause.passedOn, hheard] using htold

theorem Sound.proceed (h : r.Sound) : (r.act .proceed).Sound := by
  cases hpause : r.pause with
  | none =>
    simp only [act, hpause]
    exact h
  | some p =>
    have hfits := h.paused p hpause
    have htold := h.told
    simp only [act, hpause, Runner.proceed]
    cases hstage : p.stage with
    | telling =>
      refine ⟨fun p' hp' => ?_, fun hnone => by simp at hnone, h.past, ?_⟩
      · obtain rfl := Option.some.inj hp'
        exact { hfits with asleep := by simp, telling := by simp }
      · simp [passedOn, hpause, Pause.passedOn, hstage, hfits.telling hstage, htold]
    | told =>
      refine ⟨fun p' hp' => ?_, fun hnone => by simp at hnone, h.past, ?_⟩
      · obtain rfl := Option.some.inj hp'
        exact { hfits with asleep := by simp, telling := by simp }
      · simpa [passedOn, hpause, Pause.passedOn, hstage] using htold
    | looking =>
      rcases hfits.wake?_cases with ⟨hwake, hnot⟩ | ⟨woken, outcome, hwake, hfree, hfollows⟩
      · simp only [hwake]
        refine ⟨fun p' hp' => ?_, fun hnone => by simp at hnone, h.past, ?_⟩
        · obtain rfl := Option.some.inj hp'
          exact { hfits with asleep := fun _ => hnot, telling := by simp }
        · simpa [passedOn, hpause, Pause.passedOn, hstage] using htold
      · simp only [hwake]
        refine ⟨fun p' hp' => by simp at hp', fun _ => ⟨hfree, by simp [lastMode]⟩, ?_, ?_⟩
        · intro q hq
          rcases List.mem_append.1 hq with hq | hq
          · exact h.past q hq
          · exact List.mem_singleton.1 hq ▸ hfollows
        · simpa [passedOn, hpause, Pause.passedOn, hstage] using htold
    | asleep => exact h

theorem Sound.act (h : r.Sound) (a : Act) : (r.act a).Sound := by
  cases a with
  | attach =>
    refine ⟨fun p hp => ?_, h.running, h.past, h.told⟩
    exact { h.paused p hp with }
  | command c => exact h.command c
  | report p => exact h.report p
  | proceed => exact h.proceed

theorem Sound.after (h : r.Sound) (acts : List Act) : (r.after acts).Sound := by
  induction acts generalizing r with
  | nil => exact h
  | cons a rest ih => exact ih (h.act a)

/-! ## The end of a stop -/

/-- Stops that are over stay so. -/
theorem past_act (r : Runner) (a : Act) : r.past <+: (r.act a).past := by
  cases a with
  | attach => exact List.prefix_rfl
  | command c => exact List.prefix_rfl
  | report p => cases hpause : r.pause <;> simp [act, hpause]
  | proceed =>
    cases hpause : r.pause with
    | none => simp [act, hpause]
    | some p =>
      simp only [act, hpause, Runner.proceed]
      split
      · exact List.prefix_rfl
      · exact List.prefix_rfl
      · split
        · exact List.prefix_append _ _
        · exact List.prefix_rfl
      · exact List.prefix_rfl

theorem past_after (r : Runner) (acts : List Act) : r.past <+: (r.after acts).past := by
  induction acts generalizing r with
  | nil => exact List.prefix_rfl
  | cons a rest ih => exact (r.past_act a).trans (ih (r.act a))

end Runner

/-- The thread takes a step in its stop. -/
def Act.isProceed : Act → Bool
  | .proceed => true
  | _ => false

/-- A later stage of a stop in which the thread was released, `n` of its own steps on. -/
structure Pause.Nears (p p' : Pause) (n : Nat) : Prop where
  halt : p'.halt = p.halt
  commands : p.commands <+: p'.commands
  left : p'.stage.left + n = p.stage.left

/-- The end of a stop. -/
structure Pause.Ends (p : Pause) (q : Past) : Prop where
  halt : q.halt = p.halt
  commands : p.commands <+: q.commands

theorem Pause.Nears.released {p' : Pause} {n : Nat} (h : p.Nears p' n) (hp : p.Released) :
    p'.Released := by
  rcases hp with hquit | ⟨c, hc, hrelease⟩
  · exact Or.inl (h.commands.subset hquit)
  · exact Or.inr ⟨c, h.commands.subset hc, hrelease⟩

namespace Runner

variable {r : Runner}

/-- Each step of a thread that was released takes it nearer to the end of its stop, and everything
else leaves it where it is. -/
theorem Sound.act_of_released (h : r.Sound) (hp : r.pause = some p) (hreleased : p.Released)
    (a : Act) :
    (∃ p', (r.act a).pause = some p' ∧ (r.act a).past = r.past ∧
      p.Nears p' (if a.isProceed then 1 else 0)) ∨
    ∃ q, (r.act a).past = r.past ++ [q] ∧ p.Ends q := by
  have hfits := h.paused p hp
  have hawake : p.stage ≠ .asleep := fun hasleep => hfits.asleep hasleep hreleased
  cases a with
  | attach => exact Or.inl ⟨p, hp, rfl, rfl, List.prefix_rfl, rfl⟩
  | report x =>
    left
    rw [Runner.act, hp]
    exact ⟨p, hp, rfl, rfl, List.prefix_rfl, rfl⟩
  | command c =>
    left
    rw [Runner.act, hp]
    refine ⟨_, rfl, rfl, rfl, List.prefix_append _ _, ?_⟩
    rw [Pause.stage_command hawake]
    rfl
  | proceed =>
    simp only [Runner.act, hp, Runner.proceed]
    cases hstage : p.stage with
    | telling => exact Or.inl ⟨_, rfl, rfl, rfl, List.prefix_rfl, by rw [hstage]; rfl⟩
    | told => exact Or.inl ⟨_, rfl, rfl, rfl, List.prefix_rfl, by rw [hstage]; rfl⟩
    | asleep => exact absurd hstage hawake
    | looking =>
      rcases hfits.wake?_cases with ⟨-, hnot⟩ | ⟨woken, outcome, hwake, -, -⟩
      · exact absurd hreleased hnot
      · right
        simp only [hwake]
        exact ⟨_, rfl, rfl, List.prefix_rfl⟩

/-- The stop of a thread that was released is over as soon as the thread has taken the steps that
are left in it, whatever else is done meanwhile. -/
theorem Sound.over_of_released (h : r.Sound) (hp : r.pause = some p) (hreleased : p.Released)
    {acts : List Act} (hsteps : p.stage.left ≤ acts.countP Act.isProceed) :
    ∃ q, r.past ++ [q] <+: (r.after acts).past ∧ p.Ends q := by
  induction acts generalizing r p with
  | nil =>
    have hasleep : p.stage = .asleep := by
      cases hstage : p.stage <;> simp [Stage.left, hstage] at hsteps ⊢
    exact absurd hreleased ((h.paused p hp).asleep hasleep)
  | cons a rest ih =>
    rcases h.act_of_released hp hreleased a with ⟨p', hp', hpast, hnears⟩ | ⟨q, hpast, hends⟩
    · rw [List.countP_cons, ← hnears.left] at hsteps
      obtain ⟨q, hq, hends⟩ :=
        ih (h.act a) hp' (hnears.released hreleased) (Nat.le_of_add_le_add_right hsteps)
      refine ⟨q, hpast ▸ hq, hends.halt.trans hnears.halt, hnears.commands.trans hends.commands⟩
    · refine ⟨q, ?_, hends⟩
      rw [← hpast]
      exact (r.act a).past_after rest

/-! ## The stops of a run -/

theorem halts_act (r : Runner) (a : Act) : (r.act a).halts = r.halts ++ (r.halt? a).toList := by
  cases a with
  | attach => simp [act, halts, halt?]
  | command c => cases hpause : r.pause <;> simp [act, halts, halt?, hpause, Pause.command]
  | report p =>
    cases hpause : r.pause with
    | none => cases hhalt : r.tracer.halt? p <;> simp [act, halts, halt?, hpause, hhalt, Pause.start]
    | some _ => simp [act, halts, halt?, hpause]
  | proceed =>
    cases hpause : r.pause with
    | none => simp [act, halts, halt?, hpause]
    | some p =>
      simp only [act, hpause, Runner.proceed]
      split
      · simp [halts, halt?, hpause]
      · simp [halts, halt?, hpause]
      · split <;> simp [halts, halt?, hpause]
      · simp [halt?]

theorem halts_after (r : Runner) (acts : List Act) :
    (r.after acts).halts = r.halts ++ r.haltsOf acts := by
  induction acts generalizing r with
  | nil => simp [haltsOf]
  | cons a rest ih => rw [after_cons, ih, halts_act, haltsOf, List.append_assoc]

/-- Acts of any kind are done in any order to a new tracer with one thread. The tracer is marked as
suspended exactly in a stop. The stops are the lines that stop, and the listener, if one was there
when the line stopped, is told of each once, with its stack and reason, as soon as the thread has
come to it. A stop that is over came to the abortion of the script exactly if a request to quit came
in its course, and else a release came in its course, the latest of which set the mode in which the
thread went on and goes on until the next stop. A stop in which a release or a request to quit came,
at whatever stage, is over when the thread has taken three more steps, whatever else comes. And a
release that comes while the thread is not suspended changes nothing. -/
theorem resumes_by_latest_release (acts : List Act) :
    let r := ({} : Runner).after acts
    r.tracer.suspended = r.pause.isSome ∧
    (r.halts = haltsOf {} acts ∧ r.told = (r.passedOn.filter Halt.heard).map Halt.message) ∧
    (∀ q ∈ r.past, (q.outcome = .quit ↔ .quit ∈ q.commands) ∧
      (q.outcome = .continue_ → (∃ c ∈ q.commands, c.isRelease = true) ∧
        Command.lastMode? q.halt.depth q.commands = some q.mode)) ∧
    (r.pause = none → r.tracer.mode = r.lastMode) ∧
    (∀ p, r.pause = some p → p.Released → ∀ more, 3 ≤ more.countP Act.isProceed →
      ∃ q, r.past ++ [q] <+: (r.after more).past ∧ q.halt = p.halt ∧ p.commands <+: q.commands) ∧
    ∀ c, c.isRelease = true → r.tracer.suspended = false → r.act (.command c) = r := by
  intro r
  have hsound : r.Sound := sound_new.after acts
  have hflag : r.tracer.suspended = r.pause.isSome := by
    cases hpause : r.pause with
    | none => exact (hsound.running hpause).1
    | some p => exact (hsound.paused p hpause).suspended
  refine ⟨hflag, ⟨?_, hsound.told⟩, ?_, fun hnone => (hsound.running hnone).2, ?_, ?_⟩
  · exact halts_after {} acts
  · intro q hq
    have hfollows := hsound.past q hq
    refine ⟨hfollows.quit, fun hcontinue => ?_⟩
    have hmode := hfollows.mode hcontinue
    refine ⟨(Command.isSome_lastMode?_iff q.halt.depth _).1 ?_, hmode⟩
    rw [hmode]
    rfl
  · intro p hp hreleased more hmore
    have hleft : p.stage.left ≤ more.countP Act.isProceed := p.stage.left_le.trans hmore
    obtain ⟨q, hq, hends⟩ := hsound.over_of_released hp hreleased hleft
    exact ⟨q, hq, hends.halt, hends.commands⟩
  · intro c hc hfree
    have hnone : r.pause = none := by simpa [hfree] using hflag
    have hsame : r.tracer.act (.command c) = r.tracer := invoke_of_not_suspended hfree hc
    rw [act, hsame, hnone, Option.map_none, ← hnone]

/-! ## Two releases from the listener -/

/-- The first line of a file. -/
def sampleStack : List Frame := [.ofFile .zero ⟨[]⟩ 1 ∅]

/-- The first line stops, and the listener releases the thread twice before he returns. -/
def sampleActs : List Act :=
  [.attach, .command (.suspendOnStartup true), .report (.enter ⟨[]⟩), .report (.line sampleStack),
    .proceed, .command .stepOver, .command .stepInto]

/-- The stop then. -/
def samplePause : Pause := ⟨⟨sampleStack, .startup, 1, true⟩, .told, [.stepOver, .stepInto]⟩

/-- The thread leaves its stop without having slept, and the later release holds. -/
theorem resumes_sampleActs :
    (({} : Runner).after sampleActs).pause = some samplePause ∧ samplePause.Released ∧
      ∃ q ∈ ((({} : Runner).after sampleActs).after [.proceed, .proceed, .proceed]).past,
        q.halt = samplePause.halt ∧ q.outcome = .continue_ ∧ q.mode = .into := by
  have hpause : (({} : Runner).after sampleActs).pause = some samplePause := by cbv
  have hreleased : samplePause.Released := Or.inr ⟨.stepInto, by simp [samplePause], rfl⟩
  obtain ⟨-, -, -, -, hover, -⟩ := resumes_by_latest_release sampleActs
  obtain ⟨q, hq, hhalt, -⟩ :=
    hover samplePause hpause hreleased [.proceed, .proceed, .proceed] le_rfl
  have hmem := hq.subset (List.mem_append_right _ (List.mem_singleton_self q))
  have hpast : ((({} : Runner).after sampleActs).after [.proceed, .proceed, .proceed]).past =
      [⟨samplePause.halt, samplePause.commands, .continue_, .into⟩] := by cbv
  rw [hpast] at hmem
  obtain rfl := List.mem_singleton.1 hmem
  exact ⟨hpause, hreleased, _, hpast ▸ List.mem_singleton_self _, hhalt, rfl, rfl⟩

end Runner

end Tracer

end DebugRelay
