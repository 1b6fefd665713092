import DebugRelay.Proofs.Queue
import DebugRelay.Proofs.Relay.Consumers
import DebugRelay.Proofs.Tracer.Resuming

/-!
# A relay as the listener

The listener of a tracer is the relay. The thread reports lines through `Relay.traceLine`, which
calls `Relay.onSuspend` at a stop, and it goes on through `Relay.wake?`. These are steps of a
`Tracer.Runner` over the same tracer (`Tracks.line`, `Tracks.wake`): a line that stops makes a stop
of the runner, and the relay is told of it exactly if someone listens, with the stack and the reason
of the stop (`traceLine_of_halt`). So over any sequence of reports, commands and looks, the relay
offers one event to its queue for each stop that was heard, in their order (`offers_told`).
-/

namespace DebugRelay

/-- The event by which a relay passes on what it is told about a stop. -/
def Tracer.Halt.event (thread : Thread) (h : Tracer.Halt) : Event :=
  .suspended thread h.stack h.reason

/-- The report, if the act is one. -/
@[simp]
def Tracer.Act.report? : Tracer.Act → Option Report
  | .report p => some p
  | _ => none

namespace Tracer

/-- A thread that sleeps may not go on. -/
theorem Pause.Fits.wake?_of_asleep {p : Pause} {t : Tracer} (h : p.Fits t)
    (hp : p.stage = .asleep) : t.wake? = none := by
  rcases h.wake?_cases with ⟨hnone, -⟩ | ⟨woken, outcome, -, -, hfollows⟩
  · exact hnone
  · refine absurd ?_ (h.asleep hp)
    cases outcome with
    | quit => exact Or.inl (hfollows.quit.1 rfl)
    | continue_ =>
      right
      rw [← Command.isSome_lastMode?_iff p.halt.depth, hfollows.mode rfl]
      rfl

namespace Runner

variable {n : Runner}

theorem haltsOf_append (n : Runner) (acts more : List Act) :
    n.haltsOf (acts ++ more) = n.haltsOf acts ++ (n.after acts).haltsOf more := by
  induction acts generalizing n with
  | nil => rfl
  | cons a rest ih =>
    simp only [List.cons_append, Runner.haltsOf, ih, List.append_assoc, Runner.after_cons]

theorem act_report (hfree : n.pause = none) (p : Report) :
    n.act (.report p) =
      { n with
        tracer := n.tracer.act (.report p)
        pause := (n.tracer.halt? p).map .start } := by
  simp only [Runner.act, hfree]

theorem haltsOf_report (hfree : n.pause = none) (p : Report) :
    n.haltsOf [.report p] = (n.tracer.halt? p).toList := by
  simp [Runner.haltsOf, Runner.halt?, hfree]

end Runner

end Tracer

namespace Relay

open Tracer (Runner)

/-- What happens between a relay and the one thread under its tracer. -/
inductive Occurrence where
  /-- The debugger of an interpreter is made to report to the relay. -/
  | attach (i : Interpreter)
  /-- A command goes through a debugger. -/
  | command (h : Hook) (c : Command)
  /-- The thread reports, unless it is in a stop. -/
  | report (p : Report)
  /-- The thread looks whether it may go on, if it is in a stop. -/
  | wake

/-- The report, if the thread makes one. -/
@[simp]
def Occurrence.report? : Occurrence → Option Report
  | .report p => some p
  | _ => none

/-- The relay after a report of its thread. -/
def takeReport (r : Relay) (thread : Thread) : Report → Relay
  | .enter f => r.enterFrame f
  | .leave => r.leaveFrame
  | .line stack => (r.traceLine thread stack).1

/-- The relay afterwards. -/
def occur (thread : Thread) (r : Relay) : Occurrence → Relay
  | .attach i => { r with native := (r.native.attach i).1 }
  | .command h c => (r.invoke h c).1
  | .report p => if r.native.tracer.suspended then r else r.takeReport thread p
  | .wake => if r.native.tracer.suspended then (r.wake?.map (·.1)).getD r else r

/-- The runner has the tracer of the relay, and the thread has told of the stop that it is in. -/
structure Tracks (r : Relay) (n : Runner) : Prop where
  tracer : n.tracer = r.native.tracer
  sound : n.Sound
  toldOf : ∀ p, n.pause = some p → p.stage = .looking ∨ p.stage = .asleep

/-- While the acts are done to the runner, the relay becomes another one and is told of the stops
that the acts make and that are heard, in their order. -/
structure Hears (thread : Thread) (r s : Relay) (n : Runner) (acts : List Tracer.Act) : Prop where
  tracks : s.Tracks (n.after acts)
  queue : s.queue =
    r.queue.offerAll (((n.haltsOf acts).filter Tracer.Halt.heard).map (·.event thread))

variable {r s t : Relay} {n : Runner} {thread : Thread} {acts more : List Tracer.Act}
  {stack : List Frame}

theorem Hears.trans (h : Hears thread r s n acts) (h' : Hears thread s t (n.after acts) more) :
    Hears thread r t n (acts ++ more) where
  tracks := by
    have hafter : n.after (acts ++ more) = (n.after acts).after more := List.foldl_append
    rw [hafter]
    exact h'.tracks
  queue := by
    rw [h'.queue, h.queue, Runner.haltsOf_append, List.filter_append, List.map_append,
      Queue.offerAll_append]

/-! ## Commands and attachments -/

/-- The tracer was sent some commands. -/
def Commanded (t t' : Tracer) : Prop :=
  ∃ commands : List Command, t' = t.after (commands.map .command)

theorem commanded_refl (t : Tracer) : Commanded t t := ⟨[], rfl⟩

theorem Commanded.trans {t t' t'' : Tracer} (h : Commanded t t') (h' : Commanded t' t'') :
    Commanded t t'' := by
  obtain ⟨commands, rfl⟩ := h
  obtain ⟨commands', rfl⟩ := h'
  exact ⟨commands ++ commands', by rw [List.map_append, Tracer.after_append]⟩

/-- A command reaches the tracer, or the debugger keeps it from it. -/
theorem commanded_invoke (r : Relay) (h : Hook) (c : Command) :
    Commanded r.native.tracer (r.invoke h c).1.native.tracer := by
  have htracer : (r.invoke h c).1.native = (r.native.invoke h c).1 := by
    unfold invoke
    cases r.native.invoke h c with
    | mk native result => cases result <;> rfl
  rw [htracer]
  unfold Native.invoke
  simp only
  split
  · exact commanded_refl _
  · split
    · exact ⟨[c], rfl⟩
    · exact commanded_refl _

theorem commanded_fire (r : Relay) (c : Command) :
    Commanded r.native.tracer (r.fire c).1.native.tracer := by
  unfold fire
  split
  · exact commanded_invoke r _ c
  · exact commanded_refl _

theorem commanded_setBreakpoints (r : Relay) (bs : List Breakpoint) :
    Commanded r.native.tracer (r.setBreakpoints bs).1.native.tracer := by
  induction bs generalizing r with
  | nil => exact commanded_refl _
  | cons b rest ih =>
    have hone : Commanded r.native.tracer (r.setBreakpoint b).1.native.tracer := by
      unfold setBreakpoint
      split
      · exact commanded_fire r _
      · exact commanded_refl _
    exact hone.trans (ih _)

theorem commanded_reconcile (r : Relay) (f : SourceFile) :
    Commanded r.native.tracer (r.reconcile f).1.native.tracer := by
  unfold reconcile
  split
  · exact (commanded_fire r _).trans (commanded_setBreakpoints _ _)
  · exact commanded_refl _

/-- A command makes no stop, and leaves the thread where it is in one, or wakes it. -/
theorem Tracks.command (h : r.Tracks n) (c : Command)
    (hs : s.native.tracer = (r.native.tracer.invoke c).1) (hq : s.queue = r.queue) :
    Hears thread r s n [.command c] where
  tracks := {
    tracer := by rw [hs, ← h.tracer]; rfl
    sound := h.sound.after [.command c]
    toldOf := by
      intro p' hp'
      obtain ⟨p, hp, rfl⟩ := Option.map_eq_some_iff.1 hp'
      rcases h.toldOf p hp with hstage | hstage
      · left
        rw [Tracer.Pause.stage_command (by simp [hstage]), hstage]
      · cases hwakes : n.tracer.wakes c with
        | true => exact Or.inl (by simp [Tracer.Pause.command, hstage, Tracer.Stage.woken])
        | false => exact Or.inr (by simp [Tracer.Pause.command, hstage]) }
  queue := by
    rw [hq]
    rfl

theorem Tracks.commanded (h : r.Tracks n) (thread : Thread)
    (hs : Commanded r.native.tracer s.native.tracer) (hq : s.queue = r.queue) :
    ∃ acts, Hears thread r s n acts ∧ acts.filterMap Tracer.Act.report? = [] := by
  obtain ⟨commands, hs⟩ := hs
  refine ⟨commands.map .command, ?_, by simp [List.filterMap_map, Function.comp_def]⟩
  induction commands generalizing r n with
  | nil =>
    refine ⟨⟨h.tracer.trans hs.symm, h.sound, h.toldOf⟩, ?_⟩
    rw [hq]
    rfl
  | cons c rest ih =>
    let sent : Relay :=
      { r with native := { r.native with tracer := (r.native.tracer.invoke c).1 } }
    have hfirst : Hears thread r sent n [.command c] := h.command c rfl rfl
    exact hfirst.trans (ih hfirst.tracks hq hs)

/-- Making a debugger report to the relay has someone listen, or it fails. -/
theorem Tracks.attach (h : r.Tracks n) (thread : Thread) (i : Interpreter) :
    ∃ acts, Hears thread r { r with native := (r.native.attach i).1 } n acts ∧
      acts.filterMap Tracer.Act.report? = [] := by
  have hsame : ∀ native : Native, native.tracer = r.native.tracer →
      Hears thread r { r with native := native } n [] := fun native hn =>
    ⟨⟨h.tracer.trans hn.symm, h.sound, h.toldOf⟩, rfl⟩
  unfold Native.attach
  simp only
  split
  · exact ⟨[], hsame _ rfl, rfl⟩
  · split
    · refine ⟨[.attach], ⟨⟨?_, h.sound.after _, h.toldOf⟩, rfl⟩, rfl⟩
      simp [Runner.act, Tracer.act, Native.record, h.tracer]
    · exact ⟨[], hsame _ rfl, rfl⟩

/-! ## Reports and looks -/

/-- The tracer is marked as suspended while the runner is in a stop. -/
theorem Tracks.suspended (h : r.Tracks n) : r.native.tracer.suspended = n.pause.isSome := by
  rw [← h.tracer]
  cases hp : n.pause with
  | none => exact (h.sound.running hp).1
  | some p => exact (h.sound.paused p hp).suspended

/-- The relay after the tracer has looked at a line, before anyone is told of a stop there. -/
def lined (r : Relay) (stack : List Frame) : Relay :=
  { r with native := { r.native with tracer := (r.native.tracer.line stack).1 } }

/-- A line that makes no stop comes to an outcome, and nobody is told of it. -/
theorem traceLine_of_passed (h : r.native.tracer.halt? (.line stack) = none) (thread : Thread) :
    ∃ outcome, r.traceLine thread stack = (r.lined stack, some outcome) := by
  unfold traceLine lined
  cases hline : r.native.tracer.line stack with
  | mk tracer verdict =>
    cases verdict with
    | passed outcome => exact ⟨outcome, rfl⟩
    | stopped reason => simp [Tracer.halt?, hline] at h

/-- At a line that makes a stop the thread is parked, and the relay is told of the stop exactly if
someone listens. -/
theorem traceLine_of_halt {halt : Tracer.Halt}
    (h : r.native.tracer.halt? (.line stack) = some halt) (thread : Thread) :
    r.traceLine thread stack =
      (if halt.heard then (r.lined stack).onSuspend ⟨thread, halt.stack, halt.reason⟩
        else r.lined stack, none) := by
  have hobserved := r.native.tracer.observed_line stack
  unfold traceLine lined
  cases hline : r.native.tracer.line stack with
  | mk tracer verdict =>
    rw [hline] at hobserved
    cases verdict with
    | passed outcome => simp [Tracer.halt?, hline] at h
    | stopped reason =>
      rw [Tracer.halt?, hline] at h
      obtain rfl := Option.some.inj h
      simp only [← hobserved]

/-- A report that makes no stop, or one that nobody hears of. -/
theorem Tracks.unheard (h : r.Tracks n) (hfree : n.pause = none) (thread : Thread) {p : Report}
    (hs : s.native.tracer = r.native.tracer.act (.report p)) (hq : s.queue = r.queue)
    (hunheard : ∀ halt, r.native.tracer.halt? p = some halt → halt.heard = false) :
    Hears thread r s n [.report p] := by
  rw [← h.tracer] at hs hunheard
  have hact := Runner.act_report hfree p
  refine ⟨⟨?_, h.sound.after _, ?_⟩, ?_⟩
  · rw [hs, Runner.after_cons, hact]
    rfl
  · intro pause hpause
    rw [Runner.after_cons, hact] at hpause
    obtain ⟨halt, hhalt, rfl⟩ := Option.map_eq_some_iff.1 hpause
    simp [Tracer.Pause.start, hunheard halt hhalt]
  · rw [hq, Runner.haltsOf_report hfree]
    cases hhalt : n.tracer.halt? p with
    | none => rfl
    | some halt => simp [hunheard halt hhalt, Queue.offerAll]

/-- A line is a report to the runner, and if it stops and is heard, two more steps of the thread, in
which the relay is told. Its thread is parked exactly if the runner is in a stop. -/
theorem Tracks.line (h : r.Tracks n) (hfree : n.pause = none) (thread : Thread)
    (stack : List Frame) :
    ∃ acts, Hears thread r (r.traceLine thread stack).1 n acts ∧
      acts.filterMap Tracer.Act.report? = [.line stack] ∧
      (r.traceLine thread stack).2.isNone = (n.after acts).pause.isSome := by
  have hact := Runner.act_report hfree (.line stack)
  cases hhalt : r.native.tracer.halt? (.line stack) with
  | none =>
    obtain ⟨outcome, heq⟩ := traceLine_of_passed hhalt thread
    refine ⟨[.report (.line stack)], ?_, rfl, ?_⟩
    · rw [heq]
      exact h.unheard hfree thread rfl rfl (by simp [hhalt])
    · simp [heq, hact, h.tracer, hhalt]
  | some halt =>
    have heq := traceLine_of_halt hhalt thread
    rw [h.tracer, hhalt] at hact
    cases hheard : halt.heard with
    | false =>
      rw [hheard] at heq
      refine ⟨[.report (.line stack)], ?_, rfl, ?_⟩
      · rw [heq]
        exact h.unheard hfree thread rfl rfl (by simp [hhalt, hheard])
      · simp [heq, hact]
    | true =>
      rw [hheard] at heq
      -- the thread tells the relay, and is about to look then
      have hafter : n.after [.report (.line stack), .proceed, .proceed] =
          { n with
            tracer := (r.native.tracer.line stack).1
            told := n.told ++ [halt.message]
            pause := some ⟨halt, .looking, []⟩ } := by
        rw [Runner.after_cons, hact]
        simp [Tracer.Pause.start, hheard, Runner.act, Runner.proceed, Tracer.act]
      have hhalts : n.haltsOf [.report (.line stack), .proceed, .proceed] = [halt] := by
        rw [← List.singleton_append, Runner.haltsOf_append, Runner.haltsOf_report hfree,
          h.tracer, hhalt]
        rfl
      refine ⟨[.report (.line stack), .proceed, .proceed], ⟨⟨?_, h.sound.after _, ?_⟩, ?_⟩, rfl, ?_⟩
      · rw [heq, hafter]
        rfl
      · simp [hafter]
      · rw [heq, hhalts]
        simp [hheard, Queue.offerAll, lined, onSuspend, send, enqueue, Tracer.Halt.event]
      · simp [heq, hafter]

/-- Any report of a thread that is not in a stop. -/
theorem Tracks.report (h : r.Tracks n) (hfree : n.pause = none) (thread : Thread) (p : Report) :
    ∃ acts, Hears thread r (r.takeReport thread p) n acts ∧
      acts.filterMap Tracer.Act.report? = [p] := by
  cases p with
  | line stack =>
    obtain ⟨acts, hhears, hreports, -⟩ := h.line hfree thread stack
    exact ⟨acts, hhears, hreports⟩
  | leave => exact ⟨[.report .leave], h.unheard hfree thread rfl rfl (by simp [Tracer.halt?]), rfl⟩
  | enter f =>
    let entered : Relay :=
      { r with native := { r.native with tracer := (r.native.tracer.enter f).1 } }
    have henter : Hears thread r entered n [.report (.enter f)] :=
      h.unheard hfree thread rfl rfl (by simp [Tracer.halt?])
    -- the load of a file is handled by commands
    have hloaded : Commanded entered.native.tracer (r.enterFrame f).native.tracer ∧
        (r.enterFrame f).queue = entered.queue := by
      unfold enterFrame
      simp only
      split
      · exact ⟨commanded_reconcile entered _, queue_reconcile entered _⟩
      · exact ⟨commanded_refl _, rfl⟩
    obtain ⟨acts, hhears, hreports⟩ := henter.tracks.commanded thread hloaded.1 hloaded.2
    exact ⟨.report (.enter f) :: acts, henter.trans hhears, by simp [hreports]⟩

/-- A look is a step of the thread in its stop. -/
theorem Tracks.wake (h : r.Tracks n) {p : Tracer.Pause} (hp : n.pause = some p)
    (thread : Thread) : Hears thread r ((r.wake?.map (·.1)).getD r) n [.proceed] := by
  have hfits := h.sound.paused p hp
  have hqueue : ((r.wake?.map (·.1)).getD r).queue = r.queue := by
    unfold wake?
    cases r.native.tracer.wake? <;> rfl
  have hnone : n.haltsOf [.proceed] = [] := rfl
  have htracer : ((r.wake?.map (·.1)).getD r).native.tracer =
      (r.native.tracer.wake?.map (·.1)).getD r.native.tracer := by
    unfold wake?
    cases r.native.tracer.wake? <;> rfl
  rw [← h.tracer] at htracer
  suffices hstep : (n.act .proceed).tracer = (n.tracer.wake?.map (·.1)).getD n.tracer ∧
      ∀ p', (n.act .proceed).pause = some p' → p'.stage = .looking ∨ p'.stage = .asleep from
    ⟨⟨hstep.1.trans htracer.symm, h.sound.after _, hstep.2⟩, by rw [hnone, hqueue]; rfl⟩
  simp only [Runner.act, hp, Runner.proceed]
  rcases h.toldOf p hp with hstage | hstage
  · rw [hstage]
    cases n.tracer.wake? with
    | none => simp
    | some woken => simp
  · rw [hstage, hfits.wake?_of_asleep hstage]
    simp [hp, hstage]

/-! ## Runs -/

/-- Whatever happens, the runner goes along: it is given the reports that the thread makes, and the
relay is told of the stops that are heard. -/
theorem Tracks.occur (h : r.Tracks n) (thread : Thread) (o : Occurrence) :
    ∃ acts, Hears thread r (r.occur thread o) n acts ∧
      acts.filterMap Tracer.Act.report? = o.report?.toList := by
  cases o with
  | attach i => exact h.attach thread i
  | command k c => exact h.commanded thread (commanded_invoke r k c) (queue_invoke r k c)
  | report p =>
    simp only [Relay.occur, h.suspended]
    cases hp : n.pause with
    | none => exact h.report hp thread p
    -- a thread that is in a stop reports nothing
    | some pause =>
      have hact : n.act (.report p) = n := by simp [Runner.act, hp]
      refine ⟨[.report p], ⟨?_, ?_⟩, rfl⟩
      · rw [Runner.after_cons, hact]
        exact h
      · simp [Runner.haltsOf, Runner.halt?, hp, Queue.offerAll]
  | wake =>
    simp only [Relay.occur, h.suspended]
    cases hp : n.pause with
    | none => exact ⟨[], ⟨h, rfl⟩, rfl⟩
    | some p => exact ⟨[.proceed], h.wake hp thread, rfl⟩

theorem Tracks.run (h : r.Tracks n) (thread : Thread) (os : List Occurrence) :
    ∃ acts, Hears thread r (os.foldl (Relay.occur thread) r) n acts ∧
      acts.filterMap Tracer.Act.report? = os.filterMap Occurrence.report? := by
  induction os generalizing r n with
  | nil => exact ⟨[], ⟨h, rfl⟩, rfl⟩
  | cons o rest ih =>
    obtain ⟨acts, hfirst, hreports⟩ := h.occur thread o
    obtain ⟨more, hrest, hmore⟩ := ih hfirst.tracks
    refine ⟨acts ++ more, hfirst.trans hrest, ?_⟩
    rw [List.filterMap_append, hreports, hmore]
    cases o <;> rfl

/-- Over any sequence of reports, commands, looks and attachments from a new tracer on, the relay
offers to its queue one event for each message that the listener of a runner with the same tracer
and the same reports is told, and these are the stops that are heard, with their stacks and
reasons. -/
theorem offers_told (hr : r.native.tracer = {}) (thread : Thread) (os : List Occurrence) :
    ∃ acts, acts.filterMap Tracer.Act.report? = os.filterMap Occurrence.report? ∧
      let n := ({} : Runner).after acts
      let s := os.foldl (Relay.occur thread) r
      n.tracer = s.native.tracer ∧ n.told = (n.halts.filter Tracer.Halt.heard).map (·.message) ∧
      s.queue = r.queue.offerAll
        (n.told.map fun message => .suspended thread message.1 message.2) := by
  have hstart : r.Tracks {} := ⟨hr.symm, Runner.sound_new, by simp⟩
  obtain ⟨acts, hhears, hreports⟩ := hstart.run thread os
  have hall := Runner.halts_after {} acts
  obtain ⟨htracks, hqueue⟩ := hhears
  refine ⟨acts, hreports, ?_⟩
  intro n s
  have htold : n.told = (n.halts.filter Tracer.Halt.heard).map (·.message) := by
    have hpassed : n.passedOn = n.halts := by
      rw [Runner.passedOn, Runner.halts]
      cases hp : n.pause with
      | none => rfl
      | some p =>
        rcases htracks.toldOf p hp with hstage | hstage <;>
          simp [Tracer.Pause.passedOn, hstage]
    rw [htracks.sound.told, hpassed]
  refine ⟨htracks.tracer, htold, ?_⟩
  rw [hqueue, htold, hall, List.map_map]
  rfl

end Relay

end DebugRelay
