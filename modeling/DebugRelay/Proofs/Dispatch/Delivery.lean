import DebugRelay.Dispatch.Rules
import DebugRelay.Proofs.Dispatch.Progress

/-!
# Delivery

`Delivery` is the law of delivery for every interleaving of producers and a dispatch loop: what the
journal of a run satisfies, that the loop gets to every accepted event, and that it ends after the
events that were waiting when the queue was closed.

`Dispatch.next` and `Dispatch.run` are such interleavings (`next_runs`, `run_of_closed`): in the
journal, an event that `next` dispatches is followed by the calls that hand it out (`handOut`), one
for each processor of its route, with the reply that the processor gives in the state that the one
before left. Of the processors it is only asked that they have a route and act on the queue by
offering events and closing it (`Processor.Serves`), and processors with rules do no more than that
(`Trial.serves_processor`).
-/

namespace DebugRelay.Dispatch

section Loop

variable {σ : Type} {host : Host σ} {processors : List (Processor σ)} {w v u : World σ}

theorem Runs.trans {j k : Nat} (hw : Runs host processors w j v)
    (hv : Runs host processors v k u) : Runs host processors w (j + k) u := by
  induction hv with
  | refl => exact hw
  | outside _ ho ih => exact ih.outside ho
  | loop _ hs ih => exact ih.loop hs

/-- Actions on the queue are a run without a step of the loop. -/
theorem runs_acts (host : Host σ) (processors : List (Processor σ)) (w : World σ)
    (actions : List Queue.Action) :
    Runs host processors w 0 (actions.foldl (World.act host) w) := by
  induction actions generalizing w with
  | nil => exact .refl
  | cons a rest ih =>
    have hfirst : Runs host processors w 0 (w.act host a) := .outside .refl (.act w a)
    exact hfirst.trans (ih _)

/-! ## Handing out one event -/

/-- The calls that hand an event to the processors left, and the state after them, if nobody else
does anything meanwhile. Each processor of the event's route handles it in the state that the one
before left. -/
def handOut (host : Host σ) (e : Event) : List (Processor σ × Nat) → σ → List Happening × σ
  | [], s => ([], s)
  | (p, i) :: left, s =>
    if p.route? = some e.route then
      let (told, after) := handOut host e left (callOne host p e s 0).1
      (.called i e (p.handle e s).2 :: told, after)
    else handOut host e left s

/-- What was counted before does not matter to a call. -/
theorem callOne_fst (p : Processor σ) (e : Event) (s : σ) (failures : UInt64) :
    (callOne host p e s failures).1 = (callOne host p e s 0).1 := by
  unfold callOne
  cases p.handle e s with
  | mk s' reply => cases reply <;> rfl

/-- If nothing else is done to the queue meanwhile, a call leaves the state as the processor left
it. -/
theorem state_called (hl : host.Lawful) {p : Processor σ} {e : Event} {own : List Queue.Action}
    (hown : host.queue (p.handle e w.state).1 = own.foldl Queue.act (w.queue host)) (i : Nat)
    (left : List (Processor σ × Nat)) :
    (w.called host p i e left own).state =
      (callOne host p e w.state w.stats.processorFailures).1 := by
  obtain ⟨hqueue, -⟩ := callOne_spec hl p e w.state w.stats.processorFailures
  change host.setQueue _ ((own.foldl (World.act host) w).queue host) = _
  rw [queue_acts hl, ← hown, ← hqueue, hl.setQueue_queue]

theorem filter_calls_eq_nil {done : List Happening} (h : calls done = []) :
    done.filter (·.call?.isSome) = [] := by
  rw [List.filter_eq_nil_iff]
  intro x hx hcall
  obtain ⟨call, hcall⟩ := Option.isSome_iff_exists.1 hcall
  have hmem : call ∈ calls done := List.mem_filterMap.2 ⟨x, hx, hcall⟩
  simp [h] at hmem

/-- `deliver` is a run that hands the event to the processors left, one call after the other. -/
theorem deliver_runs (hl : host.Lawful) (processors : List (Processor σ)) {e : Event}
    {left : List (Processor σ × Nat)} (hps : ∀ x ∈ left, x.1.Serves host)
    (hp : w.phase = .handing e left) :
    ∃ k v told, Runs host processors w k v ∧ v.phase = .handing e [] ∧
      deliver host e (left.map Prod.fst) w.state w.stats.processorFailures =
        (v.state, v.stats.processorFailures, true) ∧
      v.stats.delivered = w.stats.delivered ∧
      v.stats.droppedAfterClose = w.stats.droppedAfterClose ∧
      v.journal = w.journal ++ told ∧ dispatched told = [] ∧
      (told.filter (·.call?.isSome), v.state) = handOut host e left w.state := by
  induction left generalizing w with
  | nil => exact ⟨0, w, [], .refl, hp, rfl, rfl, rfl, (List.append_nil _).symm, rfl, rfl⟩
  | cons x left ih =>
    obtain ⟨p, i⟩ := x
    obtain ⟨hasked, hacts⟩ : p.Serves host := hps (p, i) List.mem_cons_self
    have hleft : ∀ x ∈ left, x.1.Serves host := fun x hx => hps x (List.mem_cons_of_mem _ hx)
    obtain ⟨route, hroute⟩ := Option.isSome_iff_exists.1 hasked
    by_cases hr : route = e.route
    · obtain ⟨own, hown⟩ := hacts e w.state
      have hcall : LoopStep host processors w (w.called host p i e left own) :=
        .call hp (hr ▸ hroute) hown (List.Sublist.refl own)
      have hstate := state_called hl hown i left
      obtain ⟨done, hdone, hdispatched, hcalls⟩ :=
        journal_called host w p i e left own
      obtain ⟨k, v, told, hrun, hphase, hdeliver, hdelivered, hdropped, htold, hnone, hout⟩ :=
        ih (w := w.called host p i e left own) hleft rfl
      refine ⟨_, v, done ++ .called i e (p.handle e w.state).2 :: told,
        (Runs.refl.loop hcall).trans hrun, hphase, ?_, hdelivered, hdropped, ?_, ?_, ?_⟩
      · rw [hstate] at hdeliver
        simp only [List.map_cons, deliver, hroute, if_pos hr]
        exact hdeliver
      · rw [htold, hdone]
        simp
      · rw [dispatched_append, dispatched_cons, hdispatched, hnone]
        rfl
      · rw [hstate, callOne_fst] at hout
        rw [handOut, if_pos (hr ▸ hroute), ← hout, List.filter_append, filter_calls_eq_nil hcalls]
        rfl
    · have hskip : LoopStep host processors w { w with phase := .handing e left } :=
        .skip hp hroute hr
      have hother : p.route? ≠ some e.route := by simp [hroute, hr]
      obtain ⟨k, v, told, hrun, hphase, hdeliver, hrest⟩ :=
        ih (w := { w with phase := .handing e left }) hleft rfl
      refine ⟨_, v, told, (Runs.refl.loop hskip).trans hrun, hphase, ?_, ?_⟩
      · simp only [List.map_cons, deliver, hroute, if_neg hr]
        exact hdeliver
      · rw [handOut, if_neg hother]
        exact hrest

/-! ## The loop of the program -/

/-- A step of the loop leads from a world as a run does. An event is taken and handed out, call by
call, and then the loop is between two events again; or the loop ends, and changes nothing; or it
waits at an open queue. It does not crash. -/
def Follows (host : Host σ) (processors : List (Processor σ)) (w : World σ) : Step σ → Prop
  | .idle => (w.queue host).waiting = [] ∧ (w.queue host).closed = false
  | .dispatched s stats => ∃ e rest k v told, (w.queue host).pop? = some (e, rest) ∧
      Runs host processors w k v ∧ v.phase = .between ∧ v.state = s ∧ v.stats = stats ∧
      v.journal = w.journal ++ .dispatched e :: told ∧ dispatched told = [] ∧
      (told.filter (·.call?.isSome), s) =
        handOut host e processors.zipIdx (host.setQueue w.state rest)
  | .ended stats => ∃ v, LoopStep host processors w v ∧ v.phase = .finished ∧
      v.state = w.state ∧ v.stats = stats
  | .crashed _ => False

/-- `next` takes the steps that are interleaved here. -/
theorem next_runs (hl : host.Lawful) (hps : ∀ p ∈ processors, p.Serves host)
    (hp : w.phase = .between) :
    Follows host processors w (next host processors w.state w.stats) := by
  unfold next
  cases hpop : (host.queue w.state).pop? with
  | none =>
    cases hc : (host.queue w.state).closed with
    | false => exact ⟨pop?_eq_none_iff.1 hpop, hc⟩
    | true => exact ⟨_, .stop hp hpop hc, rfl, rfl, rfl⟩
  | some popped =>
    obtain ⟨e, rest⟩ := popped
    -- one dispatch is a step that takes the event, a run that hands it out, and a step that ends it
    let taken : World σ := { w with
      state := host.setQueue w.state rest
      phase := .handing e processors.zipIdx }.noting (.dispatched e)
    have htake : LoopStep host processors w taken := .take hp hpop
    have hserve : ∀ x ∈ processors.zipIdx, x.1.Serves host :=
      fun x hx => hps x.1 (List.fst_mem_of_mem_zipIdx hx)
    obtain ⟨k, v, told, hrun, hphase, hdeliver, hdelivered, hdropped, htold, hnone, hout⟩ :=
      deliver_runs (w := taken) hl processors hserve rfl
    rw [List.zipIdx_map_fst] at hdeliver
    have hdeliver' : deliver host e processors (host.setQueue w.state rest)
        w.stats.processorFailures = (v.state, v.stats.processorFailures, true) := hdeliver
    simp only [hdeliver']
    refine ⟨e, rest, _, _, told, hpop, ((Runs.refl.loop htake).trans hrun).loop (.finish hphase),
      rfl, rfl, ?_, ?_, hnone, hout⟩
    · rw [Statistics.mk.injEq]
      exact ⟨congrArg (· + 1) hdelivered, hdropped, rfl⟩
    · change v.journal = _
      rw [htold]
      simp [taken]

/-- The loop ends when nothing waits. -/
theorem LoopStep.waiting_of_finished (h : LoopStep host processors w v)
    (hv : v.phase = .finished) : (w.queue host).waiting = [] := by
  cases h with
  | stop hp hq hc => exact pop?_eq_none_iff.1 hq
  | take | skip | call | finish => cases hv

/-- Once the queue is closed, `run` comes to its end after a step for each event that waits and one
more, and this is a run of the loop to its end. -/
theorem run_of_closed (hl : host.Lawful) (hps : ∀ p ∈ processors, p.Serves host)
    (hw : Counted host processors w) (hp : w.phase = .between)
    (hc : (w.queue host).closed = true) :
    ∃ k v, Runs host processors w k v ∧ v.phase = .finished ∧
      run host processors ((w.queue host).waiting.length + 1) w.state w.stats =
        .finished v.state v.stats := by
  induction hn : (w.queue host).waiting.length generalizing w with
  | zero =>
    have hempty := List.length_eq_zero_iff.1 hn
    have hfollows := next_runs hl hps hp
    have hnext : next host processors w.state w.stats =
        .ended { w.stats with droppedAfterClose := (w.queue host).dropped } := by
      have hpop : (host.queue w.state).pop? = none := pop?_eq_none_iff.2 hempty
      have hc' : (host.queue w.state).closed = true := hc
      rw [next, hpop]
      simp [hc', World.queue]
    rw [hnext] at hfollows
    obtain ⟨v, hs, hphase, hstate, hstats⟩ := hfollows
    exact ⟨1, v, .loop .refl hs, hphase, by rw [run, hnext, hstate, hstats]⟩
  | succ n ih =>
    have hfollows := next_runs hl hps hp
    cases hnext : next host processors w.state w.stats with
    | idle =>
      rw [hnext] at hfollows
      simp [hfollows.2] at hc
    | crashed s => simp [hnext, Follows] at hfollows
    | ended stats =>
      rw [hnext] at hfollows
      obtain ⟨v, hs, hphase, -⟩ := hfollows
      simp [hs.waiting_of_finished hphase] at hn
    | dispatched s stats =>
      rw [hnext] at hfollows
      obtain ⟨e, rest, k, v, told, hpop, hr, hphase, rfl, rfl, hjournal, hnone, -⟩ := hfollows
      obtain ⟨hclosed, -, haccepted⟩ := hr.of_closed hl hc
      obtain ⟨hwaiting, -⟩ := pop?_eq_some_iff.1 hpop
      have hv := hw.runs hl hr
      -- nothing is accepted any more, and one event is dispatched, so the others still wait
      have hstill : (v.queue host).waiting = rest.waiting := by
        have hbefore := hw.law.inOrder
        have hafter := hv.law.inOrder
        have hone : dispatched v.journal = dispatched w.journal ++ [e] := by
          rw [hjournal, dispatched_append, dispatched_cons, hnone]
          rfl
        rw [haccepted, hbefore, hone, hwaiting] at hafter
        simpa using hafter.symm
      rw [hwaiting, List.length_cons, Nat.succ.injEq, ← hstill] at hn
      obtain ⟨j, u, hrest, hfinished, hrun⟩ := ih hv hphase hclosed hn
      exact ⟨k + j, u, hr.trans hrest, hfinished, by rw [run, hnext]; exact hrun⟩

/-! ## The law for every run -/

/-- What is delivered, as far as a run has come and from there on. -/
structure Delivery (host : Host σ) (processors : List (Processor σ)) (w : World σ) : Prop
    extends Law host processors w where
  /-- The loop can take a step, unless it is over or waits at an open queue. -/
  moves : w.phase = .finished ∨
    (w.phase = .between ∧ (w.queue host).waiting = [] ∧ (w.queue host).closed = false) ∨
    ∃ v, LoopStep host processors w v
  /-- After as many steps as the loop has to go, it has dispatched all that was accepted before. -/
  reached : ∀ k v, Runs host processors w k v → w.work host processors ≤ k →
    accepted w.journal <+: dispatched v.journal
  /-- Once the queue is closed, nothing adds to the steps that the loop has to go, and at its end it
  has dispatched just the events that were waiting. -/
  drained : (w.queue host).closed = true → ∀ k v, Runs host processors w k v →
    k + v.work host processors = w.work host processors ∧
    (v.work host processors = 0 ↔ v.phase = .finished) ∧
    dispatched v.journal ++ (v.queue host).waiting =
      dispatched w.journal ++ (w.queue host).waiting

theorem Delivery.of_counted (hl : host.Lawful) (hps : ∀ p ∈ processors, p.Serves host)
    (hw : Counted host processors w) : Delivery host processors w where
  toLaw := hw.law
  moves := hw.exists_loopStep hps
  reached _ _ hr hk := hr.dispatched_of_work_le hl hw hk
  drained hc k v hr := by
    obtain ⟨-, hwork, haccepted⟩ := hr.of_closed hl hc
    refine ⟨hwork, work_eq_zero_iff, ?_⟩
    rw [← (hw.runs hl hr).law.inOrder, haccepted, hw.law.inOrder]

end Loop

/-! ## Processors with rules -/

namespace Trial

theorem lawful_host : host.Lawful where
  queue_setQueue _ _ := rfl
  setQueue_queue _ := rfl
  queue_note _ _ _ := rfl

/-- Performing actions offers and closes in their order, up to the one that ends the call. -/
theorem exists_actions_perform (t : Trial) (actions : List Action) :
    ∃ own : List Queue.Action, (t.perform actions).1.queue = own.foldl Queue.act t.queue := by
  induction actions generalizing t with
  | nil => exact ⟨[], rfl⟩
  | cons action rest ih =>
    cases action with
    | close =>
      obtain ⟨own, h⟩ := ih { t with queue := t.queue.close.1 }
      exact ⟨.close :: own, h⟩
    | enqueue e =>
      obtain ⟨own, h⟩ := ih { t with queue := (t.queue.enqueue e).1 }
      exact ⟨.offer e :: own, h⟩
    | fail e => exact ⟨[], rfl⟩
    | panic message => exact ⟨[], rfl⟩

/-- A processor with rules serves, however it closes, enqueues, fails or panics. -/
theorem serves_processor (position : Nat) (route : Route) (rules : List Rule) :
    (processor position (some route) rules).Serves host where
  asked := rfl
  acts _ _ := exists_actions_perform _ _

end Trial

/-! ## Every interleaving -/

/-- The law of delivery holds of every interleaving of producers and a dispatch loop whose
processors serve. Between two events the next step of the loop hands out the next event, and once
the queue is closed the loop runs to its end. -/
theorem Runs.delivery {σ : Type} {host : Host σ} {processors : List (Processor σ)} {s : σ}
    {k : Nat} {w : World σ} (hl : host.Lawful) (hps : ∀ p ∈ processors, p.Serves host)
    (hs : host.queue s = {}) (h : Runs host processors { state := s } k w) :
    Delivery host processors w ∧
    (w.phase = .between →
      Follows host processors w (next host processors w.state w.stats) ∧
      ((w.queue host).closed = true → ∃ j v, Runs host processors w j v ∧ v.phase = .finished ∧
        run host processors ((w.queue host).waiting.length + 1) w.state w.stats =
          .finished v.state v.stats)) := by
  have hw : Counted host processors w := (counted_init hs).runs hl h
  exact ⟨.of_counted hl hps hw, fun hp => ⟨next_runs hl hps hp, run_of_closed hl hps hw hp⟩⟩

/-- While a processor handles the only event, it closes the queue, offers another event in vain,
and panics. The next processor of the route gets the event all the same, and the loop runs to its
end. It has counted one of each. -/
theorem delivery_of_failing_call :
    ∃ (processors : List (Processor Trial)) (k j : Nat) (v u : World Trial)
      (told : List Happening),
      Runs Trial.host processors { state := {} } k v ∧ Runs Trial.host processors v j u ∧
      v.journal = .offered .engineStarted true :: .dispatched .engineStarted :: told ∧
      told.filter (·.call?.isSome) =
        [.called 0 .engineStarted (.panicked none), .called 2 .engineStarted .handled] ∧
      u.phase = .finished ∧ u.stats = ⟨1, 1, 1⟩ ∧ dispatched u.journal = accepted u.journal := by
  let processors : List (Processor Trial) :=
    [Trial.processor 0 (some .ide)
      [⟨"engine_started", none, [.close, .enqueue .engineTerminated, .panic none]⟩],
      Trial.processor 1 (some .interpreter) [], Trial.processor 2 (some .ide) []]
  have hps : ∀ p ∈ processors, p.Serves Trial.host := by
    simp [processors, Trial.serves_processor]
  let start : World Trial := { state := {} }
  let offered := start.act Trial.host (.offer .engineStarted)
  let after : Trial := {
    queue := { closed := true, dropped := 1 }
    log := [⟨.dispatcher, .error,
      "Processor panicked on engine_started event: unknown panic payload"⟩]
    seen := [(2, .engineStarted), (0, .engineStarted)] }
  have hoffer : Runs Trial.host processors start 0 offered := .outside .refl (.act _ _)
  -- the loop takes one step, in which the queue is closed
  have hnext : next Trial.host processors offered.state offered.stats =
      .dispatched after ⟨1, 0, 1⟩ := rfl
  obtain ⟨hfollows, -⟩ := (hoffer.delivery Trial.lawful_host hps rfl).2 rfl
  rw [hnext] at hfollows
  obtain ⟨e, rest, k, v, told, hpop, hr, hphase, hstate, hstats, hjournal, -, hout⟩ := hfollows
  cases hpop
  -- and from there it runs to its end
  have hrun : run Trial.host processors 1 after ⟨1, 0, 1⟩ = .finished after ⟨1, 1, 1⟩ := rfl
  have hfirst := hoffer.trans hr
  have hqueue : v.queue Trial.host = after.queue := by
    rw [World.queue, hstate]
    rfl
  obtain ⟨j, u, hrest, hfinished, hend⟩ :=
    ((hfirst.delivery Trial.lawful_host hps rfl).2 hphase).2 (by rw [hqueue])
  rw [hqueue, hstate, hstats] at hend
  obtain ⟨-, hcounted⟩ : after = u.state ∧ ⟨1, 1, 1⟩ = u.stats := by
    simpa only [End.finished.injEq] using hrun.symm.trans hend
  -- what was accepted is what was dispatched, as nothing waits in the end
  obtain ⟨hdelivery, -⟩ := (hfirst.trans hrest).delivery Trial.lawful_host hps rfl
  have horder := hdelivery.inOrder
  rw [hdelivery.waiting_of_finished hfinished, List.append_nil] at horder
  exact ⟨processors, _, j, v, u, told, hfirst, hrest, hjournal, congrArg Prod.fst hout, hfinished,
    hcounted.symm, horder.symm⟩

end DebugRelay.Dispatch
