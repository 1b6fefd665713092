import DebugRelay.Proofs.Relay.Edits
import DebugRelay.Session

/-!
# Moves of a live relay

While a session lives, the IDE calls its target, the engine reports to the tracer, and the loop
dispatches events. Each of these is one `Relay.Move`, and a run is a sequence of moves in any
order. `Relay.Live` is what all moves keep (`Live.move`): the loop runs, the queue is open, and
nobody asked to end the run. A move is *quiet* if it neither changes the wanted breakpoints nor
tells of them; such a move leaves the registry alone and queues nothing about a file
(`Live.quiet_move`).
-/

namespace DebugRelay.Relay

/-- One atomic step of a live session. -/
inductive Move where
  /-- The registry is filled from the IDE's store. -/
  | load
  | edit (d : Edit)
  /-- The user wants the script to go on. -/
  | requestStep (kind : StepKind)
  /-- The user wants to see the stack. -/
  | requestFrames
  /-- The engine enters a frame of a file. -/
  | enter (f : SourceFile)
  /-- The engine leaves a frame. -/
  | leave
  /-- The engine is about to run the line at the top of a stack, up to going on or parking. -/
  | line (thread : Thread) (stack : List Frame)
  /-- A parked thread that was released goes on. -/
  | wake
  /-- The loop dispatches one event. -/
  | dispatch

/-- The moves that neither change the wanted breakpoints nor tell of them. -/
def Move.Quiet : Move → Prop
  | .load | .edit _ => False
  | .requestStep _ | .requestFrames | .enter _ | .leave | .line _ _ | .wake | .dispatch => True

/-- The relay after a move. Without a released thread or a waiting event, waking up and
dispatching do nothing. -/
def move (r : Relay) : Move → Relay
  | .load => r.loadBreakpoints.1
  | .edit d => r.edit d
  | .requestStep kind => (r.requestStep kind).1
  | .requestFrames => r.requestFrames
  | .enter f => r.enterFrame f
  | .leave => r.leaveFrame
  | .line thread stack => (r.traceLine thread stack).1
  | .wake => (r.wake?.map (·.1)).getD r
  | .dispatch => r.dispatch?.getD r

/-- A relay with a link and a target whose loop runs. -/
def started (parts : Relay.Parts) : Relay :=
  { Relay.create parts [.link, .target] with loop := .running {} }

/-- The session lives: the loop runs, the queue is open, the debugger, if there is one, is the
tracer, and no request to end the run waits. -/
structure Live (r : Relay) : Prop where
  consumers : r.consumers = [.link, .target]
  running : ∃ stats, r.loop = .running stats
  accepts : r.queue.accepts = true
  hook : r.link.hook = none ∨ r.link.hook = some .direct
  unending : .terminateRequest ∉ r.queue.waiting

theorem live_started (parts : Relay.Parts) : (started parts).Live where
  consumers := rfl
  running := ⟨{}, rfl⟩
  accepts := rfl
  hook := Or.inl rfl
  unending := by simp [started, Relay.create, call]

variable {r : Relay}

/-! ## Moves as updates -/

/-- Filling the registry changes it by puts of lasting breakpoints only. -/
theorem loadBreakpoints_eq (hs : r.registry.Sound) (hl : r.registry.Lasting) :
    ∃ registry log, r.loadBreakpoints.1 = { r with registry := registry, log := log } ∧
      registry.Sound ∧ registry.Lasting := by
  unfold loadBreakpoints
  -- the induction is on the stored breakpoints; a warning changes the log only
  induction r.store.filter fun stored => r.supports stored.model generalizing r with
  | nil => exact ⟨r.registry, r.log, rfl, hs, hl⟩
  | cons stored rest ih =>
    unfold putAll
    cases hb : Breakpoint.resolve r.files stored with
    | ok b =>
      obtain ⟨registry, log, heq, hsound, hlasting⟩ :=
        ih (r := { r with registry := (r.registry.put b).1 }) (hs.put b)
          (hl.put (Breakpoint.lasting_of_resolve hb))
      exact ⟨registry, log, heq, hsound, hlasting⟩
    | error e =>
      obtain ⟨registry, log, heq, hsound, hlasting⟩ :=
        ih (r := r.warn ("Skipping breakpoint: " ++ e.message)) hs hl
      exact ⟨registry, log, heq, hsound, hlasting⟩

/-- A request of the user queues one event that concerns no file, or none. -/
theorem requestStep_cases (h : r.queue.accepts = true) (kind : StepKind) :
    (r.requestStep kind).1 = r ∨ (r.requestStep kind).1 =
      { r with queue := { r.queue with waiting := r.queue.waiting ++ [.stepRequest kind] } } := by
  unfold requestStep
  split
  · exact Or.inr (send_of_accepts h _)
  · exact Or.inl rfl

theorem plantAll_eq (t : Tracer) (bs : List Breakpoint) :
    ∃ table, t.plantAll bs = { t with table := table } := by
  induction bs generalizing t with
  | nil => exact ⟨t.table, rfl⟩
  | cons b rest ih =>
    unfold Tracer.plantAll
    split
    · obtain ⟨table, h⟩ := ih (t.plant _ b)
      exact ⟨table, h⟩
    · exact ih t

/-- The tracer after a file is entered, before its breakpoints are brought in line. -/
theorem tracer_enter_eq (t : Tracer) (f : SourceFile) :
    ∃ current load, (t.enter f).1 =
        { t with depth := t.depth + 1, currentFile := current, loadPending := load } ∧
      ∀ g, (t.enter f).2 = some g → g = f := by
  unfold Tracer.enter
  simp only
  split
  · exact ⟨_, _, rfl, by simp⟩
  · refine ⟨_, _, rfl, fun g hg => ?_⟩
    split at hg
    · exact (Option.some.inj hg).symm
    · simp at hg

/-- Entering a frame moves the tracer to its file, and may bring that file in line. -/
theorem enterFrame_cases (hook : r.link.hook = none ∨ r.link.hook = some .direct)
    (f : SourceFile) :
    ∃ entered tracer calls log,
      r.enterFrame f = { r with native := ⟨tracer, calls⟩, log := log } ∧
      (∃ current load, entered = { r.native.tracer with
        depth := r.native.tracer.depth + 1, currentFile := current, loadPending := load }) ∧
      (tracer = entered ∨ r.link.hook = some .direct ∧
        tracer = (entered.clearFile f).plantAll (r.registry.enabledOf f)) := by
  obtain ⟨current, load, hentered, hfile⟩ := tracer_enter_eq r.native.tracer f
  refine ⟨(r.native.tracer.enter f).1, ?_⟩
  unfold enterFrame
  simp only
  cases hload : (r.native.tracer.enter f).2 with
  | none => exact ⟨_, _, _, rfl, ⟨_, _, hentered⟩, Or.inl rfl⟩
  | some g =>
    obtain rfl := hfile g hload
    -- a load is reported only for the file that is entered, and is brought in line at once
    let moved : Relay := { r with
      native := { r.native with tracer := (r.native.tracer.enter g).1 } }
    rcases hook with h | h
    · have hrec : moved.onScriptLoad g = moved := reconcile_detached (r := moved) h g
      refine ⟨_, r.native.calls, r.log, ?_, ⟨_, _, hentered⟩, Or.inl rfl⟩
      exact hrec
    · obtain ⟨calls, log, hrec⟩ := reconcile_direct (r := moved) h g
      exact ⟨_, calls, log, hrec, ⟨_, _, hentered⟩, Or.inr ⟨h, rfl⟩⟩

/-- A traced line changes the tracer; a stop that someone listens to is recorded and announced. -/
theorem traceLine_cases (h : r.queue.accepts = true) (thread : Thread) (stack : List Frame) :
    (∃ outcome, (r.native.tracer.line stack).2 = .passed outcome ∧ r.traceLine thread stack =
      ({ r with native := { r.native with tracer := (r.native.tracer.line stack).1 } },
        some outcome)) ∨
    (∃ reason, (r.native.tracer.line stack).2 = .stopped reason ∧
      (r.native.tracer.line stack).1.observed = false ∧ r.traceLine thread stack =
        ({ r with native := { r.native with tracer := (r.native.tracer.line stack).1 } }, none)) ∨
    ∃ reason, (r.native.tracer.line stack).2 = .stopped reason ∧
      (r.native.tracer.line stack).1.observed = true ∧ r.traceLine thread stack =
        ({ r with
          native := { r.native with tracer := (r.native.tracer.line stack).1 }
          link := { r.link with
            lastThread := some thread, suspension := some ⟨thread, stack, reason⟩ }
          queue := { r.queue with
            waiting := r.queue.waiting ++ [.suspended thread stack reason] } }, none) := by
  unfold traceLine
  cases hline : r.native.tracer.line stack with
  | mk tracer verdict =>
    cases verdict with
    | passed outcome => exact Or.inl ⟨outcome, rfl, rfl⟩
    | stopped reason =>
      cases hobserved : tracer.observed with
      | false => exact Or.inr (Or.inl ⟨reason, rfl, rfl, by simp [hobserved]⟩)
      | true =>
        refine Or.inr (Or.inr ⟨reason, rfl, rfl, ?_⟩)
        simp only [hobserved, if_true]
        congr 1
        exact send_of_accepts (r := { r with
          native := { r.native with tracer := tracer }
          link := { r.link with
            lastThread := some thread, suspension := some ⟨thread, stack, reason⟩ } }) h _

/-- Waking up needs a release or the end of the script. -/
theorem wake?_cases (r : Relay) :
    (r.wake? = none ∧ r.native.tracer.quitting = false ∧ r.native.tracer.release = none) ∨
    (r.native.tracer.quitting = true ∧ r.wake? = some ({ r with
      native := { r.native with tracer := { r.native.tracer with suspended := false } } },
      .quit)) ∨
    ∃ mode, r.native.tracer.quitting = false ∧ r.native.tracer.release = some mode ∧
      r.wake? = some ({ r with native := { r.native with tracer := { r.native.tracer with
        suspended := false, release := none, mode := mode } } }, .continue_) := by
  unfold wake? Tracer.wake?
  cases hquit : r.native.tracer.quitting with
  | true => exact Or.inr (Or.inl ⟨rfl, by simp [hquit]⟩)
  | false =>
    cases hrelease : r.native.tracer.release with
    | none => exact Or.inl ⟨by simp, rfl, rfl⟩
    | some mode => exact Or.inr (Or.inr ⟨mode, rfl, rfl, by simp [hquit]⟩)

/-! ## Dispatching -/

/-- What consuming an event comes to: events about breakpoints bring their file in line, requests
of the user reach the link, and notifications reach the target. -/
inductive Consumed (r : Relay) : Event → Relay → Prop
  | aligned {e : Event} {f : SourceFile} (h : e.file? = some f) : Consumed r e (r.reconcile f).1
  | stepped (kind : StepKind) : Consumed r (.stepRequest kind) (r.step kind).1
  | resent : Consumed r .framesRequest r.resendSuspension
  | notified {e : Event} (h : e.route = .ide) : Consumed r e (r.handleNotification e).1

theorem consumed_consume (r : Relay) {e : Event} (h : e ≠ .terminateRequest) :
    Consumed r e (r.consume e) := by
  cases e with
  | breakpointAdded b => exact .aligned rfl
  | breakpointRemoved b => exact .aligned rfl
  | breakpointChanged b => exact .aligned rfl
  | stepRequest kind => exact .stepped kind
  | framesRequest => exact .resent
  | terminateRequest => exact absurd rfl h
  | engineStarted => exact .notified rfl
  | engineTerminated => exact .notified rfl
  | suspended thread frames reason => exact .notified rfl
  | resumed thread kind => exact .notified rfl
  | scriptReady script thread => exact .notified rfl

/-- The relay from which the oldest event is consumed, when `rest` waits behind it. -/
def taken (r : Relay) (rest : List Event) : Relay :=
  { r with queue := { r.queue with waiting := rest }, actor := .dispatcher }

/-- A dispatch finds nothing and does nothing, or consumes the oldest event. -/
theorem Live.dispatch_cases (h : r.Live) :
    (r.queue.waiting = [] ∧ r.move .dispatch = r) ∨
    ∃ e rest s stats log, r.queue.waiting = e :: rest ∧ Consumed (r.taken rest) e s ∧
      r.move .dispatch = { s with loop := .running stats, actor := .caller, log := log } := by
  cases hw : r.queue.waiting with
  | nil =>
    have hopen : r.queue.closed = false := by
      have ha := h.accepts
      simp only [Queue.accepts, Bool.and_eq_true, Bool.not_eq_true'] at ha
      exact ha.1
    exact Or.inl ⟨rfl, by rw [move, dispatch?_of_nil hw hopen]; rfl⟩
  | cons e rest =>
    obtain ⟨stats, hloop⟩ := h.running
    obtain ⟨stats', log, -, hd⟩ := dispatch?_of_cons h.consumers hloop hw
    have he : e ≠ .terminateRequest := by
      rintro rfl
      exact h.unending (hw ▸ List.mem_cons_self)
    exact Or.inr ⟨e, rest, _, stats', log, rfl, consumed_consume (r.taken rest) he,
      by rw [move, hd]; rfl⟩

theorem resendSuspension_eq (h : r.queue.accepts = true) :
    r.resendSuspension = { r with queue := { r.queue with
      waiting := r.queue.waiting ++
        r.link.suspension.toList.map fun s => .suspended s.thread s.frames s.reason } } := by
  unfold resendSuspension
  cases hs : r.link.suspension with
  | none => simp
  | some s => exact send_of_accepts h _

/-- Consuming an event leaves the registry, the loop and the debugger alone, and queues only
notifications. -/
theorem Consumed.eq {e : Event} {s : Relay} (h : Consumed r e s) (ha : r.queue.accepts = true)
    (hook : r.link.hook = none ∨ r.link.hook = some .direct) :
    ∃ suspension announced native target log delivered,
      s = { r with
        link := { r.link with suspension := suspension }
        queue := { r.queue with waiting := r.queue.waiting ++ announced }
        native := native
        target := target
        log := log
        delivered := delivered } ∧
      ∀ e ∈ announced, e.route = .ide := by
  cases h with
  | @aligned _ f h =>
    refine ⟨r.link.suspension, [], ?_⟩
    rcases hook with hook | hook
    · exact ⟨_, _, _, _, by rw [reconcile_detached hook, List.append_nil], by simp⟩
    · obtain ⟨calls, log, hrec⟩ := reconcile_direct hook f
      exact ⟨_, _, _, _, by rw [hrec, List.append_nil], by simp⟩
  | stepped kind =>
    rcases hook with hook | hook
    · exact ⟨r.link.suspension, [], _, _, _, _,
        by rw [step_detached hook, List.append_nil], by simp⟩
    · obtain ⟨calls, log, mode, hstep⟩ := step_direct hook ha kind
      exact ⟨none, _, _, _, _, _, hstep, by simp [Event.route]⟩
  | resent =>
    refine ⟨r.link.suspension, _, _, _, _, _, resendSuspension_eq ha, fun e he => ?_⟩
    obtain ⟨s, -, rfl⟩ := List.mem_map.1 he
    rfl
  | notified h =>
    obtain ⟨log, hn⟩ := r.handleNotification_spec e
    exact ⟨r.link.suspension, [], _, _, _, _, by rw [hn, List.append_nil], by simp⟩

/-! ## Living on -/

/-- A relay lives on under changes that leave the consumers, the loop and the debugger alone and
queue no request to end the run. -/
theorem Live.of_eq {r' : Relay} (h : r.Live) (hc : r'.consumers = r.consumers)
    (hl : ∃ stats, r'.loop = .running stats) (hq : r'.queue.accepts = r.queue.accepts)
    (hh : r'.link.hook = r.link.hook)
    (hw : ∀ e ∈ r'.queue.waiting, e ∈ r.queue.waiting ∨ e ≠ .terminateRequest) : r'.Live where
  consumers := hc.trans h.consumers
  running := hl
  accepts := hq.trans h.accepts
  hook := by rw [hh]; exact h.hook
  unending he := (hw _ he).elim h.unending fun hne => hne rfl

theorem mem_or_ne_of_mem_append {waiting : List Event} {e x : Event} (he : e ≠ .terminateRequest)
    (hx : x ∈ waiting ++ [e]) : x ∈ waiting ∨ x ≠ .terminateRequest := by
  refine (List.mem_append.1 hx).imp_right fun hx => ?_
  rw [List.mem_singleton.1 hx]
  exact he

/-- Consuming an event that concerns no file may release the parked thread, and leaves the tracer
alone otherwise. -/
theorem Consumed.tracer_eq {e : Event} {s : Relay} (h : Consumed r e s) (hr : r.Live)
    (he : e.file? = none) :
    ∃ release, s.native.tracer = { r.native.tracer with release := release } := by
  cases h with
  | aligned hf =>
    rw [he] at hf
    simp at hf
  | stepped kind =>
    rcases hr.hook with hook | hook
    · exact ⟨_, by rw [step_detached hook]⟩
    · obtain ⟨calls, log, mode, hstep⟩ := step_direct hook hr.accepts kind
      rw [hstep]
      exact Tracer.releaseIn_eq _ mode
  | resent => exact ⟨_, by rw [resendSuspension_eq hr.accepts]⟩
  | notified hroute =>
    obtain ⟨log, hn⟩ := r.handleNotification_spec e
    exact ⟨_, by rw [hn]⟩

theorem Consumed.planted?_eq {e : Event} {s : Relay} (h : Consumed r e s) (hr : r.Live)
    (he : e.file? = none) (f : SourceFile) (n : UInt32) :
    s.native.tracer.planted? f n = r.native.tracer.planted? f n := by
  obtain ⟨release, htracer⟩ := h.tracer_eq hr he
  rw [htracer]
  rfl

theorem Edited.live {d : Edit} {registry : Registry} {announced : List Event}
    {log : List LogEntry} (h : Edited r d registry announced log) (hr : r.Live) :
    (r.edit d).Live := by
  rw [h.eq]
  refine hr.of_eq rfl hr.running rfl rfl fun e he => ?_
  -- an event about a breakpoint does not ask to end the run
  refine (List.mem_append.1 he).imp_right ?_
  rintro he rfl
  obtain ⟨f, hf⟩ := h.files _ he
  simp [Event.file?] at hf

/-- Installing the debugger keeps a session alive. -/
theorem Live.setup (h : r.Live) : (r.setup .direct).1.Live := by
  obtain ⟨calls, log, hsetup⟩ := setup_direct r
  rw [hsetup]
  exact ⟨h.consumers, h.running, h.accepts, Or.inr rfl, h.unending⟩

theorem Live.taken (h : r.Live) {e : Event} {rest : List Event}
    (hw : r.queue.waiting = e :: rest) : (r.taken rest).Live :=
  h.of_eq rfl h.running rfl rfl fun _ hx => Or.inl (hw ▸ List.mem_cons_of_mem e hx)

theorem Live.consumed {e : Event} {s : Relay} (h : r.Live) (hs : Consumed r e s) : s.Live := by
  obtain ⟨suspension, announced, native, target, log, delivered, rfl, hannounced⟩ :=
    hs.eq h.accepts h.hook
  refine h.of_eq rfl h.running rfl rfl fun x hx => ?_
  refine (List.mem_append.1 hx).imp_right ?_
  rintro hx rfl
  exact absurd (hannounced _ hx) (by simp [Event.route])

theorem Live.dispatch (h : r.Live) :
    (r.move .dispatch).Live ∧ (r.move .dispatch).link.hook = r.link.hook := by
  rcases h.dispatch_cases with ⟨-, hd⟩ | ⟨e, rest, s, stats, log, hw, hs, hd⟩
  · rw [hd]
    exact ⟨h, rfl⟩
  · have hlive := (h.taken hw).consumed hs
    rw [hd]
    refine ⟨hlive.of_eq rfl ⟨stats, rfl⟩ rfl rfl fun _ hx => Or.inl hx, ?_⟩
    obtain ⟨suspension, announced, native, target, _, delivered, rfl, -⟩ := hs.eq h.accepts h.hook
    rfl

/-- What a quiet move leaves alone: the debugger and the registry, and nothing waits after it that
is about a file and did not wait before. -/
structure Unedited (r r' : Relay) : Prop where
  live : r'.Live
  hook : r'.link.hook = r.link.hook
  registry : r'.registry = r.registry
  waiting : ∀ e ∈ r'.queue.waiting, e ∈ r.queue.waiting ∨ e.file? = none

theorem Unedited.of_eq {r' : Relay} (h : r.Live) (hc : r'.consumers = r.consumers)
    (hl : ∃ stats, r'.loop = .running stats) (hq : r'.queue.accepts = r.queue.accepts)
    (hh : r'.link.hook = r.link.hook) (hr : r'.registry = r.registry) {announced : List Event}
    (hw : r'.queue.waiting = r.queue.waiting ++ announced)
    (ha : ∀ e ∈ announced, e.file? = none ∧ e ≠ .terminateRequest) : r.Unedited r' where
  live := by
    refine h.of_eq hc hl hq hh fun e he => ?_
    rw [hw] at he
    exact (List.mem_append.1 he).imp_right fun he => (ha e he).2
  hook := hh
  registry := hr
  waiting e he := by
    rw [hw] at he
    exact (List.mem_append.1 he).imp_right fun he => (ha e he).1

theorem Live.quiet_dispatch (h : r.Live) : r.Unedited (r.move .dispatch) := by
  obtain ⟨hlive, hhook⟩ := h.dispatch
  rcases h.dispatch_cases with ⟨-, hd⟩ | ⟨e, rest, s, stats, log, hw, hs, hd⟩
  · rw [hd]
    exact ⟨h, rfl, rfl, fun e he => Or.inl he⟩
  · obtain ⟨suspension, announced, native, target, _, delivered, rfl, hannounced⟩ :=
      hs.eq h.accepts h.hook
    refine ⟨hlive, hhook, by rw [hd]; rfl, fun x hx => ?_⟩
    rw [hd] at hx
    rcases List.mem_append.1 hx with hx | hx
    · exact Or.inl (hw ▸ List.mem_cons_of_mem e hx)
    · exact Or.inr (Event.file?_of_route (hannounced x hx))

theorem Live.quiet_move (h : r.Live) {m : Move} (hm : m.Quiet) : r.Unedited (r.move m) := by
  have hsame : r.Unedited r :=
    .of_eq h rfl h.running rfl rfl rfl (List.append_nil _).symm (by simp)
  cases m with
  | load => exact hm.elim
  | edit d => exact hm.elim
  | requestStep kind =>
    rw [Relay.move]
    rcases requestStep_cases h.accepts kind with heq | heq
    · rw [heq]
      exact hsame
    · rw [heq]
      exact .of_eq h rfl h.running rfl rfl rfl rfl (by simp [Event.file?])
  | requestFrames =>
    rw [Relay.move, Relay.requestFrames, send_of_accepts h.accepts]
    exact .of_eq h rfl h.running rfl rfl rfl rfl (by simp [Event.file?])
  | enter f =>
    obtain ⟨entered, tracer, calls, log, heq, -, -⟩ := enterFrame_cases h.hook f
    rw [Relay.move, heq]
    exact .of_eq h rfl h.running rfl rfl rfl (List.append_nil _).symm (by simp)
  | leave => exact .of_eq h rfl h.running rfl rfl rfl (List.append_nil _).symm (by simp)
  | line thread stack =>
    rw [Relay.move]
    rcases traceLine_cases h.accepts thread stack with
      ⟨outcome, -, heq⟩ | ⟨reason, -, -, heq⟩ | ⟨reason, -, -, heq⟩
    · rw [heq]
      exact .of_eq h rfl h.running rfl rfl rfl (List.append_nil _).symm (by simp)
    · rw [heq]
      exact .of_eq h rfl h.running rfl rfl rfl (List.append_nil _).symm (by simp)
    · rw [heq]
      exact .of_eq h rfl h.running rfl rfl rfl rfl (by simp [Event.file?])
  | wake =>
    rw [Relay.move]
    rcases r.wake?_cases with ⟨heq, -⟩ | ⟨-, heq⟩ | ⟨mode, -, -, heq⟩
    · rw [heq]
      exact hsame
    · rw [heq]
      exact .of_eq h rfl h.running rfl rfl rfl (List.append_nil _).symm (by simp)
    · rw [heq]
      exact .of_eq h rfl h.running rfl rfl rfl (List.append_nil _).symm (by simp)
  | dispatch => exact h.quiet_dispatch

/-- Every move keeps the session alive, and none installs or drops a debugger. -/
theorem Live.move_spec (h : r.Live) (hs : r.registry.Sound) (hl : r.registry.Lasting) (m : Move) :
    (r.move m).Live ∧ (r.move m).link.hook = r.link.hook := by
  by_cases hm : m.Quiet
  · exact ⟨(h.quiet_move hm).live, (h.quiet_move hm).hook⟩
  -- what is left are the two moves that change the registry
  · cases m with
    | load =>
      obtain ⟨registry, log, heq, -, -⟩ := loadBreakpoints_eq hs hl
      rw [Relay.move, heq]
      exact ⟨h.of_eq rfl h.running rfl rfl fun e he => Or.inl he, rfl⟩
    | edit d =>
      obtain ⟨registry, announced, log, hd⟩ := edited_edit hs hl h.accepts d
      exact ⟨hd.live h, by rw [Relay.move, hd.eq]⟩
    | _ => exact absurd trivial hm

theorem Live.move (h : r.Live) (hs : r.registry.Sound) (hl : r.registry.Lasting) (m : Move) :
    (r.move m).Live :=
  (h.move_spec hs hl m).1

theorem Live.hook_move (h : r.Live) (hs : r.registry.Sound) (hl : r.registry.Lasting) (m : Move) :
    (r.move m).link.hook = r.link.hook :=
  (h.move_spec hs hl m).2

end DebugRelay.Relay
