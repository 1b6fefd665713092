import DebugRelay.Proofs.Registry.Histories
import DebugRelay.Proofs.Relay.Dispatching
import DebugRelay.Proofs.Relay.Installing

/-!
# Histories of a session

`Session.Op` is everything that can be done to a launched session: by its owner, by the IDE, by the
engine, to the registry and to the link. A history is a list of operations in any order, single
dispatches among them. What ended stays ended, so a history that ends the session has exactly one
operation that ends it (`exists_ends`, `ends_unique`).
-/

namespace DebugRelay

/-- What can be asked of the link directly, besides what the dispatch loop asks of it. -/
inductive Relay.LinkCall where
  | setup (i : Interpreter)
  | setBreakpoint (b : Breakpoint)
  | clearFile (f : SourceFile)
  | reconcile (f : SourceFile)
  | installAll
  | step (kind : StepKind)
  | terminate
  | detach
  | onSuspend (stop : Suspension)
  | onScriptLoad (f : SourceFile)
  | request (e : Event)

/-- The relay after a call of its link. -/
def Relay.callLink (r : Relay) : LinkCall → Relay
  | .setup i => (r.setup i).1
  | .setBreakpoint b => (r.setBreakpoint b).1
  | .clearFile f => (r.clearFile f).1
  | .reconcile f => (r.reconcile f).1
  | .installAll => r.installAll.1
  | .step kind => (r.step kind).1
  | .terminate => r.terminate.1
  | .detach => r.detach
  | .onSuspend stop => r.onSuspend stop
  | .onScriptLoad f => r.onScriptLoad f
  | .request e => r.handleRequest e

theorem Relay.effect_callLink (r : Relay) (c : LinkCall) :
    ∃ offered, r.Effect (r.callLink c) offered := by
  cases c with
  | setup i => exact ⟨[], r.effect_setup i⟩
  | setBreakpoint b => exact ⟨[], (r.steady_setBreakpoint b).toEffect⟩
  | clearFile f => exact ⟨[], (r.steady_fire _).toEffect⟩
  | reconcile f => exact ⟨[], (r.steady_reconcile f).toEffect⟩
  | installAll => exact ⟨[], (r.steady_setBreakpoints _).toEffect⟩
  | step kind =>
    obtain ⟨offered, hsteady⟩ := r.steady_step kind
    exact ⟨offered, hsteady.toEffect⟩
  | terminate => exact ⟨[], r.steady_terminate.toEffect⟩
  | detach => exact ⟨[], r.effect_detach⟩
  | onSuspend stop =>
    obtain ⟨offered, hsteady⟩ := r.steady_onSuspend stop
    exact ⟨offered, hsteady.toEffect⟩
  | onScriptLoad f => exact ⟨[], (r.steady_reconcile f).toEffect⟩
  | request e =>
    obtain ⟨offered, hsteady⟩ := r.steady_handleRequest e
    exact ⟨offered, hsteady.toEffect⟩

namespace Session

/-- Something that is done to a session. -/
inductive Op where
  /-- The interpreter started, and the debugger is to be installed. -/
  | start (i : Interpreter)
  /-- A script is about to run. -/
  | scriptReady (script : Script) (thread : Thread)
  /-- The engine finished. -/
  | finish
  | join
  | shutdown
  /-- A call of the IDE, a report of the engine, or a dispatch. -/
  | move (m : Relay.Move)
  /-- The user wants the run to end. -/
  | requestTermination
  | registry (o : Registry.Op)
  | link (c : Relay.LinkCall)

/-- The session after an operation. -/
def act (s : Session) : Op → Session
  | .start i => (s.engineStarted i).1
  | .scriptReady script thread => { s with relay := s.relay.scriptReady script thread }
  | .finish => s.engineTerminated.1
  | .join => s.join.1
  | .shutdown => s.shutdown.1
  | .move m => s.move m
  | .requestTermination => { s with relay := s.relay.requestTermination }
  | .registry o =>
    { s with relay := { s.relay with registry := s.relay.registry.perform o } }
  | .link c => { s with relay := s.relay.callLink c }

/-- The session after a list of operations, the first of them done first. -/
def after (s : Session) (ops : List Op) : Session := ops.foldl act s

@[simp]
theorem after_nil (s : Session) : s.after [] = s := rfl

@[simp]
theorem after_cons (s : Session) (o : Op) (ops : List Op) :
    s.after (o :: ops) = (s.act o).after ops := rfl

theorem after_append (s : Session) (ops more : List Op) :
    s.after (ops ++ more) = (s.after ops).after more :=
  List.foldl_append

/-- The session has just been launched. -/
def IsLaunch (s : Session) : Prop :=
  ∃ id now settings files store sinkPanic,
    launch id now settings files store sinkPanic = .ok s

/-- A session starts with a fresh relay, apart from its registry. -/
theorem IsLaunch.relay {s : Session} (h : s.IsLaunch) :
    ∃ parts registry calls log, s.relay = { Relay.started parts with
      registry := registry, native := ⟨{}, calls⟩, log := log } := by
  obtain ⟨uuid, now, settings, files, store, sinkPanic, h⟩ := h
  obtain ⟨parts, registry, calls, log, -, -, heq⟩ := launch_eq h
  exact ⟨parts, registry, calls, log, heq⟩

theorem IsLaunch.open {s : Session} (h : s.IsLaunch) :
    s.terminated = false ∧ s.joined = false := by
  obtain ⟨uuid, now, settings, files, store, sinkPanic, h⟩ := h
  simp only [launch] at h
  split at h
  · simp at h
  · rw [Except.ok.injEq] at h
    subst h
    exact ⟨rfl, rfl⟩

theorem IsLaunch.plain {s : Session} (h : s.IsLaunch) : s.relay.Plain := by
  obtain ⟨parts, registry, calls, log, heq⟩ := h.relay
  rw [heq]
  exact ⟨rfl, rfl⟩

/-- An interpreter whose debugger accepts the relay and no command. -/
def sampleRefusing : Interpreter :=
  ⟨none, none, none, ⟨true, fun _ c => some (.command c.nativeName "busy")⟩⟩

theorem isLaunch_sampleSession : sampleSession.IsLaunch :=
  ⟨.zero, ⟨0, 0⟩, ⟨"", ⟨"", "", true, false, false, "", ""⟩, ⟨""⟩, ⟨"", ""⟩⟩, ⟨[]⟩, [],
    fun _ => none, rfl⟩

/-- Every operation of a history is allowed in the state that it is done in. -/
def Follows (allowed : Session → Op → Prop) : Session → List Op → Prop
  | _, [] => True
  | s, o :: rest => allowed s o ∧ Follows allowed (s.act o) rest

variable {s t : Session} {o : Op} {queued : List Event}

theorem follows_append {allowed : Session → Op → Prop} {ops more : List Op} :
    Follows allowed s (ops ++ more) ↔
      Follows allowed s ops ∧ Follows allowed (s.after ops) more := by
  induction ops generalizing s with
  | nil => simp [Follows]
  | cons o rest ih => simp [Follows, ih, and_assoc]

/-! ## The announcement of the end -/

/-- The relay when the end of the engine is announced. -/
def closing (r : Relay) : Relay :=
  { (r.send .engineTerminated).detach with queue := (r.send .engineTerminated).queue.close.1 }

theorem engineTerminated_of_open (h : s.terminated = false) :
    s.engineTerminated = ({ s with relay := closing s.relay, terminated := true }, true) := by
  simp only [engineTerminated, h, Bool.false_eq_true, if_false]
  rfl

/-- Only the first announcement counts. -/
theorem engineTerminated_of_terminated (h : s.terminated = true) :
    s.engineTerminated = (s, false) := by
  simp only [engineTerminated, h, if_true]

theorem join_of_open (h : s.terminated = false) :
    s.join = (s, .error (.wrongState "join" "running")) := by
  simp [join, h]

/-- Waiting for the loop can succeed once. -/
theorem join_of_joined (h : s.terminated = true) (hj : s.joined = true) :
    s.join = (s, .error (.dispatch "dispatch thread already joined")) := by
  simp [join, h, hj]

theorem join_of_terminated (h : s.terminated = true) (hj : s.joined = false) :
    s.join.1 = { s with relay := s.relay.settle, joined := true } := by
  simp only [join, h, hj, if_true, Bool.false_eq_true, if_false, joinLoop]
  split <;> rfl

theorem join_of_ended {stats : Dispatch.Statistics} (h : s.terminated = true)
    (hj : s.joined = false) (hl : s.relay.settle.loop = .ended stats) :
    s.join = ({ s with relay := s.relay.settle, joined := true }, .ok stats) := by
  simp [join, h, hj, joinLoop, hl]

/-- A start installs the debugger and announces it, or fails and ends the session, unless it has
ended. -/
theorem start_cases (s : Session) (i : Interpreter) :
    ((s.relay.setup i).2 = .ok () ∧
      s.act (.start i) = { s with relay := (s.relay.setup i).1.send .engineStarted }) ∨
    ∃ e log, (s.relay.setup i).2 = .error e ∧
      (s.terminated = true ∧
        s.act (.start i) = { s with relay := { (s.relay.setup i).1 with log := log } } ∨
      s.terminated = false ∧ s.act (.start i) = { s with
        relay := closing { (s.relay.setup i).1 with log := log }, terminated := true }) := by
  rw [act, engineStarted]
  cases s.relay.setup i with
  | mk r result =>
    cases result with
    | ok _ => exact Or.inl ⟨rfl, rfl⟩
    | error e =>
      refine Or.inr ⟨e, (r.note .error ("Debugger setup failed: " ++ e.message)).log, rfl, ?_⟩
      cases hs : s.terminated with
      | true =>
        refine Or.inl ⟨rfl, ?_⟩
        simp only [engineTerminated, if_true]
        rfl
      | false =>
        refine Or.inr ⟨rfl, ?_⟩
        simp only [engineTerminated, Bool.false_eq_true, if_false]
        rfl

/-! ## What an operation comes to -/

/-- The events that a relay queues while it settles by a number of dispatches at most. -/
def queuedSettling : Nat → Relay → List Event
  | 0, _ => []
  | fuel + 1, r =>
    match r.dispatch? with
    | some r' =>
      r'.queue.waiting.drop (r.queue.waiting.length - 1) ++ queuedSettling fuel r'
    | none => []

/-- The events that the queue accepts while the loop is waited for. -/
def acceptsJoining (s : Session) : List Event :=
  if s.terminated && !s.joined then queuedSettling s.relay.stepBound s.relay else []

/-- The events that the queue accepts during an operation: those that wait after it and did not
before. A dispatch takes one event off the queue, and nothing else does. -/
def accepts (s : Session) : Op → List Event
  | .move .dispatch =>
    (s.move .dispatch).relay.queue.waiting.drop (s.relay.queue.waiting.length - 1)
  | .join => s.acceptsJoining
  | .shutdown =>
    s.engineTerminated.1.relay.queue.waiting.drop s.relay.queue.waiting.length ++
      s.engineTerminated.1.acceptsJoining
  | o => (s.act o).relay.queue.waiting.drop s.relay.queue.waiting.length

/-- The events that the queue accepts during a history. -/
def accepted (s : Session) : List Op → List Event
  | [] => []
  | o :: rest => s.accepts o ++ (s.act o).accepted rest

theorem accepted_append (s : Session) (ops more : List Op) :
    s.accepted (ops ++ more) = s.accepted ops ++ (s.after ops).accepted more := by
  induction ops generalizing s with
  | nil => rfl
  | cons o rest ih => simp [accepted, ih]

/-- What an operation comes to, with the events accepted: an effect on the relay, a dispatch, the
end of the session after an effect, waiting for the loop, or the end and waiting in one. -/
inductive Course (s : Session) : Session → List Event → Prop
  | effect {r : Relay} {offered : List Event} (h : s.relay.Effect r offered) :
      Course s { s with relay := r } (r.queue.waiting.drop s.relay.queue.waiting.length)
  | dispatched : Course s (s.move .dispatch)
      ((s.move .dispatch).relay.queue.waiting.drop (s.relay.queue.waiting.length - 1))
  | ended {r : Relay} (hs : s.terminated = false) (h : s.relay.Effect r []) :
      Course s { s with relay := closing r, terminated := true }
        ((closing r).queue.waiting.drop s.relay.queue.waiting.length)
  | waited (hs : s.terminated = true) (hj : s.joined = false) :
      Course s { s with relay := s.relay.settle, joined := true }
        (queuedSettling s.relay.stepBound s.relay)
  | closed (hs : s.terminated = false) (hj : s.joined = false) :
      Course s { s with relay := (closing s.relay).settle, terminated := true, joined := true }
        ((closing s.relay).queue.waiting.drop s.relay.queue.waiting.length ++
          queuedSettling (closing s.relay).stepBound (closing s.relay))

theorem course_steady {r : Relay} (h : ∃ offered, s.relay.Steady r offered) :
    Course s { s with relay := r } (r.queue.waiting.drop s.relay.queue.waiting.length) := by
  obtain ⟨offered, h⟩ := h
  exact .effect h.toEffect

theorem course_self (s : Session) : Course s s [] := by
  have h := course_steady (s := s) ⟨[], .refl s.relay⟩
  rwa [List.drop_length] at h

theorem course_start (s : Session) (i : Interpreter) :
    Course s (s.act (.start i)) (s.accepts (.start i)) := by
  have heffect : ∀ log, s.relay.Effect { (s.relay.setup i).1 with log := log } [] := fun log =>
    (s.relay.effect_setup i).trans (Relay.effect_of_eq List.prefix_rfl fun hq => hq)
  change Course s _ ((s.act (.start i)).relay.queue.waiting.drop s.relay.queue.waiting.length)
  rcases s.start_cases i with ⟨-, heq⟩ | ⟨e, log, -, ⟨-, heq⟩ | ⟨hs, heq⟩⟩
  · rw [heq]
    exact .effect ((s.relay.effect_setup i).trans (Relay.steady_send _ (by simp)).toEffect)
  · rw [heq]
    exact .effect (heffect log)
  · rw [heq]
    exact .ended hs (heffect log)

theorem course_join (s : Session) : Course s s.join.1 s.acceptsJoining := by
  rw [acceptsJoining]
  rcases Bool.eq_false_or_eq_true s.terminated with hs | hs
  · rcases Bool.eq_false_or_eq_true s.joined with hj | hj
    · rw [join_of_joined hs hj]
      simpa [hs, hj] using course_self s
    · rw [join_of_terminated hs hj]
      simpa [hs, hj] using Course.waited hs hj
  · rw [join_of_open hs]
    simpa [hs] using course_self s

theorem course_finish (s : Session) : Course s (s.act .finish) (s.accepts .finish) := by
  change Course s s.engineTerminated.1
    (s.engineTerminated.1.relay.queue.waiting.drop s.relay.queue.waiting.length)
  rcases Bool.eq_false_or_eq_true s.terminated with hs | hs
  · rw [engineTerminated_of_terminated hs]
    exact .effect (Relay.Steady.refl _).toEffect
  · rw [engineTerminated_of_open hs]
    exact .ended hs (Relay.Steady.refl _).toEffect

theorem course_shutdown (s : Session) : Course s (s.act .shutdown) (s.accepts .shutdown) := by
  rw [accepts, act, shutdown]
  rcases Bool.eq_false_or_eq_true s.terminated with hs | hs
  · rw [engineTerminated_of_terminated hs, List.drop_length]
    exact course_join s
  · rw [engineTerminated_of_open hs]
    let t : Session := { s with relay := closing s.relay, terminated := true }
    have hjoined : t.acceptsJoining =
        if s.joined then [] else queuedSettling t.relay.stepBound t.relay := by
      simp only [acceptsJoining, t, Bool.true_and]
      cases s.joined <;> rfl
    change Course s t.join.1
      (t.relay.queue.waiting.drop s.relay.queue.waiting.length ++ t.acceptsJoining)
    rw [hjoined]
    rcases Bool.eq_false_or_eq_true s.joined with hj | hj
    · rw [join_of_joined (s := t) rfl hj, hj, if_pos rfl, List.append_nil]
      exact .ended hs (Relay.Steady.refl _).toEffect
    · rw [join_of_terminated (s := t) rfl hj, hj]
      exact .closed hs hj

theorem steady_requestTermination (r : Relay) :
    ∃ offered, r.Steady r.requestTermination offered := by
  rw [Relay.requestTermination]
  split
  · exact ⟨[], .refl r⟩
  · exact ⟨_, r.steady_send (by simp)⟩

theorem course_act (s : Session) (o : Op) : Course s (s.act o) (s.accepts o) := by
  cases o with
  | start i => exact course_start s i
  | scriptReady script thread => exact course_steady ⟨_, Relay.steady_send _ (by simp)⟩
  | finish => exact course_finish s
  | join => exact course_join s
  | shutdown => exact course_shutdown s
  | move m =>
    cases m with
    | dispatch => exact .dispatched
    | load => exact course_steady (s.relay.steady_move (by simp))
    | edit d => exact course_steady (s.relay.steady_move (by simp))
    | requestStep kind => exact course_steady (s.relay.steady_move (by simp))
    | requestFrames => exact course_steady (s.relay.steady_move (by simp))
    | enter f => exact course_steady (s.relay.steady_move (by simp))
    | leave => exact course_steady (s.relay.steady_move (by simp))
    | line thread stack => exact course_steady (s.relay.steady_move (by simp))
    | wake => exact course_steady (s.relay.steady_move (by simp))
  | requestTermination => exact course_steady (steady_requestTermination s.relay)
  | registry o => exact course_steady ⟨[], Relay.steady_of_eq rfl (fun h => h) fun h => h⟩
  | link c =>
    obtain ⟨offered, heffect⟩ := s.relay.effect_callLink c
    exact .effect heffect

theorem plain_closing {r : Relay} (h : r.Plain) : (closing r).Plain := ⟨h.consumers, h.engine⟩

/-- The relay of a session stays plain. -/
theorem Course.plain (h : Course s t queued) (hp : s.relay.Plain) : t.relay.Plain := by
  have heffect : ∀ {r offered}, s.relay.Effect r offered → r.Plain := by
    intro r offered heff
    obtain ⟨registry, link, native, log, rfl⟩ := heff.frame
    exact ⟨hp.consumers, hp.engine⟩
  cases h with
  | effect heff => exact heffect heff
  | dispatched => exact hp.dispatch
  | ended hs heff => exact plain_closing (heffect heff)
  | waited hs hj => exact (Relay.orderly_settle hp).1
  | closed hs hj => exact (Relay.orderly_settle (plain_closing hp)).1

theorem plain_after (h : s.relay.Plain) (ops : List Op) : (s.after ops).relay.Plain := by
  induction ops generalizing s with
  | nil => exact h
  | cons o rest ih => exact ih ((course_act s o).plain h)

theorem Course.grows (h : Course s t queued) (hp : s.relay.Plain) : s.relay.Grows t.relay := by
  cases h with
  | effect heff => exact heff.toGrows
  | dispatched => exact (Relay.orderly_dispatch hp.consumers).toGrows
  | ended hs heff => exact ⟨heff.calls, heff.quits⟩
  | waited hs hj => exact (Relay.orderly_settle hp).2.toGrows
  | closed hs hj =>
    have hsettled := (Relay.orderly_settle (plain_closing hp)).2
    exact ⟨hsettled.calls, hsettled.quits⟩

theorem grows_after (hp : s.relay.Plain) (ops : List Op) :
    s.relay.Grows (s.after ops).relay := by
  induction ops generalizing s with
  | nil => exact ⟨List.prefix_rfl, fun h => h⟩
  | cons o rest ih => exact ((course_act s o).grows hp).trans (ih ((course_act s o).plain hp))

/-! ## The end of a session -/

theorem Course.terminated (h : Course s t queued) (hs : s.terminated = true) :
    t.terminated = true := by
  cases h with
  | effect _ => exact hs
  | dispatched => exact hs
  | ended _ _ => rfl
  | waited _ _ => exact hs
  | closed _ _ => rfl

theorem terminated_after (h : s.terminated = true) (ops : List Op) :
    (s.after ops).terminated = true := by
  induction ops generalizing s with
  | nil => exact h
  | cons o rest ih => exact ih ((course_act s o).terminated h)

/-- A session that is open after some operations was open before them. -/
theorem open_of_after {ops : List Op} (h : (s.after ops).terminated = false) :
    s.terminated = false := by
  rw [← Bool.not_eq_true] at h ⊢
  exact fun hs => h (terminated_after hs ops)

/-- The operation ends the session. -/
def Ends (s : Session) (o : Op) : Prop := s.terminated = false ∧ (s.act o).terminated = true

/-- A history that ends a session has an operation that ends it. -/
theorem exists_ends {ops : List Op} (hs : s.terminated = false)
    (h : (s.after ops).terminated = true) :
    ∃ before o later, ops = before ++ o :: later ∧ (s.after before).Ends o := by
  induction ops generalizing s with
  | nil => simp [hs] at h
  | cons o rest ih =>
    cases ho : (s.act o).terminated with
    | true => exact ⟨[], o, rest, rfl, hs, ho⟩
    | false =>
      obtain ⟨before, o', later, rfl, hends⟩ := ih ho h
      exact ⟨o :: before, o', later, rfl, hends⟩

/-- No other operation of the history ends the session. -/
theorem ends_unique {before before' later later' : List Op} {o o' : Op}
    (heq : before ++ o :: later = before' ++ o' :: later') (h : (s.after before).Ends o)
    (h' : (s.after before').Ends o') : before = before' ∧ o = o' ∧ later = later' := by
  induction before generalizing s before' with
  | nil =>
    cases before' with
    | nil => exact ⟨rfl, List.cons.inj heq⟩
    | cons x rest =>
      obtain ⟨rfl, -⟩ := List.cons.inj heq
      -- the session has ended by the time that the other operation is done
      have hopen : (s.act o).terminated = false := open_of_after h'.1
      exact absurd h.2 (by simp [hopen])
  | cons x rest ih =>
    cases before' with
    | nil =>
      obtain ⟨rfl, -⟩ := List.cons.inj heq
      have hopen : (s.act x).terminated = false := open_of_after h.1
      exact absurd h'.2 (by simp [hopen])
    | cons x' rest' =>
      obtain ⟨rfl, hrest⟩ := List.cons.inj heq
      obtain ⟨rfl, hsame⟩ := ih hrest h h'
      exact ⟨rfl, hsame⟩

/-- The end detaches the session from its debugger. -/
theorem Ends.hook (h : s.Ends o) (hp : s.relay.Plain) : (s.act o).relay.link.hook = none := by
  obtain ⟨hs, hended⟩ := h
  have hcourse := course_act s o
  generalize s.act o = t at hcourse hended
  generalize s.accepts o = queued at hcourse
  cases hcourse with
  | effect _ => simp [hs] at hended
  | dispatched => simp [move, hs] at hended
  | ended _ _ => rfl
  | waited hs' _ => simp [hs] at hs'
  | closed _ _ => exact (Relay.orderly_settle (plain_closing hp)).2.hook_none rfl

theorem ends_finish (h : s.terminated = false) : s.Ends .finish := by
  refine ⟨h, ?_⟩
  rw [act, engineTerminated_of_open h]

theorem ends_shutdown (h : s.terminated = false) : s.Ends .shutdown := by
  refine ⟨h, ?_⟩
  rw [act, shutdown, engineTerminated_of_open h]
  exact (course_join _).terminated rfl

/-- A start leaves the debugger installed, or fails. If it fails it ends the session, or comes after
the end and leaves the link as it was. -/
theorem hook_start (s : Session) (i : Interpreter) :
    ((s.relay.setup i).2 = .ok () ∧ (s.act (.start i)).relay.link.hook = some i.hook) ∨
    ((s.relay.setup i).2 ≠ .ok () ∧ (s.Ends (.start i) ∨
      s.terminated = true ∧ (s.act (.start i)).relay.link = s.relay.link)) := by
  rcases s.start_cases i with ⟨hok, heq⟩ | ⟨e, log, herror, ⟨hs, heq⟩ | ⟨hs, heq⟩⟩
  · rcases s.relay.link_setup i with ⟨-, hook⟩ | ⟨e, herror, -⟩
    · exact Or.inl ⟨hok, by rw [heq]; exact hook⟩
    · simp [hok] at herror
  · rcases s.relay.link_setup i with ⟨hok, -⟩ | ⟨e, -, hlink⟩
    · simp [hok] at herror
    · exact Or.inr ⟨by simp [herror], Or.inr ⟨hs, by rw [heq]; exact hlink⟩⟩
  · exact Or.inr ⟨by simp [herror], Or.inl ⟨hs, by rw [heq]⟩⟩

/-- A session ends by an announcement, by a shutdown, or by a start that fails. -/
theorem Ends.cause (h : s.Ends o) :
    o = .finish ∨ o = .shutdown ∨ ∃ i, o = .start i ∧ (s.relay.setup i).2 ≠ .ok () := by
  obtain ⟨hs, hended⟩ := h
  cases o with
  | start i =>
    rcases s.start_cases i with ⟨-, heq⟩ | ⟨e, log, herror, -⟩
    · simp [heq, hs] at hended
    · exact Or.inr (Or.inr ⟨i, rfl, by simp [herror]⟩)
  | finish => exact Or.inl rfl
  | shutdown => exact Or.inr (Or.inl rfl)
  | join => simp [act, join_of_open hs, hs] at hended
  | scriptReady script thread => simp [act, hs] at hended
  | move m => simp [act, move, hs] at hended
  | requestTermination => simp [act, hs] at hended
  | registry o => simp [act, hs] at hended
  | link c => simp [act, hs] at hended

theorem ends_start {i : Interpreter} {e : Error} (h : s.terminated = false)
    (hfail : (s.relay.setup i).2 = .error e) : s.Ends (.start i) := by
  rcases s.hook_start i with ⟨hok, -⟩ | ⟨-, hends | ⟨hs, -⟩⟩
  · simp [hfail] at hok
  · exact hends
  · simp [h] at hs

/-- The operation neither starts the engine nor reaches for the link. -/
def Op.IsCommon : Op → Prop
  | .start _ | .link _ => False
  | .scriptReady _ _ | .finish | .join | .shutdown | .move _ | .requestTermination
  | .registry _ => True

theorem orderly_join (hp : s.relay.Plain) : s.relay.Orderly s.join.1.relay := by
  have hsame : s.relay.Orderly s.relay := Relay.orderly_of_native_eq rfl rfl
  rcases Bool.eq_false_or_eq_true s.terminated with hs | hs
  · rcases Bool.eq_false_or_eq_true s.joined with hj | hj
    · rw [join_of_joined hs hj]
      exact hsame
    · rw [join_of_terminated hs hj]
      exact (Relay.orderly_settle hp).2
  · rw [join_of_open hs]
    exact hsame

/-- A common operation is orderly, unless it ends the session. -/
theorem orderly_act (hp : s.relay.Plain) (ho : o.IsCommon) (hs : ¬ s.Ends o) :
    s.relay.Orderly (s.act o).relay := by
  have hsteady : ∀ {r : Relay}, (∃ offered, s.relay.Steady r offered) → s.relay.Orderly r :=
    fun ⟨_, h⟩ => h.toOrderly
  cases o with
  | start i => exact ho.elim
  | scriptReady script thread => exact hsteady ⟨_, Relay.steady_send _ (by simp)⟩
  | finish =>
    have hended : s.terminated = true := by
      by_contra h
      exact hs (ends_finish (by simpa using h))
    rw [act, engineTerminated_of_terminated hended]
    exact Relay.orderly_of_native_eq rfl rfl
  | join => exact orderly_join hp
  | shutdown =>
    have hended : s.terminated = true := by
      by_contra h
      exact hs (ends_shutdown (by simpa using h))
    rw [act, shutdown, engineTerminated_of_terminated hended]
    exact orderly_join hp
  | move m =>
    by_cases hm : m = .dispatch
    · rw [hm]
      exact Relay.orderly_dispatch hp.consumers
    · exact hsteady (s.relay.steady_move hm)
  | requestTermination => exact hsteady (steady_requestTermination s.relay)
  | registry o => exact hsteady ⟨[], Relay.steady_of_eq rfl (fun h => h) fun h => h⟩
  | link c => exact ho.elim

end Session

end DebugRelay
