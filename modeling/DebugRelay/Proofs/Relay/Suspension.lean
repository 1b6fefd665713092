import DebugRelay.Proofs.Relay.Moves
import DebugRelay.Proofs.Target

/-!
# Agreement on suspension

The interpreter's thread parks in a traced line, the link records the stop, and the target shows
it. `Session.Launched` and `Session.Runs` are the states of a session before and after the engine
started, the latter with the stack that the thread is parked with. `Relay.Following` is the
invariant: the link's record is the stop that nothing has released, and the target will show that
stop once the waiting events are dispatched. When the queue is empty, the target shows that stop.
-/

namespace DebugRelay

/-- Two tracers agree on who listens, on the parked thread and on its release. -/
structure Tracer.StopsLike (t t' : Tracer) : Prop where
  observed : t'.observed = t.observed
  quitting : t'.quitting = t.quitting
  suspended : t'.suspended = t.suspended
  release : t'.release = t.release

namespace Tracer

variable {t t' : Tracer}

theorem StopsLike.reconciled (h : t.StopsLike t') (f : SourceFile) (bs : List Breakpoint) :
    t.StopsLike ((t'.clearFile f).plantAll bs) := by
  obtain ⟨table, htable⟩ := Relay.plantAll_eq (t'.clearFile f) bs
  rw [htable]
  exact ⟨h.observed, h.quitting, h.suspended, h.release⟩

theorem stopsLike_reason (t : Tracer) (f : SourceFile) (n : UInt32) :
    t.StopsLike (t.reason f n).1 := by
  obtain ⟨table, first, load, h⟩ := t.reason_eq f n
  rw [h]
  exact ⟨rfl, rfl, rfl, rfl⟩

/-- A line at which the engine goes on changes nothing about stops. -/
theorem stopsLike_of_passed {stack : List Frame} {outcome : Outcome}
    (h : (t.line stack).2 = .passed outcome) : t.StopsLike (t.line stack).1 := by
  rcases t.line_cases stack with
    ⟨hl, -⟩ | ⟨hl, -⟩ | ⟨f, n, -, -, ⟨hl, -⟩ | ⟨reason, -, hl⟩⟩
  · rw [hl]
    exact ⟨rfl, rfl, rfl, rfl⟩
  · rw [hl]
    exact ⟨rfl, rfl, rfl, rfl⟩
  · rw [hl]
    exact t.stopsLike_reason f n
  · rw [hl] at h
    simp at h

/-- A line that stops parks its thread, and no release is under way. -/
theorem line_of_stopped {stack : List Frame} {reason : StopReason}
    (h : (t.line stack).2 = .stopped reason) :
    (t.line stack).1.observed = t.observed ∧ (t.line stack).1.quitting = t.quitting ∧
      (t.line stack).1.suspended = true ∧ (t.line stack).1.release = none := by
  rcases t.line_cases stack with
    ⟨hl, -⟩ | ⟨hl, -⟩ | ⟨f, n, -, -, ⟨hl, -⟩ | ⟨reason, -, hl⟩⟩
  · rw [hl] at h
    simp at h
  · rw [hl] at h
    simp at h
  · rw [hl] at h
    simp at h
  · rw [hl]
    have hr := t.stopsLike_reason f n
    exact ⟨hr.observed, hr.quitting, rfl, rfl⟩

end Tracer

namespace Relay

/-- The stack of the parked thread, unless its release is under way. -/
def held (r : Relay) (parked : Option (List Frame)) : Option (List Frame) :=
  if r.native.tracer.release.isSome then none else parked

theorem held_none (r : Relay) : r.held none = none := by
  unfold held
  split <;> rfl

/-- The target after the waiting events. -/
def upcoming (r : Relay) : Target :=
  r.target.after r.settings.showDynamicCode r.queue.waiting

/-- The link and the target follow a thread that is parked with the given stack, if it is. -/
structure Following (r : Relay) (parked : Option (List Frame)) : Prop where
  live : r.Live
  sound : r.registry.Sound
  wants : r.registry.Lasting
  willing : r.native.tracer.quitting = false
  suspended : r.native.tracer.suspended = parked.isSome
  observed : r.link.hook = some .direct → r.native.tracer.observed = true
  recorded : r.link.suspension.map (·.frames) = r.held parked
  fresh : r.link.hook = none → parked = none ∧ r.upcoming.state = .created ∧ r.upcoming.frames = []
  shows : r.link.hook = some .direct → r.upcoming.Shows (r.held parked)

variable {r : Relay} {parked : Option (List Frame)}

/-- A step after which the tracer stops as before, the link has the same record and the same events
reach the target in the end keeps the invariant. -/
theorem Following.of_eq {r' : Relay} (h : r.Following parked) (hlive : r'.Live)
    (hsound : r'.registry.Sound) (hwants : r'.registry.Lasting)
    (hhook : r'.link.hook = r.link.hook) (hrecord : r'.link.suspension = r.link.suspension)
    (hstops : r.native.tracer.StopsLike r'.native.tracer) (hup : r'.upcoming = r.upcoming) :
    r'.Following parked := by
  have hheld : r'.held parked = r.held parked := by rw [held, held, hstops.release]
  constructor
  case live => exact hlive
  case sound => exact hsound
  case wants => exact hwants
  case willing => exact hstops.quitting.trans h.willing
  case suspended => exact hstops.suspended.trans h.suspended
  case observed => exact fun ha => hstops.observed.trans (h.observed (hhook ▸ ha))
  case recorded => rw [hrecord, hheld]; exact h.recorded
  case fresh => rw [hhook, hup]; exact h.fresh
  case shows => rw [hhook, hup, hheld]; exact h.shows

/-- Requests that wait do not change what the target will show. -/
theorem upcoming_append {r' : Relay} {announced : List Event} (ht : r'.target = r.target)
    (hs : r'.settings = r.settings) (hw : r'.queue.waiting = r.queue.waiting ++ announced)
    (hroute : ∀ e ∈ announced, e.route = .interpreter) : r'.upcoming = r.upcoming := by
  rw [upcoming, ht, hs, hw, Target.after_append, Target.after_of_requests hroute]
  rfl

/-- What the target will show after one more event has been queued. -/
theorem upcoming_concat {r' : Relay} {e : Event} (ht : r'.target = r.target)
    (hs : r'.settings = r.settings) (hw : r'.queue.waiting = r.queue.waiting ++ [e]) :
    r'.upcoming = (r.upcoming.apply r.settings.showDynamicCode e).target := by
  rw [upcoming, ht, hs, hw, Target.after_concat]
  rfl

theorem upcoming_taken {e : Event} {rest : List Event} (hw : r.queue.waiting = e :: rest) :
    r.upcoming = (r.target.apply r.settings.showDynamicCode e).target.after
      r.settings.showDynamicCode rest := by
  rw [upcoming, hw]
  rfl

/-- Taking a request off the queue does not change what the target will show. -/
theorem upcoming_of_request {e : Event} {rest : List Event} (hw : r.queue.waiting = e :: rest)
    (he : e.route = .interpreter) : (r.taken rest).upcoming = r.upcoming := by
  rw [upcoming_taken hw, Target.apply_of_request he]
  rfl

theorem Following.taken (h : r.Following parked) {e : Event} {rest : List Event}
    (hw : r.queue.waiting = e :: rest) (he : e.route = .interpreter) :
    (r.taken rest).Following parked := by
  exact h.of_eq (h.live.taken hw) h.sound h.wants rfl rfl ⟨rfl, rfl, rfl, rfl⟩
    (upcoming_of_request hw he)

/-- Letting the script go on leaves nothing held, whether or not a thread is parked. -/
theorem held_of_released {r' : Relay} {mode : Tracer.Mode}
    (hp : r.native.tracer.suspended = parked.isSome)
    (ht : r'.native.tracer = r.native.tracer.releaseIn mode) : r'.held parked = none := by
  rw [held, ht, Tracer.releaseIn, hp]
  cases parked with
  | none => simp
  | some stack => simp

theorem Following.step (h : r.Following parked) (kind : StepKind) :
    (r.step kind).1.Following parked := by
  rcases h.live.hook with hook | hook
  · rw [step_detached hook]
    exact h
  · obtain ⟨calls, log, mode, hstep⟩ := step_direct hook h.live.accepts kind
    have hlive : (r.step kind).1.Live := by
      rw [hstep]
      exact h.live.of_eq rfl h.live.running rfl rfl fun _ => mem_or_ne_of_mem_append (by simp)
    have hreleased : (r.step kind).1.native.tracer = r.native.tracer.releaseIn mode := by
      rw [hstep]
    have hheld : (r.step kind).1.held parked = none := held_of_released h.suspended hreleased
    have hup : (r.step kind).1.upcoming =
        (r.upcoming.apply r.settings.showDynamicCode (.resumed r.link.lastThread kind)).target :=
      upcoming_concat (by rw [hstep]) (by rw [hstep]) (by rw [hstep])
    -- a release tells nobody to quit and leaves the parked thread parked until it wakes up
    have hflags : (r.native.tracer.releaseIn mode).observed = r.native.tracer.observed ∧
        (r.native.tracer.releaseIn mode).quitting = r.native.tracer.quitting ∧
        (r.native.tracer.releaseIn mode).suspended = r.native.tracer.suspended := by
      unfold Tracer.releaseIn
      split <;> exact ⟨rfl, rfl, rfl⟩
    constructor
    case live => exact hlive
    case sound => rw [hstep]; exact h.sound
    case wants => rw [hstep]; exact h.wants
    case willing => rw [hstep]; exact hflags.2.1.trans h.willing
    case suspended => rw [hstep]; exact hflags.2.2.trans h.suspended
    case observed => rw [hstep]; exact fun ha => hflags.1.trans (h.observed ha)
    case recorded => rw [hheld, hstep]; rfl
    case fresh =>
      intro hnone
      rw [hstep] at hnone
      simp [hook] at hnone
    case shows =>
      intro _
      rw [hheld, hup]
      exact (h.shows hook).resumed _ kind

theorem Following.resendSuspension (h : r.Following parked) :
    r.resendSuspension.Following parked := by
  have heq := resendSuspension_eq h.live.accepts
  cases hs : r.link.suspension with
  | none =>
    rw [Relay.resendSuspension, hs]
    exact h
  | some s =>
    rw [hs, Option.toList_some, List.map_singleton] at heq
    -- a recorded stop has not been released, so reporting it again shows what is held
    have hheld : r.held parked = some s.frames := by
      rw [← h.recorded, hs]
      rfl
    have hup : r.resendSuspension.upcoming = (r.upcoming.apply r.settings.showDynamicCode
        (.suspended s.thread s.frames s.reason)).target :=
      upcoming_concat (by rw [heq]) (by rw [heq]) (by rw [heq])
    constructor
    case live =>
      rw [heq]
      exact h.live.of_eq rfl h.live.running rfl rfl fun _ => mem_or_ne_of_mem_append (by simp)
    case sound => rw [heq]; exact h.sound
    case wants => rw [heq]; exact h.wants
    case willing => rw [heq]; exact h.willing
    case suspended => rw [heq]; exact h.suspended
    case observed => rw [heq]; exact h.observed
    case recorded => rw [heq]; exact h.recorded
    case fresh =>
      intro hnone
      rw [heq] at hnone
      obtain ⟨hparked, -, -⟩ := h.fresh hnone
      rw [held, hparked] at hheld
      simp at hheld
    case shows =>
      intro ha
      rw [heq] at ha
      have hsame : r.resendSuspension.held parked = some s.frames := by
        rw [heq]
        exact hheld
      rw [hsame, hup]
      exact (h.shows ha).suspended s.thread s.frames s.reason

theorem Following.reconcile (h : r.Following parked) (f : SourceFile) :
    (r.reconcile f).1.Following parked := by
  rcases h.live.hook with hook | hook
  · rw [reconcile_detached hook]
    exact h
  · obtain ⟨calls, log, hrec⟩ := reconcile_direct hook f
    rw [hrec]
    exact h.of_eq (h.live.of_eq rfl h.live.running rfl rfl fun _ he => Or.inl he) h.sound h.wants
      rfl rfl (Tracer.StopsLike.reconciled ⟨rfl, rfl, rfl, rfl⟩ f _) rfl

theorem Following.dispatch (h : r.Following parked) :
    (r.move .dispatch).Following parked := by
  have hlive := h.live.dispatch.1
  rcases h.live.dispatch_cases with ⟨-, hd⟩ | ⟨e, rest, s, stats, log, hw, hs, hd⟩
  · rw [hd]
    exact h
  · have hfollow : s.Following parked := by
      -- a request is consumed by a relay that follows already; a notification is taken off the
      -- queue and shown in one step
      cases hs with
      | aligned hf => exact (h.taken hw (Event.route_of_file? hf)).reconcile _
      | stepped kind => exact (h.taken hw rfl).step kind
      | resent => exact (h.taken hw rfl).resendSuspension
      | notified hroute =>
        obtain ⟨log', hn⟩ := (r.taken rest).handleNotification_spec e
        rw [hn]
        exact h.of_eq ((h.live.taken hw).of_eq rfl h.live.running rfl rfl fun _ hx => Or.inl hx)
          h.sound h.wants rfl rfl ⟨rfl, rfl, rfl, rfl⟩ (upcoming_taken hw).symm
    rw [hd] at hlive ⊢
    exact hfollow.of_eq hlive hfollow.sound hfollow.wants rfl rfl ⟨rfl, rfl, rfl, rfl⟩ rfl

/-- The move is about a traced line: the engine reports one, or its thread leaves one. -/
def Move.isTracing : Move → Bool
  | .line _ _ | .wake => true
  | .load | .edit _ | .requestStep _ | .requestFrames | .enter _ | .leave | .dispatch => false

/-- A move that is not about a traced line leaves the thread where it is. -/
theorem Following.move (h : r.Following parked) {m : Move} (hm : m.isTracing = false) :
    (r.move m).Following parked := by
  have hlive := h.live.move h.sound h.wants m
  cases m with
  | load =>
    obtain ⟨registry, log, heq, hsound, hwants⟩ := loadBreakpoints_eq h.sound h.wants
    rw [Relay.move, heq] at hlive ⊢
    exact h.of_eq hlive hsound hwants rfl rfl ⟨rfl, rfl, rfl, rfl⟩ rfl
  | edit d =>
    obtain ⟨registry, announced, log, hd⟩ := edited_edit h.sound h.wants h.live.accepts d
    have hroute : ∀ e ∈ announced, e.route = .interpreter := by
      intro e he
      obtain ⟨f, hf⟩ := hd.files e he
      exact Event.route_of_file? hf
    rw [Relay.move, hd.eq] at hlive ⊢
    exact h.of_eq hlive hd.sound hd.lasting rfl rfl ⟨rfl, rfl, rfl, rfl⟩
      (upcoming_append rfl rfl rfl hroute)
  | requestStep kind =>
    rw [Relay.move] at hlive ⊢
    rcases requestStep_cases h.live.accepts kind with heq | heq
    · rw [heq]
      exact h
    · rw [heq] at hlive ⊢
      exact h.of_eq hlive h.sound h.wants rfl rfl ⟨rfl, rfl, rfl, rfl⟩
        (upcoming_append rfl rfl rfl (by simp [Event.route]))
  | requestFrames =>
    rw [Relay.move, Relay.requestFrames, send_of_accepts h.live.accepts] at hlive ⊢
    exact h.of_eq hlive h.sound h.wants rfl rfl ⟨rfl, rfl, rfl, rfl⟩
      (upcoming_append rfl rfl rfl (by simp [Event.route]))
  | enter f =>
    obtain ⟨entered, tracer, calls, log, heq, ⟨current, load, rfl⟩, htracer⟩ :=
      enterFrame_cases h.live.hook f
    rw [Relay.move, heq] at hlive ⊢
    refine h.of_eq hlive h.sound h.wants rfl rfl ?_ rfl
    rcases htracer with rfl | ⟨-, rfl⟩
    · exact ⟨rfl, rfl, rfl, rfl⟩
    · refine Tracer.StopsLike.reconciled ?_ f _
      exact ⟨rfl, rfl, rfl, rfl⟩
  | leave => exact h.of_eq hlive h.sound h.wants rfl rfl ⟨rfl, rfl, rfl, rfl⟩ rfl
  | line thread stack => simp [Move.isTracing] at hm
  | wake => simp [Move.isTracing] at hm
  | dispatch => exact h.dispatch

/-- A line that is traced while no thread is parked leaves the thread parked with its stack, or
going on. -/
theorem Following.line (h : r.Following none) (ha : r.link.hook = some .direct) (thread : Thread)
    (stack : List Frame) :
    (r.move (.line thread stack)).Following
      (if (r.traceLine thread stack).2.isNone then some stack else none) := by
  have hlive := h.live.move h.sound h.wants (.line thread stack)
  rw [Relay.move] at hlive ⊢
  rcases traceLine_cases h.live.accepts thread stack with
    ⟨outcome, hpass, heq⟩ | ⟨reason, hstop, hobserved, heq⟩ | ⟨reason, hstop, -, heq⟩
  · rw [heq] at hlive ⊢
    exact h.of_eq hlive h.sound h.wants rfl rfl (Tracer.stopsLike_of_passed hpass) rfl
  -- an installed debugger listens, so no stop passes it by
  · rw [(Tracer.line_of_stopped hstop).1, h.observed ha] at hobserved
    simp at hobserved
  · obtain ⟨hobserved, hquitting, hsuspended, hrelease⟩ := Tracer.line_of_stopped hstop
    have hup : (r.traceLine thread stack).1.upcoming = (r.upcoming.apply
        r.settings.showDynamicCode (.suspended thread stack reason)).target :=
      upcoming_concat (by rw [heq]) (by rw [heq]) (by rw [heq])
    have hheld : (r.traceLine thread stack).1.held (some stack) = some stack := by
      rw [held, heq]
      simp only [hrelease]
      rfl
    have hnone : (r.traceLine thread stack).2.isNone = true := by rw [heq]; rfl
    rw [if_pos hnone]
    constructor
    case live => exact hlive
    case sound => rw [heq]; exact h.sound
    case wants => rw [heq]; exact h.wants
    case willing => rw [heq]; exact hquitting.trans h.willing
    case suspended => rw [heq]; exact hsuspended
    case observed => rw [heq]; exact fun ha => hobserved.trans (h.observed ha)
    case recorded => rw [hheld, heq]; rfl
    case fresh =>
      intro hd
      rw [heq] at hd
      simp [ha] at hd
    case shows =>
      intro _
      rw [hheld, hup]
      exact (h.shows ha).suspended thread stack reason

/-- A thread that goes on was released, and is parked no longer. -/
theorem Following.wake (h : r.Following parked) (hw : r.wake?.isSome) :
    (r.move .wake).Following none := by
  have hlive := h.live.move h.sound h.wants .wake
  rcases r.wake?_cases with ⟨heq, -⟩ | ⟨hquit, -⟩ | ⟨mode, -, hrelease, heq⟩
  · simp [heq] at hw
  -- the release was under way, so the link and the target had let go of the stop before
  · simp [h.willing] at hquit
  · have hheld : r.held parked = none := by rw [held, hrelease]; rfl
    have hmove : r.move .wake = { r with native := { r.native with tracer := { r.native.tracer with
        suspended := false, release := none, mode := mode } } } := by
      rw [Relay.move, heq]
      rfl
    rw [hmove] at hlive ⊢
    constructor
    case live => exact hlive
    case sound => exact h.sound
    case wants => exact h.wants
    case willing => exact h.willing
    case suspended => rfl
    case observed => exact h.observed
    case recorded => exact h.recorded.trans hheld
    case fresh => exact fun hd => ⟨rfl, (h.fresh hd).2⟩
    case shows => exact fun ha => hheld ▸ h.shows ha

theorem following_started (parts : Relay.Parts) : (started parts).Following none where
  live := live_started parts
  sound := Registry.sound_empty
  wants l b h := by simp [started, create, call, Registry.find?, Registry.empty] at h
  willing := rfl
  suspended := rfl
  observed h := by simp [started, create, call] at h
  recorded := rfl
  fresh _ := ⟨rfl, rfl, rfl⟩
  shows h := by simp [started, create, call] at h

/-- Installing the debugger and announcing the start shows the target as running. -/
theorem Following.setup (h : r.Following none) :
    ((r.setup .direct).1.send .engineStarted).Following none := by
  have hlive := h.live.setup
  have heq := send_of_accepts hlive.accepts .engineStarted
  obtain ⟨calls, log, hsetup⟩ := setup_direct r
  obtain ⟨table, htable⟩ := plantAll_eq r.ready.native.tracer r.registry.enabled
  rw [htable] at hsetup
  have hup : ((r.setup .direct).1.send .engineStarted).upcoming =
      (r.upcoming.apply r.settings.showDynamicCode .engineStarted).target :=
    upcoming_concat (by rw [heq, hsetup]) (by rw [heq, hsetup]) (by rw [heq, hsetup])
  constructor
  case live =>
    rw [heq]
    exact hlive.of_eq rfl hlive.running rfl rfl fun _ => mem_or_ne_of_mem_append (by simp)
  case sound => rw [heq, hsetup]; exact h.sound
  case wants => rw [heq, hsetup]; exact h.wants
  case willing => rw [heq, hsetup]; exact h.willing
  case suspended => rw [heq, hsetup]; exact h.suspended
  case observed => rw [heq, hsetup]; exact fun _ => rfl
  case recorded =>
    rw [held_none, heq, hsetup, ← r.held_none]
    exact h.recorded
  case fresh => rw [heq, hsetup]; simp
  case shows =>
    intro _
    rw [held_none, hup]
    rcases h.live.hook with hook | hook
    -- the target has not been started, or shows the script as running already
    · obtain ⟨-, hstate, hframes⟩ := h.fresh hook
      exact Target.shows_of_engineStarted hstate hframes
    · have hshows := h.shows hook
      rw [held_none] at hshows
      exact hshows.engineStarted

end Relay

namespace Session

/-- The session after a move of its relay. -/
def move (s : Session) (m : Relay.Move) : Session := { s with relay := s.relay.move m }

/-- The states of a session between its launch and the start of the engine. -/
inductive Launched : Session → Prop
  | launch {id : Uuid} {now : Instant} {settings : Settings} {files : FileTree}
      {store : List StoredBreakpoint} {sinkPanic : Event → Option String} {s : Session}
      (h : launch id now settings files store sinkPanic = .ok s) : Launched s
  | move {s : Session} {m : Relay.Move} (hs : Launched s) (hm : m.isTracing = false) :
      Launched (s.move m)

/-- The states of a session whose engine started with the debugger installed, and the stack with
which the engine's thread is parked, if it is. -/
inductive Runs : Session → Option (List Frame) → Prop
  | started {s : Session} (hs : Launched s) : Runs (s.engineStarted .direct).1 none
  | move {s : Session} {parked : Option (List Frame)} {m : Relay.Move} (hs : Runs s parked)
      (hm : m.isTracing = false) : Runs (s.move m) parked
  | line {s : Session} (thread : Thread) (stack : List Frame) (hs : Runs s none) :
      Runs (s.move (.line thread stack))
        (if (s.relay.traceLine thread stack).2.isNone then some stack else none)
  | wake {s : Session} {parked : Option (List Frame)} (hs : Runs s parked)
      (hw : s.relay.wake?.isSome) : Runs (s.move .wake) none

/-- A launched session is a started relay whose registry has been filled. -/
theorem launch_eq {id : Uuid} {now : Instant} {settings : Settings} {files : FileTree}
    {store : List StoredBreakpoint} {sinkPanic : Event → Option String} {s : Session}
    (h : launch id now settings files store sinkPanic = .ok s) :
    ∃ parts registry calls log, registry.Sound ∧ registry.Lasting ∧ s.relay =
      { Relay.started parts with
        registry := registry, native := ⟨{}, calls⟩, log := log } := by
  let parts : Relay.Parts := ⟨settings.debugger, files, store, sinkPanic⟩
  have hstart := Relay.following_started parts
  obtain ⟨registry, log, heq, hsound, hwants⟩ :=
    Relay.loadBreakpoints_eq (r := Relay.create parts [.link, .target]) hstart.sound hstart.wants
  unfold launch at h
  simp only [parts] at heq h
  rw [heq] at h
  simp only [Relay.spawnLoop, Relay.create, Relay.call] at h
  split at h
  · simp at h
  -- the launch fails if the name of the loop's thread cannot be one
  · next hspawn =>
    split at hspawn
    · obtain ⟨rfl, -⟩ := Prod.mk.inj hspawn
      rw [Except.ok.injEq] at h
      subst h
      exact ⟨parts, registry, _, log, hsound, hwants, rfl⟩
    · simp at hspawn

theorem Launched.following {s : Session} (h : Launched s) : s.relay.Following none := by
  induction h with
  | launch h =>
    obtain ⟨parts, registry, calls, log, hsound, hwants, heq⟩ := launch_eq h
    rw [heq]
    have hf := Relay.following_started parts
    exact hf.of_eq (hf.live.of_eq rfl hf.live.running rfl rfl fun _ he => Or.inl he) hsound hwants
      rfl rfl ⟨rfl, rfl, rfl, rfl⟩ rfl
  | move _ hm ih => exact ih.move hm

theorem Runs.following {s : Session} {parked : Option (List Frame)} (h : Runs s parked) :
    s.relay.Following parked ∧ s.relay.link.hook = some .direct := by
  induction h with
  | @started s hs =>
    have hf := hs.following
    obtain ⟨calls, log, hsetup⟩ := s.relay.setup_direct
    have hstarted : (s.engineStarted .direct).1.relay =
        (s.relay.setup .direct).1.send .engineStarted := by
      rw [engineStarted, hsetup]
    rw [hstarted]
    refine ⟨hf.setup, ?_⟩
    rw [Relay.send_of_accepts hf.live.setup.accepts, hsetup]
  | @move s parked m _ hm ih =>
    obtain ⟨hf, ha⟩ := ih
    exact ⟨hf.move hm, (hf.live.hook_move hf.sound hf.wants m).trans ha⟩
  | @line s thread stack _ ih =>
    obtain ⟨hf, ha⟩ := ih
    exact ⟨hf.line ha thread stack, (hf.live.hook_move hf.sound hf.wants _).trans ha⟩
  | wake _ hw ih =>
    obtain ⟨hf, ha⟩ := ih
    exact ⟨hf.wake hw, (hf.live.hook_move hf.sound hf.wants .wake).trans ha⟩

/-- Once no event waits, the target shows the script as suspended exactly if its thread is parked
and no release is under way, and then in the very stack that it is parked with. Otherwise the
target shows it as running, without frames. -/
theorem Runs.agrees {s : Session} {parked : Option (List Frame)} (h : Runs s parked)
    (hq : s.relay.queue.waiting = []) :
    (s.relay.target.state = .suspended ↔ parked.isSome ∧ s.relay.wake? = none) ∧
    (s.relay.target.state = .suspended → parked = some s.relay.target.frames) ∧
    (s.relay.target.state ≠ .suspended →
      s.relay.target.state = .running ∧ s.relay.target.frames = []) := by
  obtain ⟨hf, ha⟩ := h.following
  have hshows : s.relay.target.Shows (s.relay.held parked) := by
    have hup := hf.shows ha
    rw [Relay.upcoming, hq] at hup
    exact hup
  -- nobody asked the script to end, so only a release wakes the thread
  have hwake : s.relay.wake? = none ↔ s.relay.native.tracer.release = none := by
    rcases s.relay.wake?_cases with ⟨heq, -, hr⟩ | ⟨hquit, -⟩ | ⟨mode, -, hr, heq⟩
    · simp [heq, hr]
    · simp [hf.willing] at hquit
    · simp [heq, hr]
  rw [hwake]
  cases hrelease : s.relay.native.tracer.release with
  | some mode =>
    rw [Relay.held, hrelease] at hshows
    obtain ⟨hstate, hframes⟩ := hshows
    simp [hstate, hframes]
  | none =>
    rw [Relay.held, hrelease] at hshows
    cases parked with
    | none =>
      obtain ⟨hstate, hframes⟩ := hshows
      simp [hstate, hframes]
    | some stack =>
      obtain ⟨hstate, hframes⟩ := hshows
      simp [hstate, hframes]

/-! ## A session stopped at its first line -/

/-- A session that has been launched to stop at its first line. -/
def sampleSession : Session where
  id := .zero
  startedAt := ⟨0, 0⟩
  relay := (Relay.started ⟨⟨"", "", true, false, false, "", ""⟩, ⟨[]⟩, [], fun _ => none⟩).call
    (.targetAdded "")

/-- The stack of the first line, in a script at the root. -/
def sampleStack : List Frame := [.ofFile .zero ⟨[]⟩ 1 ∅]

/-- The session after it stopped at its first line and the stop was dispatched. -/
def sampleStop : Session :=
  (((sampleSession.engineStarted .direct).1.move .dispatch).move (.line ⟨none⟩ sampleStack)).move
    .dispatch

theorem runs_sampleStop : Runs sampleStop (some sampleStack) := by
  have hlaunch : launch .zero ⟨0, 0⟩
      ⟨"", ⟨"", "", true, false, false, "", ""⟩, ⟨""⟩, ⟨"", ""⟩⟩ ⟨[]⟩ [] (fun _ => none) =
      .ok sampleSession := rfl
  exact .move (.line ⟨none⟩ sampleStack (.move (.started (.launch hlaunch)) rfl)) rfl

/-- The target shows the first stop in the stack that the thread is parked with. -/
theorem agrees_sampleStop : sampleStop.relay.queue.waiting = [] ∧
    sampleStop.relay.target.state = .suspended ∧
    sampleStop.relay.target.frames = sampleStack := by
  have hq : sampleStop.relay.queue.waiting = [] := rfl
  obtain ⟨hiff, hframes, -⟩ := runs_sampleStop.agrees hq
  have hstate := hiff.2 ⟨rfl, rfl⟩
  exact ⟨hq, hstate, (Option.some.inj (hframes hstate)).symm⟩

end Session

end DebugRelay
