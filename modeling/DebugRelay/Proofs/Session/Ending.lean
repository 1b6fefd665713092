import DebugRelay.Proofs.Session.Histories

/-!
# The end of a session

A session can be ended by its owner, by a shutdown and by a failed start, and may be told to end
several times. `Ledger` is the invariant of all its histories. It ties the events that the queue
accepted to those that were dispatched, to what the IDE was told and to what the loop counted, and
says that the announcement of the end is the last event accepted.

`ends_once` draws the balance: the session ends exactly once, the IDE is told so once and last, and
whoever waits for the loop first learns how many events were accepted.
-/

namespace DebugRelay

namespace Relay

variable {r : Relay}

theorem eventWeight_pos (r : Relay) (e : Event) : 0 < r.eventWeight e := by
  unfold eventWeight
  split <;> omega

theorem length_le_eventWeights (r : Relay) (events : List Event) :
    events.length ≤ (events.map r.eventWeight).foldr (· + ·) 0 := by
  induction events with
  | nil => exact Nat.le_refl 0
  | cons e rest ih =>
    have hpos := r.eventWeight_pos e
    simp only [List.map_cons, List.foldr_cons, List.length_cons]
    omega

theorem length_lt_stepBound (r : Relay) : r.queue.waiting.length < r.stepBound := by
  have hle := r.length_le_eventWeights r.queue.waiting
  unfold stepBound
  omega

end Relay

namespace Session

/-- What is known of a session whose queue accepted and whose loop dispatched the given events. -/
structure Ledger (dynamic : Bool) (s : Session) (accepted dispatched : List Event) : Prop where
  plain : s.relay.Plain
  setting : s.relay.settings.showDynamicCode = dynamic
  present : s.relay.queue.abandoned = false
  closed : s.relay.queue.closed = s.terminated
  split : accepted = dispatched ++ s.relay.queue.waiting
  told : s.relay.delivered.map (·.1) = dispatched.filter (·.isShown dynamic)
  counted : ∃ stats, stats.delivered = .ofNat dispatched.length ∧
    (s.relay.loop = .running stats ∨
      s.relay.loop = .ended stats ∧ s.relay.queue.waiting = [] ∧ s.terminated = true)
  fresh : s.terminated = false →
    .engineTerminated ∉ accepted ∧ s.relay.upcoming.state ≠ .terminated
  ending : s.terminated = true →
    s.relay.upcoming.state = .terminated ∧ s.relay.upcoming.frames = []
  joined : s.joined = true → s.terminated = true

variable {dynamic : Bool} {s t : Session} {accepted dispatched queued offered : List Event}

theorem Ledger.accepts (h : Ledger dynamic s accepted dispatched) :
    s.relay.queue.accepts = !s.terminated := by
  rw [Queue.accepts, h.closed, h.present]
  simp

/-- Nobody has waited for the loop of an open session. -/
theorem Ledger.unjoined (h : Ledger dynamic s accepted dispatched) (hs : s.terminated = false) :
    s.joined = false := by
  by_contra hj
  have hended := h.joined (by simpa using hj)
  simp [hs] at hended

theorem IsLaunch.ledger {s : Session} (h : s.IsLaunch) :
    Ledger s.relay.settings.showDynamicCode s [] [] := by
  obtain ⟨hopen, hjoined⟩ := h.open
  have hplain := h.plain
  obtain ⟨parts, registry, calls, log, heq⟩ := h.relay
  constructor
  case plain => exact hplain
  case setting => rfl
  case present => rw [heq]; rfl
  case closed => rw [heq, hopen]; rfl
  case split => rw [heq]; rfl
  case told => rw [heq]; rfl
  case counted => exact ⟨{}, rfl, Or.inl (by rw [heq]; rfl)⟩
  case fresh =>
    intro _
    refine ⟨List.not_mem_nil, ?_⟩
    rw [heq]
    simp [Relay.upcoming, Relay.started, Relay.create, Relay.call, Target.after]
  case ending => simp [hopen]
  case joined => simp [hjoined]

/-! ## Steps -/

/-- What an effect offers is accepted until the end, and dropped after it. -/
theorem Ledger.effect (h : Ledger dynamic s accepted dispatched) {r : Relay}
    (he : s.relay.Effect r offered) :
    Ledger dynamic { s with relay := r }
      (accepted ++ r.queue.waiting.drop s.relay.queue.waiting.length) dispatched ∧
    (s.terminated = true → r.queue.waiting = s.relay.queue.waiting) := by
  have haccepts := h.accepts
  have hunending := he.unending
  obtain ⟨registry, link, native, log, rfl⟩ := he.frame
  obtain ⟨arrived, dropped, hqueue, hopen, hclosed⟩ := s.relay.queue.offerAll_eq offered
  have hnone : s.terminated = true → arrived = [] := by
    intro hs
    apply hclosed
    rw [haccepts, hs]
    rfl
  have hall : s.terminated = false → arrived = offered := by
    intro hs
    apply hopen
    rw [haccepts, hs]
    rfl
  have hdrop : (s.relay.queue.offerAll offered).waiting.drop s.relay.queue.waiting.length =
      arrived := by
    rw [hqueue]
    exact List.drop_left
  refine ⟨?_, fun hs => by simp [hqueue, hnone hs]⟩
  simp only [hdrop]
  constructor
  case plain => exact ⟨h.plain.consumers, h.plain.engine⟩
  case setting => exact h.setting
  case present => rw [hqueue]; exact h.present
  case closed => rw [hqueue]; exact h.closed
  case split => rw [hqueue, h.split, List.append_assoc]
  case told => exact h.told
  case counted =>
    obtain ⟨stats, hcount, hrunning | ⟨hended, hw, hs⟩⟩ := h.counted
    · exact ⟨stats, hcount, Or.inl hrunning⟩
    · refine ⟨stats, hcount, Or.inr ⟨hended, ?_, hs⟩⟩
      rw [hqueue, hw, hnone hs]
      rfl
  case fresh =>
    intro hs
    obtain ⟨hfresh, hup⟩ := h.fresh hs
    rw [hall hs] at hqueue ⊢
    refine ⟨fun hmem => (List.mem_append.1 hmem).elim hfresh hunending, ?_⟩
    rw [Relay.upcoming, hqueue, Target.after_append]
    exact Target.after_ne_terminated hup hunending
  case ending =>
    intro hs
    rw [hnone hs, List.append_nil] at hqueue
    rw [Relay.upcoming, hqueue]
    exact h.ending hs
  case joined => exact h.joined

/-- A session whose loop took the oldest event, which the target has seen. -/
def taken (s : Session) (e : Event) (rest : List Event) (stats : Dispatch.Statistics)
    (log : List LogEntry) : Session :=
  { s with relay := { s.relay.taken rest with
    target := (s.relay.target.apply s.relay.settings.showDynamicCode e).target
    delivered := s.relay.delivered ++
      if (s.relay.target.apply s.relay.settings.showDynamicCode e).shown then
        [(e, (s.relay.target.apply s.relay.settings.showDynamicCode e).target.state)]
      else []
    loop := .running stats
    actor := .caller
    log := log } }

theorem Ledger.taken (h : Ledger dynamic s accepted dispatched) {e : Event} {rest : List Event}
    {stats stats' : Dispatch.Statistics} (hw : s.relay.queue.waiting = e :: rest)
    (hloop : s.relay.loop = .running stats) (hcount : stats'.delivered = stats.delivered + 1)
    (log : List LogEntry) :
    Ledger dynamic (s.taken e rest stats' log) accepted (dispatched ++ [e]) := by
  have hup : (s.taken e rest stats' log).relay.upcoming = s.relay.upcoming :=
    (Relay.upcoming_taken hw).symm
  constructor
  case plain => exact ⟨h.plain.consumers, h.plain.engine⟩
  case setting => exact h.setting
  case present => exact h.present
  case closed => exact h.closed
  case split =>
    rw [h.split, hw, List.append_assoc]
    rfl
  case told =>
    simp only [Session.taken, Target.shown_apply, h.setting, List.map_append, h.told,
      List.filter_append]
    cases hshown : e.isShown dynamic <;> simp [hshown]
  case counted =>
    obtain ⟨stats₀, hcounted, hrunning | ⟨-, hnil, -⟩⟩ := h.counted
    · rw [hloop, Loop.running.injEq] at hrunning
      refine ⟨stats', ?_, Or.inl rfl⟩
      rw [hcount, hrunning, hcounted, List.length_append, UInt64.ofNat_add]
      rfl
    · simp [hw] at hnil
  case fresh =>
    intro hs
    rw [hup]
    exact h.fresh hs
  case ending =>
    intro hs
    rw [hup]
    exact h.ending hs
  case joined => exact h.joined

theorem Ledger.loopEnded (h : Ledger dynamic s accepted dispatched)
    {stats stats' : Dispatch.Statistics} (hw : s.relay.queue.waiting = [])
    (hloop : s.relay.loop = .running stats) (hcount : stats'.delivered = stats.delivered)
    (hs : s.terminated = true) :
    Ledger dynamic { s with relay := { s.relay with loop := .ended stats' } } accepted
      dispatched := by
  constructor
  case plain => exact ⟨h.plain.consumers, h.plain.engine⟩
  case setting => exact h.setting
  case present => exact h.present
  case closed => exact h.closed
  case split => exact h.split
  case told => exact h.told
  case counted =>
    obtain ⟨stats₀, hcounted, hrunning | ⟨hended, -⟩⟩ := h.counted
    · rw [hloop, Loop.running.injEq] at hrunning
      exact ⟨stats', by rw [hcount, hrunning, hcounted], Or.inr ⟨rfl, hw, hs⟩⟩
    · simp [hloop] at hended
  case fresh => exact h.fresh
  case ending => exact h.ending
  case joined => exact h.joined

theorem taken_of_request {e : Event} (h : e.route = .interpreter) (rest : List Event)
    (stats : Dispatch.Statistics) (log : List LogEntry) :
    s.taken e rest stats log = { s with relay :=
      { s.relay.taken rest with loop := .running stats, actor := .caller, log := log } } := by
  have hshown : (s.relay.target.apply s.relay.settings.showDynamicCode e).shown = false := by
    rw [Target.shown_apply, Target.isShown_of_request h]
  simp only [taken, hshown, Target.apply_of_request h, Bool.false_eq_true, if_false,
    List.append_nil]
  rfl

/-- A dispatch hands on the oldest event. After the end nothing arrives meanwhile, and the loop ends
once nothing waits. -/
theorem Ledger.dispatch (h : Ledger dynamic s accepted dispatched) :
    ∃ dispatched', Ledger dynamic (s.move .dispatch) (accepted ++
      (s.move .dispatch).relay.queue.waiting.drop (s.relay.queue.waiting.length - 1)) dispatched' ∧
    (s.terminated = true → (s.move .dispatch).relay.queue.waiting = s.relay.queue.waiting.tail ∧
      (s.relay.queue.waiting = [] → ∀ stats, (s.move .dispatch).relay.loop ≠ .running stats)) := by
  rcases Relay.dispatch_cases h.plain.consumers with
    ⟨heq, hidle⟩ | ⟨stats, hloop, hw, hclosed, heq⟩ |
      ⟨e, rest, stats, stats', log, hloop, hw, hcount, heq⟩
  -- without a waiting event there is nothing to do while the queue is open
  · have hnil : s.relay.queue.waiting = [] := by
      rcases hidle with hstopped | ⟨hnil, -⟩
      · obtain ⟨stats, -, hrunning | ⟨-, hnil, -⟩⟩ := h.counted
        · exact absurd hrunning (hstopped stats)
        · exact hnil
      · exact hnil
    refine ⟨dispatched, ?_, fun hs => ⟨?_, fun _ => ?_⟩⟩
    · simpa [Session.move, heq, hnil] using h
    · simp [Session.move, heq, hnil]
    · rcases hidle with hstopped | ⟨-, hopen⟩
      · simpa [Session.move, heq] using hstopped
      · rw [h.closed, hs] at hopen
        simp at hopen
  -- and the loop ends once the queue is closed
  · have hs : s.terminated = true := h.closed.symm.trans hclosed
    refine ⟨dispatched, ?_, fun _ => ⟨?_, fun _ => ?_⟩⟩
    · simp only [Session.move, heq, hw, List.drop_nil, List.append_nil]
      exact h.loopEnded hw hloop rfl hs
    · simp [Session.move, heq, hw]
    · simp [Session.move, heq]
  -- a notification goes to the target, and a request has an effect once it is taken
  · have htaken := h.taken hw hloop hcount log
    have hlength : s.relay.queue.waiting.length - 1 = rest.length := by simp [hw]
    rw [hlength]
    cases hroute : e.route with
    | ide =>
      have hsame : s.move .dispatch = s.taken e rest stats' log := by
        obtain ⟨log', hn⟩ := (s.relay.taken rest).handleNotification_spec e
        rw [Session.move, heq, Relay.consume, hroute]
        simp only [hn]
        rfl
      have hwaiting : (s.move .dispatch).relay.queue.waiting = rest := by rw [hsame]; rfl
      refine ⟨dispatched ++ [e], ?_, fun _ => ⟨?_, ?_⟩⟩
      · rw [hwaiting, List.drop_length, List.append_nil, hsame]
        exact htaken
      · rw [hwaiting, hw]
        rfl
      · simp [hw]
    | interpreter =>
      obtain ⟨offered, hsteady⟩ := (s.relay.taken rest).steady_handleRequest e
      have heffect : (s.taken e rest stats' log).relay.Effect (s.move .dispatch).relay offered := by
        obtain ⟨registry, link, native, log', hframe⟩ := hsteady.frame
        rw [Session.move, heq, Relay.consume, hroute, taken_of_request hroute]
        refine ⟨⟨hsteady.calls, hsteady.quits⟩, ⟨registry, link, native, log, ?_⟩, hsteady.unending⟩
        simp only [hframe]
      obtain ⟨hledger, hsame⟩ := htaken.effect heffect
      refine ⟨dispatched ++ [e], hledger, fun hs => ⟨?_, ?_⟩⟩
      · rw [hsame hs, hw]
        rfl
      · simp [hw]

theorem closing_of_accepts {r : Relay} (h : r.queue.accepts = true) :
    closing r = { r with
      link := { r.link with hook := none, suspension := none }
      queue := { r.queue with
        waiting := r.queue.waiting ++ [.engineTerminated], closed := true } } := by
  rw [closing, Relay.send_of_accepts h]
  rfl

/-- The announcement of the end is accepted, and nothing is from then on. -/
theorem Ledger.close (h : Ledger dynamic s accepted dispatched) (hs : s.terminated = false) :
    Ledger dynamic { s with relay := closing s.relay, terminated := true }
      (accepted ++ [.engineTerminated]) dispatched := by
  have haccepts : s.relay.queue.accepts = true := by rw [h.accepts, hs]; rfl
  rw [closing_of_accepts haccepts]
  constructor
  case plain => exact ⟨h.plain.consumers, h.plain.engine⟩
  case setting => exact h.setting
  case present => exact h.present
  case closed => rfl
  case split => rw [h.split, List.append_assoc]
  case told => exact h.told
  case counted =>
    obtain ⟨stats, hcount, hrunning | ⟨-, -, hended⟩⟩ := h.counted
    · exact ⟨stats, hcount, Or.inl hrunning⟩
    · simp [hs] at hended
  case fresh => simp
  case ending =>
    intro _
    rw [Relay.upcoming, Target.after_concat]
    exact Target.ended_apply (h.fresh hs).2
  case joined => simp

/-- After the end, a relay that settles for long enough dispatches what waits and ends its loop, and
nothing arrives meanwhile. -/
theorem Ledger.settleWithin (h : Ledger dynamic s accepted dispatched) (hs : s.terminated = true)
    (fuel : Nat) :
    ∃ dispatched', Ledger dynamic { s with relay := Relay.settleWithin fuel s.relay } accepted
      dispatched' ∧ queuedSettling fuel s.relay = [] ∧
    (s.relay.queue.waiting.length < fuel →
      ∀ stats, (Relay.settleWithin fuel s.relay).loop ≠ .running stats) := by
  induction fuel generalizing s dispatched with
  | zero => exact ⟨dispatched, h, rfl, by simp⟩
  | succ fuel ih =>
    obtain ⟨dispatched', hnext, hmore⟩ := h.dispatch
    obtain ⟨hwaiting, hends⟩ := hmore hs
    have hnone : (s.move .dispatch).relay.queue.waiting.drop
        (s.relay.queue.waiting.length - 1) = [] := by
      rw [hwaiting, ← List.length_tail, List.drop_length]
    rw [hnone, List.append_nil] at hnext
    cases hd : s.relay.dispatch? with
    | none =>
      have hstuck : s.move .dispatch = s := by
        rw [Session.move, Relay.move, hd]
        rfl
      have hsettled : Relay.settleWithin (fuel + 1) s.relay = s.relay := by
        simp [Relay.settleWithin, Relay.advance?, hd, Relay.runEngine?, h.plain.engine]
      rw [hstuck] at hwaiting hends
      refine ⟨dispatched, by rwa [hsettled], by simp [queuedSettling, hd], fun _ => ?_⟩
      rw [hsettled]
      apply hends
      cases hw : s.relay.queue.waiting with
      | nil => rfl
      | cons e rest => simp [hw] at hwaiting
    | some r =>
      have hstep : s.move .dispatch = { s with relay := r } := by
        rw [Session.move, Relay.move, hd]
        rfl
      have hsettled : Relay.settleWithin (fuel + 1) s.relay = Relay.settleWithin fuel r := by
        simp [Relay.settleWithin, Relay.advance?, hd]
      rw [hstep] at hnext hwaiting hends hnone
      obtain ⟨dispatched'', hlast, hqueued, hstop⟩ := ih hnext hs
      refine ⟨dispatched'', by rwa [hsettled], ?_, fun hlt => ?_⟩
      · simp only [queuedSettling, hd]
        rw [hqueued, List.append_nil]
        exact hnone
      · rw [hsettled]
        cases hw : s.relay.queue.waiting with
        | nil =>
          cases fuel with
          | zero => exact hends hw
          | succ fuel =>
            apply hstop
            rw [hwaiting, hw]
            simp
        | cons e rest =>
          apply hstop
          rw [hwaiting, hw]
          rw [hw] at hlt
          simpa using hlt

/-- Waiting for the loop dispatches all that waits. -/
theorem Ledger.settle (h : Ledger dynamic s accepted dispatched) (hs : s.terminated = true) :
    ∃ dispatched', Ledger dynamic { s with relay := s.relay.settle, joined := true } accepted
      dispatched' ∧ queuedSettling s.relay.stepBound s.relay = [] ∧
    ∃ stats, stats.delivered = .ofNat accepted.length ∧ s.relay.settle.loop = .ended stats ∧
      s.relay.settle.queue.waiting = [] := by
  obtain ⟨dispatched', hsettled, hqueued, hstop⟩ := h.settleWithin hs s.relay.stepBound
  refine ⟨dispatched', ?_, hqueued, ?_⟩
  · exact ⟨hsettled.plain, hsettled.setting, hsettled.present, hsettled.closed, hsettled.split,
      hsettled.told, hsettled.counted, hsettled.fresh, hsettled.ending, fun _ => hs⟩
  · obtain ⟨stats, hcount, hrunning | ⟨hended, hw, -⟩⟩ := hsettled.counted
    · exact absurd hrunning (hstop s.relay.length_lt_stepBound stats)
    · refine ⟨stats, ?_, hended, hw⟩
      rw [hcount, hsettled.split]
      change _ = UInt64.ofNat (dispatched' ++ s.relay.settle.queue.waiting).length
      rw [show s.relay.settle.queue.waiting = [] from hw, List.append_nil]

/-! ## Histories -/

/-- Every operation keeps the ledger. The end is accepted with the operation that ends the session,
and nothing is after it. -/
theorem Ledger.course (h : Ledger dynamic s accepted dispatched) (hc : Course s t queued) :
    (∃ dispatched', Ledger dynamic t (accepted ++ queued) dispatched') ∧
    (s.terminated = true → queued = []) ∧
    (s.terminated = false → t.terminated = true → queued = [.engineTerminated]) := by
  have hclosing : s.terminated = false → ∀ {r : Relay}, r.queue = s.relay.queue →
      (closing r).queue.waiting.drop s.relay.queue.waiting.length = [.engineTerminated] := by
    intro hs r hqueue
    have haccepts : r.queue.accepts = true := by rw [hqueue, h.accepts, hs]; rfl
    rw [closing_of_accepts haccepts, ← hqueue]
    exact List.drop_left
  cases hc with
  | effect heff =>
    obtain ⟨hledger, hsame⟩ := h.effect heff
    refine ⟨⟨dispatched, hledger⟩, fun hs => ?_, fun hs ht => ?_⟩
    · rw [hsame hs, List.drop_length]
    · simp [hs] at ht
  | dispatched =>
    obtain ⟨dispatched', hledger, hmore⟩ := h.dispatch
    refine ⟨⟨dispatched', hledger⟩, fun hs => ?_, fun hs ht => ?_⟩
    · rw [(hmore hs).1, ← List.length_tail, List.drop_length]
    · simp [Session.move, hs] at ht
  | @ended r hs heff =>
    have hqueue : r.queue = s.relay.queue := by
      obtain ⟨registry, link, native, log, rfl⟩ := heff.frame
      rfl
    have hledger := (h.effect heff).1
    rw [hqueue, List.drop_length, List.append_nil] at hledger
    rw [hclosing hs hqueue]
    refine ⟨⟨dispatched, hledger.close hs⟩, fun hended => ?_, fun _ _ => rfl⟩
    simp [hs] at hended
  | waited hs hj =>
    obtain ⟨dispatched', hledger, hqueued, -⟩ := h.settle hs
    rw [hqueued, List.append_nil]
    refine ⟨⟨dispatched', hledger⟩, fun _ => rfl, fun hopen => ?_⟩
    simp [hs] at hopen
  | closed hs hj =>
    obtain ⟨dispatched', hledger, hqueued, -⟩ := (h.close hs).settle rfl
    rw [hqueued, hclosing hs rfl, List.append_nil]
    refine ⟨⟨dispatched', hledger⟩, fun hended => ?_, fun _ _ => rfl⟩
    simp [hs] at hended

theorem Ledger.after (h : Ledger dynamic s accepted dispatched) (ops : List Op) :
    (∃ dispatched', Ledger dynamic (s.after ops) (accepted ++ s.accepted ops) dispatched') ∧
    (s.terminated = true → s.accepted ops = []) := by
  induction ops generalizing s accepted dispatched with
  | nil => exact ⟨⟨dispatched, by simpa [Session.accepted] using h⟩, fun _ => rfl⟩
  | cons o rest ih =>
    have hcourse := course_act s o
    obtain ⟨⟨dispatched', hledger⟩, hnone, -⟩ := h.course hcourse
    obtain ⟨hlast, hrest⟩ := ih hledger
    refine ⟨?_, fun hs => ?_⟩
    · rwa [List.append_assoc] at hlast
    · rw [Session.accepted, hnone hs, hrest (hcourse.terminated hs)]
      rfl

theorem joined_start (s : Session) (i : Interpreter) : (s.act (.start i)).joined = s.joined := by
  rcases s.start_cases i with ⟨-, heq⟩ | ⟨e, log, -, ⟨-, heq⟩ | ⟨-, heq⟩⟩ <;> rw [heq]

/-- Whoever waits for the loop of an ended session has waited then. -/
theorem joined_act (hs : s.terminated = true) (o : Op) :
    (s.act o).joined = true ↔ s.joined = true ∨ o = .join ∨ o = .shutdown := by
  have hjoin : s.join.1.joined = true := by
    rcases Bool.eq_false_or_eq_true s.joined with hj | hj
    · rw [join_of_joined hs hj]
      exact hj
    · rw [join_of_terminated hs hj]
  cases o with
  | start i => simp [joined_start]
  | finish => simp [act, engineTerminated_of_terminated hs]
  | join => simp [act, hjoin]
  | shutdown => simp [act, shutdown, engineTerminated_of_terminated hs, hjoin]
  | scriptReady script thread => simp [act]
  | move m => simp [act, move]
  | requestTermination => simp [act]
  | registry o => simp [act]
  | link c => simp [act]

theorem joined_after (hs : s.terminated = true) (ops : List Op) :
    (s.after ops).joined = true ↔ s.joined = true ∨ .join ∈ ops ∨ .shutdown ∈ ops := by
  induction ops generalizing s with
  | nil => simp
  | cons o rest ih =>
    rw [after_cons, ih ((course_act s o).terminated hs), joined_act hs]
    simp only [List.mem_cons, eq_comm (a := Op.join), eq_comm (a := Op.shutdown)]
    tauto

/-- Of the operations that end a session, a shutdown waits for the loop. -/
theorem joined_of_ends {o : Op} (h : s.Ends o) (hj : s.joined = false) :
    (s.act o).joined = true ↔ o = .shutdown := by
  rcases h.cause with rfl | rfl | ⟨i, rfl, -⟩
  · simp [act, engineTerminated_of_open h.1, hj]
  · simp only [act, shutdown, engineTerminated_of_open h.1, iff_true]
    rw [join_of_terminated rfl (by exact hj)]
  · simp [joined_start, hj]

/-! ## The balance -/

/-- Waiting for the loop came to its end: the answer is the number of events handed on, nothing is
left to hand on, the IDE was told of the given events, and its target shows the end. -/
structure Drained (answer : Session × Except Error Dispatch.Statistics) (told : List Event)
    (n : Nat) : Prop where
  counted : ∃ stats, answer.2 = .ok stats ∧ stats.delivered = .ofNat n
  joined : answer.1.joined = true
  waiting : answer.1.relay.queue.waiting = []
  told : answer.1.relay.delivered.map (·.1) = told
  state : answer.1.relay.target.state = .terminated
  frames : answer.1.relay.target.frames = []

theorem Ledger.drained (h : Ledger dynamic s accepted dispatched) (hs : s.terminated = true)
    (hj : s.joined = false) :
    Drained s.join (accepted.filter (·.isShown dynamic)) accepted.length := by
  obtain ⟨dispatched', hsettled, -, stats, hcount, hloop, hw⟩ := h.settle hs
  have hover := hsettled.ending hs
  have hsplit := hsettled.split
  rw [Relay.upcoming, hw] at hover
  rw [hw, List.append_nil] at hsplit
  rw [join_of_ended hs hj hloop]
  exact ⟨⟨stats, rfl, hcount⟩, rfl, hw, by rw [hsettled.told, hsplit], hover.1, hover.2⟩

/-- What a session comes to that an operation ends, after some operations and before others. -/
structure EndsOnce (first : Session) (before : List Op) (o : Op) (later : List Op) : Prop where
  ends : (first.after before).Ends o
  /-- The end is announced, by itself or in a shutdown, or comes with a start that fails. -/
  cause : o = .finish ∨ o = .shutdown ∨
    ∃ i, o = .start i ∧ ((first.after before).relay.setup i).2 ≠ .ok ()
  /-- No other operation ends the session. -/
  unique : ∀ before' o' later', before ++ o :: later = before' ++ o' :: later' →
    (first.after before').Ends o' → before = before' ∧ o = o' ∧ later = later'
  /-- An announcement counts until the end, and none counts after it. -/
  announced : ∀ xs, xs <+: before → (first.after xs).engineTerminated.2 = true
  refused : ∀ xs, xs <+: later → (first.after (before ++ o :: xs)).engineTerminated =
    (first.after (before ++ o :: xs), false)
  /-- The announcement is the last event accepted. -/
  last : first.accepted (before ++ o :: later) = first.accepted before ++ [.engineTerminated]
  fresh : .engineTerminated ∉ first.accepted before
  /-- What the IDE was told and will be told is what is shown of the events accepted, in order. -/
  told : (first.after (before ++ o :: later)).relay.delivered.map (·.1) ++
      (first.after (before ++ o :: later)).relay.queue.waiting.filter
        (·.isShown first.relay.settings.showDynamicCode) =
    (first.accepted before).filter (·.isShown first.relay.settings.showDynamicCode) ++
      [.engineTerminated]
  /-- Before the end nobody can wait for the loop, and trying to changes nothing. -/
  early : ∀ xs, xs <+: before →
    (first.after xs).join = (first.after xs, .error (.wrongState "join" "running"))
  /-- After it somebody has waited once a join or a shutdown was done. -/
  waited : (first.after (before ++ o :: later)).joined = true ↔
    o = .shutdown ∨ .join ∈ later ∨ .shutdown ∈ later
  /-- Who waits first gets the number of events accepted. -/
  answered : (first.after (before ++ o :: later)).joined = false →
    Drained (first.after (before ++ o :: later)).join
      ((first.accepted before).filter (·.isShown first.relay.settings.showDynamicCode) ++
        [.engineTerminated])
      (first.accepted (before ++ o :: later)).length
  /-- That may be the shutdown that ends the session. -/
  shutdown : o = .shutdown → Drained (first.after before).shutdown
    ((first.accepted before).filter (·.isShown first.relay.settings.showDynamicCode) ++
      [.engineTerminated])
    (first.accepted (before ++ o :: later)).length
  /-- Who waits later gets nothing. -/
  again : (first.after (before ++ o :: later)).joined = true →
    (first.after (before ++ o :: later)).join = (first.after (before ++ o :: later),
      .error (.dispatch "dispatch thread already joined"))

/-- A session that has ended by whatever operations has ended once. -/
theorem ends_once {first : Session} {ops : List Op} (hl : first.IsLaunch)
    (hended : (first.after ops).terminated = true) :
    ∃ before o later, ops = before ++ o :: later ∧ EndsOnce first before o later := by
  obtain ⟨hopen, -⟩ := hl.open
  obtain ⟨before, o, later, rfl, hends⟩ := exists_ends hopen hended
  refine ⟨before, o, later, rfl, ?_⟩
  have hcourse := course_act (first.after before) o
  obtain ⟨⟨dispatched, hbefore⟩, -⟩ := hl.ledger.after before
  obtain ⟨⟨dispatched', hledger⟩, -, hclosing⟩ := hbefore.course hcourse
  have haccepted : (first.after before).accepts o = [.engineTerminated] :=
    hclosing hends.1 hends.2
  obtain ⟨⟨dispatched'', hlast⟩, hnone⟩ := hledger.after later
  have hall : first.accepted (before ++ o :: later) =
      first.accepted before ++ [.engineTerminated] := by
    rw [accepted_append, Session.accepted, haccepted, hnone hends.2, List.append_nil]
  have hafter : first.after (before ++ o :: later) =
      ((first.after before).act o).after later := by
    rw [after_append, after_cons]
  rw [List.nil_append] at hbefore
  rw [List.nil_append, haccepted, hnone hends.2, List.append_nil, ← hall, ← hafter] at hlast
  have hshown : (first.accepted (before ++ o :: later)).filter
        (·.isShown first.relay.settings.showDynamicCode) =
      (first.accepted before).filter (·.isShown first.relay.settings.showDynamicCode) ++
        [.engineTerminated] := by
    rw [hall, List.filter_append]
    rfl
  have hunjoined := hbefore.unjoined hends.1
  have hearly : ∀ xs, xs <+: before → (first.after xs).terminated = false := by
    rintro xs ⟨ys, rfl⟩
    have hopen := hends.1
    rw [after_append] at hopen
    exact open_of_after hopen
  constructor
  case ends => exact hends
  case cause => exact hends.cause
  case unique =>
    intro before' o' later' heq hends'
    exact ends_unique heq hends hends'
  case announced =>
    intro xs hxs
    rw [engineTerminated_of_open (hearly xs hxs)]
  case refused =>
    intro xs _
    apply engineTerminated_of_terminated
    rw [after_append, after_cons]
    exact terminated_after hends.2 xs
  case last => exact hall
  case fresh => exact (hbefore.fresh hends.1).1
  case told => rw [hlast.told, ← List.filter_append, ← hlast.split, hshown]
  case early =>
    intro xs hxs
    exact join_of_open (hearly xs hxs)
  case waited => rw [hafter, joined_after hends.2, joined_of_ends hends hunjoined]
  case answered =>
    intro hj
    rw [← hshown]
    exact hlast.drained hended hj
  case shutdown =>
    rintro rfl
    rw [← hshown, hall, Session.shutdown, engineTerminated_of_open hends.1]
    exact (hbefore.close hends.1).drained rfl hunjoined
  case again =>
    intro hj
    exact join_of_joined hended hj

/-! ## A session that is told to end several times -/

/-- The engine starts and stops at its first line, and somebody waits for the loop too early. -/
def sampleBefore : List Op :=
  [.start .direct, .move (.line ⟨none⟩ sampleStack), .join, .move .dispatch]

/-- The user makes requests and the end is announced, both too late. -/
def sampleLater : List Op := [.requestTermination, .finish, .move .requestFrames]

/-- A start that fails ends the session. The IDE is told of the start, the stop and the end, and of
nothing else. -/
theorem ends_once_sampleLater :
    (sampleSession.after (sampleBefore ++ .start sampleRefusing :: sampleLater)).terminated = true ∧
    Drained (sampleSession.after (sampleBefore ++ .start sampleRefusing :: sampleLater)).join
      [.engineStarted, .suspended ⟨none⟩ sampleStack .startup, .engineTerminated] 3 := by
  have hfails : ∃ e,
      ((sampleSession.after sampleBefore).relay.setup sampleRefusing).2 = .error e := ⟨_, rfl⟩
  have hends : (sampleSession.after sampleBefore).Ends (.start sampleRefusing) := by
    obtain ⟨e, he⟩ := hfails
    exact ends_start rfl he
  have hended :
      (sampleSession.after (sampleBefore ++ .start sampleRefusing :: sampleLater)).terminated =
        true := by
    rw [after_append]
    exact terminated_after hends.2 sampleLater
  have haccepted : sampleSession.accepted sampleBefore =
      [.engineStarted, .suspended ⟨none⟩ sampleStack .startup] := rfl
  obtain ⟨before, o, later, heq, honce⟩ := ends_once isLaunch_sampleSession hended
  obtain ⟨rfl, rfl, rfl⟩ := honce.unique _ _ _ heq.symm hends
  have hunjoined := mt honce.waited.1 (by simp [sampleLater])
  have hdrained := honce.answered (by simpa using hunjoined)
  rw [honce.last, haccepted] at hdrained
  exact ⟨hended, hdrained⟩

end Session

end DebugRelay
