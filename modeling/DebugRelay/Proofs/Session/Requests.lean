import DebugRelay.Proofs.Session.Watches

/-!
# Requests and the stops they release

The target takes requests to go on for as long as it shows the script as suspended, which it does
until an announcement of going on has travelled back through the queue. A request that is made
meanwhile may find the engine's thread in a later stop than the one that was shown. `Watch` runs a
session with its stops counted, and keeps a ticket for each event that waits: the stop that it
belongs to, and how many requests and announcements of going on were ahead of it.

`released_within` bounds how far a request can miss: it releases a stop of the thread that is not
before the one it was made in, and not further behind it than there were requests and announcements
ahead of it. In particular a request that finds none ahead releases the stop that it was made in.
`released_later` is a request that misses.
-/

namespace DebugRelay

namespace Watch

open Session (Op)

variable {w : Watch} {t : Ticket} {line rest : List Ticket}

/-- The thread waits for the debugger, which is installed. -/
structure Halted (w : Watch) : Prop extends w.Sound where
  hook : w.session.relay.link.hook = some .direct
  waits : w.session.relay.native.tracer.Waits

/-- The engine steps from a stop into the next line, once a request to do so is dispatched. -/
def stepping : List Op := [.move .dispatch, .move .wake, .move (.line ⟨none⟩ Session.sampleStack)]

theorem top?_sampleStack : Tracer.top? Session.sampleStack = some (⟨[]⟩, 1) := rfl

/-- Only the line of such a round is counted as a stop, and only its dispatch takes a ticket. -/
theorem after_stepping
    (hparked : (((w.session.relay.move .dispatch).move .wake).traceLine ⟨none⟩
      Session.sampleStack).2 = none) :
    (w.after stepping).stops = w.hand.stops + 1 ∧
      ∃ new, (w.after stepping).line = w.hand.line ++ new := by
  let awake : Watch := (w.act (.move .dispatch)).act (.move .wake)
  have hcount : awake.count (.move (.line ⟨none⟩ Session.sampleStack)) =
      { awake with stops := awake.stops + 1 } := by
    rw [count, if_pos]
    rw [Option.isNone_iff_eq_none]
    exact hparked
  obtain ⟨dispatched, hdispatched⟩ := w.line_act (.move .dispatch)
  obtain ⟨woken, hwoken⟩ := (w.act (.move .dispatch)).line_act (.move .wake)
  obtain ⟨stopped, hstopped⟩ := awake.line_act (.move (.line ⟨none⟩ Session.sampleStack))
  rw [hcount] at hstopped
  refine ⟨?_, dispatched ++ woken ++ stopped, ?_⟩
  · change (awake.count (.move (.line ⟨none⟩ Session.sampleStack))).stops = w.hand.stops + 1
    rw [hcount]
    rfl
  · calc (w.after stepping).line = awake.line ++ stopped := hstopped
      _ = ((w.act (.move .dispatch)).line ++ woken) ++ stopped := congrArg (· ++ stopped) hwoken
      _ = w.hand.line ++ (dispatched ++ woken ++ stopped) := by
        rw [hdispatched]
        change (w.hand.line ++ dispatched ++ woken) ++ stopped = _
        simp only [List.append_assoc]

/-- A request at the head of the line takes the engine into the next stop. -/
theorem Halted.round (h : w.Halted) (hl : w.line = t :: rest)
    (ht : t.event = .stepRequest .stepInto) :
    Session.Follows Session.Admits w.session stepping ∧ (w.after stepping).Halted ∧
      (w.after stepping).stops = w.stops + 1 ∧ ∃ new, (w.after stepping).line = rest ++ new := by
  have hw : w.session.relay.queue.waiting = .stepRequest .stepInto :: rest.map Ticket.event := by
    rw [← h.queued, hl, List.map_cons, ht]
  obtain ⟨hreleased, hook⟩ := h.serves.dispatch_stepInto h.hook h.waits hw
  obtain ⟨hquit, hfree, hmode, hlink⟩ :=
    Relay.wake_of_released (by rw [hreleased]; exact h.waits.willing) (by rw [hreleased])
  have hsound : ((w.act (.move .dispatch)).act (.move .wake)).Sound :=
    h.dispatch.act (o := .move .wake) trivial
  obtain ⟨reason, hstop⟩ := Tracer.stopped_of_into hmode hquit top?_sampleStack
  obtain ⟨hparked, hstays, hwaits⟩ := Relay.waits_of_stopped hsound.serves hquit hstop ⟨none⟩
  have hfollows : Session.Follows Session.Admits w.session stepping :=
    ⟨trivial, trivial, hfree, trivial⟩
  have hattached : (w.after stepping).session.relay.link.hook = some .direct :=
    hstays.trans ((congrArg Link.hook hlink).trans hook)
  obtain ⟨hstops, new, hline⟩ := after_stepping hparked
  rw [hand_of_cons hl] at hstops hline
  exact ⟨hfollows, ⟨h.toSound.after hfollows, hattached, hwaits⟩, hstops, new, hline⟩

/-- The engine steps on with all requests ahead of a ticket. -/
theorem Halted.rounds (h : w.Halted) (hl : w.line = line ++ t :: rest)
    (hline : ∀ u ∈ line, u.event = .stepRequest .stepInto) :
    ∃ ops new, Session.Follows Session.Admits w.session ops ∧ (w.after ops).Halted ∧
      (w.after ops).stops = w.stops + line.length ∧ (w.after ops).line = t :: new := by
  induction line generalizing w rest with
  | nil => exact ⟨[], rest, trivial, h, rfl, hl⟩
  | cons u line ih =>
    rw [List.cons_append] at hl
    obtain ⟨hround, hhalted, hstops, new, hnew⟩ := h.round hl (hline u List.mem_cons_self)
    rw [List.append_assoc, List.cons_append] at hnew
    obtain ⟨ops, new', hfollows, hhalted', hstops', hnew'⟩ :=
      ih hhalted hnew fun v hv => hline v (List.mem_cons_of_mem u hv)
    rw [session_after] at hfollows
    refine ⟨stepping ++ ops, new', Session.follows_append.2 ⟨hround, hfollows⟩, ?_, ?_, ?_⟩
    · rw [after_append]
      exact hhalted'
    · rw [after_append, hstops', hstops, List.length_cons]
      omega
    · rw [after_append]
      exact hnew'

/-- A halted watch whose target shows the stop takes a request to step. -/
theorem Halted.ask (h : w.Halted) (hs : w.session.relay.target.state = .suspended) :
    (w.act (.move (.requestStep .stepInto))).Halted ∧
      (w.act (.move (.requestStep .stepInto))).session.relay.target.state = .suspended ∧
      (w.act (.move (.requestStep .stepInto))).stops = w.stops ∧
      (w.act (.move (.requestStep .stepInto))).shown = w.shown ∧
      (w.act (.move (.requestStep .stepInto))).line =
        w.line ++ [w.ticket (.stepRequest .stepInto)] := by
  rw [act_requestStep h.serves.accepts hs]
  exact ⟨⟨h.toSound.request hs .stepInto, h.hook, h.waits⟩, hs, rfl, rfl, rfl⟩

/-- The same request is taken any number of times. -/
theorem Halted.asks (h : w.Halted) (hs : w.session.relay.target.state = .suspended) (k : Nat) :
    ∃ ops asked, Session.Follows Session.Admits w.session ops ∧ (w.after ops).Halted ∧
      (w.after ops).session.relay.target.state = .suspended ∧ (w.after ops).stops = w.stops ∧
      (w.after ops).shown = w.shown ∧ (w.after ops).line = w.line ++ asked ∧ asked.length = k ∧
      ∀ u ∈ asked, u.event = .stepRequest .stepInto := by
  induction k generalizing w with
  | zero => exact ⟨[], [], trivial, h, hs, rfl, rfl, (List.append_nil _).symm, rfl, by simp⟩
  | succ k ih =>
    obtain ⟨hhalted, hsuspended, hstops, hshown, hline⟩ := h.ask hs
    obtain ⟨ops, asked, hfollows, hhalted', hsuspended', hstops', hshown', hline', hlength,
      hasked⟩ := ih hhalted hsuspended
    refine ⟨.move (.requestStep .stepInto) :: ops, w.ticket (.stepRequest .stepInto) :: asked,
      ⟨trivial, hfollows⟩, hhalted', hsuspended', hstops'.trans hstops, hshown'.trans hshown, ?_,
      by rw [List.length_cons, hlength], ?_⟩
    · rw [hline, List.append_assoc] at hline'
      exact hline'
    · intro u hu
      rcases List.mem_cons.1 hu with rfl | hu
      · rfl
      · exact hasked u hu

/-- From any stop that is shown while nothing waits, a request may miss by as much as there was
ahead of it. -/
theorem Halted.exists_missed (h : w.Halted) (hs : w.session.relay.target.state = .suspended)
    (hl : w.line = []) (k : Nat) :
    ∃ ops t new, Session.Follows Session.Admits w.session ops ∧ (w.after ops).Halted ∧
      (w.after ops).line = t :: new ∧ t.event = .stepRequest .stepInto ∧ t.ahead = k ∧
      (w.after ops).stops = t.stop + k := by
  have hshows := h.shows hs
  rw [hl, Ticket.tally_nil, Nat.add_zero] at hshows
  have hcurrent : w.shown = w.stops := le_antisymm h.past ((Nat.le_add_right _ _).trans hshows)
  obtain ⟨ops, asked, hfollows, hhalted, hsuspended, hstops, hshown, hline, hlength, hasked⟩ :=
    h.asks hs k
  rw [hl, List.nil_append] at hline
  -- the last of the requests finds all the others ahead
  obtain ⟨hlast, -, hstops', -, hline'⟩ := hhalted.ask hsuspended
  have hrole : ∀ u ∈ asked, u.event.role = .request := fun u hu => by rw [hasked u hu]; rfl
  have hahead : ((w.after ops).ticket (.stepRequest .stepInto)).ahead = k := by
    rw [ticket, hline, Ticket.tally_eq_length hrole, Ticket.tally_eq_zero, hlength, Nat.add_zero]
    intro u hu
    simp [hrole u hu]
  have hstop : ((w.after ops).ticket (.stepRequest .stepInto)).stop = w.stops :=
    hshown.trans hcurrent
  rw [hline] at hline'
  obtain ⟨more, new, hmore, hhalted', hstops'', hnew⟩ := hlast.rounds hline' hasked
  refine ⟨ops ++ .move (.requestStep .stepInto) :: more, _, new, ?_, ?_, ?_, rfl, hahead, ?_⟩
  · refine Session.follows_append.2 ⟨hfollows, trivial, ?_⟩
    rw [← session_after]
    exact hmore
  · rw [after_append]
    exact hhalted'
  · rw [after_append]
    exact hnew
  · rw [after_append, hstop, ← hlength, ← hstops, ← hstops']
    exact hstops''

end Watch

namespace Session

variable {first : Session} {ops : List Op}

/-- The watch of a session from its launch on. -/
def watched (first : Session) (ops : List Op) : Watch := (Watch.launch first).after ops

/-- What requests do that wait after a history. -/
structure Releases (first : Session) (ops : List Op) : Prop where
  /-- There is a ticket for each event that waits. -/
  queued : (first.watched ops).line.map Ticket.event = (first.after ops).relay.queue.waiting
  /-- A request that is dispatched wakes a waiting thread exactly if a debugger is installed. -/
  wakes : ∀ {t rest kind}, (first.watched ops).line = t :: rest → t.event = .stepRequest kind →
    (first.after ops).relay.native.tracer.Waits →
    ((first.after ops).act (.move .dispatch)).relay.wake?.isSome =
      (first.after ops).relay.isAttached
  /-- The stop that it finds the thread in is not before the one that it was made in, and after it
  by no more than was ahead of it. -/
  within : ∀ {t rest kind}, (first.watched ops).line = t :: rest → t.event = .stepRequest kind →
    t.stop ≤ (first.watched ops).stops ∧ (first.watched ops).stops ≤ t.stop + t.ahead
  /-- From a stop that is shown while nothing waits the history may go on so that a request releases
  a stop as late as that. -/
  attained : (first.after ops).relay.queue.waiting = [] →
    (first.after ops).relay.target.state = .suspended →
    (first.after ops).relay.native.tracer.Waits → (first.after ops).relay.isAttached = true →
    ∀ k, ∃ more t rest, Follows Admits first (ops ++ more) ∧
      (first.watched (ops ++ more)).line = t :: rest ∧ t.event = .stepRequest .stepInto ∧
      t.ahead = k ∧ (first.watched (ops ++ more)).stops = t.stop + k ∧
      ((first.after (ops ++ more)).act (.move .dispatch)).relay.wake?.isSome = true

theorem session_watched : (first.watched ops).session = first.after ops :=
  (Watch.launch first).session_after ops

/-- In a running session a request releases the stop that it was made in, or one of as many later
ones as there were requests and announcements of going on ahead of it. -/
theorem released_within (hl : first.IsLaunch) (hf : Follows Admits first ops) :
    Releases first ops := by
  have hsound : (first.watched ops).Sound := (Watch.sound_launch hl).after hf
  have hserves := hsound.serves
  have hqueued := hsound.queued
  rw [session_watched] at hserves hqueued
  constructor
  case queued => exact hqueued
  case wakes =>
    intro t rest kind hline ht hwaits
    rw [hline, List.map_cons, ht] at hqueued
    exact hserves.wake?_dispatch hwaits hqueued.symm
  case within =>
    intro t rest kind hline ht
    exact hsound.within hline (by rw [ht]; rfl)
  case attained =>
    intro hw hs hwaits hattached k
    have hhalted : (first.watched ops).Halted := by
      refine ⟨hsound, ?_, ?_⟩
      · rw [session_watched]
        refine hserves.hook.resolve_left fun hnone => ?_
        simp [Relay.isAttached, hnone] at hattached
      · rw [session_watched]
        exact hwaits
    rw [← session_watched] at hs
    rw [hw, List.map_eq_nil_iff] at hqueued
    obtain ⟨more, t, rest, hmore, hmissed, hline, ht, hahead, hstops⟩ :=
      hhalted.exists_missed hs hqueued k
    have hagain : first.watched (ops ++ more) = (first.watched ops).after more :=
      (Watch.launch first).after_append ops more
    rw [← hagain] at hmissed hline hstops
    rw [session_watched] at hmore
    refine ⟨more, t, rest, follows_append.2 ⟨hf, hmore⟩, hline, ht, hahead, hstops, ?_⟩
    have hwaiting := hmissed.queued.symm
    rw [hline, List.map_cons, ht] at hwaiting
    have hwakes := hmissed.serves.wake?_dispatch hmissed.waits hwaiting
    rw [Relay.isAttached, hmissed.hook] at hwakes
    rw [session_watched] at hwakes
    exact hwakes

/-! ## A request that misses -/

/-- A session that stops at its first line and is shown to have. -/
def sampleShown : List Op :=
  [.start .direct, .move .dispatch, .move (.line ⟨none⟩ sampleStack), .move .dispatch]

/-- A request at the first stop releases it, and the third of three requests may miss by two. -/
theorem released_sampleShown :
    ((sampleSession.after (sampleShown ++ [.move (.requestStep .stepInto)])).act
      (.move .dispatch)).relay.wake?.isSome = true ∧
    (sampleSession.watched (sampleShown ++ [.move (.requestStep .stepInto)])).stops = 1 ∧
    ∃ more t rest, (sampleSession.watched (sampleShown ++ more)).line = t :: rest ∧
      t.ahead = 2 ∧ (sampleSession.watched (sampleShown ++ more)).stops = t.stop + 2 := by
  have hshown : Follows Admits sampleSession sampleShown := ⟨rfl, trivial, rfl, trivial, trivial⟩
  have hrequest : Follows Admits sampleSession (sampleShown ++ [.move (.requestStep .stepInto)]) :=
    ⟨rfl, trivial, rfl, trivial, trivial, trivial⟩
  have hline : (sampleSession.watched (sampleShown ++ [.move (.requestStep .stepInto)])).line =
      [⟨.stepRequest .stepInto, 1, 0⟩] := rfl
  have hreleases := released_within isLaunch_sampleSession hrequest
  have hwakes := hreleases.wakes hline rfl ⟨rfl, rfl, rfl⟩
  obtain ⟨hfirst, hlast⟩ := hreleases.within hline rfl
  obtain ⟨more, t, rest, -, hmissed, -, hahead, hstops, -⟩ :=
    (released_within isLaunch_sampleSession hshown).attained rfl rfl
      ⟨rfl, rfl, rfl⟩ rfl 2
  exact ⟨hwakes.trans rfl, le_antisymm hlast hfirst, more, t, rest, hmissed, hahead, hstops⟩

/-- Two requests at the first stop, of which the first has been dispatched, and the second stop that
it led to. -/
def sampleTwice : List Op :=
  sampleShown ++ [.move (.requestStep .stepInto), .move (.requestStep .stepInto),
    .move .dispatch, .move .wake, .move (.line ⟨none⟩ sampleStack)]

/-- Of two requests at the first stop the second releases the second stop, which was not shown when
it was made. -/
theorem released_later : ∃ first ops t, IsLaunch first ∧ Follows Admits first ops ∧
    (first.watched ops).line.head? = some t ∧ t.event = .stepRequest .stepInto ∧ t.stop = 1 ∧
    (first.watched ops).stops = 2 ∧ (first.after ops).relay.wake? = none ∧
    ((first.after ops).act (.move .dispatch)).relay.wake?.isSome = true := by
  refine ⟨sampleSession, sampleTwice, ⟨.stepRequest .stepInto, 1, 1⟩, isLaunch_sampleSession,
    ?_, ?_, rfl, rfl, ?_, ?_, ?_⟩
  · exact ⟨rfl, trivial, rfl, trivial, trivial, trivial, trivial, trivial, rfl, trivial⟩
  · rfl
  · rfl
  · rfl
  · rfl

end Session

end DebugRelay
