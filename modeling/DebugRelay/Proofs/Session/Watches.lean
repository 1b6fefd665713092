import DebugRelay.Proofs.Relay.Releasing
import DebugRelay.Proofs.Session.Histories
import DebugRelay.Proofs.Splits

/-!
# Watching a session

`Watch` runs a session with the stops of its engine counted, and keeps a ticket for each event that
waits: the stop that it belongs to, and how many requests and announcements of going on were ahead
of it when it was queued. `Watch.Sound` is the invariant of a running session (`Sound.after`). By
the tickets that are still in the line it bounds how far the engine can get before its thread has to
be released once more.
-/

namespace DebugRelay

/-! ## Tickets -/

/-- An event that waits. -/
structure Ticket where
  event : Event
  /-- The stop that was shown when a request was made, or that a report is about. -/
  stop : Nat
  /-- How many requests and announcements of going on were ahead of it when it was queued. -/
  ahead : Nat

namespace Ticket

/-- How many events of a role wait. -/
def tally (role : Event.Role) (line : List Ticket) : Nat :=
  line.countP fun t => t.event.role = role

variable {role : Event.Role} {line new rest : List Ticket} {t u : Ticket} {reach : Nat}

@[simp]
theorem tally_nil : tally role [] = 0 := rfl

theorem tally_cons : tally role (t :: line) =
    tally role line + if t.event.role = role then 1 else 0 := by
  simp [tally, List.countP_cons]

theorem tally_append : tally role (line ++ new) = tally role line + tally role new :=
  List.countP_append

theorem tally_eq_length (h : ∀ t ∈ line, t.event.role = role) : tally role line = line.length := by
  simpa [tally, List.countP_eq_length] using h

theorem tally_eq_zero (h : ∀ t ∈ line, t.event.role ≠ role) : tally role line = 0 := by
  simpa [tally, List.countP_eq_zero] using h

/-- The tickets tell how far the engine can get before it has to be released once more. Past the
stop of a report it gets by the announcements that were queued since, and past the stop of a request
by what was ahead of it, of which the requests still have to be dispatched. -/
structure Bounds (reach : Nat) (line : List Ticket) : Prop where
  reports : ∀ {before t after}, line = before ++ t :: after → t.event.role = .report →
    reach ≤ t.stop + tally .release after
  requests : ∀ {before t after}, line = before ++ t :: after → t.event.role = .request →
    reach + tally .request before ≤ t.stop + t.ahead

theorem bounds_nil : Bounds reach [] where
  reports heq := by simp at heq
  requests heq := by simp at heq

theorem Bounds.mono {less : Nat} (h : Bounds reach line) (hle : less ≤ reach) :
    Bounds less line where
  reports heq ht := hle.trans (h.reports heq ht)
  requests heq ht := (Nat.add_le_add_right hle _).trans (h.requests heq ht)

theorem Bounds.concat (h : Bounds reach line) (hreport : u.event.role = .report → reach ≤ u.stop)
    (hrequest : u.event.role = .request → reach + tally .request line ≤ u.stop + u.ahead) :
    Bounds reach (line ++ [u]) where
  reports heq ht := by
    rcases concat_eq_append_cons heq with ⟨-, rfl, rfl⟩ | ⟨earlier, hline, rfl⟩
    · exact hreport ht
    · have hbound := h.reports hline ht
      rw [tally_append]
      omega
  requests heq ht := by
    rcases concat_eq_append_cons heq with ⟨rfl, rfl, -⟩ | ⟨earlier, hline, -⟩
    · exact hrequest ht
    · exact h.requests hline ht

theorem Bounds.append (h : Bounds reach line) (hnew : ∀ t ∈ new, t.event.role = .other) :
    Bounds reach (line ++ new) := by
  induction new generalizing line with
  | nil => rwa [List.append_nil]
  | cons u rest ih =>
    have hu := hnew u List.mem_cons_self
    have hconcat := h.concat (u := u) (by simp [hu]) (by simp [hu])
    have hrest := ih hconcat fun t ht => hnew t (List.mem_cons_of_mem u ht)
    rwa [List.append_assoc] at hrest

theorem cons_eq_append_cons {before after : List Ticket} (heq : rest = before ++ u :: after)
    (t : Ticket) : t :: rest = (t :: before) ++ u :: after := by
  rw [heq, List.cons_append]

theorem Bounds.tail (h : Bounds reach (t :: rest)) : Bounds reach rest where
  reports heq hreport := h.reports (cons_eq_append_cons heq t) hreport
  requests heq hrequest := by
    have hbound := h.requests (cons_eq_append_cons heq t) hrequest
    rw [tally_cons] at hbound
    omega

/-- A request that is dispatched lets the engine get one stop further. All other requests had it
ahead, and all reports have the announcement behind. -/
theorem Bounds.release (h : Bounds reach (t :: rest)) (ht : t.event.role = .request)
    (hu : u.event.role = .release) : Bounds (reach + 1) (rest ++ [u]) where
  reports heq hreport := by
    rcases concat_eq_append_cons heq with ⟨-, rfl, -⟩ | ⟨earlier, hline, rfl⟩
    · simp [hu] at hreport
    · have hbound := h.reports (cons_eq_append_cons hline t) hreport
      rw [tally_append, tally_cons, if_pos hu]
      omega
  requests heq hrequest := by
    rcases concat_eq_append_cons heq with ⟨-, rfl, -⟩ | ⟨earlier, hline, -⟩
    · simp [hu] at hrequest
    · have hbound := h.requests (cons_eq_append_cons hline t) hrequest
      rw [tally_cons, if_pos ht] at hbound
      omega

end Ticket

/-! ## Watching a session -/

/-- The operation belongs to a running session, whose debugger is the tracer itself and whose
engine traces no line while its thread is parked. -/
def Session.Admits (s : Session) : Session.Op → Prop
  | .start i => i = .direct
  | .move (.line _ _) => s.relay.native.tracer.suspended = false
  | .finish | .shutdown | .link _ => False
  | .scriptReady _ _ | .join | .move _ | .requestTermination | .registry _ => True

/-- A session with its stops counted. -/
structure Watch where
  session : Session
  /-- How many stops there were. -/
  stops : Nat
  /-- Which of them was the last to be shown. -/
  shown : Nat
  /-- The events that wait. -/
  line : List Ticket

namespace Watch

open Session (Op)

/-- Nothing has stopped yet. -/
def launch (s : Session) : Watch := ⟨s, 0, 0, []⟩

/-- The ticket of an event that is queued now. -/
def ticket (w : Watch) (e : Event) : Ticket where
  event := e
  stop := if e.role = .request then w.shown else w.stops
  ahead := Ticket.tally .request w.line + Ticket.tally .release w.line

/-- The oldest event is handed out. A report shows its stop. -/
def hand (w : Watch) : Watch :=
  match w.line with
  | [] => w
  | t :: rest =>
    { w with shown := if t.event.role = .report then t.stop else w.shown, line := rest }

/-- Counts an operation: a line that parks its thread is a stop. -/
def count (w : Watch) : Op → Watch
  | .move .dispatch => w.hand
  | .move (.line thread stack) =>
    if (w.session.relay.traceLine thread stack).2.isNone then { w with stops := w.stops + 1 } else w
  | _ => w

/-- The relay changes. -/
def withRelay (w : Watch) (r : Relay) : Watch :=
  { w with session := { w.session with relay := r } }

/-- The relay changes and queues events. -/
def extend (w : Watch) (r : Relay) (events : List Event) : Watch :=
  { w.withRelay r with line := w.line ++ events.map w.ticket }

/-- The watch after an operation. -/
def act (w : Watch) (o : Op) : Watch :=
  let counted := w.count o
  { counted with
    session := w.session.act o
    line := counted.line ++ (w.session.accepts o).map counted.ticket }

/-- The watch after a list of operations, the first of them done first. -/
def after (w : Watch) (ops : List Op) : Watch := ops.foldl act w

variable {w : Watch} {o : Op} {r : Relay} {events : List Event} {t : Ticket} {rest : List Ticket}

theorem after_append (w : Watch) (ops more : List Op) :
    w.after (ops ++ more) = (w.after ops).after more :=
  List.foldl_append

/-- Tickets are added at the end of the line. -/
theorem line_act (w : Watch) (o : Op) : ∃ new, (w.act o).line = (w.count o).line ++ new :=
  ⟨_, rfl⟩

theorem extend_nil (w : Watch) (r : Relay) : w.extend r [] = w.withRelay r := by
  rw [extend, List.map_nil, List.append_nil]
  rfl

theorem session_after (w : Watch) (ops : List Op) :
    (w.after ops).session = w.session.after ops := by
  induction ops generalizing w with
  | nil => rfl
  | cons o rest ih => exact ih (w.act o)

theorem hand_of_cons (h : w.line = t :: rest) : w.hand =
    { w with shown := if t.event.role = .report then t.stop else w.shown, line := rest } := by
  simp [hand, h]

/-- The last stop that the engine can come to unless its thread is released once more. -/
def reach (w : Watch) : Nat := w.stops + w.session.relay.native.tracer.goes.toNat

/-- What every watch of a running session keeps. A recorded stop is one that the thread waits in.
While the target shows a stop, the engine gets past it by the announcements that wait. -/
structure Sound (w : Watch) : Prop where
  serves : w.session.relay.Serves
  lasting : w.session.terminated = false
  queued : w.line.map Ticket.event = w.session.relay.queue.waiting
  past : w.shown ≤ w.stops
  issued : ∀ t ∈ w.line, t.stop ≤ w.stops
  held : w.session.relay.link.suspension.isSome → w.session.relay.native.tracer.goes = false
  shows : w.session.relay.target.state = .suspended →
    w.reach ≤ w.shown + Ticket.tally .release w.line
  bounds : Ticket.Bounds w.reach w.line

@[simp]
theorem event_ticket (w : Watch) (e : Event) : (w.ticket e).event = e := rfl

theorem stop_ticket_le (h : w.shown ≤ w.stops) (e : Event) : (w.ticket e).stop ≤ w.stops := by
  rw [ticket]
  split
  · exact h
  · exact Nat.le_refl _

theorem role_of_mem_tickets {role : Event.Role} (h : ∀ e ∈ events, e.role = role) :
    ∀ t ∈ events.map w.ticket, t.event.role = role := by
  intro t ht
  obtain ⟨e, he, rfl⟩ := List.mem_map.1 ht
  exact h e he

/-- What has to be seen to when events are queued. -/
theorem Sound.extend (h : w.Sound) (hserves : r.Serves)
    (hw : r.queue.waiting = w.session.relay.queue.waiting ++ events)
    (hheld : r.link.suspension.isSome → r.native.tracer.goes = false)
    (hshows : r.target.state = .suspended → (w.extend r events).reach ≤
      w.shown + Ticket.tally .release (w.extend r events).line)
    (hbounds : Ticket.Bounds (w.extend r events).reach (w.extend r events).line) :
    (w.extend r events).Sound where
  serves := hserves
  lasting := h.lasting
  queued := by
    have hevents : (events.map w.ticket).map Ticket.event = events := by
      rw [List.map_map]
      exact List.map_id events
    rw [Watch.extend, List.map_append, hevents, h.queued]
    exact hw.symm
  past := h.past
  issued := by
    intro t ht
    rcases List.mem_append.1 ht with ht | ht
    · exact h.issued t ht
    · obtain ⟨e, -, rfl⟩ := List.mem_map.1 ht
      exact stop_ticket_le h.past e
  held := hheld
  shows := hshows
  bounds := hbounds

/-- A change that is not about stops. -/
theorem Sound.calm (h : w.Sound) (hc : w.session.relay.Calm r events) :
    (w.extend r events).Sound := by
  have hreach : (w.extend r events).reach ≤ w.reach := by
    have hle : r.native.tracer.goes.toNat ≤ w.session.relay.native.tracer.goes.toNat := by
      cases hg : r.native.tracer.goes with
      | false => exact Nat.zero_le _
      | true => rw [hc.goes hg]
    exact Nat.add_le_add_left hle w.stops
  have haside := role_of_mem_tickets (w := w) hc.aside
  refine h.extend hc.serves hc.waiting ?_ ?_ ((h.bounds.mono hreach).append haside)
  · intro hs
    have hheld := h.held (hc.held hs)
    by_contra hgoes
    rw [hc.goes (by simpa using hgoes)] at hheld
    simp at hheld
  · intro hs
    have hshows := h.shows (hc.state hs)
    rw [Watch.extend, Ticket.tally_append]
    exact hreach.trans (hshows.trans (by omega))

/-- A request of the user finds the stop shown that it is about. -/
theorem Sound.request (h : w.Sound) (hs : w.session.relay.target.state = .suspended)
    (kind : StepKind) :
    (w.extend (w.session.relay.send (.stepRequest kind)) [.stepRequest kind]).Sound := by
  have hshows := h.shows hs
  have hserves : (w.session.relay.send (.stepRequest kind)).Serves :=
    h.serves.of_eq rfl rfl h.serves.running (Queue.accepts_enqueue _ _) h.serves.hook
  have hwaiting : (w.session.relay.send (.stepRequest kind)).queue.waiting =
      w.session.relay.queue.waiting ++ [.stepRequest kind] := by
    rw [Relay.send_of_accepts h.serves.accepts]
  refine h.extend hserves hwaiting h.held (fun _ => ?_) (h.bounds.concat ?_ fun _ => ?_)
  · rw [Watch.extend, Ticket.tally_append]
    exact hshows.trans (Nat.add_le_add_left (Nat.le_add_right _ _) w.shown)
  · simp [Event.role]
  · change w.reach + Ticket.tally .request w.line ≤ w.shown +
      (Ticket.tally .request w.line + Ticket.tally .release w.line)
    omega

/-- The report of a stop that the thread waits in. -/
theorem Sound.report (h : w.Sound) {e : Event} (he : e.role = .report) (hserves : r.Serves)
    (hw : r.queue.waiting = w.session.relay.queue.waiting ++ [e])
    (hgoes : r.native.tracer.goes = false)
    (hstate : r.target.state = .suspended → w.session.relay.target.state = .suspended) :
    (w.extend r [e]).Sound := by
  have hreach : (w.extend r [e]).reach = w.stops := by
    change w.stops + r.native.tracer.goes.toNat = w.stops
    rw [hgoes]
    rfl
  have hle : (w.extend r [e]).reach ≤ w.reach := by
    rw [hreach]
    exact Nat.le_add_right _ _
  refine h.extend hserves hw (fun _ => hgoes) (fun hs => ?_) ?_
  · rw [Watch.extend, Ticket.tally_append]
    exact hle.trans ((h.shows (hstate hs)).trans (by omega))
  · refine (h.bounds.mono hle).concat (fun _ => ?_) (by simp [he])
    rw [hreach, ticket, if_neg (by simp [he])]

/-- A stop is as far as the engine could get. -/
theorem Sound.stop (h : w.Sound) {tracer : Tracer}
    (hgoes : w.session.relay.native.tracer.goes = true) (hstop : tracer.goes = false) :
    ({ w with stops := w.stops + 1 }.withRelay { w.session.relay with
      native := { w.session.relay.native with tracer := tracer } }).Sound := by
  have hreach : w.reach = w.stops + 1 := by rw [reach, hgoes, Bool.toNat_true]
  have hshows := h.shows
  have hbounds := h.bounds
  rw [hreach] at hshows hbounds
  constructor
  case serves => exact h.serves.of_eq rfl rfl h.serves.running rfl h.serves.hook
  case lasting => exact h.lasting
  case queued => exact h.queued
  case past => exact h.past.trans (Nat.le_succ _)
  case issued => exact fun t ht => (h.issued t ht).trans (Nat.le_succ _)
  case held => exact fun _ => hstop
  case shows =>
    intro hs
    change w.stops + 1 + tracer.goes.toNat ≤ w.shown + Ticket.tally .release w.line
    rw [hstop]
    exact hshows hs
  case bounds =>
    change Ticket.Bounds (w.stops + 1 + tracer.goes.toNat) w.line
    rw [hstop]
    exact hbounds

/-- An event is handed out, and a report among them shown. -/
theorem Sound.hand (h : w.Sound) (hl : w.line = t :: rest) (hserves : r.Serves)
    (hw : r.queue.waiting = rest.map Ticket.event) (hlink : r.link = w.session.relay.link)
    (hnative : r.native = w.session.relay.native)
    (hstate : r.target.state = .suspended → t.event.role = .report ∨
      t.event.role ≠ .release ∧ w.session.relay.target.state = .suspended) :
    (w.hand.withRelay r).Sound := by
  have hbounds := h.bounds
  have hshows := h.shows
  have hissued := h.issued
  rw [hl] at hbounds hshows hissued
  rw [hand_of_cons hl]
  constructor
  case serves => exact hserves
  case lasting => exact h.lasting
  case queued => exact hw.symm
  case past =>
    change (if t.event.role = .report then t.stop else w.shown) ≤ w.stops
    split
    · exact hissued t List.mem_cons_self
    · exact h.past
  case issued => exact fun u hu => hissued u (List.mem_cons_of_mem t hu)
  case held =>
    change r.link.suspension.isSome → r.native.tracer.goes = false
    rw [hlink, hnative]
    exact h.held
  case shows =>
    intro hs
    change w.stops + r.native.tracer.goes.toNat ≤
      (if t.event.role = .report then t.stop else w.shown) + Ticket.tally .release rest
    rw [hnative]
    by_cases ht : t.event.role = .report
    · have hfirst : t :: rest = [] ++ t :: rest := rfl
      rw [if_pos ht]
      exact hbounds.reports hfirst ht
    · obtain ⟨hrelease, hbefore⟩ := (hstate hs).resolve_left ht
      have hreach := hshows hbefore
      rw [Ticket.tally_cons, if_neg hrelease] at hreach
      rw [if_neg ht]
      exact hreach
  case bounds =>
    change Ticket.Bounds (w.stops + r.native.tracer.goes.toNat) rest
    rw [hnative]
    exact hbounds.tail

/-- A request releases the thread, and announces that first. -/
theorem Sound.release (h : w.Sound) (hl : w.line = t :: rest) (ht : t.event.role = .request)
    (hserves : r.Serves) {e : Event} (he : e.role = .release)
    (hw : r.queue.waiting = rest.map Ticket.event ++ [e]) (hheld : r.link.suspension = none)
    (hstate : r.target = w.session.relay.target) : (w.hand.extend r [e]).Sound := by
  have hhanded := h.hand hl (h.serves.taken (rest.map Ticket.event)) rfl rfl rfl fun hs =>
    Or.inr ⟨by simp [ht], hs⟩
  have hbounds := h.bounds
  have hshows := h.shows
  rw [hl] at hbounds hshows
  have hline : w.hand.line = rest := by rw [hand_of_cons hl]
  have hshown : w.hand.shown = w.shown := by rw [hand_of_cons hl, if_neg (by simp [ht])]
  have hreach : (w.hand.extend r [e]).reach ≤ w.reach + 1 := by
    have hgoes := Bool.toNat_le r.native.tracer.goes
    rw [hand_of_cons hl]
    change w.stops + r.native.tracer.goes.toNat ≤ w.stops + _ + 1
    omega
  refine hhanded.extend hserves hw (by simp [hheld]) (fun hs => ?_) ?_
  · change (w.hand.extend r [e]).reach ≤
      w.hand.shown + Ticket.tally .release (w.hand.line ++ [w.hand.ticket e])
    rw [hstate] at hs
    have hbefore := hshows hs
    rw [Ticket.tally_cons, if_neg (by simp [ht])] at hbefore
    rw [hshown, hline, Ticket.tally_append, Ticket.tally_cons, event_ticket, if_pos he]
    exact hreach.trans (by omega)
  · change Ticket.Bounds _ (w.hand.line ++ [w.hand.ticket e])
    rw [hline]
    exact (hbounds.release ht he).mono hreach

/-! ### Operations of a running session -/

theorem session_hand (w : Watch) : w.hand.session = w.session := by
  unfold hand
  split <;> rfl

theorem session_count (w : Watch) (o : Op) : (w.count o).session = w.session := by
  unfold count
  split
  · exact w.session_hand
  · split <;> rfl
  · rfl

/-- An operation changes the relay and queues events, after it has been counted. -/
theorem act_eq (hs : w.session.act o = { w.session with relay := r })
    (ha : w.session.accepts o = events) : w.act o = (w.count o).extend r events := by
  rw [act, hs, ha, extend, withRelay, session_count]

theorem act_dispatch_eq {e : Event} {left : List Event}
    (hw : w.session.relay.queue.waiting = e :: left) (hr : w.session.relay.move .dispatch = r)
    (hleft : r.queue.waiting = left ++ events) :
    w.act (.move .dispatch) = w.hand.extend r events := by
  have hs : w.session.act (.move .dispatch) = { w.session with relay := r } := by
    rw [Session.act, Session.move, hr]
  have ha : w.session.accepts (.move .dispatch) = events := by
    rw [Session.accepts, Session.move, hr, hw, hleft, List.length_cons, Nat.add_sub_cancel,
      List.drop_left]
  exact act_eq hs ha

/-- The oldest event is handed out and consumed. -/
theorem Sound.consume (h : w.Sound) (hl : w.line = t :: rest)
    (hp : (w.session.relay.taken (rest.map Ticket.event)).Passage t.event r events) :
    (w.hand.extend r events).Sound := by
  have htaken := h.serves.taken (rest.map Ticket.event)
  have hhand := fun hrole => h.hand hl htaken rfl rfl rfl fun hsuspended =>
    Or.inr ⟨hrole, hsuspended⟩
  cases hp with
  | calm hrole hc => exact (hhand hrole).calm hc
  | released hrole hu hs hw hheld hstate => exact h.release hl hrole hs hu hw hheld hstate
  | reported hrole hu hs hw hheld hnative hstate =>
    refine (hhand hrole).report hu hs hw ?_ fun hsuspended => ?_
    · rw [hnative]
      exact h.held hheld
    · rwa [hstate] at hsuspended
  | shown hs hw hlink hnative hstate =>
    have hhanded := h.hand hl hs hw hlink hnative fun hsuspended =>
      Target.suspended_of_apply (hstate ▸ hsuspended)
    rw [extend_nil]
    exact hhanded

theorem Sound.dispatch (h : w.Sound) : (w.act (.move .dispatch)).Sound := by
  rcases Relay.dispatch_cases h.serves.plain.consumers with
    ⟨heq, hidle⟩ | ⟨stats, -, -, hclosed, -⟩ | ⟨e, left, stats, stats', log, -, hw, -, heq⟩
  · obtain ⟨stats, hl⟩ := h.serves.running
    obtain ⟨hw, -⟩ := hidle.resolve_left fun hstill => hstill stats hl
    have hline : w.line = [] := by
      have hqueued := h.queued
      rwa [hw, List.map_eq_nil_iff] at hqueued
    have hact : w.session.act (.move .dispatch) =
        { w.session with relay := w.session.relay } := by
      rw [Session.act, Session.move, heq]
    have haccepts : w.session.accepts (.move .dispatch) = [] := by
      rw [Session.accepts, Session.move, heq, hw, List.drop_nil]
    have hhand : w.hand = w := by simp only [Watch.hand, hline]
    rw [act_eq hact haccepts, extend_nil, count, hhand]
    exact h
  · have haccepts := h.serves.accepts
    simp [Queue.accepts, hclosed] at haccepts
  · have hqueued := h.queued
    rw [hw, List.map_eq_cons_iff] at hqueued
    obtain ⟨t, rest, hl, rfl, rfl⟩ := hqueued
    obtain ⟨events, hp⟩ :=
      (h.serves.taken (rest.map Ticket.event)).passage_consume t.event
    have hrecorded := hp.record stats' log
    rw [act_dispatch_eq hw heq hrecorded.waiting]
    exact h.consume hl hrecorded

/-- A change that is not about stops, of an operation that is not counted. -/
theorem Sound.act_calm (h : w.Sound) (hcount : w.count o = w)
    (hact : w.session.act o = { w.session with relay := r })
    (haccepts : w.session.accepts o = r.queue.waiting.drop w.session.relay.queue.waiting.length)
    (hcalm : w.session.relay.Calm r events) : (w.act o).Sound := by
  rw [hcalm.waiting, List.drop_left] at haccepts
  rw [act_eq hact haccepts, hcount]
  exact h.calm hcalm

/-- A line that is traced while no thread is parked may be a stop. -/
theorem Sound.line (h : w.Sound) (hfree : w.session.relay.native.tracer.suspended = false)
    (thread : Thread) (stack : List Frame) : (w.act (.move (.line thread stack))).Sound := by
  have hact : w.session.act (.move (.line thread stack)) =
    { w.session with relay := (w.session.relay.traceLine thread stack).1 } := rfl
  have haccepts : w.session.accepts (.move (.line thread stack)) =
    (w.session.relay.traceLine thread stack).1.queue.waiting.drop
      w.session.relay.queue.waiting.length := rfl
  have hcount : w.count (.move (.line thread stack)) =
    if (w.session.relay.traceLine thread stack).2.isNone then { w with stops := w.stops + 1 }
    else w := rfl
  rcases Relay.traceLine_cases h.serves.accepts thread stack with
    ⟨outcome, hpass, heq⟩ | ⟨reason, hstop, -, heq⟩ | ⟨reason, hstop, -, heq⟩
  · rw [heq] at hact haccepts hcount
    refine h.act_calm hcount hact haccepts (h.serves.calm_nil fun hgoes => ?_)
    rwa [(Tracer.stopsLike_of_passed hpass).goes] at hgoes
  · obtain ⟨hgoes, hstays⟩ := Tracer.goes_line hfree hstop
    have hstopped := h.stop hgoes hstays
    rw [heq] at hact haccepts hcount
    rw [List.drop_length] at haccepts
    rw [act_eq hact haccepts, hcount, extend_nil]
    exact hstopped
  -- a stop that somebody listens to is recorded and reported besides
  · obtain ⟨hgoes, hstays⟩ := Tracer.goes_line hfree hstop
    have hstopped := h.stop hgoes hstays
    rw [heq] at hact haccepts hcount
    rw [List.drop_left] at haccepts
    rw [act_eq hact haccepts, hcount]
    exact hstopped.report rfl
      (hstopped.serves.of_eq rfl rfl hstopped.serves.running rfl hstopped.serves.hook) rfl hstays
      fun hs => hs

theorem act_requestStep (hq : w.session.relay.queue.accepts = true)
    (hs : w.session.relay.target.state = .suspended) (kind : StepKind) :
    w.act (.move (.requestStep kind)) =
      w.extend (w.session.relay.send (.stepRequest kind)) [.stepRequest kind] := by
  have hrequest : (w.session.relay.requestStep kind).1 =
      w.session.relay.send (.stepRequest kind) := by
    rw [Relay.requestStep, if_pos hs]
  have hact : w.session.act (.move (.requestStep kind)) =
      { w.session with relay := w.session.relay.send (.stepRequest kind) } := by
    rw [← hrequest]
    rfl
  have haccepts : w.session.accepts (.move (.requestStep kind)) = [.stepRequest kind] := by
    change (w.session.relay.requestStep kind).1.queue.waiting.drop _ = _
    rw [hrequest, Relay.send_of_accepts hq, List.drop_left]
  exact act_eq hact haccepts

theorem Sound.requestStep (h : w.Sound) (kind : StepKind) :
    (w.act (.move (.requestStep kind))).Sound := by
  by_cases hs : w.session.relay.target.state = .suspended
  · rw [act_requestStep h.serves.accepts hs]
    exact h.request hs kind
  · have hrefused : (w.session.relay.requestStep kind).1 = w.session.relay := by
      rw [Relay.requestStep, if_neg hs]
    have hact : w.session.act (.move (.requestStep kind)) =
        { w.session with relay := w.session.relay } := by
      rw [Session.act, Session.move, Relay.move, hrefused]
    have haccepts : w.session.accepts (.move (.requestStep kind)) =
        w.session.relay.queue.waiting.drop w.session.relay.queue.waiting.length := by
      change (w.session.relay.requestStep kind).1.queue.waiting.drop _ = _
      rw [hrefused]
    exact h.act_calm rfl hact haccepts (h.serves.calm_nil fun hg => hg)

/-- What an operation of a running session keeps. -/
theorem Sound.act (h : w.Sound) (ho : w.session.Admits o) : (w.act o).Sound := by
  cases o with
  | start i =>
    obtain rfl : i = .direct := ho
    have hact : w.session.act (.start .direct) = { w.session with
        relay := (w.session.relay.setup .direct).1.send .engineStarted } := by
      rcases w.session.start_cases .direct with ⟨-, hact⟩ | ⟨e, log, herror, -⟩
      · exact hact
      · obtain ⟨calls, log', hsetup⟩ := w.session.relay.setup_direct
        simp [hsetup] at herror
    have haccepts : w.session.accepts (.start .direct) =
        (w.session.act (.start .direct)).relay.queue.waiting.drop
          w.session.relay.queue.waiting.length := rfl
    rw [hact] at haccepts
    exact h.act_calm rfl hact haccepts h.serves.calm_setup
  | scriptReady script thread =>
    exact h.act_calm rfl rfl rfl (h.serves.calm_send rfl)
  | finish => exact ho.elim
  | join =>
    have hact : w.session.act .join = { w.session with relay := w.session.relay } := by
      rw [Session.act, Session.join_of_open h.lasting]
    have haccepts : w.session.accepts .join = [] := by
      rw [Session.accepts, Session.acceptsJoining, h.lasting]
      rfl
    rw [act_eq hact haccepts, extend_nil]
    exact h
  | shutdown => exact ho.elim
  | move m =>
    cases m with
    | load => exact h.act_calm rfl rfl rfl h.serves.calm_load
    | edit d =>
      obtain ⟨events, hcalm⟩ := h.serves.calm_edit d
      exact h.act_calm rfl rfl rfl hcalm
    | requestStep kind => exact h.requestStep kind
    | requestFrames => exact h.act_calm rfl rfl rfl (h.serves.calm_send rfl)
    | enter f => exact h.act_calm rfl rfl rfl (h.serves.calm_enter f)
    | leave => exact h.act_calm rfl rfl rfl (h.serves.calm_nil fun hg => hg)
    | line thread stack => exact h.line ho thread stack
    | wake => exact h.act_calm rfl rfl rfl h.serves.calm_wake
    | dispatch => exact h.dispatch
  | requestTermination =>
    obtain ⟨events, hcalm⟩ := h.serves.calm_requestTermination
    exact h.act_calm rfl rfl rfl hcalm
  | registry o => exact h.act_calm rfl rfl rfl (h.serves.calm_nil fun hg => hg)
  | link c => exact ho.elim

theorem Sound.after (h : w.Sound) {ops : List Op}
    (hf : Session.Follows Session.Admits w.session ops) : (w.after ops).Sound := by
  induction ops generalizing w with
  | nil => exact h
  | cons o rest ih =>
    obtain ⟨ho, hrest⟩ := hf
    exact ih (h.act ho) hrest

/-- A session that has just been launched has no stop to show. -/
theorem sound_launch {s : Session} (h : s.IsLaunch) : (launch s).Sound := by
  obtain ⟨parts, registry, calls, log, heq⟩ := h.relay
  constructor
  case serves =>
    change s.relay.Serves
    rw [heq]
    exact ⟨⟨rfl, rfl⟩, ⟨{}, rfl⟩, rfl, Or.inl rfl⟩
  case lasting => exact h.open.1
  case queued =>
    change [] = s.relay.queue.waiting
    rw [heq]
    rfl
  case past => exact Nat.le_refl 0
  case issued => exact List.forall_mem_nil _
  case held =>
    change s.relay.link.suspension.isSome → _
    rw [heq]
    simp [Relay.started, Relay.create, Relay.call]
  case shows =>
    change s.relay.target.state = .suspended → _
    rw [heq]
    simp [Relay.started, Relay.create, Relay.call]
  case bounds => exact Ticket.bounds_nil

/-- A request at the head of the line finds the thread in the stop that it was made in, or in one
of as many later ones as there were requests and announcements ahead of it. -/
theorem Sound.within (h : w.Sound) (hl : w.line = t :: rest) (ht : t.event.role = .request) :
    t.stop ≤ w.stops ∧ w.stops ≤ t.stop + t.ahead := by
  have hissued := h.issued
  have hbounds := h.bounds
  rw [hl] at hissued hbounds
  have hfirst : t :: rest = [] ++ t :: rest := rfl
  have hreach := hbounds.requests hfirst ht
  rw [Ticket.tally_nil, Nat.add_zero] at hreach
  exact ⟨hissued t List.mem_cons_self, (Nat.le_add_right _ _).trans hreach⟩

end Watch

end DebugRelay
