import DebugRelay.Proofs.Link.Turns
import DebugRelay.Proofs.Relay.Consumers
import DebugRelay.Proofs.Splits

/-!
# The stop that the link remembers

The link remembers the latest stop, which it reports again when the IDE asks for the stack, and the
thread of the latest stop, which it announces when the script goes on. The stop is forgotten once
the script is let go on through a debugger or ended, or the debugger is dropped (`forgets`); the
thread never is. So after every list of turns the stop is the one reported last, if it still stands
(`suspension_turned_iff`), and the thread is that of the stop reported last of all
(`lastThread_turned`). `retold_and_announced` says what the IDE gets from it.
-/

namespace DebugRelay

/-- The event that tells the IDE of a stop. -/
def Suspension.report (stop : Suspension) : Event := .suspended stop.thread stop.frames stop.reason

namespace Relay

/-- The stop that a call of the link reports. -/
def LinkCall.stop? : LinkCall → Option Suspension
  | onSuspend stop => some stop
  | _ => none

/-- The way in which a call of the link lets the script go on. -/
def LinkCall.step? : LinkCall → Option StepKind
  | step kind | request (.stepRequest kind) => some kind
  | _ => none

/-- Whether a turn lets the script go on through a debugger, ends it, or drops the debugger. -/
def forgets (r : Relay) (t : Turn) : Bool :=
  t.call.step?.isSome && r.isAttached || r.drops t

/-- The stop that was reported last in a list of turns. -/
def lastStop? (ts : List Turn) : Option Suspension := (ts.filterMap (·.call.stop?)).getLast?

/-- The stop was reported in a list of turns, and since then none was reported or forgotten. -/
def Standing (r : Relay) (ts : List Turn) (stop : Suspension) : Prop :=
  ∃ before x since, ts = before ++ x :: since ∧ x.call.stop? = some stop ∧
    ∀ between y rest, since = between ++ y :: rest →
      y.call.stop? = none ∧ (r.turned (before ++ x :: between)).forgets y = false

/-- The events that a call of the link offers to the queue. -/
def offered (r : Relay) : LinkCall → List Event
  | .onSuspend stop => [stop.report]
  | .request .framesRequest => r.link.suspension.toList.map Suspension.report
  | .step kind | .request (.stepRequest kind) =>
    if r.isAttached then [.resumed r.link.lastThread kind] else []
  | _ => []

/-- The relay after a number of requests for the stack, one after the other. -/
def asked (r : Relay) : Nat → Relay
  | 0 => r
  | k + 1 => (r.handleRequest .framesRequest).asked k

/-- The relay that has announced that the script goes on, and not sent the command for it yet. -/
def announcing (r : Relay) (kind : StepKind) : Relay :=
  ({ r with link := { r.link with suspension := none } } : Relay).send
    (.resumed r.link.lastThread kind)

variable {r s : Relay} {t : Turn} {ts : List Turn} {stop : Suspension}

/-! ## What a call leaves of the memory -/

/-- The link remembers what it did before. -/
structure Recalls (r s : Relay) : Prop where
  suspension : s.link.suspension = r.link.suspension
  lastThread : s.link.lastThread = r.link.lastThread

theorem Recalls.of_link (h : s.link = r.link) : r.Recalls s := ⟨by rw [h], by rw [h]⟩

theorem recalls_setup (r : Relay) (i : Interpreter) : r.Recalls (r.setup i).1 := by
  rcases r.setup_cases i with ⟨-, calls, e, heq, -⟩ | ⟨-, e, heq⟩ | ⟨-, heq⟩
  · rw [heq]
    exact .of_link rfl
  · rw [heq]
    exact .of_link (r.effect_configured i).2
  · have hconfigured : (r.configured i).link = r.link := (r.effect_configured i).2
    have hlink : (r.setup i).1.link = { r.link with hook := some i.hook } := by
      rw [heq, ← hconfigured]
      exact (r.equipped i).link_setBreakpoints _
    exact ⟨by rw [hlink], by rw [hlink]⟩

theorem link_reconcile (r : Relay) (f : SourceFile) : (r.reconcile f).1.link = r.link := by
  rw [reconcile]
  split
  · exact (link_setBreakpoints _ _).trans (r.link_fire _)
  · rfl

theorem link_resendSuspension (r : Relay) : r.resendSuspension.link = r.link := by
  rw [resendSuspension]
  split <;> rfl

/-- With a debugger, the script is announced to go on before it is let go on. -/
theorem step_of_attached {h : Hook} (hook : r.link.hook = some h) (kind : StepKind) :
    r.step kind = (r.announcing kind).invoke h (.ofStep kind) := by
  rw [step]
  split
  · next hnone => simp [hook] at hnone
  · next h' hsome =>
    obtain rfl : h' = h := Option.some.inj (hsome.symm.trans hook)
    rfl

/-- A turn in which the script is to go on. -/
theorem turn_of_step? {kind : StepKind} (h : t.call.step? = some kind) :
    r.turn t = ((r.found t).step kind).1 := by
  obtain ⟨registry, queue, tracer, call⟩ := t
  cases call with
  | step kind' => cases h; rfl
  | request e =>
    cases e with
    | stepRequest kind' => cases h; rfl
    | _ => cases h
  | _ => cases h

theorem aim_of_step? {c : LinkCall} {kind : StepKind} (h : c.step? = some kind) :
    c.aim = .serve := by
  cases c with
  | step kind' => rfl
  | request e =>
    cases e with
    | stepRequest kind' => rfl
    | _ => cases h
  | _ => cases h

theorem eq_onSuspend_of_stop? {c : LinkCall} (h : c.stop? = some stop) : c = .onSuspend stop := by
  cases c with
  | onSuspend stop' => cases h; rfl
  | _ => cases h

/-- A turn that reports no stop and is not to let the script go on or to end it, nor to drop the
debugger, leaves the memory as it was. -/
theorem recalls_turn (hstop : t.call.stop? = none) (hstep : t.call.step? = none)
    (hquit : t.call.aim ≠ .quit) (hdrop : t.call.aim ≠ .drop) :
    (r.found t).Recalls (r.turn t) := by
  obtain ⟨registry, queue, tracer, call⟩ := t
  cases call with
  | setup i => exact recalls_setup _ i
  | setBreakpoint b => exact .of_link (link_setBreakpoint _ b)
  | clearFile f => exact .of_link (link_fire _ _)
  | reconcile f => exact .of_link (link_reconcile _ f)
  | installAll => exact .of_link (link_setBreakpoints _ _)
  | step kind => cases hstep
  | terminate => exact absurd rfl hquit
  | detach => exact absurd rfl hdrop
  | onSuspend stop => cases hstop
  | onScriptLoad f => exact .of_link (link_reconcile _ f)
  | request e =>
    cases e with
    | breakpointAdded b => exact .of_link (link_reconcile _ b.file)
    | breakpointRemoved b => exact .of_link (link_reconcile _ b.file)
    | breakpointChanged b => exact .of_link (link_reconcile _ b.file)
    | stepRequest kind => cases hstep
    | framesRequest => exact .of_link (link_resendSuspension _)
    | terminateRequest => exact absurd rfl hquit
    | _ => exact .of_link rfl

theorem forgets_of_step? {kind : StepKind} (h : t.call.step? = some kind) :
    r.forgets t = r.isAttached := by
  have haim := aim_of_step? h
  rw [forgets, h, drops_of_ne (by simp [haim]) (by simp [haim]), Bool.or_false]
  rfl

theorem forgets_of_not_step? (h : t.call.step? = none) : r.forgets t = r.drops t := by
  rw [forgets, h]
  exact Bool.false_or _

/-- A turn that forgets the stop keeps the thread. -/
theorem link_of_forgets (h : r.forgets t = true) :
    (r.turn t).link.suspension = none ∧ (r.turn t).link.lastThread = r.link.lastThread := by
  cases hstep : t.call.step? with
  | some kind =>
    rw [forgets_of_step? hstep, isAttached_eq_true_iff, Option.ne_none_iff_exists'] at h
    obtain ⟨h, hook⟩ := h
    rw [turn_of_step? hstep, step_of_attached (r := r.found t) hook, link_invoke]
    exact ⟨rfl, rfl⟩
  | none =>
    rw [forgets_of_not_step? hstep, drops, Bool.or_eq_true, decide_eq_true_iff] at h
    rcases h with hends | haim
    · obtain ⟨haim, hattached⟩ := quit_of_terminates hends
      rw [isAttached_eq_true_iff, Option.ne_none_iff_exists'] at hattached
      obtain ⟨h, hook⟩ := hattached
      have hfound : (r.found t).link.hook = some h := hook
      rw [turn, callLink_of_quit _ haim]
      simp only [terminate, hfound, link_invoke, true_and]
      rfl
    · rw [turn, callLink_of_drop _ haim]
      exact ⟨rfl, rfl⟩

/-- A turn that neither reports a stop nor forgets one leaves the memory as it was. -/
theorem recalls_of_not_forgets (hstop : t.call.stop? = none) (h : r.forgets t = false) :
    (r.found t).Recalls (r.turn t) := by
  cases hstep : t.call.step? with
  -- what would let the script go on, end it or drop the debugger found none
  | some kind =>
    have hook : (r.found t).link.hook = none := by
      rw [forgets_of_step? hstep] at h
      exact isAttached_eq_false_iff.1 h
    rw [turn_of_step? hstep, step_of_detached hook]
    exact .of_link rfl
  | none =>
    rw [forgets_of_not_step? hstep] at h
    by_cases hquit : t.call.aim = .quit
    · have hook : (r.found t).link.hook = none := by
        rw [drops, terminates_of_quit hquit, Bool.or_eq_false_iff] at h
        exact isAttached_eq_false_iff.1 h.1
      rw [turn, callLink_of_quit _ hquit, terminate_of_detached hook]
      exact .of_link rfl
    · by_cases hdrop : t.call.aim = .drop
      · simp [drops, hdrop] at h
      · exact recalls_turn hstop hstep hquit hdrop

/-! ## After a list of turns -/

theorem lastStop?_concat (ts : List Turn) (t : Turn) :
    lastStop? (ts ++ [t]) = t.call.stop?.or (lastStop? ts) := by
  rw [lastStop?, lastStop?, List.filterMap_append, List.getLast?_append]
  cases h : t.call.stop? with
  | none => simp [h]
  | some stop => simp [h]

/-- The thread that is remembered is the one of the stop reported last, of all stops. -/
theorem lastThread_turned (hr : r.link.lastThread = none) (ts : List Turn) :
    (r.turned ts).link.lastThread = (lastStop? ts).map (·.thread) := by
  -- turns are taken off at the end, where the stop reported last would be
  induction ts using List.reverseRecOn with
  | nil => exact hr
  | append_singleton ts t ih =>
    rw [turned_append, turned_cons, turned_nil, lastStop?_concat]
    cases hstop : t.call.stop? with
    | some stop =>
      rw [turn, eq_onSuspend_of_stop? hstop]
      rfl
    | none =>
      rw [Option.none_or, ← ih]
      cases hforgets : (r.turned ts).forgets t with
      | true => exact (link_of_forgets hforgets).2
      | false => exact (recalls_of_not_forgets hstop hforgets).lastThread

theorem not_standing_nil (r : Relay) (stop : Suspension) : ¬ r.Standing [] stop := by
  rintro ⟨before, x, since, h, -⟩
  simp at h

/-- One more turn reports the stop, or leaves one standing. -/
theorem standing_concat_iff :
    r.Standing (ts ++ [t]) stop ↔ t.call.stop? = some stop ∨
      t.call.stop? = none ∧ (r.turned ts).forgets t = false ∧ r.Standing ts stop := by
  constructor
  · rintro ⟨before, x, since, hsplit, hx, hsince⟩
    -- the turn that reported the stop is the last one, or stands before it
    rcases concat_eq_append_cons hsplit with ⟨rfl, rfl, rfl⟩ | ⟨between, rfl, rfl⟩
    · exact Or.inl hx
    · obtain ⟨hstop, hforgets⟩ := hsince between t [] rfl
      refine Or.inr ⟨hstop, hforgets, before, x, between, rfl, hx, ?_⟩
      rintro first y rest rfl
      exact hsince first y (rest ++ [t]) (by simp)
  · rintro (hx | ⟨hstop, hforgets, before, x, since, rfl, hx, hsince⟩)
    · exact ⟨ts, t, [], rfl, hx, by simp⟩
    · refine ⟨before, x, since ++ [t], by simp, hx, ?_⟩
      intro between y rest hsplit
      rcases concat_eq_append_cons hsplit with ⟨rfl, rfl, -⟩ | ⟨between', rfl, rfl⟩
      · exact ⟨hstop, hforgets⟩
      · exact hsince between y between' rfl

/-- The stop that is remembered is the one that stands. -/
theorem suspension_turned_iff (hr : r.link.suspension = none) :
    (r.turned ts).link.suspension = some stop ↔ r.Standing ts stop := by
  induction ts using List.reverseRecOn with
  | nil =>
    rw [turned_nil, hr]
    simpa using not_standing_nil r stop
  | append_singleton ts t ih =>
    rw [turned_append, turned_cons, turned_nil, standing_concat_iff]
    cases hstop : t.call.stop? with
    | some stop' =>
      rw [turn, eq_onSuspend_of_stop? hstop]
      simp [callLink, onSuspend, send, enqueue]
    | none =>
      cases hforgets : (r.turned ts).forgets t with
      | true => simp [(link_of_forgets hforgets).1]
      | false =>
        rw [(recalls_of_not_forgets hstop hforgets).suspension]
        simpa [found] using ih

/-! ## What the IDE is told -/

theorem queue_announcing (r : Relay) (kind : StepKind) :
    (r.announcing kind).queue = r.queue.offerAll [.resumed r.link.lastThread kind] := rfl

theorem queue_step_eq (r : Relay) (kind : StepKind) :
    (r.step kind).1.queue = r.queue.offerAll
      (if r.isAttached then [.resumed r.link.lastThread kind] else []) := by
  cases hook : r.link.hook with
  | none =>
    rw [step_of_detached hook, isAttached_eq_false_iff.2 hook]
    rfl
  | some h =>
    rw [step_of_attached hook, queue_invoke, queue_announcing,
      isAttached_eq_true_iff.2 (by simp [hook]), if_pos rfl]

theorem queue_resendSuspension_eq (r : Relay) :
    r.resendSuspension.queue =
      r.queue.offerAll (r.link.suspension.toList.map Suspension.report) := by
  rw [resendSuspension]
  cases r.link.suspension with
  | none => rfl
  | some stop => rfl

theorem queue_callLink (r : Relay) (c : LinkCall) :
    (r.callLink c).queue = r.queue.offerAll (r.offered c) := by
  cases c with
  | setup i =>
    obtain ⟨registry, link, native, log, heq⟩ := (r.effect_setup i).frame
    rw [callLink, heq]
    rfl
  | setBreakpoint b => exact r.queue_setBreakpoint b
  | clearFile f => exact r.queue_fire _
  | reconcile f => exact r.queue_reconcile f
  | installAll => exact r.queue_setBreakpoints _
  | step kind => exact r.queue_step_eq kind
  | terminate => exact r.queue_terminate
  | detach => rfl
  | onSuspend stop => rfl
  | onScriptLoad f => exact r.queue_reconcile f
  | request e =>
    cases e with
    | breakpointAdded b => exact r.queue_reconcile b.file
    | breakpointRemoved b => exact r.queue_reconcile b.file
    | breakpointChanged b => exact r.queue_reconcile b.file
    | stepRequest kind => exact r.queue_step_eq kind
    | framesRequest => exact r.queue_resendSuspension_eq
    | terminateRequest => exact r.queue_terminate
    | _ => rfl

/-- The script is announced to go on when it is let go on through a debugger, and at no other
time. -/
theorem resumed_mem_offered_iff {c : LinkCall} {thread : Option Thread} {kind : StepKind} :
    .resumed thread kind ∈ r.offered c ↔
      c.step? = some kind ∧ r.isAttached = true ∧ thread = r.link.lastThread := by
  have hstep : ∀ kind', .resumed thread kind ∈
      (if r.isAttached then [Event.resumed r.link.lastThread kind'] else []) ↔
      some kind' = some kind ∧ r.isAttached = true ∧ thread = r.link.lastThread := by
    intro kind'
    cases r.isAttached with
    | true => simp [eq_comm, and_comm]
    | false => simp
  cases c with
  | step kind' => exact hstep kind'
  | onSuspend stop => simp [offered, Suspension.report, LinkCall.step?]
  | request e =>
    cases e with
    | stepRequest kind' => exact hstep kind'
    | framesRequest => simp [offered, Suspension.report, LinkCall.step?]
    | _ => simp [offered, LinkCall.step?]
  | _ => simp [offered, LinkCall.step?]

/-- A stop that is remembered is reported once for each request. -/
theorem asked_of_suspension (ha : r.queue.accepts = true) (hstop : r.link.suspension = some stop)
    (k : Nat) : r.asked k = { r with queue := { r.queue with
      waiting := r.queue.waiting ++ List.replicate k stop.report } } := by
  induction k generalizing r with
  | zero => simp [asked]
  | succ k ih =>
    have hone : r.handleRequest .framesRequest = { r with queue := { r.queue with
        waiting := r.queue.waiting ++ [stop.report] } } := by
      simp only [handleRequest, resendSuspension, hstop]
      exact send_of_accepts ha _
    rw [asked, hone, ih (by exact ha) (by exact hstop), List.append_assoc, List.replicate_succ]
    rfl

theorem asked_of_none (hnone : r.link.suspension = none) (k : Nat) : r.asked k = r := by
  induction k with
  | zero => rfl
  | succ k ih =>
    have hone : r.handleRequest .framesRequest = r := by
      simp only [handleRequest, resendSuspension, hnone]
    rw [asked, hone, ih]

/-- Beginning with a link that remembers nothing, after every list of turns. As long as the queue is
open, each request for the stack queues one report of the stop that stands, and changes nothing
else; if none stands, it changes nothing at all. A turn announces that the script goes on exactly if
it lets it go on through a debugger, with the thread of the stop reported last of all; and the
announcement is in the queue before the debugger gets the command. -/
theorem retold_and_announced (hr : r.link = {}) (ts : List Turn) (t : Turn)
    (ha : t.queue.accepts = true) :
    (∀ stop, r.Standing ts stop → ∀ k, ((r.turned ts).found t).asked k =
      { (r.turned ts).found t with queue := { t.queue with
        waiting := t.queue.waiting ++ List.replicate k stop.report } }) ∧
    ((∀ stop, ¬ r.Standing ts stop) → ∀ k,
      ((r.turned ts).found t).asked k = (r.turned ts).found t) ∧
    (∃ arrived, ((r.turned ts).turn t).queue =
        { t.queue with waiting := t.queue.waiting ++ arrived } ∧
      ∀ thread kind, .resumed thread kind ∈ arrived ↔
        t.call.step? = some kind ∧ (r.turned ts).isAttached = true ∧
          thread = (lastStop? ts).map (·.thread)) ∧
    ∀ h kind, (r.turned ts).link.hook = some h → t.call.step? = some kind →
      ∃ told : Relay, told.native = ((r.turned ts).found t).native ∧
        told.queue = { t.queue with
          waiting := t.queue.waiting ++ [.resumed ((lastStop? ts).map (·.thread)) kind] } ∧
        (r.turned ts).turn t = (told.invoke h (.ofStep kind)).1 := by
  have hthread := lastThread_turned (r := r) (by rw [hr]) ts
  have hstands : ∀ stop, (r.turned ts).link.suspension = some stop ↔ r.Standing ts stop :=
    fun stop => suspension_turned_iff (by rw [hr])
  refine ⟨?standing, ?forgotten, ?announcements, ?before⟩
  case standing =>
    intro stop hstop k
    exact asked_of_suspension (r := (r.turned ts).found t) ha ((hstands stop).2 hstop) k
  case forgotten =>
    intro hnone k
    apply asked_of_none
    rw [Option.eq_none_iff_forall_ne_some]
    exact fun stop hstop => hnone stop ((hstands stop).1 hstop)
  case announcements =>
    refine ⟨((r.turned ts).found t).offered t.call, ?_, fun thread kind => ?_⟩
    · rw [turn, queue_callLink]
      exact Queue.offerAll_of_accepts ha _
    · rw [resumed_mem_offered_iff, ← hthread]
      rfl
  case before =>
    intro h kind hook hstep
    refine ⟨((r.turned ts).found t).announcing kind, rfl, ?_, ?_⟩
    · rw [queue_announcing, ← hthread]
      exact Queue.offerAll_of_accepts ha _
    · rw [turn_of_step? hstep, step_of_attached (r := (r.turned ts).found t) hook]

/-! ## A script that stops once -/

/-- A stop at line 7 of `/a.py`. -/
def sampleHalt : Suspension := ⟨⟨some "main"⟩, [.ofFile .zero sampleFile 7 ∅], .breakpoint⟩

/-- A tracer is installed, and the script stops. -/
def sampleHalts : List Turn := [.of (.setup .direct), .of (.onSuspend sampleHalt)]

/-- The IDE asks for the stack twice, and is then told that the thread of the stop goes on. -/
theorem retold_sampleHalts :
    (Turn.of (.step .stepOver)).queue.accepts = true ∧
    (started sampleParts).Standing sampleHalts sampleHalt ∧
    ((((started sampleParts).turned sampleHalts).found
      (.of (.step .stepOver))).asked 2).queue.waiting = [sampleHalt.report, sampleHalt.report] ∧
    .resumed (some ⟨some "main"⟩) .stepOver ∈
      (((started sampleParts).turned sampleHalts).turn (.of (.step .stepOver))).queue.waiting := by
  have hstanding : (started sampleParts).Standing sampleHalts sampleHalt :=
    ⟨[.of (.setup .direct)], .of (.onSuspend sampleHalt), [], rfl, rfl, by simp⟩
  obtain ⟨hretold, -, ⟨arrived, harrived, hresumed⟩, -⟩ :=
    retold_and_announced (r := started sampleParts) rfl sampleHalts (.of (.step .stepOver)) rfl
  refine ⟨rfl, hstanding, ?_, ?_⟩
  · rw [hretold sampleHalt hstanding 2]
    rfl
  · rw [harrived]
    exact List.mem_append_right _ ((hresumed _ _).2 ⟨rfl, rfl, rfl⟩)

end Relay

end DebugRelay
