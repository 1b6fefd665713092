import DebugRelay.Proofs.Relay.Consumers
import DebugRelay.Proofs.Relay.Dispatching

/-!
# Delivery in a relay

A relay whose loop runs is a dispatch loop among producers. Each of its moves is an interleaving of
the loop's steps with what others do, and so is each event that somebody else offers to its queue
and each close of the queue (`Stands.undergoes`). So the law of delivery holds of every sequence of
them, whatever consumers the relay has and whatever debugger is installed
(`delivery_of_activities`).
-/

namespace DebugRelay.Relay

open Dispatch

/-- What goes on at a relay: a move, or somebody offers an event to its queue or closes it. -/
inductive Activity where
  | move (m : Move)
  | queue (a : Queue.Action)

/-- The relay afterwards. -/
def undergo (r : Relay) : Activity → Relay
  | .move m => r.move m
  | .queue a => { r with queue := r.queue.act a }

/-- The relay is the state of the world, and its loop is between two events or over. -/
structure Stands (r : Relay) (w : World Relay) : Prop where
  state : w.state = r
  loop : w.phase = .between ∧ r.loop = .running w.stats ∨
    w.phase = .finished ∧ r.loop = .ended w.stats

variable {r s : Relay} {w : World Relay}

/-! ## What others do -/

theorem state_offers (w : World Relay) (offered : List Event) :
    ((offered.map Queue.Action.offer).foldl (World.act host) w).state =
      { w.state with queue := w.state.queue.offerAll offered } := by
  induction offered generalizing w with
  | nil => rfl
  | cons e rest ih =>
    rw [List.map_cons, List.foldl_cons, ih]
    rfl

/-- Events that are offered while something else changes are no steps of the loop. -/
theorem Stands.offerAll (h : r.Stands w) (processors : List (Processor Relay))
    {offered : List Event}
    (hq : s.queue = r.queue.offerAll offered) (hl : s.loop = r.loop) :
    ∃ v, Runs host processors w 0 v ∧ s.Stands v := by
  let acted := (offered.map Queue.Action.offer).foldl (World.act host) w
  obtain ⟨hphase, hstats⟩ := acts_eq host w (offered.map Queue.Action.offer)
  have hqueue : s.queue = acted.queue host := by
    change _ = acted.state.queue
    rw [state_offers, h.state]
    exact hq
  have hrun : Runs host processors w 0 acted := runs_acts host processors w _
  refine ⟨{ acted with state := s }, hrun.outside (.other _ s hqueue), rfl, ?_⟩
  rw [hl]
  simp only [acted, hphase, hstats]
  exact h.loop

/-! ## What the loop does -/

theorem consumers_handle (c : Consumer) (e : Event) (r : Relay) :
    ((Consumer.processor c).handle e r).1.consumers = r.consumers := by
  cases c with
  | link =>
    obtain ⟨offered, hsteady⟩ := r.steady_handleRequest e
    obtain ⟨registry, link, native, log, heq⟩ := hsteady.frame
    change (r.handleRequest e).consumers = _
    rw [heq]
  | target =>
    obtain ⟨log, heq⟩ := r.handleNotification_spec e
    change (r.handleNotification e).1.consumers = _
    rw [heq]
  | ideRecorder => rfl
  | interpreterRecorder => rfl

theorem consumers_deliver (e : Event) (cs : List Consumer) (r : Relay) (failures : UInt64) :
    (deliver host e (cs.map Consumer.processor) r failures).1.consumers = r.consumers := by
  induction cs generalizing r failures with
  | nil => rfl
  | cons c rest ih =>
    simp only [List.map_cons, deliver, route?_processor]
    split
    · rw [ih, ← consumers_handle c e r, callOne]
      cases (Consumer.processor c).handle e r with
      | mk s reply => cases reply <;> rfl
    · exact ih _ _

theorem consumers_next {stats stats' : Statistics}
    (h : next host r.processors r stats = .dispatched s stats') : s.consumers = r.consumers := by
  unfold next at h
  split at h
  · next e rest hpop =>
    have hdeliver := consumers_deliver e r.consumers (host.setQueue r rest) stats.processorFailures
    unfold processors at h
    split at h
    · next hd =>
      rw [hd] at hdeliver
      cases h
      exact hdeliver
    · cases h
  · split at h <;> cases h

/-- A dispatch is a step of the loop on behalf of the dispatcher. -/
theorem move_dispatch_of_running {stats : Statistics} (hl : r.loop = .running stats) :
    r.move .dispatch =
      match next host r.processors { r with actor := .dispatcher } stats with
      | .idle => r
      | .dispatched s stats => { s with loop := .running stats, actor := .caller }
      | .ended stats => { r with loop := .ended stats }
      | .crashed s => { s with loop := .crashed, actor := .caller } := by
  rw [move, dispatch?]
  split
  · next stats' h =>
    cases hl.symm.trans h
    cases next host r.processors { r with actor := .dispatcher } stats <;> rfl
  · next h => exact absurd hl (h stats)

/-- A dispatch of a running loop is a run of the loop, or there is nothing to dispatch. -/
theorem Stands.dispatch_of_running (h : r.Stands w) (hphase : w.phase = .between)
    (hl : r.loop = .running w.stats) :
    ∃ k v, Runs host r.processors w k v ∧ (r.move .dispatch).Stands v ∧
      (r.move .dispatch).consumers = r.consumers := by
  have hmove := move_dispatch_of_running hl
  -- the dispatcher acts, from here to the end of the step
  let acting : World Relay := { w with state := { r with actor := .dispatcher } }
  have hacting : Runs host r.processors w 0 acting :=
    .outside .refl (.other w _ (congrArg Relay.queue h.state.symm))
  have hfollows : Follows host r.processors acting
      (next host r.processors { r with actor := .dispatcher } w.stats) :=
    next_runs lawful_host (serves_processors r) hphase
  cases hnext : next host r.processors { r with actor := .dispatcher } w.stats with
  | idle =>
    rw [hnext] at hmove
    rw [hmove]
    exact ⟨0, w, .refl, h, rfl⟩
  | dispatched s stats =>
    rw [hnext] at hmove hfollows
    obtain ⟨e, rest, k, v, told, -, hr, hv, rfl, rfl, -⟩ := hfollows
    have hconsumers : v.state.consumers = r.consumers := consumers_next (r := acting.state) hnext
    rw [hmove]
    exact ⟨_, _, (hacting.trans hr).outside
      (.other v { v.state with loop := .running v.stats, actor := .caller } rfl),
      ⟨rfl, Or.inl ⟨hv, rfl⟩⟩, hconsumers⟩
  | ended stats =>
    rw [hnext] at hmove hfollows
    obtain ⟨v, hs, hv, hstate, rfl⟩ := hfollows
    have hqueue : r.queue = v.queue host := by rw [World.queue, hstate]; rfl
    rw [hmove]
    exact ⟨_, _, (hacting.loop hs).outside (.other v { r with loop := .ended v.stats } hqueue),
      ⟨rfl, Or.inr ⟨hv, rfl⟩⟩, rfl⟩
  | crashed s =>
    rw [hnext] at hfollows
    exact hfollows.elim

theorem Stands.dispatch (h : r.Stands w) :
    ∃ k v, Runs host r.processors w k v ∧ (r.move .dispatch).Stands v ∧
      (r.move .dispatch).consumers = r.consumers := by
  rcases h.loop with ⟨hphase, hl⟩ | ⟨hphase, hl⟩
  · exact h.dispatch_of_running hphase hl
  -- a loop that is over has nothing to do
  · have hmove : r.move .dispatch = r := by
      rw [move, dispatch?, hl]
      rfl
    rw [hmove]
    exact ⟨0, w, .refl, h, rfl⟩

/-! ## Every sequence of activities -/

theorem Stands.undergo (h : r.Stands w) (a : Activity) :
    ∃ k v, Runs host r.processors w k v ∧ (r.undergo a).Stands v ∧
      (r.undergo a).consumers = r.consumers := by
  cases a with
  | queue a =>
    refine ⟨0, w.act host a, .outside .refl (.act w a), ⟨?_, h.loop⟩, rfl⟩
    simp only [World.act, World.noting, World.queue, h.state]
    rfl
  | move m =>
    by_cases hm : m = .dispatch
    · subst hm
      exact h.dispatch
    · obtain ⟨offered, hsteady⟩ := r.steady_move hm
      obtain ⟨registry, link, native, log, heq⟩ := hsteady.frame
      have hqueue : (r.move m).queue = r.queue.offerAll offered := by rw [heq]
      have hloop : (r.move m).loop = r.loop := by rw [heq]
      obtain ⟨v, hr, hv⟩ := h.offerAll r.processors hqueue hloop
      exact ⟨0, v, hr, hv, by rw [Relay.undergo, heq]⟩

/-- Whatever goes on at a relay is an interleaving of its loop with producers. -/
theorem Stands.undergoes (h : r.Stands w) (activities : List Activity) :
    ∃ k v, Runs host r.processors w k v ∧ (activities.foldl Relay.undergo r).Stands v := by
  induction activities generalizing r w with
  | nil => exact ⟨0, w, .refl, h⟩
  | cons a rest ih =>
    obtain ⟨j, v, hfirst, hv, hconsumers⟩ := h.undergo a
    obtain ⟨k, u, hrest, hu⟩ := ih hv
    have hsame : (r.undergo a).processors = r.processors := congrArg (List.map _) hconsumers
    exact ⟨j + k, u, hfirst.trans (hsame ▸ hrest), hu⟩

/-- The law of delivery holds of everything that goes on at a relay from the start of its loop. -/
theorem delivery_of_activities (hq : r.queue = {}) (hl : r.loop = .running {})
    (activities : List Activity) :
    ∃ k w, Runs host r.processors { state := r } k w ∧
      (activities.foldl Relay.undergo r).Stands w ∧ Delivery host r.processors w := by
  have hstart : r.Stands { state := r } := ⟨rfl, Or.inl ⟨rfl, hl⟩⟩
  obtain ⟨k, w, hr, hw⟩ := hstart.undergoes activities
  have hcounted := (counted_init hq).runs lawful_host hr
  exact ⟨k, w, hr, hw, .of_counted lawful_host (serves_processors r) hcounted⟩

end DebugRelay.Relay
