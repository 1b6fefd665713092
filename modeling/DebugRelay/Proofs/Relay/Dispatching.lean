import DebugRelay.Proofs.Relay.Effects

/-!
# Moves and dispatches

Every move but a dispatch is steady (`steady_move`). A dispatch is orderly (`orderly_dispatch`), and
`dispatch_cases` says what it does to the queue and the loop. A relay whose engine is done settles
by dispatches alone (`settleWithin_induction`).
-/

namespace DebugRelay.Relay

variable {r : Relay}

/-! ## Moves -/

/-- Filling the registry changes the registry and the log. -/
theorem load_eq (r : Relay) :
    ∃ registry log, r.loadBreakpoints.1 = { r with registry := registry, log := log } := by
  unfold loadBreakpoints
  induction r.store.filter fun stored => r.supports stored.model generalizing r with
  | nil => exact ⟨r.registry, r.log, rfl⟩
  | cons stored rest ih =>
    unfold putAll
    split
    · exact ih _
    · exact ih (r.warn _)

/-- An edit changes the registry and the log, and offers events about breakpoints. -/
theorem edit_eq (r : Relay) (d : Edit) :
    ∃ registry log offered, r.edit d =
      { r with registry := registry, log := log, queue := r.queue.offerAll offered } ∧
      ∀ e ∈ offered, e.file?.isSome := by
  cases d with
  | added stored => exact r.callback_eq .added stored
  | removed stored => exact r.callback_eq .removed stored
  | changed stored => exact r.callback_eq .changed stored
  | unloaded f =>
    cases hlast : (r.registry.unload f).2.getLast? with
    | none =>
      refine ⟨(r.registry.unload f).1, r.log, [], ?_, by simp⟩
      simp only [edit, sourceUnloaded, unload, hlast]
      rfl
    | some last =>
      refine ⟨(r.registry.unload f).1, r.log, [.breakpointRemoved last], ?_, by simp [Event.file?]⟩
      simp only [edit, sourceUnloaded, unload, hlast]
      rfl

theorem steady_edit (r : Relay) (d : Edit) : ∃ offered, r.Steady (r.edit d) offered := by
  obtain ⟨registry, log, offered, heq, hfiles⟩ := r.edit_eq d
  have hunending : Event.engineTerminated ∉ offered := by
    intro hend
    simpa [Event.file?] using hfiles _ hend
  have hgrows : r.Grows (r.edit d) := (orderly_of_native_eq (by rw [heq]) (by rw [heq])).toGrows
  have heffect : r.Effect (r.edit d) offered :=
    ⟨hgrows, ⟨registry, r.link, r.native, log, heq⟩, hunending⟩
  exact ⟨offered, heffect.steady_of_native_eq (by rw [heq]) (by rw [heq])⟩

theorem steady_enterFrame (r : Relay) (f : SourceFile) : r.Steady (r.enterFrame f) [] := by
  obtain ⟨current, load, htracer, -⟩ := tracer_enter_eq r.native.tracer f
  have hentered : r.Steady { r with
      native := { r.native with tracer := (r.native.tracer.enter f).1 } } [] :=
    steady_of_eq rfl (fun hq => by rw [htracer]; exact hq) fun hd => hd.enter f
  unfold enterFrame
  simp only
  split
  · exact hentered.trans (steady_reconcile _ _)
  · exact hentered

theorem steady_traceLine (r : Relay) (thread : Thread) (stack : List Frame) :
    ∃ offered, r.Steady (r.traceLine thread stack).1 offered := by
  have htraced : r.Steady { r with
      native := { r.native with tracer := (r.native.tracer.line stack).1 } } [] :=
    steady_of_eq rfl (fun hq => (r.native.tracer.quitting_line stack).trans hq)
      fun hd => hd.line stack
  unfold traceLine
  simp only
  split
  · exact ⟨[], htraced⟩
  · split
    · obtain ⟨offered, hstop⟩ := steady_onSuspend _ ⟨thread, stack, _⟩
      exact ⟨_, htraced.trans hstop⟩
    · exact ⟨[], htraced⟩

theorem steady_wake (r : Relay) : r.Steady ((r.wake?.map (·.1)).getD r) [] := by
  rcases r.wake?_cases with ⟨heq, -⟩ | ⟨-, heq⟩ | ⟨mode, -, hrelease, heq⟩
  · rw [heq]
    exact .refl r
  · rw [heq]
    exact steady_of_eq rfl id fun hd =>
      ⟨hd.start, hd.load, hd.table, hd.mode, hd.pending, rfl, hd.release⟩
  -- a dormant tracer has nothing to release
  · rw [heq]
    refine steady_of_eq rfl id fun hd => ?_
    rw [hd.release] at hrelease
    simp at hrelease

/-- All moves but a dispatch are steady. -/
theorem steady_move (r : Relay) {m : Move} (hm : m ≠ .dispatch) :
    ∃ offered, r.Steady (r.move m) offered := by
  cases m with
  | load =>
    obtain ⟨registry, log, heq⟩ := r.load_eq
    exact ⟨[], by rw [move, heq]; exact steady_of_eq rfl id id⟩
  | edit d => exact r.steady_edit d
  | requestStep kind =>
    rw [move, requestStep]
    split
    · exact ⟨_, r.steady_send (by simp)⟩
    · exact ⟨[], .refl r⟩
  | requestFrames => exact ⟨_, r.steady_send (by simp)⟩
  | enter f => exact ⟨[], r.steady_enterFrame f⟩
  | leave =>
    exact ⟨[], steady_of_eq rfl id fun hd =>
      ⟨hd.start, hd.load, hd.table, hd.mode, hd.pending, hd.suspended, hd.release⟩⟩
  | line thread stack => exact r.steady_traceLine thread stack
  | wake => exact ⟨[], r.steady_wake⟩
  | dispatch => exact absurd rfl hm

/-! ## Dispatching -/

theorem orderly_consume (r : Relay) (e : Event) : r.Orderly (r.consume e) := by
  unfold consume
  split
  · obtain ⟨offered, hsteady⟩ := r.steady_handleRequest e
    exact hsteady.toOrderly
  · obtain ⟨log, heq⟩ := r.handleNotification_spec e
    rw [heq]
    exact orderly_of_native_eq rfl rfl

/-- What consuming an event leaves alone. -/
theorem consume_eq (r : Relay) (e : Event) :
    ∃ registry link native queue target log delivered, r.consume e = { r with
      registry := registry
      link := link
      native := native
      queue := queue
      target := target
      log := log
      delivered := delivered } := by
  unfold consume
  split
  · obtain ⟨offered, hsteady⟩ := r.steady_handleRequest e
    obtain ⟨registry, link, native, log, heq⟩ := hsteady.frame
    exact ⟨registry, link, native, _, r.target, log, r.delivered, heq⟩
  · obtain ⟨log, heq⟩ := r.handleNotification_spec e
    exact ⟨r.registry, r.link, r.native, r.queue, _, log, _, heq⟩

/-- A dispatch has nothing to do, or ends the loop once the queue is closed and empty, or consumes
and counts the oldest event. -/
theorem dispatch_cases (hc : r.consumers = [.link, .target]) :
    (r.move .dispatch = r ∧ ((∀ stats, r.loop ≠ .running stats) ∨
      r.queue.waiting = [] ∧ r.queue.closed = false)) ∨
    (∃ stats, r.loop = .running stats ∧ r.queue.waiting = [] ∧ r.queue.closed = true ∧
      r.move .dispatch =
        { r with loop := .ended { stats with droppedAfterClose := r.queue.dropped } }) ∨
    ∃ e rest stats stats' log, r.loop = .running stats ∧ r.queue.waiting = e :: rest ∧
      stats'.delivered = stats.delivered + 1 ∧ r.move .dispatch = { (r.taken rest).consume e with
        loop := .running stats', actor := .caller, log := log } := by
  by_cases hl : ∃ stats, r.loop = .running stats
  · obtain ⟨stats, hl⟩ := hl
    cases hw : r.queue.waiting with
    | nil =>
      cases hclosed : r.queue.closed with
      | false => exact Or.inl ⟨by rw [move, dispatch?_of_nil hw hclosed]; rfl, Or.inr ⟨rfl, rfl⟩⟩
      | true =>
        refine Or.inr (Or.inl ⟨stats, hl, rfl, rfl, ?_⟩)
        simp [move, dispatch?, hl, Dispatch.next, host, Queue.pop?, hw, hclosed]
    | cons e rest =>
      obtain ⟨stats', log, hcount, hd⟩ := dispatch?_of_cons hc hl hw
      exact Or.inr (Or.inr ⟨e, rest, stats, stats', log, hl, rfl, hcount, by rw [move, hd]; rfl⟩)
  · refine Or.inl ⟨?_, Or.inl fun stats h => hl ⟨stats, h⟩⟩
    rw [move, dispatch?]
    split
    · next stats h => exact absurd ⟨stats, h⟩ hl
    · rfl

/-- The consumers are a link and a target, and the engine is done or drives its moves itself. -/
structure Plain (r : Relay) : Prop where
  consumers : r.consumers = [.link, .target]
  engine : r.engine = none

theorem Plain.dispatch (h : r.Plain) : (r.move .dispatch).Plain := by
  rcases dispatch_cases h.consumers with
    ⟨heq, -⟩ | ⟨stats, -, -, -, heq⟩ | ⟨e, rest, stats, stats', log, -, -, -, heq⟩
  · rw [heq]
    exact h
  · rw [heq]
    exact ⟨h.consumers, h.engine⟩
  · obtain ⟨registry, link, native, queue, target, _, delivered, hconsume⟩ :=
      (r.taken rest).consume_eq e
    rw [heq, hconsume]
    exact ⟨h.consumers, h.engine⟩

theorem orderly_dispatch (hc : r.consumers = [.link, .target]) : r.Orderly (r.move .dispatch) := by
  rcases dispatch_cases hc with
    ⟨heq, -⟩ | ⟨stats, -, -, -, heq⟩ | ⟨e, rest, stats, stats', log, -, -, -, heq⟩
  · rw [heq]
    exact orderly_of_native_eq rfl rfl
  · rw [heq]
    exact orderly_of_native_eq rfl rfl
  · rw [heq]
    have htaken : r.Orderly (r.taken rest) := orderly_of_native_eq rfl rfl
    exact (htaken.trans (orderly_consume _ e)).trans (orderly_of_native_eq rfl rfl)

/-! ## Settling -/

/-- A relay settles by dispatches alone, so it keeps what they keep. -/
theorem settleWithin_induction {P : Relay → Prop} (hP : ∀ s, P s → s.Plain ∧ P (s.move .dispatch))
    (fuel : Nat) (h : P r) : P (settleWithin fuel r) := by
  induction fuel generalizing r with
  | zero => exact h
  | succ fuel ih =>
    obtain ⟨hplain, hnext⟩ := hP r h
    unfold settleWithin advance?
    cases hd : r.dispatch? with
    | none => simpa [runEngine?, hplain.engine] using h
    | some s =>
      have hs : r.move .dispatch = s := by rw [move, hd]; rfl
      exact ih (hs ▸ hnext)

theorem orderly_settle (h : r.Plain) : r.settle.Plain ∧ r.Orderly r.settle := by
  refine settleWithin_induction (P := fun s => s.Plain ∧ r.Orderly s) ?_ _
    ⟨h, orderly_of_native_eq rfl rfl⟩
  intro s hs
  exact ⟨hs.1, hs.1.dispatch, hs.2.trans (orderly_dispatch hs.1.consumers)⟩

end DebugRelay.Relay
