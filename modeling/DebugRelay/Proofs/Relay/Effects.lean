import DebugRelay.Proofs.Queue
import DebugRelay.Proofs.Relay.Suspension

/-!
# Effects of the operations

What the operations of a relay do, whatever debugger is installed and whether or not the queue is
open. `Relay.Effect` is what each of them may do: it changes the registry, the link, the
interpreter's side and the log, and offers events to the queue. `Relay.Orderly` is what nothing but
installing and detaching a debugger breaks: a debugger goes only with a request to quit, and while
there is none, nothing is sent and a dormant tracer stays dormant. Both compose, so that an
operation has them from its parts.
-/

namespace DebugRelay

namespace Tracer

theorem quitting_invoke {t : Tracer} (h : t.quitting = true) (c : Command) :
    (t.invoke c).1.quitting = true := by
  have hrelease : ∀ mode, (t.releaseIn mode).quitting = true := by
    intro mode
    obtain ⟨release, heq⟩ := t.releaseIn_eq mode
    rw [heq]
    exact h
  cases c with
  | suspendOnStartup enabled => exact h
  | suspendOnScriptLoad enabled => exact h
  | setBreak b =>
    rw [invoke_setBreak]
    obtain ⟨table, heq⟩ := Relay.plantAll_eq t [b]
    rw [heq]
    exact h
  | clearFile f => exact h
  | stepInto => exact hrelease _
  | stepOver => exact hrelease _
  | stepOut => exact hrelease _
  | continue_ => exact hrelease _
  | quit => rfl

/-- Nothing makes the tracer stop, and no thread is parked. -/
structure Dormant (t : Tracer) : Prop where
  start : t.stopsAtStart = false
  load : t.stopsAtLoad = false
  table : t.table = ∅
  mode : t.mode = .free
  pending : t.loadPending = false
  suspended : t.suspended = false
  release : t.release = none

theorem dormant_new : Dormant {} := ⟨rfl, rfl, rfl, rfl, rfl, rfl, rfl⟩

theorem Dormant.enter {t : Tracer} (h : t.Dormant) (f : SourceFile) : (t.enter f).1.Dormant := by
  unfold Tracer.enter
  simp only
  split
  · exact ⟨h.start, h.load, h.table, h.mode, h.pending, h.suspended, h.release⟩
  · exact ⟨h.start, h.load, h.table, h.mode, h.load, h.suspended, h.release⟩

/-- A dormant tracer finds no reason to stop. -/
theorem Dormant.reason {t : Tracer} (h : t.Dormant) (f : SourceFile) (n : UInt32) :
    ∃ first, t.reason f n = ({ t with atFirstLine := first, loadPending := false }, none) := by
  have hnone : ∀ t' : Tracer, t'.table = ∅ → t'.mode = .free → t'.reasonHere f n = (t', none) := by
    intro t' htable hmode
    simp [reasonHere, hit, htable, stepEnds, hmode]
  unfold Tracer.reason
  split
  · refine ⟨false, ?_⟩
    simp only [h.start, Bool.false_eq_true, if_false]
    exact hnone _ h.table h.mode
  · refine ⟨t.atFirstLine, ?_⟩
    simp only [h.pending, Bool.false_eq_true, if_false, hnone t h.table h.mode]
    rw [← h.pending]

theorem Dormant.line {t : Tracer} (h : t.Dormant) (stack : List Frame) :
    (t.line stack).1.Dormant := by
  rcases t.line_cases stack with ⟨hl, -⟩ | ⟨hl, -⟩ | ⟨f, n, -, -, ⟨hl, -⟩ | ⟨reason, hr, -⟩⟩
  · rw [hl]
    exact h
  · rw [hl]
    exact h
  · obtain ⟨first, hr⟩ := h.reason f n
    rw [hl, hr]
    exact ⟨h.start, h.load, h.table, h.mode, rfl, h.suspended, h.release⟩
  · obtain ⟨first, hnone⟩ := h.reason f n
    rw [hnone] at hr
    simp at hr

theorem quitting_line (t : Tracer) (stack : List Frame) :
    (t.line stack).1.quitting = t.quitting := by
  cases h : (t.line stack).2 with
  | passed outcome => exact (stopsLike_of_passed h).quitting
  | stopped reason => exact (line_of_stopped h).2.1

end Tracer

namespace Native

theorem calls_invoke (n : Native) (h : Hook) (c : Command) :
    (n.invoke h c).1.calls = n.calls ++ [.command c] := by
  unfold invoke
  cases h.refuses n.calls c with
  | some e => rfl
  | none => cases h.traced <;> rfl

theorem quitting_invoke {n : Native} (hq : n.tracer.quitting = true) (h : Hook) (c : Command) :
    (n.invoke h c).1.tracer.quitting = true := by
  unfold invoke
  cases h.refuses n.calls c with
  | some e => exact hq
  | none =>
    cases h.traced with
    | true => exact Tracer.quitting_invoke hq c
    | false => exact hq

end Native

namespace Relay

/-- No call is taken back, and no request to quit. -/
structure Grows (r r' : Relay) : Prop where
  calls : r.native.calls <+: r'.native.calls
  quits : r.native.tracer.quitting = true → r'.native.tracer.quitting = true

/-- What an operation may do to a relay, with the events that it offers to the queue. -/
structure Effect (r r' : Relay) (offered : List Event) : Prop extends Grows r r' where
  frame : ∃ registry link native log, r' = { r with
    registry := registry
    link := link
    native := native
    log := log
    queue := r.queue.offerAll offered }
  unending : Event.engineTerminated ∉ offered

/-- No debugger is installed, and the tracer loses its link only with a request to quit. Without a
debugger nothing is sent, and a dormant tracer stays dormant. -/
structure Orderly (r r' : Relay) : Prop extends Grows r r' where
  hook : r'.link.hook = r.link.hook ∨ r'.link.hook = none ∧
    (r.link.hook = some .direct → r'.native.tracer.quitting = true)
  silent : r.link.hook = none → r'.native.calls = r.native.calls
  dormant : r.link.hook = none → r.native.tracer.Dormant → r'.native.tracer.Dormant

/-- An effect that is orderly. -/
structure Steady (r r' : Relay) (offered : List Event) : Prop extends
  Effect r r' offered, Orderly r r'

variable {r s t : Relay} {events more : List Event}

theorem Grows.trans (h : r.Grows s) (h' : s.Grows t) : r.Grows t where
  calls := h.calls.trans h'.calls
  quits hq := h'.quits (h.quits hq)

theorem Effect.trans (h : r.Effect s events) (h' : s.Effect t more) :
    r.Effect t (events ++ more) where
  toGrows := h.toGrows.trans h'.toGrows
  frame := by
    obtain ⟨registry, link, native, log, rfl⟩ := h.frame
    obtain ⟨registry', link', native', log', rfl⟩ := h'.frame
    exact ⟨registry', link', native', log', by rw [Queue.offerAll_append]⟩
  unending := fun hmem => (List.mem_append.1 hmem).elim h.unending h'.unending

theorem Orderly.hook_none (h : r.Orderly s) (hd : r.link.hook = none) : s.link.hook = none := by
  rcases h.hook with hs | ⟨hs, -⟩
  · exact hs.trans hd
  · exact hs

theorem Orderly.trans (h : r.Orderly s) (h' : s.Orderly t) : r.Orderly t where
  toGrows := h.toGrows.trans h'.toGrows
  hook := by
    rcases h'.hook with ht | ⟨ht, hquit⟩
    · rcases h.hook with hs | ⟨hs, hquit⟩
      · exact Or.inl (ht.trans hs)
      · exact Or.inr ⟨ht.trans hs, fun ha => h'.quits (hquit ha)⟩
    · refine Or.inr ⟨ht, fun ha => ?_⟩
      rcases h.hook with hs | ⟨-, hs⟩
      · exact hquit (hs.trans ha)
      · exact h'.quits (hs ha)
  silent hd := (h'.silent (h.hook_none hd)).trans (h.silent hd)
  dormant hd ht := h'.dormant (h.hook_none hd) (h.dormant hd ht)

theorem Steady.trans (h : r.Steady s events) (h' : s.Steady t more) :
    r.Steady t (events ++ more) where
  toEffect := h.toEffect.trans h'.toEffect
  hook := (h.toOrderly.trans h'.toOrderly).hook
  silent := (h.toOrderly.trans h'.toOrderly).silent
  dormant := (h.toOrderly.trans h'.toOrderly).dormant

theorem effect_of_eq {registry : Registry} {link : Link} {native : Native} {log : List LogEntry}
    (hc : r.native.calls <+: native.calls)
    (hq : r.native.tracer.quitting = true → native.tracer.quitting = true) :
    r.Effect { r with registry := registry, link := link, native := native, log := log } [] where
  calls := hc
  quits := hq
  frame := ⟨registry, link, native, log, rfl⟩
  unending := List.not_mem_nil

theorem orderly_of_native_eq (hh : s.link.hook = r.link.hook) (hn : s.native = r.native) :
    r.Orderly s where
  calls := (congrArg Native.calls hn).symm ▸ List.prefix_rfl
  quits hq := by rwa [hn]
  hook := Or.inl hh
  silent _ := by rw [hn]
  dormant _ ht := by rwa [hn]

/-- Changes of the registry, of what the link remembers, and of the tracer's own state. -/
theorem steady_of_eq {registry : Registry} {link : Link} {tracer : Tracer} {log : List LogEntry}
    (hh : link.hook = r.link.hook)
    (hq : r.native.tracer.quitting = true → tracer.quitting = true)
    (hd : r.native.tracer.Dormant → tracer.Dormant) :
    r.Steady { r with
      registry := registry, link := link, native := ⟨tracer, r.native.calls⟩, log := log } [] where
  toEffect := effect_of_eq List.prefix_rfl hq
  hook := Or.inl hh
  silent _ := rfl
  dormant _ := hd

theorem Steady.refl (r : Relay) : r.Steady r [] := steady_of_eq rfl id id

/-- What is done through an installed debugger is orderly, if the debugger stays. -/
theorem Effect.steady (h : r.Effect s events) (hhook : s.link.hook = r.link.hook)
    (hattached : r.link.hook ≠ none) : r.Steady s events where
  toEffect := h
  hook := Or.inl hhook
  silent hd := absurd hd hattached
  dormant hd := absurd hd hattached

/-- An orderly operation with an effect that leaves the interpreter's side alone. -/
theorem Effect.steady_of_native_eq (h : r.Effect s events) (hh : s.link.hook = r.link.hook)
    (hn : s.native = r.native) : r.Steady s events where
  toEffect := h
  hook := Or.inl hh
  silent _ := by rw [hn]
  dormant _ ht := by rwa [hn]

theorem steady_send (r : Relay) {e : Event} (he : e ≠ .engineTerminated) :
    r.Steady (r.send e) [e] := by
  have heffect : r.Effect (r.send e) [e] :=
    ⟨⟨List.prefix_rfl, id⟩, ⟨r.registry, r.link, r.native, r.log, rfl⟩, by simp [he.symm]⟩
  exact heffect.steady_of_native_eq rfl rfl

theorem isAttached_eq_false_iff : r.isAttached = false ↔ r.link.hook = none := by
  simp [isAttached]

/-! ## Commands -/

theorem invoke_eq (r : Relay) (h : Hook) (c : Command) :
    ∃ log, (r.invoke h c).1 = { r with native := (r.native.invoke h c).1, log := log } := by
  unfold invoke
  cases hi : r.native.invoke h c with
  | mk native result => cases result <;> exact ⟨_, rfl⟩

theorem effect_invoke (r : Relay) (h : Hook) (c : Command) : r.Effect (r.invoke h c).1 [] := by
  obtain ⟨log, heq⟩ := r.invoke_eq h c
  rw [heq]
  refine effect_of_eq ?_ fun hq => Native.quitting_invoke hq h c
  rw [Native.calls_invoke]
  exact List.prefix_append _ _

theorem link_invoke (r : Relay) (h : Hook) (c : Command) : (r.invoke h c).1.link = r.link := by
  obtain ⟨log, heq⟩ := r.invoke_eq h c
  rw [heq]

theorem link_fire (r : Relay) (c : Command) : (r.fire c).1.link = r.link := by
  unfold fire
  split
  · exact r.link_invoke _ c
  · rfl

theorem link_setBreakpoint (r : Relay) (b : Breakpoint) : (r.setBreakpoint b).1.link = r.link := by
  unfold setBreakpoint
  split
  · exact r.link_fire _
  · rfl

theorem link_setBreakpoints (r : Relay) (bs : List Breakpoint) :
    (r.setBreakpoints bs).1.link = r.link := by
  induction bs generalizing r with
  | nil => rfl
  | cons b rest ih => exact (ih _).trans (r.link_setBreakpoint b)

theorem steady_fire (r : Relay) (c : Command) : r.Steady (r.fire c).1 [] := by
  cases hook : r.link.hook with
  | none =>
    simp only [fire, hook]
    exact .refl r
  | some h =>
    simp only [fire, hook]
    exact (r.effect_invoke h c).steady (by rw [link_invoke]) (by simp [hook])

theorem steady_setBreakpoint (r : Relay) (b : Breakpoint) : r.Steady (r.setBreakpoint b).1 [] := by
  unfold setBreakpoint
  split
  · exact r.steady_fire _
  · exact .refl r

theorem steady_setBreakpoints (r : Relay) (bs : List Breakpoint) :
    r.Steady (r.setBreakpoints bs).1 [] := by
  induction bs generalizing r with
  | nil => exact .refl r
  | cons b rest ih => exact (r.steady_setBreakpoint b).trans (ih _)

theorem steady_reconcile (r : Relay) (f : SourceFile) : r.Steady (r.reconcile f).1 [] := by
  unfold reconcile
  split
  · exact (r.steady_fire _).trans (steady_setBreakpoints _ _)
  · exact .refl r

theorem steady_step (r : Relay) (kind : StepKind) :
    ∃ offered, r.Steady (r.step kind).1 offered := by
  unfold step
  split
  · exact ⟨[], .refl r⟩
  · next h hook =>
    -- the stop is forgotten and the announcement queued before the command is sent
    have hforget : r.Steady { r with link := { r.link with suspension := none } } [] :=
      steady_of_eq rfl id id
    have htold := hforget.trans (steady_send _ (by simp : .resumed r.link.lastThread kind ≠ _))
    refine ⟨_, (htold.toEffect.trans (effect_invoke _ h _)).steady ?_ (by simp [hook])⟩
    rw [link_invoke]
    rfl

theorem hook_terminate (r : Relay) : r.terminate.1.link.hook = none := by
  unfold terminate
  split
  · next hook => exact hook
  · simp only [link_invoke]

theorem quitting_terminate (h : r.link.hook = some .direct) :
    r.terminate.1.native.tracer.quitting = true := by
  simp only [terminate, h]
  obtain ⟨calls, log, heq⟩ := invoke_direct { r with link := { r.link with hook := none } } .quit
  rw [heq]
  rfl

/-- Ending the script drops the debugger, but tells it to quit before. -/
theorem steady_terminate (r : Relay) : r.Steady r.terminate.1 [] := by
  cases hook : r.link.hook with
  | none =>
    simp only [terminate, hook]
    exact .refl r
  | some h =>
    have hdropped : r.Effect { r with link := { r.link with hook := none } } [] :=
      effect_of_eq List.prefix_rfl id
    have heffect : r.Effect r.terminate.1 [] := by
      simp only [terminate, hook]
      exact (hdropped.trans (effect_invoke _ h _)).trans (effect_of_eq List.prefix_rfl id)
    refine ⟨heffect, ?_, ?_, ?_⟩
    · exact Or.inr ⟨r.hook_terminate, quitting_terminate⟩
    · simp [hook]
    · simp [hook]

theorem effect_detach (r : Relay) : r.Effect r.detach [] := effect_of_eq List.prefix_rfl id

/-! ## Reports and requests -/

theorem steady_resendSuspension (r : Relay) : ∃ offered, r.Steady r.resendSuspension offered := by
  unfold resendSuspension
  split
  · exact ⟨_, r.steady_send (by simp)⟩
  · exact ⟨[], .refl r⟩

theorem steady_onSuspend (r : Relay) (stop : Suspension) :
    ∃ offered, r.Steady (r.onSuspend stop) offered := by
  have hrecorded : r.Steady { r with
      link := { r.link with lastThread := some stop.thread, suspension := some stop } } [] :=
    steady_of_eq rfl id id
  exact ⟨_, hrecorded.trans (steady_send _ (by simp))⟩

theorem steady_handleRequest (r : Relay) (e : Event) :
    ∃ offered, r.Steady (r.handleRequest e) offered := by
  cases e with
  | breakpointAdded b => exact ⟨[], r.steady_reconcile b.file⟩
  | breakpointRemoved b => exact ⟨[], r.steady_reconcile b.file⟩
  | breakpointChanged b => exact ⟨[], r.steady_reconcile b.file⟩
  | stepRequest kind => exact r.steady_step kind
  | framesRequest => exact r.steady_resendSuspension
  | terminateRequest => exact ⟨[], r.steady_terminate⟩
  | engineStarted => exact ⟨[], .refl r⟩
  | engineTerminated => exact ⟨[], .refl r⟩
  | suspended thread frames reason => exact ⟨[], .refl r⟩
  | resumed thread kind => exact ⟨[], .refl r⟩
  | scriptReady script thread => exact ⟨[], .refl r⟩

end Relay

end DebugRelay
