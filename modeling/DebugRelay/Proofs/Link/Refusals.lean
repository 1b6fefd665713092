import DebugRelay.Proofs.Link.Stops
import DebugRelay.Proofs.Relay.Notices

/-!
# Going on that is refused

The link announces that the script goes on before it tells the debugger, and does not wait for an
answer. Letting the script go on is answered with no for one of two reasons. Without a debugger
nothing was announced and nothing is changed. With one that refuses the command the announcement is
not taken back (`ToldInVain`): the stop is forgotten although the script still stands there, and the
IDE can neither ask for its stack nor let it go on. `step_unheeded` tells the two apart.
-/

namespace DebugRelay

/-- A target that is told that the script goes on is not suspended, whatever it was before. -/
theorem Target.state_apply_resumed (t : Target) (dynamic : Bool) (thread : Option Thread)
    (kind : StepKind) : (t.apply dynamic (.resumed thread kind)).target.state ≠ .suspended := by
  cases hs : t.state <;> simp [apply, enter, hs, State.canBecome]

namespace Relay

/-- The IDE is told that the script goes on, and the debugger refuses to let it. -/
structure ToldInVain (r s : Relay) (kind : StepKind) (e : Error) : Prop where
  /-- But for a call and a warning the relay is as it is before the debugger answers. -/
  eq : s = ({ r.announcing kind with
      native := r.native.record (.command (.ofStep kind)) } : Relay).warn
    ("Interpreter call " ++ (Command.ofStep kind).nativeName ++ " failed: " ++ e.message)
  /-- An open queue has the announcement, with the thread of the latest stop. -/
  announced : r.queue.accepts = true →
    s.queue = { r.queue with waiting := r.queue.waiting ++ [.resumed r.link.lastThread kind] }
  /-- Until the next stop is reported, requests for the stack are passed over. -/
  forgotten : ∀ ts : List Turn, (∀ t ∈ ts, t.call.stop? = none) → ∀ k,
    (s.turned ts).asked k = s.turned ts
  /-- Once the target has handled what waits, the user cannot let the script go on. -/
  running : r.queue.accepts = true → ∀ kind',
    (s.notified s.queue.waiting).requestStep kind' = (s.notified s.queue.waiting,
      .error (.wrongState kind'.text (s.notified s.queue.waiting).target.state.text))

variable {r : Relay} {h : Hook} {e : Error} {kind : StepKind} {ts : List Turn}

/-! ## Refused commands -/

theorem accepts_ofStep (h : Hook) (calls : List Call) (kind : StepKind) :
    h.accepts calls (.ofStep kind) = (h.refuses calls (.ofStep kind)).isNone := by
  have hline : (Command.ofStep kind).isLineless = false := by cases kind <;> rfl
  rw [Hook.accepts, hline, Bool.and_false, Bool.not_false, Bool.and_true]

/-- A refused command is recorded, worth a warning, and does not reach the tracer. -/
theorem invoke_of_refuses {c : Command} (he : h.refuses r.native.calls c = some e) :
    r.invoke h c = (({ r with native := r.native.record (.command c) } : Relay).warn
      ("Interpreter call " ++ c.nativeName ++ " failed: " ++ e.message), false) := by
  have hnative : r.native.invoke h c = (r.native.record (.command c), .error e) := by
    simp only [Native.invoke, he]
  rw [invoke, hnative]

/-- Letting the script go on is answered with no without a debugger, and by one that refuses. -/
theorem step_snd_eq_false_iff : (r.step kind).2 = false ↔ r.link.hook = none ∨
    ∃ h e, r.link.hook = some h ∧ h.refuses r.native.calls (.ofStep kind) = some e := by
  cases hook : r.link.hook with
  | none => simp [step_of_detached hook]
  | some h =>
    have hanswer : (r.step kind).2 = (h.refuses r.native.calls (.ofStep kind)).isNone := by
      rw [step_of_attached hook, invoke_snd, accepts_ofStep]
      rfl
    rw [hanswer]
    cases he : h.refuses r.native.calls (.ofStep kind) <;> simp [he]

/-! ## What is left of a stop -/

/-- As long as no stop is reported, none is remembered that was not remembered before. -/
theorem suspension_turned_of_none (hr : r.link.suspension = none)
    (hts : ∀ t ∈ ts, t.call.stop? = none) : (r.turned ts).link.suspension = none := by
  induction ts generalizing r with
  | nil => exact hr
  | cons t rest ih =>
    have hstop : t.call.stop? = none := hts t List.mem_cons_self
    -- the turn empties the memory or leaves it as it is
    have hone : (r.turn t).link.suspension = none := by
      cases hforgets : r.forgets t with
      | true => exact (link_of_forgets hforgets).1
      | false => exact (recalls_of_not_forgets hstop hforgets).suspension.trans hr
    exact ih hone fun t' ht' => hts t' (List.mem_cons_of_mem _ ht')

/-- A target that handles the announcement last of all cannot be let go on. -/
theorem requestStep_of_announced (r : Relay) (waiting : List Event) (thread : Option Thread)
    (kind kind' : StepKind) :
    (r.notified (waiting ++ [.resumed thread kind])).requestStep kind' =
      (r.notified (waiting ++ [.resumed thread kind]), .error (.wrongState kind'.text
        (r.notified (waiting ++ [.resumed thread kind])).target.state.text)) := by
  have hstate : (r.notified (waiting ++ [.resumed thread kind])).target.state ≠ .suspended := by
    rw [target_notified, Target.after_concat]
    exact Target.state_apply_resumed _ _ thread kind
  rw [requestStep, if_neg hstate]

/-- A step that is refused was announced, and this is not taken back. -/
theorem toldInVain_step (hook : r.link.hook = some h)
    (he : h.refuses r.native.calls (.ofStep kind) = some e) :
    r.ToldInVain (r.step kind).1 kind e := by
  -- the announcement is queued and the stop forgotten before the debugger refuses
  have heq := step_of_attached hook kind
  rw [invoke_of_refuses (r := r.announcing kind) he] at heq
  rw [heq]
  have hqueue : r.queue.accepts = true → (r.announcing kind).queue =
      { r.queue with waiting := r.queue.waiting ++ [.resumed r.link.lastThread kind] } := by
    intro ha
    rw [queue_announcing]
    exact Queue.offerAll_of_accepts ha _
  refine ⟨rfl, hqueue, fun ts hts k => ?_, fun ha kind' => ?_⟩
  · exact asked_of_none (suspension_turned_of_none rfl hts) k
  · have hwaiting : (r.announcing kind).queue.waiting =
        r.queue.waiting ++ [.resumed r.link.lastThread kind] := by rw [hqueue ha]
    simp only [warn, note, hwaiting]
    exact requestStep_of_announced _ r.queue.waiting r.link.lastThread kind kind'

/-- Letting the script go on is answered with no exactly if there is no debugger, or one that
refuses. Without a debugger nothing is changed, so that a stop is still reported again on request
and the IDE can let the script go on. If the debugger refuses, the IDE was told nevertheless that
the script goes on, and the stop is forgotten. -/
theorem step_unheeded (r : Relay) (kind : StepKind) :
    ((r.step kind).2 = false ↔ r.link.hook = none ∨
      ∃ h e, r.link.hook = some h ∧ h.refuses r.native.calls (.ofStep kind) = some e) ∧
    (r.link.hook = none → (r.step kind).1 = r) ∧
    ∀ h e, r.link.hook = some h → h.refuses r.native.calls (.ofStep kind) = some e →
      r.ToldInVain (r.step kind).1 kind e := by
  refine ⟨step_snd_eq_false_iff, fun hook => ?_, fun h e hook he => toldInVain_step hook he⟩
  rw [step_of_detached hook]

/-! ## A debugger that refuses a step -/

/-- An interpreter whose debugger refuses to step into a call, and accepts all else. -/
def sampleUnsteppable : Interpreter :=
  ⟨none, none, none,
    ⟨true, fun _ c => if c = .stepInto then some (.command c.nativeName "busy") else none⟩⟩

/-- The script stopped under that debugger. -/
def sampleHeld : Relay :=
  (started sampleParts).turned [.of (.setup sampleUnsteppable), .of (.onSuspend sampleHalt)]

/-- The step is refused, and no stack is shown from then on. -/
theorem unheeded_sampleHeld :
    (sampleHeld.step .stepInto).2 = false ∧
    ∀ k, (sampleHeld.step .stepInto).1.asked k = (sampleHeld.step .stepInto).1 := by
  obtain ⟨hno, -, hrefused⟩ := step_unheeded sampleHeld .stepInto
  have hrefuses : sampleUnsteppable.hook.refuses sampleHeld.native.calls .stepInto =
    some (.command "step_stepinto" "busy") := rfl
  refine ⟨hno.2 (Or.inr ⟨sampleUnsteppable.hook, _, rfl, hrefuses⟩), fun k => ?_⟩
  exact (hrefused sampleUnsteppable.hook _ rfl hrefuses).forgotten [] (by simp) k

/-- The step is answered with no. Yet it is announced, and the stop that was remembered is not
remembered any more. -/
theorem announced_sampleHeld :
    (sampleHeld.step .stepInto).2 = false ∧
    sampleHeld.queue.waiting = [sampleHalt.report] ∧
    (sampleHeld.step .stepInto).1.queue.waiting =
      [sampleHalt.report, .resumed (some ⟨some "main"⟩) .stepInto] ∧
    sampleHeld.link.suspension = some sampleHalt ∧
    (sampleHeld.step .stepInto).1.link.suspension = none :=
  ⟨rfl, rfl, rfl, rfl, rfl⟩

end Relay

end DebugRelay
