import DebugRelay.Proofs.Relay.Dispatching
import DebugRelay.Proofs.Target.Frames
import Mathlib.Data.List.Chain

/-!
# What the IDE is told

A target that handles events one after the other (`Relay.notified`) tells the IDE of every
notification with the state that it leads to, and passes over requests and over scripts that are not
to be shown. The states that the IDE is told follow one another as the states of a target may
(`Reported.chain`), the end of the engine is final (`ended_after`), and the scripts of the target
are those that the IDE was told of (`scripts_after`). `told_of_new` puts these together for a new
target and every list of events.
-/

namespace DebugRelay

namespace Event

/-- The event is about a script without a file, and such scripts are not shown. -/
def IsHidden (dynamic : Bool) (e : Event) : Prop :=
  ∃ script thread, e = .scriptReady script thread ∧ script.file? = none ∧ dynamic = false

/-- The script that an event is about. -/
def script? : Event → Option Script
  | scriptReady script _ => some script
  | _ => none

theorem isShown_iff {dynamic : Bool} {e : Event} :
    e.isShown dynamic = true ↔ e.route = .ide ∧ ¬ e.IsHidden dynamic := by
  cases e with
  | scriptReady script thread =>
    cases dynamic <;> simp [isShown, route, IsHidden, Option.isSome_iff_ne_none]
  | _ => simp [isShown, route, IsHidden]

end Event

namespace Target

variable {dynamic : Bool} {t : Target}

/-! ## What a target makes of an event -/

theorem apply_of_not_shown {e : Event} (h : e.isShown dynamic = false) :
    t.apply dynamic e = { target := t, shown := false } := by
  cases e with
  | scriptReady script thread =>
    have hhidden : (script.file?.isNone && !dynamic) = true := by
      cases hf : script.file? <;> simp_all [Event.isShown]
    rw [apply, if_pos hhidden]
  | engineStarted => simp [Event.isShown] at h
  | engineTerminated => simp [Event.isShown] at h
  | suspended thread frames reason => simp [Event.isShown] at h
  | resumed thread kind => simp [Event.isShown] at h
  | _ => rfl

/-- A state that may be followed by another, or stays. -/
def State.Precedes (a b : State) : Prop := a = b ∨ a.canBecome b = true

theorem precedes_enter (t : Target) (next : State) :
    t.state.Precedes (t.enter next).target.state := by
  unfold enter
  split
  · next h => exact Or.inr h
  · exact Or.inl rfl

theorem precedes_apply (t : Target) (dynamic : Bool) (e : Event) :
    t.state.Precedes (t.apply dynamic e).target.state := by
  cases e with
  | engineStarted => exact t.precedes_enter _
  | engineTerminated => exact precedes_enter { t with frames := [] } _
  | suspended thread frames reason =>
    simp only [apply]
    split <;> exact t.precedes_enter _
  | resumed thread kind => exact precedes_enter { t with frames := [] } _
  | scriptReady script thread =>
    simp only [apply]
    split <;> exact Or.inl rfl
  | _ => exact Or.inl rfl

/-- Nothing takes a target out of its last state. -/
theorem terminated_apply (h : t.state = .terminated) (e : Event) :
    (t.apply dynamic e).target.state = .terminated := by
  rcases t.precedes_apply dynamic e with hsame | hbecome
  · rw [← hsame, h]
  · rw [h] at hbecome
    simp [State.canBecome] at hbecome

theorem terminated_after (h : t.state = .terminated) (events : List Event) :
    (t.after dynamic events).state = .terminated := by
  induction events generalizing t with
  | nil => exact h
  | cons e rest ih => exact ih (terminated_apply h e)

/-- Once a new target has ended, it stays so and shows no frames. -/
theorem ended_after {before : List Event}
    (h : (({} : Target).after dynamic before).state = .terminated) (rest : List Event) :
    (({} : Target).after dynamic (before ++ rest)).state = .terminated ∧
      (({} : Target).after dynamic (before ++ rest)).frames = [] := by
  have hstate : (({} : Target).after dynamic (before ++ rest)).state = .terminated := by
    rw [after_append]
    exact terminated_after h rest
  have hframes := framesFrom_after dynamic (before ++ rest)
  refine ⟨hstate, hframes.otherwise (by simp [hstate]) fun hstarted => ?_⟩
  have hrunning := (hframes.started hstarted).1
  rw [hstate] at hrunning
  simp at hrunning

/-! ## Scripts -/

theorem scripts_enter (t : Target) (next : State) :
    (t.enter next).target.scripts = t.scripts := by
  unfold enter
  split <;> rfl

/-- A target gets the script of an event that is shown. -/
theorem scripts_apply (t : Target) (e : Event) :
    (t.apply dynamic e).target.scripts =
      t.scripts ++ ([e].filter (Event.isShown dynamic)).filterMap Event.script? := by
  cases hshown : e.isShown dynamic with
  | false => simp [apply_of_not_shown hshown, hshown]
  | true =>
    rw [List.filter_singleton, hshown]
    cases e with
    | engineStarted => exact (t.scripts_enter _).trans (List.append_nil _).symm
    | engineTerminated =>
      exact (scripts_enter { t with frames := [] } _).trans (List.append_nil _).symm
    | resumed thread kind =>
      exact (scripts_enter { t with frames := [] } _).trans (List.append_nil _).symm
    | suspended thread frames reason =>
      have hsame := (t.scripts_enter .suspended).trans (List.append_nil _).symm
      simp only [apply]
      split <;> exact hsame
    | scriptReady script thread =>
      have hvisible : ¬ (script.file?.isNone && !dynamic) = true := by
        cases hf : script.file? <;> simp_all [Event.isShown]
      rw [apply, if_neg hvisible]
      rfl
    | _ => simp [Event.isShown] at hshown

theorem scripts_after (t : Target) (events : List Event) :
    (t.after dynamic events).scripts =
      t.scripts ++ (events.filter (Event.isShown dynamic)).filterMap Event.script? := by
  induction events generalizing t with
  | nil => exact (List.append_nil _).symm
  | cons e rest ih =>
    have hsplit : e :: rest = [e] ++ rest := rfl
    rw [after, List.foldl_cons, ← after, ih, scripts_apply, List.append_assoc, hsplit,
      List.filter_append, List.filterMap_append]

end Target

namespace Relay

variable {r : Relay}

/-! ## What the IDE is told of an event -/

/-- The relay after its target handled events, oldest first, whatever side they are for. -/
def notified (r : Relay) (events : List Event) : Relay :=
  events.foldl (fun r e => (r.handleNotification e).1) r

theorem notified_concat (r : Relay) (events : List Event) (e : Event) :
    r.notified (events ++ [e]) = ((r.notified events).handleNotification e).1 :=
  List.foldl_append

theorem settings_notified (r : Relay) (events : List Event) :
    (r.notified events).settings = r.settings := by
  induction events using List.reverseRecOn with
  | nil => rfl
  | append_singleton events e ih =>
    obtain ⟨log, heq⟩ := (r.notified events).handleNotification_spec e
    rw [notified_concat, heq]
    exact ih

theorem target_notified (r : Relay) (events : List Event) :
    (r.notified events).target = r.target.after r.settings.showDynamicCode events := by
  induction events using List.reverseRecOn with
  | nil => rfl
  | append_singleton events e ih =>
    obtain ⟨log, heq⟩ := (r.notified events).handleNotification_spec e
    rw [notified_concat, heq, Target.after_concat, ← ih, settings_notified]

/-- An event that is not shown is handled by doing nothing. -/
theorem handleNotification_of_not_shown {e : Event}
    (h : e.isShown r.settings.showDynamicCode = false) :
    r.handleNotification e = (r, .handled) := by
  simp only [handleNotification, Target.apply_of_not_shown h]
  rfl

theorem delivered_handleNotification {e : Event}
    (h : e.isShown r.settings.showDynamicCode = true) :
    (r.handleNotification e).1.delivered =
      r.delivered ++ [(e, (r.handleNotification e).1.target.state)] := by
  obtain ⟨log, heq⟩ := r.handleNotification_spec e
  rw [heq, Target.shown_apply, h]
  rfl

/-! ## The states that the IDE is told -/

/-- The states that the IDE was told follow one another from the first as those of a target may, and
the last of them is the target's. -/
structure Reported (r : Relay) : Prop where
  chain : (.created :: r.delivered.map Prod.snd).IsChain Target.State.Precedes
  last : (.created :: r.delivered.map Prod.snd).getLast? = some r.target.state

theorem Reported.handleNotification (h : r.Reported) (e : Event) :
    (r.handleNotification e).1.Reported := by
  cases hshown : e.isShown r.settings.showDynamicCode with
  | false =>
    rw [handleNotification_of_not_shown hshown]
    exact h
  | true =>
    have hstep : r.target.state.Precedes (r.handleNotification e).1.target.state := by
      obtain ⟨log, heq⟩ := r.handleNotification_spec e
      rw [heq]
      exact r.target.precedes_apply _ e
    have hstates : .created :: (r.handleNotification e).1.delivered.map Prod.snd =
        (.created :: r.delivered.map Prod.snd) ++ [(r.handleNotification e).1.target.state] := by
      rw [delivered_handleNotification hshown, List.map_append]
      rfl
    constructor
    · rw [hstates]
      refine h.chain.append (List.isChain_singleton _) ?_
      intro a ha b hb
      rw [h.last] at ha
      obtain rfl := Option.some.inj ha
      obtain rfl := Option.some.inj hb
      exact hstep
    · rw [hstates, List.getLast?_concat]

theorem Reported.notified (h : r.Reported) (events : List Event) :
    (r.notified events).Reported := by
  induction events generalizing r with
  | nil => exact h
  | cons e rest ih => exact ih (h.handleNotification e)

/-- What the IDE is told by a new target that handles events, whatever they are. Every notification
is told exactly once, in order, with the state that the target is in after it, except a script
without a file while such scripts are not shown; such a script and every request change nothing at
all. From one state that is told to the next, beginning with the first state of all, the target
stays or makes a step that it may make. Once it has ended it stays so, and no frames appear. Its
scripts are those of the events that were shown, in order. -/
theorem told_of_new (r : Relay) (htarget : r.target = {}) (hnew : r.delivered = []) :
    (∀ before e, e.route = .ide → ¬ e.IsHidden r.settings.showDynamicCode →
      (r.notified (before ++ [e])).delivered =
        (r.notified before).delivered ++ [(e, (r.notified (before ++ [e])).target.state)]) ∧
    (∀ before e, e.route = .interpreter ∨ e.IsHidden r.settings.showDynamicCode →
      r.notified (before ++ [e]) = r.notified before) ∧
    (∀ events, (.created :: (r.notified events).delivered.map Prod.snd).IsChain
      fun a b => a = b ∨ a.canBecome b = true) ∧
    (∀ before rest, (r.notified before).target.state = .terminated →
      (r.notified (before ++ rest)).target.state = .terminated ∧
        (r.notified (before ++ rest)).target.frames = []) ∧
    ∀ events, (r.notified events).target.scripts =
      (events.filter (Event.isShown r.settings.showDynamicCode)).filterMap Event.script? := by
  have hsame : ∀ events, (r.notified events).settings.showDynamicCode =
      r.settings.showDynamicCode := fun events => by rw [settings_notified]
  have hafter : ∀ events, (r.notified events).target =
      ({} : Target).after r.settings.showDynamicCode events := by
    intro events
    rw [target_notified, htarget]
  refine ⟨?_, ?_, ?_, ?_, ?_⟩
  · intro before e hroute hvisible
    have hshown : e.isShown (r.notified before).settings.showDynamicCode = true := by
      rw [hsame]
      exact Event.isShown_iff.2 ⟨hroute, hvisible⟩
    rw [notified_concat]
    exact delivered_handleNotification hshown
  · intro before e he
    have hshown : e.isShown (r.notified before).settings.showDynamicCode = false := by
      rw [hsame, Bool.eq_false_iff, ne_eq, Event.isShown_iff]
      rintro ⟨hroute, hvisible⟩
      rcases he with hrequest | hhidden
      · rw [hroute] at hrequest
        simp at hrequest
      · exact hvisible hhidden
    rw [notified_concat, handleNotification_of_not_shown hshown]
  · intro events
    have hreported : r.Reported :=
      ⟨by rw [hnew]; exact List.isChain_singleton _, by rw [hnew, htarget]; rfl⟩
    exact (hreported.notified events).chain
  · intro before rest hended
    rw [hafter] at hended ⊢
    exact Target.ended_after hended rest
  · intro events
    rw [hafter, Target.scripts_after]
    rfl

/-! ## A life with stops that come too early and too late -/

/-- A new relay whose target shows no scripts without a file. -/
def sampleNew : Relay :=
  create ⟨⟨"", "", false, false, false, "", ""⟩, ⟨[]⟩, [], fun _ => none⟩ [.target]

/-- A script without a file is about to run. -/
def sampleInlineReady : Event := .scriptReady ⟨.zero, .inline "pass"⟩ ⟨none⟩

/-- A stop in one frame. -/
def sampleStop : Event := .suspended ⟨none⟩ [.ofFile .zero ⟨[]⟩ 1 ∅] .startup

/-- The engine stops before its start, starts, stops, and ends. -/
def sampleLife : List Event :=
  [sampleInlineReady, sampleStop, .engineStarted, sampleStop, .engineTerminated]

/-- The IDE is not told of the script, and of everything else once. The stop before the start leaves
the target as it was created; the other one suspends it. After the end a stop makes no frame any
more. -/
theorem told_sampleNew :
    sampleNew.target = {} ∧ sampleNew.delivered = [] ∧
      (sampleNew.notified sampleLife).delivered =
        [(sampleStop, .created), (.engineStarted, .running), (sampleStop, .suspended),
          (.engineTerminated, .terminated)] ∧
      (sampleNew.notified (sampleLife ++ [sampleStop])).target.state = .terminated ∧
      (sampleNew.notified (sampleLife ++ [sampleStop])).target.frames = [] := by
  obtain ⟨htold, hpassed, -, hended, -⟩ := told_of_new sampleNew rfl rfl
  have hvisible : ∀ e : Event, e.script? = none →
      ¬ e.IsHidden sampleNew.settings.showDynamicCode := by
    rintro e he ⟨script, thread, rfl, -⟩
    simp [Event.script?] at he
  have hscript := hpassed [] sampleInlineReady (Or.inr ⟨_, _, rfl, rfl, rfl⟩)
  have hearly := htold [sampleInlineReady] sampleStop rfl (hvisible _ rfl)
  have hstart := htold [sampleInlineReady, sampleStop] .engineStarted rfl (hvisible _ rfl)
  have hstop := htold [sampleInlineReady, sampleStop, .engineStarted] sampleStop rfl
    (hvisible _ rfl)
  have hend := htold [sampleInlineReady, sampleStop, .engineStarted, sampleStop]
    .engineTerminated rfl (hvisible _ rfl)
  simp only [List.nil_append, List.cons_append] at hscript hearly hstart hstop hend
  refine ⟨rfl, rfl, ?_, hended sampleLife [sampleStop] rfl⟩
  rw [sampleLife, hend, hstop, hstart, hearly, hscript]
  rfl

end Relay

end DebugRelay
