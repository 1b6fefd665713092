import DebugRelay.Proofs.Splits
import DebugRelay.Proofs.Target
import Mathlib.Data.List.Induction

/-!
# The frames that a target shows

A suspended target shows the frames of the last stop that it was told of. A target in another state
shows none, with one exception: the engine is reported as started while the target is suspended,
which lets the target run and leaves the frames as they are. `frames_after_new` says so for every
list of events, and `frames_after_start` is such a list.
-/

namespace DebugRelay

namespace Event

/-- The frames of a stop. -/
def frames? : Event → Option (List Frame)
  | suspended _ frames _ => some frames
  | _ => none

/-- Whether the frames that a target shows stay as they are, whatever its state is. -/
def keepsFrames : Event → Bool
  | suspended .. | resumed .. | engineTerminated => false
  | _ => true

end Event

namespace Target

/-- The frames of the last stop among events, if there is a stop. -/
def lastFrames? (events : List Event) : Option (List Frame) :=
  (events.filterMap Event.frames?).getLast?

/-- The engine was reported as started while the target was suspended, and since then nothing came
that has to do with frames. -/
def StartedInStop (dynamic : Bool) (events : List Event) : Prop :=
  ∃ before since, events = before ++ .engineStarted :: since ∧
    (({} : Target).after dynamic before).state = .suspended ∧ ∀ e ∈ since, e.keepsFrames

/-! ## One more event -/

theorem lastFrames?_concat (events : List Event) (e : Event) :
    lastFrames? (events ++ [e]) = e.frames?.or (lastFrames? events) := by
  rw [lastFrames?, List.filterMap_append, List.getLast?_append, lastFrames?]
  cases h : e.frames? <;> simp [h]

theorem startedInStop_concat {dynamic : Bool} {events : List Event} {e : Event} :
    StartedInStop dynamic (events ++ [e]) ↔
      (e = .engineStarted ∧ (({} : Target).after dynamic events).state = .suspended) ∨
      (StartedInStop dynamic events ∧ e.keepsFrames) := by
  constructor
  · rintro ⟨before, since, heq, hstate, hkeep⟩
    rcases concat_eq_append_cons heq with ⟨rfl, he, -⟩ | ⟨between, rfl, rfl⟩
    · exact Or.inl ⟨he.symm, hstate⟩
    · rw [List.forall_mem_append] at hkeep
      exact Or.inr ⟨⟨before, between, rfl, hstate, hkeep.1⟩, hkeep.2 e List.mem_cons_self⟩
  · rintro (⟨rfl, hstate⟩ | ⟨⟨before, since, rfl, hstate, hkeep⟩, he⟩)
    · exact ⟨events, [], rfl, hstate, by simp⟩
    · refine ⟨before, since ++ [e], by simp, hstate, ?_⟩
      rw [List.forall_mem_append]
      exact ⟨hkeep, by simpa using he⟩

/-- A stop shows its frames, or the target is not to be suspended and stays as it is. -/
theorem apply_suspended_cases (t : Target) (dynamic : Bool) (thread : Thread)
    (frames : List Frame) (reason : StopReason) :
    ((t.apply dynamic (.suspended thread frames reason)).target.state = .suspended ∧
      (t.apply dynamic (.suspended thread frames reason)).target.frames = frames) ∨
    (t.state ≠ .running ∧ t.state ≠ .suspended ∧
      (t.apply dynamic (.suspended thread frames reason)).target = t) := by
  cases hs : t.state with
  | created => exact Or.inr ⟨by simp, by simp, by simp [apply, enter, hs, State.canBecome]⟩
  | running => exact Or.inl (by simp [apply, enter, hs, State.canBecome])
  | suspended => exact Or.inl (by simp [apply, enter, hs, State.canBecome])
  | terminated => exact Or.inr ⟨by simp, by simp, by simp [apply, enter, hs, State.canBecome]⟩

/-- The start of the engine lets a suspended target run, and shows the frames that were shown. -/
theorem apply_engineStarted (t : Target) (dynamic : Bool) :
    (t.apply dynamic .engineStarted).target.frames = t.frames ∧
      (t.apply dynamic .engineStarted).target.state =
        if t.state = .terminated then .terminated else .running := by
  cases hs : t.state <;> simp [apply, enter, hs, State.canBecome]

/-- A release or the end of the engine takes the frames. -/
theorem apply_of_drops (t : Target) (dynamic : Bool) {e : Event} (he : e.keepsFrames = false)
    (hstop : e.frames? = none) :
    (t.apply dynamic e).target.frames = [] ∧ (t.apply dynamic e).target.state ≠ .suspended := by
  cases e with
  | resumed thread kind => cases hs : t.state <;> simp [apply, enter, hs, State.canBecome]
  | engineTerminated => cases hs : t.state <;> simp [apply, enter, hs, State.canBecome]
  | suspended thread frames reason => simp [Event.frames?] at hstop
  | _ => simp [Event.keepsFrames] at he

/-- Scripts and requests change neither the state nor the frames. -/
theorem apply_of_keepsFrames (t : Target) (dynamic : Bool) {e : Event} (he : e.keepsFrames = true)
    (hne : e ≠ .engineStarted) :
    (t.apply dynamic e).target.state = t.state ∧
      (t.apply dynamic e).target.frames = t.frames := by
  cases e with
  | engineStarted => exact absurd rfl hne
  | scriptReady script thread =>
    simp only [apply]
    split <;> exact ⟨rfl, rfl⟩
  | suspended thread frames reason => simp [Event.keepsFrames] at he
  | resumed thread kind => simp [Event.keepsFrames] at he
  | engineTerminated => simp [Event.keepsFrames] at he
  | _ => exact ⟨rfl, rfl⟩

/-! ## All events -/

/-- What the frames of a new target come from after events. -/
structure FramesFrom (dynamic : Bool) (events : List Event) (t : Target) : Prop where
  suspended : t.state = .suspended → lastFrames? events = some t.frames
  started : StartedInStop dynamic events → t.state = .running ∧ lastFrames? events = some t.frames
  otherwise : t.state ≠ .suspended → ¬ StartedInStop dynamic events → t.frames = []

variable {dynamic : Bool} {t : Target} {events : List Event} {e : Event}

theorem framesFrom_nil (dynamic : Bool) : FramesFrom dynamic [] {} where
  suspended h := by simp at h
  started := by
    rintro ⟨before, since, heq, -⟩
    simp at heq
  otherwise _ _ := rfl

/-- The frames stay, and a stop becomes one that the engine was started in. -/
theorem FramesFrom.engineStarted (h : FramesFrom dynamic events t)
    (ht : ({} : Target).after dynamic events = t) :
    FramesFrom dynamic (events ++ [.engineStarted]) (t.apply dynamic .engineStarted).target := by
  obtain ⟨hframes, hstate⟩ := t.apply_engineStarted dynamic
  have hlast : lastFrames? (events ++ [.engineStarted]) = lastFrames? events := by
    rw [lastFrames?_concat]
    rfl
  constructor
  · intro hs
    rw [hstate] at hs
    split at hs <;> simp at hs
  · intro hnow
    rw [hlast, hframes]
    rcases startedInStop_concat.1 hnow with ⟨-, hs⟩ | ⟨hbefore, -⟩
    · rw [ht] at hs
      exact ⟨by rw [hstate, hs]; rfl, h.suspended hs⟩
    · obtain ⟨hs, hf⟩ := h.started hbefore
      exact ⟨by rw [hstate, hs]; rfl, hf⟩
  · intro _ hnow
    rw [startedInStop_concat, ht, not_or] at hnow
    rw [hframes]
    exact h.otherwise (fun hs => hnow.1 ⟨rfl, hs⟩) fun hbefore => hnow.2 ⟨hbefore, rfl⟩

/-- Scripts and requests leave everything as it is. -/
theorem FramesFrom.keeps (h : FramesFrom dynamic events t) (he : e.keepsFrames = true)
    (hne : e ≠ .engineStarted) :
    FramesFrom dynamic (events ++ [e]) (t.apply dynamic e).target := by
  obtain ⟨hstate, hframes⟩ := t.apply_of_keepsFrames dynamic he hne
  have hlast : lastFrames? (events ++ [e]) = lastFrames? events := by
    rw [lastFrames?_concat]
    cases e <;> first | rfl | simp [Event.keepsFrames] at he
  have hsame : StartedInStop dynamic (events ++ [e]) ↔ StartedInStop dynamic events := by
    rw [startedInStop_concat]
    simp [hne, he]
  constructor
  · rw [hstate, hframes, hlast]
    exact h.suspended
  · rw [hstate, hframes, hlast, hsame]
    exact h.started
  · rw [hstate, hframes, hsame]
    exact h.otherwise

theorem not_startedInStop_concat (he : e.keepsFrames = false) :
    ¬ StartedInStop dynamic (events ++ [e]) := by
  rw [startedInStop_concat]
  rintro (⟨rfl, -⟩ | ⟨-, hkeeps⟩)
  · simp [Event.keepsFrames] at he
  · rw [he] at hkeeps
    simp at hkeeps

/-- A stop shows its frames. One that is refused finds no frames, since the target does not run. -/
theorem FramesFrom.stop (h : FramesFrom dynamic events t) (thread : Thread) (frames : List Frame)
    (reason : StopReason) :
    FramesFrom dynamic (events ++ [.suspended thread frames reason])
      (t.apply dynamic (.suspended thread frames reason)).target := by
  have hnone : ¬ StartedInStop dynamic (events ++ [.suspended thread frames reason]) :=
    not_startedInStop_concat rfl
  have hlast : lastFrames? (events ++ [.suspended thread frames reason]) = some frames := by
    rw [lastFrames?_concat]
    rfl
  rcases t.apply_suspended_cases dynamic thread frames reason with
    ⟨hstate, hframes⟩ | ⟨hrunning, hsuspended, heq⟩
  · exact ⟨fun _ => by rw [hlast, hframes], fun hnow => absurd hnow hnone,
      fun hs => absurd hstate hs⟩
  · rw [heq]
    refine ⟨fun hs => absurd hs hsuspended, fun hnow => absurd hnow hnone, fun _ _ => ?_⟩
    exact h.otherwise hsuspended fun hbefore => hrunning (h.started hbefore).1

theorem FramesFrom.concat (h : FramesFrom dynamic events t)
    (ht : ({} : Target).after dynamic events = t) (e : Event) :
    FramesFrom dynamic (events ++ [e]) (t.apply dynamic e).target := by
  have hdrop : e.keepsFrames = false → e.frames? = none →
      FramesFrom dynamic (events ++ [e]) (t.apply dynamic e).target := by
    intro he hstop
    obtain ⟨hframes, hstate⟩ := t.apply_of_drops dynamic he hstop
    exact ⟨fun hs => absurd hs hstate, fun hnow => absurd hnow (not_startedInStop_concat he),
      fun _ _ => hframes⟩
  cases e with
  | engineStarted => exact h.engineStarted ht
  | suspended thread frames reason => exact h.stop thread frames reason
  | resumed thread kind => exact hdrop rfl rfl
  | engineTerminated => exact hdrop rfl rfl
  | scriptReady script thread => exact h.keeps rfl (by simp)
  | breakpointAdded b => exact h.keeps rfl (by simp)
  | breakpointRemoved b => exact h.keeps rfl (by simp)
  | breakpointChanged b => exact h.keeps rfl (by simp)
  | stepRequest kind => exact h.keeps rfl (by simp)
  | framesRequest => exact h.keeps rfl (by simp)
  | terminateRequest => exact h.keeps rfl (by simp)

theorem framesFrom_after (dynamic : Bool) (events : List Event) :
    FramesFrom dynamic events (({} : Target).after dynamic events) := by
  induction events using List.reverseRecOn with
  | nil => exact framesFrom_nil dynamic
  | append_singleton events e ih =>
    rw [after_concat]
    exact ih.concat rfl e

/-- A new target after any events shows in a stop the frames of the last stop that was reported. In
every other state it shows none, unless the engine was reported as started in a stop with frames and
nothing came since that has to do with frames: then it runs and shows the frames of that stop. -/
theorem frames_after_new (dynamic : Bool) (events : List Event) :
    let t := ({} : Target).after dynamic events
    (t.state = .suspended → lastFrames? events = some t.frames) ∧
    (t.state ≠ .suspended →
      (t.frames = [] ↔ ¬ (StartedInStop dynamic events ∧ lastFrames? events ≠ some []))) ∧
    (StartedInStop dynamic events → t.state = .running ∧ lastFrames? events = some t.frames) := by
  intro t
  have h : FramesFrom dynamic events t := framesFrom_after dynamic events
  refine ⟨h.suspended, fun hs => ?_, h.started⟩
  constructor
  · rintro hnil ⟨hstarted, hlast⟩
    rw [(h.started hstarted).2, hnil] at hlast
    exact hlast rfl
  · intro hnot
    by_cases hstarted : StartedInStop dynamic events
    · have hlast : lastFrames? events = some [] := by
        by_contra hne
        exact hnot ⟨hstarted, hne⟩
      rw [(h.started hstarted).2] at hlast
      exact Option.some.inj hlast
    · exact h.otherwise hs hstarted

/-- The engine is reported as started once more while the target is suspended: the target runs and
still shows the frames of the stop. -/
theorem frames_after_start :
    let t := ({} : Target).after false
      [.engineStarted, .suspended ⟨none⟩ [.ofFile .zero ⟨[]⟩ 1 ∅] .breakpoint, .engineStarted]
    t.state = .running ∧ t.frames = [.ofFile .zero ⟨[]⟩ 1 ∅] :=
  ⟨rfl, rfl⟩

end Target

end DebugRelay
