import DebugRelay.Proofs.Relay.Releasing
import DebugRelay.Proofs.Session.Histories

/-!
# Stranded threads

The engine's thread waits in a stop until a command releases it or the script shall end
(`Tracer.Waits`). Commands reach it through the installed debugger only, so it waits in vain while
there is none. Until the session ends that does not happen: the debugger goes only with a request
to quit (`Guarded`). The end, however, detaches it without a word, whether or not a thread waits.

`stranded_iff` says that this is the only way: a waiting thread has no debugger to be released
through exactly if the session has ended and nothing was installed since. `stranded_after_shutdown`
is such a history.
-/

namespace DebugRelay

namespace Relay

variable {r : Relay}

/-- A debugger that is the tracer itself is installed if the interpreter hands it over. -/
theorem setup_eq_ok_iff {i : Interpreter} (hi : i.hook = .direct) :
    (r.setup i).2 = .ok () ↔ i.HandsOver := by
  constructor
  · exact handsOver_of_setup
  · rintro ⟨hsearch, hload, hattach⟩
    obtain ⟨calls, log, heq⟩ := r.setup_direct
    have hdirect : i = .direct := by
      cases i
      simp_all [Interpreter.direct]
    rw [hdirect, heq]

/-- Unless somebody asked the script to end, a debugger is installed or the tracer is dormant. -/
structure Guarded (r : Relay) : Prop where
  hook : r.link.hook = none ∨ r.link.hook = some .direct
  guarded : r.link.hook = none → r.native.tracer.quitting = true ∨ r.native.tracer.Dormant

theorem Guarded.of_orderly {r' : Relay} (h : r.Guarded) (ho : r.Orderly r') : r'.Guarded where
  hook := by
    rcases ho.hook with hsame | ⟨hnone, -⟩
    · rw [hsame]
      exact h.hook
    · exact Or.inl hnone
  guarded hd := by
    rcases h.hook with hook | hook
    · rcases h.guarded hook with hquit | hdormant
      · exact Or.inl (ho.quits hquit)
      · exact Or.inr (ho.dormant hook hdormant)
    -- the debugger was there before, so it went with a request to quit
    · rcases ho.hook with hsame | ⟨-, hquit⟩
      · simp [hsame, hook] at hd
      · exact Or.inl (hquit hook)

theorem Guarded.isAttached (h : r.Guarded) (hw : r.native.tracer.Waits) : r.isAttached = true := by
  rcases h.hook with hook | hook
  · rcases h.guarded hook with hquit | hdormant
    · simp [hw.willing] at hquit
    · have hsuspended := hdormant.suspended
      simp [hw.suspended] at hsuspended
  · simp [Relay.isAttached, hook]

end Relay

namespace Session

variable {s first : Session} {o : Op} {ops : List Op}

/-- The debugger that a start installs is the tracer itself, and the link is left to the session. -/
def Op.IsTraced : Op → Prop
  | .start i => i.hook = .direct
  | .link _ => False
  | .scriptReady _ _ | .finish | .join | .shutdown | .move _ | .requestTermination
  | .registry _ => True

/-- A traced operation is a start with the tracer, or common. -/
theorem Op.IsTraced.cases (h : o.IsTraced) :
    (∃ i, o = .start i ∧ i.hook = .direct) ∨ o.IsCommon := by
  cases o with
  | start i => exact Or.inl ⟨i, rfl, h⟩
  | link c => exact h.elim
  | _ => exact Or.inr trivial

/-- Until the session ends, its relay is guarded. -/
theorem guarded_after (hp : s.relay.Plain) (hops : ∀ o ∈ ops, o.IsTraced)
    (hs : (s.after ops).terminated = false) (h : s.relay.Guarded) :
    (s.after ops).relay.Guarded := by
  induction ops generalizing s with
  | nil => exact h
  | cons o rest ih =>
    have hlive : (s.act o).terminated = false := open_of_after hs
    have hopen : s.terminated = false := open_of_after hs
    refine ih ((course_act s o).plain hp) (fun x hx => hops x (List.mem_cons_of_mem o hx)) hs ?_
    rcases (hops o List.mem_cons_self).cases with ⟨i, rfl, hi⟩ | hcommon
    · rcases s.hook_start i with ⟨-, hook⟩ | ⟨-, hended | ⟨hended, -⟩⟩
      · rw [hi] at hook
        exact ⟨Or.inr hook, fun hd => by simp [hook] at hd⟩
      · simp [hended.2] at hlive
      · simp [hended] at hopen
    · refine h.of_orderly (orderly_act hp hcommon fun hends => ?_)
      simp [hends.2] at hlive

/-- After the end, a debugger is installed exactly if it was before or a start handed it over
since, unless somebody asked the script to end. -/
theorem hook_after_end (hp : s.relay.Plain) (hops : ∀ o ∈ ops, o.IsTraced)
    (hs : s.terminated = true)
    (hook : s.relay.link.hook = none ∨ s.relay.link.hook = some .direct) :
    ((s.after ops).relay.link.hook = none ∨ (s.after ops).relay.link.hook = some .direct) ∧
    ((s.after ops).relay.native.tracer.quitting = true ∨
      ((s.after ops).relay.link.hook = none ↔
        s.relay.link.hook = none ∧ ∀ i, .start i ∈ ops → ¬ i.HandsOver)) := by
  induction ops generalizing s with
  | nil => exact ⟨hook, Or.inr (by simp)⟩
  | cons o rest ih =>
    have hcourse := course_act s o
    have hrest : ∀ x ∈ rest, x.IsTraced := fun x hx => hops x (List.mem_cons_of_mem o hx)
    have hnext := fun h => ih (hcourse.plain hp) hrest (hcourse.terminated hs) h
    have hlive : ¬ s.Ends o := fun hends => by simp [hends.1] at hs
    rcases (hops o List.mem_cons_self).cases with ⟨i, rfl, hi⟩ | hcommon
    · rcases s.hook_start i with ⟨hok, hstart⟩ | ⟨hfail, hends | ⟨-, hlink⟩⟩
      · rw [hi] at hstart
        obtain ⟨hafter, hiff⟩ := hnext (Or.inr hstart)
        have hover := (Relay.setup_eq_ok_iff hi).1 hok
        refine ⟨hafter, hiff.imp_right fun h => ?_⟩
        rw [after_cons, h, hstart]
        exact iff_of_false (by simp) fun hnone => hnone.2 i List.mem_cons_self hover
      · exact absurd hends hlive
      · have hover := mt (Relay.setup_eq_ok_iff (r := s.relay) hi).2 hfail
        obtain ⟨hafter, hiff⟩ := hnext (by rw [hlink]; exact hook)
        refine ⟨hafter, hiff.imp_right fun h => ?_⟩
        rw [after_cons, h, hlink]
        simp [hover]
    · have horderly := orderly_act hp hcommon hlive
      have hstart : ∀ i, (.start i ∈ o :: rest ↔ .start i ∈ rest) := by
        intro i
        refine ⟨fun hmem => (List.mem_cons.1 hmem).resolve_left ?_, List.mem_cons_of_mem o⟩
        rintro rfl
        exact hcommon
      rcases horderly.hook with hsame | ⟨hnone, hquit⟩
      · obtain ⟨hafter, hiff⟩ := hnext (by rw [hsame]; exact hook)
        refine ⟨hafter, hiff.imp_right fun h => ?_⟩
        rw [after_cons, h, hsame]
        simp only [hstart]
      · obtain ⟨hafter, hiff⟩ := hnext (Or.inl hnone)
        refine ⟨hafter, ?_⟩
        rcases hook with hd | ha
        · refine hiff.imp_right fun h => ?_
          rw [after_cons, h]
          simp only [hnone, hd, hstart]
        -- the debugger was dropped by a request to quit, which nothing takes back
        · exact Or.inl ((grows_after (hcourse.plain hp) rest).quits (hquit ha))

/-- A waiting thread has no debugger to be released through exactly if the session has ended and no
start has handed one over since. With one, every way to let the script go on and the request to end
it wake the thread; without one, none does. -/
theorem stranded_iff (hl : first.IsLaunch) (hops : ∀ o ∈ ops, o.IsTraced)
    (hw : (first.after ops).relay.native.tracer.Waits) :
    ((first.after ops).relay.isAttached = false ↔ ∃ before o later, ops = before ++ o :: later ∧
      (first.after before).Ends o ∧ ∀ i, .start i ∈ later → ¬ i.HandsOver) ∧
    (∀ kind, ((first.after ops).relay.step kind).1.wake?.isSome =
      (first.after ops).relay.isAttached) ∧
    (first.after ops).relay.terminate.1.wake?.isSome = (first.after ops).relay.isAttached := by
  have hguarded : first.relay.Guarded := by
    obtain ⟨parts, registry, calls, log, heq⟩ := hl.relay
    rw [heq]
    exact ⟨Or.inl rfl, fun _ => Or.inr Tracer.dormant_new⟩
  -- the history up to an end leaves no debugger, so that what follows decides
  have hsplit : ∀ {before o later}, ops = before ++ o :: later → (first.after before).Ends o →
      ((first.after ops).relay.link.hook = none ∨
        (first.after ops).relay.link.hook = some .direct) ∧
      ((first.after ops).relay.isAttached = false ↔ ∀ i, .start i ∈ later → ¬ i.HandsOver) := by
    rintro before o later rfl hends
    have hplain := plain_after hl.plain before
    have hdetached := hends.hook hplain
    have hlater : ∀ x ∈ later, x.IsTraced := fun x hx =>
      hops x (List.mem_append_right _ (List.mem_cons_of_mem o hx))
    rw [after_append, after_cons] at hw ⊢
    obtain ⟨hook, hquit | hiff⟩ := hook_after_end ((course_act _ o).plain hplain) hlater hends.2
      (Or.inl hdetached)
    · simp [hw.willing] at hquit
    · refine ⟨hook, ?_⟩
      rw [Relay.isAttached_eq_false_iff, hiff]
      simp only [hdetached, true_and]
  have hfinal : ((first.after ops).relay.link.hook = none ∨
        (first.after ops).relay.link.hook = some .direct) ∧
      ((first.after ops).relay.isAttached = false ↔ ∃ before o later, ops = before ++ o :: later ∧
        (first.after before).Ends o ∧ ∀ i, .start i ∈ later → ¬ i.HandsOver) := by
    by_cases hended : (first.after ops).terminated = true
    · obtain ⟨before, o, later, heq, hends⟩ := exists_ends hl.open.1 hended
      obtain ⟨hook, hiff⟩ := hsplit heq hends
      refine ⟨hook, hiff.trans ⟨fun h => ⟨before, o, later, heq, hends, h⟩, ?_⟩⟩
      rintro ⟨before', o', later', heq', hends', h⟩
      obtain ⟨-, -, rfl⟩ := ends_unique (heq.symm.trans heq') hends hends'
      exact h
    · have hlive := guarded_after hl.plain hops (by simpa using hended) hguarded
      refine ⟨hlive.hook, iff_of_false (by simp [hlive.isAttached hw]) ?_⟩
      rintro ⟨before, o, later, rfl, hends, -⟩
      apply hended
      rw [after_append, after_cons]
      exact terminated_after hends.2 later
  obtain ⟨hook, hiff⟩ := hfinal
  exact ⟨hiff, fun kind => Relay.wake?_step hook hw kind, Relay.wake?_terminate hook hw⟩

/-! ## A session that is shut down at its first line -/

/-- A session that stops at its first line and is ended there, whereupon the debugger is installed
once more. -/
def sampleRestarted : List Op :=
  [.start .direct, .move .dispatch, .move (.line ⟨none⟩ sampleStack), .finish, .start .direct]

/-- The thread still waits, and the debugger that was installed since can release it. -/
theorem stranded_sampleRestarted :
    (sampleSession.after sampleRestarted).terminated = true ∧
    (sampleSession.after sampleRestarted).relay.native.tracer.Waits ∧
    (sampleSession.after sampleRestarted).relay.isAttached = true ∧
    ((sampleSession.after sampleRestarted).relay.step .resume).1.wake?.isSome = true := by
  have hops : ∀ o ∈ sampleRestarted, o.IsTraced := by
    simp [sampleRestarted, Op.IsTraced, Interpreter.direct]
  have hw : (sampleSession.after sampleRestarted).relay.native.tracer.Waits :=
    ⟨rfl, rfl, rfl⟩
  obtain ⟨-, hstep, -⟩ := stranded_iff isLaunch_sampleSession hops hw
  have ha : (sampleSession.after sampleRestarted).relay.isAttached = true := rfl
  exact ⟨rfl, hw, ha, (hstep .resume).trans ha⟩

/-- A shutdown at the first line strands its thread: no debugger is left to release it through, and
neither a step nor a request to end the run wakes it. -/
theorem stranded_after_shutdown : ∃ first ops, IsLaunch first ∧ (∀ o ∈ ops, Op.IsTraced o) ∧
    (first.after ops).relay.native.tracer.Waits ∧
    (first.after ops).relay.isAttached = false ∧
    ((first.after ops).relay.step .resume).1.wake? = none ∧
    (first.after ops).relay.terminate.1.wake? = none := by
  refine ⟨sampleSession, [.start .direct, .move (.line ⟨none⟩ sampleStack), .shutdown],
    isLaunch_sampleSession, by simp [Op.IsTraced, Interpreter.direct], ⟨?_, ?_, ?_⟩, ?_, ?_, ?_⟩
  · rfl
  · rfl
  · rfl
  · rfl
  · rfl
  · rfl

end Session

end DebugRelay
