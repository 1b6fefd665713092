import DebugRelay.Proofs.Relay.Effects

/-!
# Quitting

A `Scene` is a tracer with the threads that run lines under it: the visits of lines that are parked
in a stop, those that came back, and the stops that were reported. Its steps are the calls of the
engine and the commands, in any order and from anywhere, also between the report of a stop and the
wait for its release.

A request to quit is final: from then on nobody parks and no stop is reported, whoever is parked
comes back with `Outcome.quit`, and a visit that comes back is told to quit exactly if its stack is
at a line of a file (`quits_iff_at_line`). A visit of code without a file goes on
(`continue_inline`).
-/

namespace DebugRelay.Tracer

/-! ## A tracer that was told to quit -/

/-- What a line comes to once the script shall be aborted. -/
def aborted (stack : List Frame) : Outcome :=
  if (top? stack).isSome then .quit else .continue_

theorem aborted_eq_quit_iff (stack : List Frame) : aborted stack = .quit ↔ (top? stack).isSome := by
  unfold aborted
  cases (top? stack).isSome <;> simp

variable {t : Tracer}

theorem line_of_quitting (h : t.quitting = true) (stack : List Frame) :
    t.line stack = (t, .passed (aborted stack)) := by
  rcases t.line_cases stack with ⟨hl, htop⟩ | ⟨hl, -⟩ | ⟨f, n, -, hquit, -⟩
  · rw [hl, aborted, htop]
    rfl
  · cases htop : top? stack with
    | none =>
      rw [line, htop] at hl
      simp at hl
    | some place =>
      rw [hl, aborted, htop]
      rfl
  · rw [h] at hquit
    simp at hquit

theorem wake?_of_quitting (h : t.quitting = true) :
    t.wake? = some ({ t with suspended := false }, .quit) := by
  rw [wake?, if_pos h]

theorem quitting_enter (t : Tracer) (f : SourceFile) : (t.enter f).1.quitting = t.quitting := by
  unfold enter
  simp only
  split <;> rfl

/-- Only a line of a file stops. -/
theorem top?_of_stopped {stack : List Frame} {reason : StopReason}
    (h : (t.line stack).2 = .stopped reason) : (top? stack).isSome := by
  rcases t.line_cases stack with ⟨hl, -⟩ | ⟨hl, -⟩ | ⟨f, n, htop, -⟩
  · rw [hl] at h
    simp at h
  · rw [hl] at h
    simp at h
  · rw [htop]
    rfl

/-! ## Threads under a tracer -/

/-- A thread is about to run the line at the top of a stack. -/
structure Visit where
  thread : Nat
  stack : List Frame

/-- A tracer with the visits made to it. -/
structure Scene where
  tracer : Tracer := {}
  /-- The visits that are parked in a stop. -/
  parked : List Visit := []
  /-- The visits that came back, with what they came to. -/
  returned : List (Visit × Outcome) := []
  /-- The stops that were reported. -/
  reported : List (Visit × StopReason) := []

namespace Scene

/-- Something that is done to a tracer. -/
inductive Deed where
  /-- Someone listens from now on. -/
  | attach
  | enter (f : SourceFile)
  | leave
  /-- A thread visits a line, up to coming back or parking. A thread that is parked cannot. -/
  | line (v : Visit)
  /-- A parked thread looks whether it may go on. -/
  | wake (thread : Nat)
  | command (c : Command)

/-- The scene after a deed. -/
def act (s : Scene) : Deed → Scene
  | .attach => { s with tracer := { s.tracer with observed := true } }
  | .enter f => { s with tracer := (s.tracer.enter f).1 }
  | .leave => { s with tracer := s.tracer.leave }
  | .line v =>
    if s.parked.any fun w => w.thread = v.thread then s
    else
      match s.tracer.line v.stack with
      | (t, .passed outcome) => { s with tracer := t, returned := s.returned ++ [(v, outcome)] }
      | (t, .stopped reason) =>
        { s with
          tracer := t
          parked := s.parked ++ [v]
          reported := if t.observed then s.reported ++ [(v, reason)] else s.reported }
  | .wake thread =>
    match s.parked.find? fun w => w.thread = thread with
    | none => s
    | some v =>
      match s.tracer.wake? with
      | none => s
      | some (t, outcome) =>
        { s with
          tracer := t
          parked := s.parked.filter fun w => w.thread ≠ thread
          returned := s.returned ++ [(v, outcome)] }
  | .command c => { s with tracer := (s.tracer.invoke c).1 }

/-- The scene after a list of deeds, the first of them done first. -/
def after (s : Scene) (deeds : List Deed) : Scene := deeds.foldl act s

@[simp]
theorem after_nil (s : Scene) : s.after [] = s := rfl

@[simp]
theorem after_cons (s : Scene) (d : Deed) (deeds : List Deed) :
    s.after (d :: deeds) = (s.act d).after deeds := rfl

theorem after_append (s : Scene) (deeds more : List Deed) :
    s.after (deeds ++ more) = (s.after deeds).after more :=
  List.foldl_append

/-- No thread is parked twice, and whoever is parked stopped at a line of a file. -/
structure Orderly (s : Scene) : Prop where
  apart : s.parked.Pairwise fun v w => v.thread ≠ w.thread
  placed : ∀ v ∈ s.parked, (top? v.stack).isSome

theorem orderly_new : Orderly {} := ⟨List.Pairwise.nil, by simp⟩

variable {s u : Scene}

/-- A visit that is parked is the one that its thread is found in. -/
theorem Orderly.find?_parked (h : s.Orderly) {v : Visit} (hv : v ∈ s.parked) :
    s.parked.find? (fun w => decide (w.thread = v.thread)) = some v := by
  obtain ⟨before, rest, heq⟩ := List.append_of_mem hv
  have hbefore : ∀ w ∈ before, w.thread ≠ v.thread := by
    intro w hw
    have hapart := heq ▸ h.apart
    exact (List.pairwise_append.1 hapart).2.2 w hw v List.mem_cons_self
  rw [heq, List.find?_append, List.find?_eq_none.2 (by simpa using hbefore)]
  simp

/-- The other parked visits stay when a thread goes. -/
theorem Orderly.mem_filter_parked (h : s.Orderly) {v w : Visit} (hv : v ∈ s.parked)
    (hw : w ∈ s.parked) : w = v ∨ w ∈ s.parked.filter fun x => decide (x.thread ≠ v.thread) := by
  by_cases hthread : w.thread = v.thread
  · left
    have hfound := h.find?_parked hw
    rw [hthread, h.find?_parked hv] at hfound
    exact (Option.some.inj hfound).symm
  · right
    exact List.mem_filter.2 ⟨hw, by simpa using hthread⟩

theorem Orderly.act (h : s.Orderly) (d : Deed) : (s.act d).Orderly := by
  cases d with
  | attach => exact ⟨h.apart, h.placed⟩
  | enter f => exact ⟨h.apart, h.placed⟩
  | leave => exact ⟨h.apart, h.placed⟩
  | command c => exact ⟨h.apart, h.placed⟩
  | line v =>
    simp only [Scene.act]
    split
    · exact h
    · next hfree =>
      split
      · exact ⟨h.apart, h.placed⟩
      -- the thread that parks was not parked before
      · next t reason hline =>
        have hstop : (s.tracer.line v.stack).2 = .stopped reason := by rw [hline]
        have hothers : ∀ w ∈ s.parked, w.thread ≠ v.thread := by simpa using hfree
        constructor
        · refine List.pairwise_append.2 ⟨h.apart, List.pairwise_singleton _ v, ?_⟩
          intro w hw x hx
          rw [List.mem_singleton.1 hx]
          exact hothers w hw
        · intro w hw
          rcases List.mem_append.1 hw with hw | hw
          · exact h.placed w hw
          · rw [List.mem_singleton.1 hw]
            exact top?_of_stopped hstop
  | wake thread =>
    simp only [Scene.act]
    split
    · exact h
    · split
      · exact h
      · exact ⟨h.apart.filter _, fun w hw => h.placed w (List.mem_filter.1 hw).1⟩

theorem Orderly.after (h : s.Orderly) (deeds : List Deed) : (s.after deeds).Orderly := by
  induction deeds generalizing s with
  | nil => exact h
  | cons d rest ih => exact ih (h.act d)

/-! ## After a request to quit -/

/-- What becomes of a scene whose tracer was told to quit, with the visits that came back
meanwhile. -/
structure Quits (s u : Scene) (back : List (Visit × Outcome)) : Prop where
  quitting : u.tracer.quitting = true
  returned : u.returned = s.returned ++ back
  reported : u.reported = s.reported
  parked : ∀ v ∈ u.parked, v ∈ s.parked
  left : ∀ v ∈ s.parked, v ∈ u.parked ∨ (v, .quit) ∈ back
  outcome : ∀ p ∈ back, p.2 = aborted p.1.stack

theorem Quits.refl (h : s.tracer.quitting = true) : s.Quits s [] where
  quitting := h
  returned := (List.append_nil _).symm
  reported := rfl
  parked _ hv := hv
  left _ hv := Or.inl hv
  outcome := by simp

/-- A deed that changes nothing but the tracer. -/
theorem quits_of_tracer {t : Tracer} (h : t.quitting = true) :
    s.Quits { s with tracer := t } [] where
  quitting := h
  returned := (List.append_nil _).symm
  reported := rfl
  parked _ hv := hv
  left _ hv := Or.inl hv
  outcome := by simp

theorem Quits.trans {w : Scene} {back more : List (Visit × Outcome)} (h : s.Quits u back)
    (h' : u.Quits w more) : s.Quits w (back ++ more) where
  quitting := h'.quitting
  returned := by rw [h'.returned, h.returned, List.append_assoc]
  reported := h'.reported.trans h.reported
  parked v hv := h.parked v (h'.parked v hv)
  left v hv := by
    rcases h.left v hv with hv | hv
    · exact (h'.left v hv).imp_right (List.mem_append_right back)
    · exact Or.inr (List.mem_append_left more hv)
  outcome p hp := (List.mem_append.1 hp).elim (h.outcome p) (h'.outcome p)

/-- A visit comes back at once. -/
theorem act_line_of_quitting (h : s.tracer.quitting = true) {v : Visit}
    (hfree : ∀ w ∈ s.parked, w.thread ≠ v.thread) :
    s.act (.line v) = { s with returned := s.returned ++ [(v, aborted v.stack)] } := by
  have hnone : ¬ (s.parked.any fun w => decide (w.thread = v.thread)) = true := by simpa using hfree
  simp only [act, hnone, if_false, line_of_quitting h, Bool.false_eq_true]

/-- A parked thread comes back as soon as it looks. -/
theorem act_wake_of_quitting (h : s.tracer.quitting = true) {v : Visit} {thread : Nat}
    (hv : (s.parked.find? fun w => decide (w.thread = thread)) = some v) :
    s.act (.wake thread) = { s with
      tracer := { s.tracer with suspended := false }
      parked := s.parked.filter fun w => decide (w.thread ≠ thread)
      returned := s.returned ++ [(v, .quit)] } := by
  simp only [act, hv, wake?_of_quitting h]

theorem Orderly.quits_act (hs : s.Orderly) (h : s.tracer.quitting = true) (d : Deed) :
    ∃ back, s.Quits (s.act d) back := by
  cases d with
  | attach => exact ⟨[], quits_of_tracer h⟩
  | enter f => exact ⟨[], quits_of_tracer ((quitting_enter _ f).trans h)⟩
  | leave => exact ⟨[], quits_of_tracer h⟩
  | command c => exact ⟨[], quits_of_tracer (quitting_invoke h c)⟩
  | line v =>
    by_cases hfree : ∀ w ∈ s.parked, w.thread ≠ v.thread
    · rw [act_line_of_quitting h hfree]
      refine ⟨[(v, aborted v.stack)], h, rfl, rfl, fun _ hw => hw, fun _ hw => Or.inl hw, ?_⟩
      intro p hp
      rw [List.mem_singleton.1 hp]
    · have hbusy : (s.parked.any fun w => decide (w.thread = v.thread)) = true := by
        simpa using hfree
      refine ⟨[], ?_⟩
      simp only [Scene.act, hbusy, if_true]
      exact .refl h
  | wake thread =>
    cases hv : s.parked.find? fun w => decide (w.thread = thread) with
    | none =>
      refine ⟨[], ?_⟩
      simp only [Scene.act, hv]
      exact .refl h
    | some v =>
      have hmem : v ∈ s.parked := List.mem_of_find?_eq_some hv
      have hthread : v.thread = thread := by simpa using List.find?_some hv
      rw [act_wake_of_quitting h hv]
      refine ⟨[(v, .quit)], h, rfl, rfl, fun w hw => (List.mem_filter.1 hw).1, ?_, ?_⟩
      · intro w hw
        rcases hs.mem_filter_parked hmem hw with rfl | hw
        · exact Or.inr (List.mem_singleton.2 rfl)
        · rw [hthread] at hw
          exact Or.inl hw
      -- it was parked at a line of a file
      · intro p hp
        rw [List.mem_singleton.1 hp]
        exact ((aborted_eq_quit_iff v.stack).2 (hs.placed v hmem)).symm

theorem Orderly.quits_after (hs : s.Orderly) (h : s.tracer.quitting = true) (deeds : List Deed) :
    ∃ back, s.Quits (s.after deeds) back := by
  induction deeds generalizing s with
  | nil => exact ⟨[], .refl h⟩
  | cons d rest ih =>
    obtain ⟨back, hd⟩ := hs.quits_act h d
    obtain ⟨more, hrest⟩ := ih (hs.act d) hd.quitting
    exact ⟨back ++ more, hd.trans hrest⟩

/-- The scene of a new tracer when it is told to quit after some deeds. -/
def told (before : List Deed) : Scene := ({} : Scene).after (before ++ [.command .quit])

theorem orderly_told (before : List Deed) : (told before).Orderly := orderly_new.after _

theorem quitting_told (before : List Deed) : (told before).tracer.quitting = true := by
  rw [told, after_append]
  rfl

/-- After a request to quit, whatever happened before and happens since, no stop is reported and
nobody parks; whoever was parked then came back with the order to quit or still is parked and comes
back with it; and a visit, of those that came back and of those still to come, is told to quit
exactly if its stack is at a line of a file. -/
theorem quits_iff_at_line (before since : List Deed) :
    (∃ back, ((told before).after since).returned = (told before).returned ++ back ∧
      ((told before).after since).reported = (told before).reported ∧
      (∀ v ∈ ((told before).after since).parked, v ∈ (told before).parked) ∧
      (∀ v ∈ (told before).parked,
        v ∈ ((told before).after since).parked ∨ (v, .quit) ∈ back) ∧
      ∀ p ∈ back, p.2 = .quit ↔ (top? p.1.stack).isSome) ∧
    (∀ v ∈ ((told before).after since).parked,
      (((told before).after since).act (.wake v.thread)).returned =
        ((told before).after since).returned ++ [(v, .quit)]) ∧
    ∀ v, (∀ w ∈ ((told before).after since).parked, w.thread ≠ v.thread) →
      ((told before).after since).act (.line v) = { (told before).after since with
        returned := ((told before).after since).returned ++
          [(v, if (top? v.stack).isSome then .quit else .continue_)] } := by
  obtain ⟨back, h⟩ := (orderly_told before).quits_after (quitting_told before) since
  have hs : ((told before).after since).Orderly := (orderly_told before).after since
  refine ⟨⟨back, h.returned, h.reported, h.parked, h.left, ?_⟩, ?_, ?_⟩
  · intro p hp
    rw [h.outcome p hp]
    exact aborted_eq_quit_iff p.1.stack
  · intro v hv
    rw [act_wake_of_quitting h.quitting (hs.find?_parked hv)]
  · intro v hfree
    exact act_line_of_quitting h.quitting hfree

/-! ## A thread that is parked, and code without a file -/

/-- The first line of a file. -/
def sampleLine : Visit := ⟨0, [.ofFile .zero ⟨[]⟩ 1 ∅]⟩

/-- A line of code without a file. -/
def sampleInline : Visit := ⟨0, [⟨"<string>", 1, ∅, ⟨.zero, .inline "pass"⟩⟩]⟩

/-- A thread parks at the first line, and is told to quit from the report of its stop. -/
def sampleBefore : List Deed :=
  [.attach, .command (.suspendOnStartup true), .enter ⟨[]⟩, .line sampleLine]

theorem quits_sampleBefore :
    sampleLine ∈ (told sampleBefore).parked ∧
    ((told sampleBefore).act (.wake 0)).returned = [(sampleLine, .quit)] ∧
    (((told sampleBefore).after [.wake 0, .command .stepInto]).act (.line sampleLine)).returned =
      [(sampleLine, .quit), (sampleLine, .quit)] := by
  have hparked : sampleLine ∈ ((told sampleBefore).after []).parked := List.mem_cons_self
  obtain ⟨-, hwake, -⟩ := quits_iff_at_line sampleBefore []
  obtain ⟨-, -, hline⟩ := quits_iff_at_line sampleBefore [.wake 0, .command .stepInto]
  refine ⟨hparked, hwake sampleLine hparked, ?_⟩
  rw [hline sampleLine (fun w hw => absurd hw List.not_mem_nil)]
  rfl

/-- A tracer that was told to quit lets code without a file go on. -/
theorem continue_inline :
    ((told []).act (.line sampleInline)).returned = [(sampleInline, .continue_)] := rfl

end Scene

end DebugRelay.Tracer
