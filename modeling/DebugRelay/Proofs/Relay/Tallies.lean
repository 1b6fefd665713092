import DebugRelay.Proofs.Relay.Convergence
import DebugRelay.Proofs.Tracer.Counting

/-!
# Stops over a run

A run without edits starts with the installation of the debugger, and goes on with any moves that
neither change the wanted breakpoints nor tell of them (`Relay.Tallied`). A `Tally` counts what
happens at one line: its stops for a breakpoint, and its checks, separately for each time the file
of the line was loaded. Loading a file plants its breakpoints anew, with all their hits still to be
ignored; so the tally of a run gives the stops as a sum over the loads (`Tallied.stops_eq`), and
what the counts and the one-shot flag of a breakpoint say holds between two loads of its file.
-/

namespace DebugRelay

/-- How many of the first `k` checks of a line stop the script, if nobody plants anew. -/
def Registry.stopsIn (g : Registry) (f : SourceFile) (n : UInt32) (k : Nat) : Nat :=
  (g.wanted? f n).elim 0 (·.stopsIn k)

theorem Registry.stopsIn_zero (g : Registry) (f : SourceFile) (n : UInt32) :
    g.stopsIn f n 0 = 0 := by
  unfold stopsIn Breakpoint.stopsIn
  cases g.wanted? f n <;> simp

/-- One more check is one more stop if the wanted breakpoint stops there. -/
theorem Registry.stopsIn_succ {g : Registry} {f : SourceFile} {n : UInt32} {k : Nat} {p : Prop}
    [Decidable p] (h : p ↔ ∃ b, g.wanted? f n = some b ∧ b.StopsAfter k) :
    g.stopsIn f n (k + 1) = g.stopsIn f n k + if p then 1 else 0 := by
  unfold stopsIn
  cases hw : g.wanted? f n with
  | none =>
    have hnot : ¬ p := by
      rw [h, hw]
      simp
    rw [if_neg hnot]
    rfl
  | some b =>
    have hiff : p ↔ b.StopsAfter k := by
      rw [h, hw]
      simp
    simp only [Option.elim_some, Breakpoint.stopsIn_succ, hiff]

/-- What happened at a line. -/
structure Tally where
  /-- The checks of the line since its file was last loaded. -/
  checks : Nat := 0
  /-- The checks between the loads before, latest first. -/
  earlier : List Nat := []
  /-- The stops for a breakpoint at the line. -/
  stops : Nat := 0

namespace Tally

/-- The tally after the file of the line was loaded. -/
def load (c : Tally) : Tally :=
  { c with checks := 0, earlier := c.checks :: c.earlier }

/-- The tally after a line was traced. -/
def line (c : Tally) (t : Tracer) (f : SourceFile) (n : UInt32) (stack : List Frame) : Tally where
  checks := if t.Checks f n stack then c.checks + 1 else c.checks
  earlier := c.earlier
  stops := if t.Stops f n stack then c.stops + 1 else c.stops

/-- The tally after a move. A frame of the file that runs already is no load. -/
def move (c : Tally) (r : Relay) (f : SourceFile) (n : UInt32) : Relay.Move → Tally
  | .enter g => if g = f ∧ r.native.tracer.currentFile ≠ some f then c.load else c
  | .line _ stack => c.line r.native.tracer f n stack
  | _ => c

end Tally

namespace Relay

/-- The states of a run without edits that starts by installing the debugger, with the tally of a
line. -/
inductive Tallied (start : Relay) (f : SourceFile) (n : UInt32) : Relay → Tally → Prop
  | setup : Tallied start f n (start.setup .direct).1 {}
  | move {r : Relay} {c : Tally} (m : Move) (hr : Tallied start f n r c) (hm : m.Quiet) :
      Tallied start f n (r.move m) (c.move r f n m)
  | step {r : Relay} {c : Tally} (kind : StepKind) (hr : Tallied start f n r c) :
      Tallied start f n (r.step kind).1 c

/-- The table at a line is what the checks since the latest load left of the wanted breakpoint, and
the stops are those that the checks of all loads account for. -/
structure Counting (g : Registry) (f : SourceFile) (n : UInt32) (r : Relay) (c : Tally) : Prop where
  live : r.Live
  hook : r.link.hook = some .direct
  registry : r.registry = g
  observed : r.native.tracer.observed = true
  quiet : ∀ e ∈ r.queue.waiting, e.file? = none
  planted : r.native.tracer.planted? f n =
    (g.wanted? f n).bind (Tracer.Planted.afterChecks · c.checks)
  stops : c.stops = ((c.checks :: c.earlier).map (g.stopsIn f n)).sum

variable {g : Registry} {f : SourceFile} {n : UInt32} {r : Relay} {c : Tally}

/-! ## Entering a file -/

theorem enterFrame_of_current (h : r.native.tracer.currentFile = some f) :
    r.enterFrame f = { r with native := { r.native with
      tracer := { r.native.tracer with depth := r.native.tracer.depth + 1 } } } := by
  simp only [enterFrame, Tracer.enter, h, if_true]

/-- Loading a file brings it in line, if someone listens to the tracer. -/
theorem enterFrame_of_load (hook : r.link.hook = some .direct)
    (hobserved : r.native.tracer.observed = true) (h : r.native.tracer.currentFile ≠ some f) :
    ∃ calls log, r.enterFrame f = { r with
      native := ⟨({ r.native.tracer with
          depth := r.native.tracer.depth + 1
          currentFile := some f
          loadPending := r.native.tracer.stopsAtLoad }.clearFile f).plantAll
        (r.registry.enabledOf f), calls⟩
      log := log } := by
  let entered : Tracer := { r.native.tracer with
    depth := r.native.tracer.depth + 1
    currentFile := some f
    loadPending := r.native.tracer.stopsAtLoad }
  have henter : r.native.tracer.enter f = (entered, some f) := by
    simp only [Tracer.enter, h, hobserved, if_false, if_true, entered]
  simp only [enterFrame, henter]
  exact reconcile_direct (r := { r with native := { r.native with tracer := entered } }) hook f

theorem observed_reconciled (t : Tracer) (f : SourceFile) (bs : List Breakpoint) :
    ((t.clearFile f).plantAll bs).observed = t.observed := by
  obtain ⟨table, htable⟩ := plantAll_eq (t.clearFile f) bs
  rw [htable]
  rfl

/-! ## One move -/

/-- After a step without edits only the table at the line and the stops are to be looked at. -/
theorem Counting.of_unedited {r' : Relay} {c' : Tally} (h : Counting g f n r c)
    (hr : r.Unedited r') (hobserved : r'.native.tracer.observed = r.native.tracer.observed)
    (hplanted : r'.native.tracer.planted? f n =
      (g.wanted? f n).bind (Tracer.Planted.afterChecks · c'.checks))
    (hstops : c'.stops = ((c'.checks :: c'.earlier).map (g.stopsIn f n)).sum) :
    Counting g f n r' c' where
  live := hr.live
  hook := hr.hook.trans h.hook
  registry := hr.registry.trans h.registry
  observed := hobserved.trans h.observed
  quiet e he := (hr.waiting e he).elim (h.quiet e) id
  planted := hplanted
  stops := hstops

/-- A step that leaves the table at the line alone keeps the tally. -/
theorem Counting.of_eq {r' : Relay} (h : Counting g f n r c) (hr : r.Unedited r')
    (hobserved : r'.native.tracer.observed = r.native.tracer.observed)
    (hplanted : r'.native.tracer.planted? f n = r.native.tracer.planted? f n) :
    Counting g f n r' c :=
  h.of_unedited hr hobserved (hplanted.trans h.planted) h.stops

/-- A load of the file plants the breakpoint anew, and the count of its checks starts again. -/
theorem Counting.load {r' : Relay} (h : Counting g f n r c) (hr : r.Unedited r')
    (hobserved : r'.native.tracer.observed = r.native.tracer.observed)
    (hplanted : r'.native.tracer.planted? f n = (g.wanted? f n).map .ofBreakpoint) :
    Counting g f n r' c.load := by
  apply h.of_unedited hr hobserved
  · rw [hplanted]
    exact Tracer.map_ofBreakpoint _
  · rw [Tally.load, List.map_cons, List.sum_cons, g.stopsIn_zero, Nat.zero_add]
    exact h.stops

theorem Counting.enter (h : Counting g f n r c) (hg : g.Sound) (k : SourceFile) :
    Counting g f n (r.move (.enter k)) (c.move r f n (.enter k)) := by
  have hquiet : r.Unedited (r.move (.enter k)) := h.live.quiet_move trivial
  rw [Tally.move]
  by_cases hcurrent : r.native.tracer.currentFile = some k
  -- the file runs already, so nothing is loaded
  · have henter : r.move (.enter k) = _ := enterFrame_of_current hcurrent
    rw [henter] at hquiet ⊢
    rw [if_neg]
    · exact h.of_eq hquiet rfl rfl
    · rintro ⟨rfl, hother⟩
      exact hother hcurrent
  · obtain ⟨calls, log, hload⟩ := enterFrame_of_load h.hook h.observed hcurrent
    have henter : r.move (.enter k) = _ := hload
    rw [henter] at hquiet ⊢
    have hplanted := fun t : Tracer => t.planted?_reconciled (h.registry ▸ hg) k f n
    by_cases hk : k = f
    · subst hk
      rw [if_pos ⟨rfl, hcurrent⟩]
      refine h.load hquiet (observed_reconciled _ k _) ?_
      rw [← h.registry]
      exact (hplanted _).trans (if_pos rfl)
    · rw [if_neg fun hf => hk hf.1]
      refine h.of_eq hquiet (observed_reconciled _ k _) ?_
      exact (hplanted _).trans (if_neg (Ne.symm hk))

theorem tracer_traceLine (r : Relay) (thread : Thread) (stack : List Frame) :
    (r.traceLine thread stack).1.native.tracer = (r.native.tracer.line stack).1 := by
  unfold traceLine
  cases r.native.tracer.line stack with
  | mk tracer verdict =>
    cases verdict with
    | passed outcome => rfl
    | stopped reason =>
      simp only
      split <;> rfl

theorem Counting.line (h : Counting g f n r c) (thread : Thread) (stack : List Frame) :
    Counting g f n (r.move (.line thread stack)) (c.line r.native.tracer f n stack) := by
  have hquiet : r.Unedited (r.move (.line thread stack)) := h.live.quiet_move trivial
  have htracer : (r.move (.line thread stack)).native.tracer = (r.native.tracer.line stack).1 :=
    r.tracer_traceLine thread stack
  have hobserved := r.native.tracer.observed_line stack
  by_cases hchecks : r.native.tracer.Checks f n stack
  · obtain ⟨hplanted, hstops⟩ := hchecks.line_of_wanted h.planted
    apply h.of_unedited hquiet (htracer ▸ hobserved)
    · rw [htracer, hplanted, Tally.line, if_pos hchecks]
    · simp only [Tally.line, if_pos hchecks, List.map_cons, List.sum_cons,
        Registry.stopsIn_succ hstops, h.stops]
      split <;> omega
  -- a line that is not checked neither stops for a breakpoint nor counts
  · have hstay : c.line r.native.tracer f n stack = c := by
      rw [Tally.line, if_neg hchecks, if_neg fun hstops => hchecks hstops.checks]
    rw [hstay]
    refine h.of_eq hquiet (htracer ▸ hobserved) ?_
    rw [htracer]
    exact Tracer.line_of_not_checks hchecks

theorem Counting.dispatch (h : Counting g f n r c) : Counting g f n (r.move .dispatch) c := by
  have hquiet := h.live.quiet_dispatch
  rcases h.live.dispatch_cases with ⟨-, hd⟩ | ⟨e, rest, s, stats, log, hw, hs, hd⟩
  · rw [hd]
    exact h
  · have he : e.file? = none := h.quiet e (hw ▸ List.mem_cons_self)
    obtain ⟨release, htracer⟩ := hs.tracer_eq (h.live.taken hw) he
    rw [hd] at hquiet ⊢
    refine h.of_eq hquiet ?_ ?_
    · exact (congrArg Tracer.observed htracer).trans rfl
    · exact (congrArg (·.planted? f n) htracer).trans rfl

theorem Counting.move (h : Counting g f n r c) (hg : g.Sound) {m : Move} (hm : m.Quiet) :
    Counting g f n (r.move m) (c.move r f n m) := by
  have hquiet := h.live.quiet_move hm
  cases m with
  | load => exact hm.elim
  | edit d => exact hm.elim
  | requestStep kind =>
    rw [Relay.move] at hquiet ⊢
    rcases requestStep_cases h.live.accepts kind with heq | heq
    · rw [heq]
      exact h
    · rw [heq] at hquiet ⊢
      exact h.of_eq hquiet rfl rfl
  | requestFrames =>
    rw [Relay.move, Relay.requestFrames, send_of_accepts h.live.accepts] at hquiet ⊢
    exact h.of_eq hquiet rfl rfl
  | enter k => exact h.enter hg k
  | leave => exact h.of_eq hquiet rfl rfl
  | line thread stack => exact h.line thread stack
  | wake =>
    rw [Relay.move] at hquiet ⊢
    rcases r.wake?_cases with ⟨heq, -⟩ | ⟨-, heq⟩ | ⟨mode, -, -, heq⟩
    · rw [heq]
      exact h
    · rw [heq] at hquiet ⊢
      exact h.of_eq hquiet rfl rfl
    · rw [heq] at hquiet ⊢
      exact h.of_eq hquiet rfl rfl
  | dispatch => exact h.dispatch

/-- Letting the script go on releases a parked thread, and counts nothing. -/
theorem Counting.step (h : Counting g f n r c) (kind : StepKind) :
    Counting g f n (r.step kind).1 c := by
  obtain ⟨calls, log, mode, hstep⟩ := step_direct h.hook h.live.accepts kind
  obtain ⟨release, hrelease⟩ := r.native.tracer.releaseIn_eq mode
  rw [hstep, hrelease]
  exact h.of_eq (.of_eq h.live rfl h.live.running rfl rfl rfl rfl (by simp [Event.file?])) rfl rfl

theorem counting_setup (hlive : r.Live) (hs : r.registry.Sound)
    (htable : r.native.tracer.table = ∅) (hq : ∀ e ∈ r.queue.waiting, e.file? = none) :
    Counting r.registry f n (r.setup .direct).1 {} := by
  have hlive' := hlive.setup
  obtain ⟨calls, log, hsetup⟩ := setup_direct r
  rw [hsetup] at hlive' ⊢
  obtain ⟨table, hplanted⟩ := plantAll_eq r.ready.native.tracer r.registry.enabled
  constructor
  case live => exact hlive'
  case hook => rfl
  case registry => rfl
  case observed => rw [hplanted]; rfl
  case quiet => exact hq
  case planted =>
    have hnone : r.ready.native.tracer.planted? f n = none := by
      change r.native.tracer.table.find? ⟨f, n⟩ = none
      rw [htable]
      rfl
    rw [Tracer.planted?_installed _ hs, hnone, Option.or_none]
    exact Tracer.map_ofBreakpoint _
  case stops => simp [Registry.stopsIn_zero]

/-- In a run without edits a line stops for a breakpoint as often as the wanted breakpoint there says
for the checks of each load of its file, all loads added up. The check that is due stops exactly if
the breakpoint says so for the checks since the latest load. -/
theorem Tallied.stops_eq {start : Relay} (hr : Tallied start f n r c) (hlive : start.Live)
    (hs : start.registry.Sound) (htable : start.native.tracer.table = ∅)
    (hq : ∀ e ∈ start.queue.waiting, e.file? = none) :
    c.stops = ((c.checks :: c.earlier).map (start.registry.stopsIn f n)).sum ∧
    ∀ stack, r.native.tracer.Checks f n stack →
      (r.native.tracer.Stops f n stack ↔
        ∃ b, start.registry.wanted? f n = some b ∧ b.StopsAfter c.checks) := by
  have hcounting : Counting start.registry f n r c := by
    induction hr with
    | setup => exact counting_setup hlive hs htable hq
    | move m _ hm ih => exact ih.move hs hm
    | step kind _ ih => exact ih.step kind
  exact ⟨hcounting.stops, fun stack h => (h.line_of_wanted hcounting.planted).2⟩

/-! ## A file that is loaded twice -/

/-- A temporary breakpoint at line 10 of `/a.py`. -/
def sampleTemporary : Breakpoint := ⟨sampleFile, some 10, none, 0, true, true, none⟩

/-- A session that wants it, before the debugger is installed. -/
def sampleWanting : Relay := ((started sampleParts).put sampleTemporary).1

/-- The stack at its line. -/
def sampleTop : List Frame := [.ofFile .zero sampleFile 10 ∅]

/-- The line is traced, and a stop there ends with the script going on. -/
def visit (r : Relay) : Relay := (((r.move (.line ⟨none⟩ sampleTop)).step .resume).1.move .wake)

/-- The file was entered and its line visited. -/
def sampleVisited : Relay := ((sampleWanting.setup .direct).1.move (.enter sampleFile)).visit

/-- After another file was entered and left, the file was entered and its line visited again. -/
def sampleRevisited : Relay :=
  (((sampleVisited.move (.enter sampleOther)).move .leave).move (.enter sampleFile)).visit

theorem Tallied.visit {start : Relay} (h : Tallied start f n r c) :
    Tallied start f n r.visit (c.line r.native.tracer f n sampleTop) :=
  .move .wake (.step .resume (.move (.line ⟨none⟩ sampleTop) h trivial)) trivial

theorem tallied_sampleVisited :
    Tallied sampleWanting sampleFile 10 sampleVisited ⟨1, [0], 1⟩ := by
  have hsetup := @Tallied.setup sampleWanting sampleFile 10
  have hvisit := (hsetup.move (.enter sampleFile) trivial).visit
  exact (by cbv : _ = (⟨1, [0], 1⟩ : Tally)) ▸ hvisit

theorem live_sampleWanting : sampleWanting.Live :=
  (live_started sampleParts).of_eq rfl ⟨{}, rfl⟩ rfl rfl fun _ he => Or.inl he

/-- The first visit is the one stop that a temporary breakpoint makes until the next load. -/
theorem stops_sampleVisited :
    sampleVisited.native.tracer.Checks sampleFile 10 sampleTop ∧
      ¬ sampleVisited.native.tracer.Stops sampleFile 10 sampleTop := by
  have hsound : sampleWanting.registry.Sound := Registry.sound_empty.put sampleTemporary
  have hq : ∀ e ∈ sampleWanting.queue.waiting, e.file? = none := by
    have hnil : sampleWanting.queue.waiting = [] := rfl
    simp [hnil]
  have hverdict : (sampleVisited.native.tracer.line sampleTop).2 = .passed .continue_ := by cbv
  have hchecks : sampleVisited.native.tracer.Checks sampleFile 10 sampleTop :=
    ⟨by cbv, by cbv, by simp [hverdict], by simp [hverdict]⟩
  refine ⟨hchecks, fun hstops => ?_⟩
  obtain ⟨-, hnext⟩ := tallied_sampleVisited.stops_eq live_sampleWanting hsound rfl hq
  obtain ⟨b, hb, hafter⟩ := (hnext sampleTop hchecks).1 hstops
  have hwanted : sampleWanting.registry.wanted? sampleFile 10 = some sampleTemporary := by cbv
  obtain rfl : sampleTemporary = b := Option.some.inj (hwanted.symm.trans hb)
  exact absurd hafter (by decide)

/-- Coming back from another file, the script stops at the temporary breakpoint a second time. -/
theorem stops_twice_sampleRevisited :
    sampleTemporary.temporary = true ∧
      sampleWanting.registry.wanted? sampleFile 10 = some sampleTemporary ∧
      Tallied sampleWanting sampleFile 10 sampleRevisited ⟨1, [1, 0], 2⟩ := by
  refine ⟨rfl, by cbv, ?_⟩
  have hother := tallied_sampleVisited.move (.enter sampleOther) trivial
  have hback := (hother.move .leave trivial).move (.enter sampleFile) trivial
  exact (by cbv : _ = (⟨1, [1, 0], 2⟩ : Tally)) ▸ hback.visit

end Relay

end DebugRelay
