import DebugRelay.Proofs.Relay.Convergence
import Mathlib.Logic.Function.Basic

/-!
# Reconciliations that overtake each other

The dispatch loop and the interpreter both bring files in line, each in several steps: a file is
cleared, the registry is read, and the breakpoints that were read are set one by one. `Race` is a
relay in which two threads take such steps in any order while the IDE edits the registry. Alone, a
thread does what `reconcile` does (`complete_clear`).

A thread that sets a breakpoint which an edit has taken out of the registry since it was read leaves
a *late* line behind. Late lines are all that can go wrong: once both threads are done and no event
about a breakpoint waits, the lines of a file are those that the registry wants exactly if it wants
the late lines of the file, too. But they do go wrong: `sampleLate` ends with a late line that the
registry does not want.
-/

namespace DebugRelay.Relay

/-! ## Bringing breakpoints in line, step by step -/

/-- What a thread still has to do to bring breakpoints in line. -/
inductive Task where
  /-- To clear a file, to read what is wanted in it, and to set that. -/
  | clear (f : SourceFile)
  /-- To read what is wanted in a file, and to set that. -/
  | read (f : SourceFile)
  /-- To read all that is wanted, and to set that. -/
  | readAll
  /-- To set breakpoints; without any, the thread is done. -/
  | set (bs : List Breakpoint)

namespace Task

/-- One step of a thread. -/
def advance (r : Relay) : Task → Relay × Task
  | clear f => ((r.clearFile f).1, read f)
  | read f => (r, set (r.registry.enabledOf f))
  | readAll => (r, set r.registry.enabled)
  | set [] => (r, set [])
  | set (b :: bs) => ((r.setBreakpoint b).1, set bs)

/-- The relay after a task that nothing interrupts. -/
def complete (r : Relay) : Task → Relay
  | clear f => ((r.clearFile f).1.setBreakpoints ((r.clearFile f).1.registry.enabledOf f)).1
  | read f => (r.setBreakpoints (r.registry.enabledOf f)).1
  | readAll => r.installAll.1
  | set bs => (r.setBreakpoints bs).1

theorem complete_advance (r : Relay) (t : Task) :
    (t.advance r).2.complete (t.advance r).1 = t.complete r := by
  cases t with
  | clear f => rfl
  | read f => rfl
  | readAll => rfl
  | set bs => cases bs <;> rfl

/-- Uninterrupted, the steps that start with clearing a file reconcile it. -/
theorem complete_clear {r : Relay} (h : r.isAttached = true) (f : SourceFile) :
    (clear f).complete r = (r.reconcile f).1 := by
  rw [complete, reconcile, if_pos h]

/-- The thread is about to clear a file. -/
def Clears : Task → SourceFile → Prop
  | clear g, f => g = f
  | read _, _ | readAll, _ | set _, _ => False

/-- The thread is still to read what is wanted in a file. -/
def Reads : Task → SourceFile → Prop
  | clear g, f | read g, f => g = f
  | readAll, _ => True
  | set _, _ => False

theorem Clears.reads {t : Task} {f : SourceFile} (h : t.Clears f) : t.Reads f := by
  cases t with
  | clear g => exact h
  | read g => exact h.elim
  | readAll => exact h.elim
  | set bs => exact h.elim

/-- The breakpoints that the thread has read and is to set. -/
def pending : Task → List Breakpoint
  | set bs => bs
  | clear _ | read _ | readAll => []

end Task

/-- The threads that bring breakpoints in line. -/
inductive Side where
  | dispatcher
  | interpreter
  deriving DecidableEq

/-- A relay while two threads bring breakpoints in line. -/
structure Race where
  relay : Relay
  task : Side → Task
  /-- The lines that were set although the registry did not want them any more, and that were
  neither cleared nor set again since. -/
  late : List Tracer.Spot

namespace Race

/-- The late lines after a step of a thread. -/
def lateAfter (r : Relay) (late : List Tracer.Spot) : Task → List Tracer.Spot
  | .clear f => late.filter fun p => p.file ≠ f
  | .set (b :: _) =>
    match b.line with
    | some n =>
      if (r.registry.wanted? b.file n).isSome then late.filter fun p => p ≠ ⟨b.file, n⟩
      else ⟨b.file, n⟩ :: late
    | none => late
  | .read _ | .readAll | .set [] => late

/-- A thread takes a step. -/
def run (s : Race) (side : Side) : Race where
  relay := ((s.task side).advance s.relay).1
  task := Function.update s.task side ((s.task side).advance s.relay).2
  late := lateAfter s.relay s.late (s.task side)

/-- The dispatch loop takes an event, if it is not at work. An event about a breakpoint makes it
bring the file in line; another one is consumed at once. -/
def dispatch (s : Race) : Race :=
  match s.task .dispatcher, s.relay.queue.waiting with
  | .set [], e :: rest =>
    match e.file? with
    | some f =>
      { s with
        relay := s.relay.taken rest
        task := Function.update s.task .dispatcher (.clear f) }
    | none => { s with relay := (s.relay.taken rest).consume e }
  | _, _ => s

/-- The interpreter is about to run a file, and brings it in line first. -/
def load (s : Race) (f : SourceFile) : Race :=
  match s.task .interpreter with
  | .set [] => { s with task := Function.update s.task .interpreter (.clear f) }
  | _ => s

/-- One atomic step of a race. -/
inductive Move where
  /-- The IDE edits its breakpoints. -/
  | edit (d : Edit)
  | dispatch
  | load (f : SourceFile)
  | run (side : Side)

/-- The race after a step. -/
def move (s : Race) : Move → Race
  | .edit d => { s with relay := s.relay.edit d }
  | .dispatch => s.dispatch
  | .load f => s.load f
  | .run side => s.run side

/-- A setup has installed the debugger, and the interpreter is about to set all breakpoints. -/
def start (r : Relay) : Race where
  relay := r.ready
  task side := if side = .interpreter then .readAll else .set []
  late := []

/-- Edits announce the files that they touch. -/
def Admits (s : Race) : Move → Prop
  | .edit d => s.relay.Announces d
  | .dispatch | .load _ | .run _ => True

/-- The states of a race, which begins within the setup of a session and goes on after it. -/
inductive Reaches (parts : Parts) : Race → Prop
  | start {r : Relay} (hr : Relay.Reaches parts r) (hd : r.isAttached = false) :
      Reaches parts (start r)
  | move {s : Race} (m : Move) (hs : Reaches parts s) (hm : s.Admits m) : Reaches parts (s.move m)

/-! ## What is missing and what is left over -/

/-- A file is going to be cleared: an event about it waits, or a thread is about to do so. -/
def WillClear (s : Race) (f : SourceFile) : Prop :=
  (∃ e ∈ s.relay.queue.waiting, e.file? = some f) ∨ ∃ side, (s.task side).Clears f

/-- What is wanted in a file is going to be read. -/
def WillRead (s : Race) (f : SourceFile) : Prop :=
  (∃ e ∈ s.relay.queue.waiting, e.file? = some f) ∨ ∃ side, (s.task side).Reads f

/-- A line of a file is going to be set. -/
def WillSet (s : Race) (f : SourceFile) (n : UInt32) : Prop :=
  ∃ side, ∃ b ∈ (s.task side).pending, b.location = ⟨f, some n⟩

/-- Wanted lines that are not in the table are on their way, and lines in the table that are not
wanted are late or about to be cleared. -/
structure Racing (s : Race) : Prop where
  live : s.relay.Live
  sound : s.relay.registry.Sound
  wants : s.relay.registry.Lasting
  attached : s.relay.link.hook = some .direct
  enabled : ∀ side, ∀ b ∈ (s.task side).pending, b.enabled = true
  planted : ∀ p ∈ s.late, (s.relay.native.tracer.planted? p.file p.line).isSome
  coming : ∀ f n, (s.relay.registry.wanted? f n).isSome →
    s.WillRead f ∨ s.WillSet f n ∨ (s.relay.native.tracer.planted? f n).isSome
  going : ∀ f n, (s.relay.native.tracer.planted? f n).isSome →
    s.WillClear f ∨ (s.relay.registry.wanted? f n).isSome ∨ ⟨f, n⟩ ∈ s.late

variable {s : Race}

theorem racing_start {r : Relay} (h : r.Converging) (hd : r.isAttached = false) :
    (start r).Racing := by
  have hempty := h.empty (by simpa [isAttached] using hd)
  have hnone : ∀ f n, (start r).relay.native.tracer.planted? f n = none :=
    fun f n => Option.map_eq_none_iff.1 (hempty f n)
  constructor
  case live => exact ⟨h.live.consumers, h.live.running, h.live.accepts, Or.inr rfl, h.live.unending⟩
  case sound => exact h.sound
  case wants => exact h.wants
  case attached => rfl
  case enabled => intro side; cases side <;> simp [start, Task.pending]
  case planted => simp [start]
  -- the interpreter is about to read everything
  case coming => exact fun f n _ => Or.inl (Or.inr ⟨.interpreter, trivial⟩)
  case going => intro f n hp; simp [hnone] at hp

theorem Racing.edit (h : s.Racing) (d : Edit) (hd : s.relay.Announces d) :
    (s.move (.edit d)).Racing := by
  obtain ⟨registry, announced, log, he⟩ := edited_edit h.sound h.wants h.live.accepts d
  have hlive := he.live h.live
  have hcovers := he.covers hd
  have hmore : ∀ {f}, (∃ e ∈ s.relay.queue.waiting, e.file? = some f) →
      ∃ e ∈ s.relay.queue.waiting ++ announced, e.file? = some f :=
    fun ⟨e, hmem, hf⟩ => ⟨e, List.mem_append_left _ hmem, hf⟩
  rw [move]
  rw [he.eq] at hlive ⊢
  constructor
  case live => exact hlive
  case sound => exact he.sound
  case wants => exact he.lasting
  case attached => exact h.attached
  case enabled => exact h.enabled
  case planted => exact h.planted
  case coming =>
    intro f n hn
    -- a file whose entries change has an event that waits from now on
    rcases hcovers f with hsame | ⟨e, hmem, hf⟩
    · rw [hsame.wanted?] at hn
      exact (h.coming f n hn).imp_left (Or.imp_left hmore)
    · exact Or.inl (Or.inl ⟨e, List.mem_append_right _ hmem, hf⟩)
  case going =>
    intro f n hn
    rcases hcovers f with hsame | ⟨e, hmem, hf⟩
    · have hgoing := (h.going f n hn).imp_left (Or.imp_left hmore)
      rw [← hsame.wanted?] at hgoing
      exact hgoing
    · exact Or.inl (Or.inl ⟨e, List.mem_append_right _ hmem, hf⟩)

/-- What holds of some thread holds of the thread that gets another task, or of some thread
afterwards. -/
theorem exists_or_update {P : Task → Prop} {tasks : Side → Task} (side : Side) (t : Task)
    (h : ∃ x, P (tasks x)) : P (tasks side) ∨ ∃ x, P (Function.update tasks side t x) := by
  obtain ⟨x, hx⟩ := h
  by_cases hside : x = side
  · exact Or.inl (hside ▸ hx)
  · exact Or.inr ⟨x, by rwa [Function.update_of_ne hside]⟩

theorem exists_update {P : Task → Prop} (tasks : Side → Task) (side : Side) {t : Task} (h : P t) :
    ∃ x, P (Function.update tasks side t x) :=
  ⟨side, by rwa [Function.update_self]⟩

/-- When one thread gets another task, what the former one stood for is taken over or done: lines
that were to be read or set are so or are in the table, and a file that was to be cleared is so or
has no lines. The relay becomes `r`, with the late lines `late`. -/
structure TakesOver (s : Race) (side : Side) (t : Task) (r : Relay) (late : List Tracer.Spot) :
    Prop where
  live : r.Live
  registry : r.registry = s.relay.registry
  hook : r.link.hook = s.relay.link.hook
  enabled : ∀ b ∈ t.pending, b.enabled = true
  planted : ∀ p ∈ late, (r.native.tracer.planted? p.file p.line).isSome
  events : ∀ f, (∃ e ∈ s.relay.queue.waiting, e.file? = some f) →
    (∃ e ∈ r.queue.waiting, e.file? = some f) ∨ t.Clears f
  reads : ∀ f n, (s.task side).Reads f → (s.relay.registry.wanted? f n).isSome →
    t.Reads f ∨ ∃ b ∈ t.pending, b.location = ⟨f, some n⟩
  sets : ∀ f n, (∃ b ∈ (s.task side).pending, b.location = ⟨f, some n⟩) →
    (∃ b ∈ t.pending, b.location = ⟨f, some n⟩) ∨ (r.native.tracer.planted? f n).isSome
  clears : ∀ f n, (s.task side).Clears f → t.Clears f ∨ r.native.tracer.planted? f n = none
  kept : ∀ f n, (s.relay.native.tracer.planted? f n).isSome →
    t.Reads f ∨ (r.native.tracer.planted? f n).isSome
  /-- What is in the table is wanted, or late, or was there before and was not late. -/
  fresh : ∀ f n, (r.native.tracer.planted? f n).isSome →
    (s.relay.registry.wanted? f n).isSome ∨ ⟨f, n⟩ ∈ late ∨
      (s.relay.native.tracer.planted? f n).isSome ∧ ⟨f, n⟩ ∉ s.late

theorem Racing.of_takesOver (h : s.Racing) {side : Side} {t : Task} {r : Relay}
    {late : List Tracer.Spot} (ht : s.TakesOver side t r late) :
    Racing ⟨r, Function.update s.task side t, late⟩ where
  live := ht.live
  sound := ht.registry ▸ h.sound
  wants := ht.registry ▸ h.wants
  attached := ht.hook.trans h.attached
  enabled := by
    intro x b hb
    by_cases hx : x = side
    · subst hx
      change b ∈ (Function.update s.task x t x).pending at hb
      rw [Function.update_self] at hb
      exact ht.enabled b hb
    · change b ∈ (Function.update s.task side t x).pending at hb
      rw [Function.update_of_ne hx] at hb
      exact h.enabled x b hb
  planted := ht.planted
  coming := by
    intro f n hn
    have hn' : (s.relay.registry.wanted? f n).isSome := ht.registry ▸ hn
    have hread : t.Reads f → WillRead ⟨r, Function.update s.task side t, late⟩ f :=
      fun h => Or.inr (exists_update s.task side (P := (·.Reads f)) h)
    have hset : (∃ b ∈ t.pending, b.location = ⟨f, some n⟩) →
        WillSet ⟨r, Function.update s.task side t, late⟩ f n :=
      fun h => exists_update s.task side
        (P := fun t => ∃ b ∈ t.pending, b.location = ⟨f, some n⟩) h
    rcases h.coming f n hn' with (he | hr) | hw | hp
    -- an event about the file waits, or is the one that the new task is about
    · rcases ht.events f he with he | hc
      · exact Or.inl (Or.inl he)
      · exact Or.inl (hread hc.reads)
    -- a thread is to read the file: the one with the new task, or the other one
    · rcases exists_or_update (P := (·.Reads f)) side t hr with hold | hr
      · exact (ht.reads f n hold hn').imp hread fun h => Or.inl (hset h)
      · exact Or.inl (Or.inr hr)
    -- a thread is to set the line
    · rcases exists_or_update (P := fun t => ∃ b ∈ t.pending, b.location = ⟨f, some n⟩) side t hw
        with hold | hw
      · exact Or.inr ((ht.sets f n hold).imp_left hset)
      · exact Or.inr (Or.inl hw)
    · exact (ht.kept f n hp).imp hread Or.inr
  going := by
    intro f n hp
    have hclear : t.Clears f → WillClear ⟨r, Function.update s.task side t, late⟩ f :=
      fun h => Or.inr (exists_update s.task side (P := (·.Clears f)) h)
    rw [ht.registry]
    rcases ht.fresh f n hp with hn | hl | ⟨hold, hnot⟩
    · exact Or.inr (Or.inl hn)
    · exact Or.inr (Or.inr hl)
    · rcases h.going f n hold with (he | hc) | hn | hl
      · exact Or.inl ((ht.events f he).elim Or.inl hclear)
      · rcases exists_or_update (P := (·.Clears f)) side t hc with hc | hc
        -- the thread was to clear the file, and it has, but the line is in the table
        · rcases ht.clears f n hc with hc | hnone
          · exact Or.inl (hclear hc)
          · rw [hnone] at hp
            simp at hp
        · exact Or.inl (Or.inr hc)
      · exact Or.inr (Or.inl hn)
      · exact absurd hl hnot

/-- A line that was in the table is late, or was not late. -/
theorem late_or_not (late : List Tracer.Spot) {p : Tracer.Spot} {P Q : Prop} (hq : Q) :
    P ∨ p ∈ late ∨ Q ∧ p ∉ late := by
  by_cases hl : p ∈ late
  · exact Or.inr (Or.inl hl)
  · exact Or.inr (Or.inr ⟨hq, hl⟩)

/-- A thread that is done starts to bring a file in line, with or without an event about it. -/
theorem Racing.of_idle (h : s.Racing) {side : Side} (hidle : s.task side = .set []) {r : Relay}
    {f : SourceFile} (hlive : r.Live) (hreg : r.registry = s.relay.registry)
    (hhook : r.link.hook = s.relay.link.hook) (htracer : r.native.tracer = s.relay.native.tracer)
    (hevents : ∀ g, (∃ e ∈ s.relay.queue.waiting, e.file? = some g) →
      (∃ e ∈ r.queue.waiting, e.file? = some g) ∨ f = g) :
    Racing ⟨r, Function.update s.task side (.clear f), s.late⟩ := by
  refine h.of_takesOver ?_
  constructor
  case live => exact hlive
  case registry => exact hreg
  case hook => exact hhook
  case enabled => simp [Task.pending]
  case planted => rw [htracer]; exact h.planted
  case events => exact hevents
  case reads =>
    intro g n hr
    rw [hidle] at hr
    exact hr.elim
  case sets =>
    intro g n hw
    rw [hidle] at hw
    simp [Task.pending] at hw
  case clears =>
    intro g n hc
    rw [hidle] at hc
    exact hc.elim
  case kept =>
    intro g n hp
    rw [htracer]
    exact Or.inr hp
  case fresh =>
    intro g n hp
    rw [htracer] at hp
    exact late_or_not s.late hp

theorem Racing.load (h : s.Racing) (f : SourceFile) : (s.load f).Racing := by
  unfold Race.load
  split
  · next hidle => exact h.of_idle hidle h.live rfl rfl rfl fun g he => Or.inl he
  · exact h

/-- A step that leaves the registry, the table and the events about breakpoints alone. -/
theorem Racing.of_eq (h : s.Racing) {r : Relay} (hlive : r.Live)
    (hreg : r.registry = s.relay.registry) (hhook : r.link.hook = s.relay.link.hook)
    (htable : ∀ f n, r.native.tracer.planted? f n = s.relay.native.tracer.planted? f n)
    (hevents : ∀ f, (∃ e ∈ s.relay.queue.waiting, e.file? = some f) →
      ∃ e ∈ r.queue.waiting, e.file? = some f) : Racing { s with relay := r } where
  live := hlive
  sound := hreg ▸ h.sound
  wants := hreg ▸ h.wants
  attached := hhook.trans h.attached
  enabled := h.enabled
  planted p hp := by
    change (r.native.tracer.planted? p.file p.line).isSome
    rw [htable]
    exact h.planted p hp
  coming f n hn := by
    change _ ∨ _ ∨ (r.native.tracer.planted? f n).isSome
    rw [htable]
    have hn' : (s.relay.registry.wanted? f n).isSome := hreg ▸ hn
    exact (h.coming f n hn').imp_left (Or.imp_left (hevents f))
  going f n hp := by
    change _ ∨ (r.registry.wanted? f n).isSome ∨ _
    rw [hreg]
    have hp' : (s.relay.native.tracer.planted? f n).isSome := htable f n ▸ hp
    exact (h.going f n hp').imp_left (Or.imp_left (hevents f))

theorem Racing.dispatch (h : s.Racing) : s.dispatch.Racing := by
  unfold Race.dispatch
  split
  · next e rest hidle hw =>
    have hrest : ∀ x ∈ s.relay.queue.waiting, x = e ∨ x ∈ rest := by
      intro x hx
      rw [hw] at hx
      exact List.mem_cons.1 hx
    have hlive := h.live.taken hw
    split
    · next f hf =>
      refine h.of_idle hidle hlive rfl rfl rfl ?_
      rintro g ⟨x, hx, hg⟩
      rcases hrest x hx with rfl | hx
      · exact Or.inr (Option.some.inj (hf.symm.trans hg))
      · exact Or.inl ⟨x, hx, hg⟩
    · next hf =>
      have he : e ≠ .terminateRequest := by
        rintro rfl
        exact h.live.unending (hw ▸ List.mem_cons_self)
      -- an event about no file touches neither the table nor the events about others
      have hconsumed := consumed_consume (s.relay.taken rest) he
      obtain ⟨suspension, announced, native, target, log, delivered, heq, -⟩ :=
        hconsumed.eq hlive.accepts hlive.hook
      refine h.of_eq (hlive.consumed hconsumed) (by rw [heq]; rfl) (by rw [heq]; rfl)
        (hconsumed.planted?_eq hlive hf) ?_
      rintro g ⟨x, hx, hg⟩
      rcases hrest x hx with rfl | hx
      · rw [hf] at hg
        simp at hg
      · rw [heq]
        exact ⟨x, List.mem_append_left _ hx, hg⟩
  · exact h

/-! ## Steps of a thread -/

theorem Racing.run_clear (h : s.Racing) {side : Side} {f : SourceFile}
    (ht : s.task side = .clear f) : (s.run side).Racing := by
  obtain ⟨calls, log, hclear⟩ := clearFile_direct h.attached f
  have hcleared : ∀ g n, (s.relay.clearFile f).1.native.tracer.planted? g n =
      if g = f then none else s.relay.native.tracer.planted? g n := by
    rw [hclear]
    exact s.relay.native.tracer.planted?_clearFile f
  rw [run, ht]
  refine h.of_takesOver ?_
  constructor
  case live =>
    simp only [Task.advance, hclear]
    exact h.live.of_eq rfl h.live.running rfl rfl fun _ he => Or.inl he
  case registry => simp only [Task.advance, hclear]
  case hook => simp only [Task.advance, hclear]
  case enabled => simp [Task.advance, Task.pending]
  case planted =>
    intro p hp
    obtain ⟨hp, hne⟩ := List.mem_filter.1 hp
    simp only [Task.advance, hcleared]
    rw [if_neg (by simpa using hne)]
    exact h.planted p hp
  case events =>
    intro g he
    simp only [Task.advance, hclear]
    exact Or.inl he
  case reads =>
    intro g n hr _
    rw [ht] at hr
    exact Or.inl hr
  case sets =>
    intro g n hw
    rw [ht] at hw
    simp [Task.pending] at hw
  case clears =>
    intro g n hc
    rw [ht] at hc
    simp only [Task.advance, hcleared]
    exact Or.inr (if_pos hc.symm)
  case kept =>
    intro g n hp
    -- the lines of the cleared file are gone, but the thread reads the file next
    by_cases hg : f = g
    · exact Or.inl hg
    · simp only [Task.advance, hcleared]
      rw [if_neg (Ne.symm hg)]
      exact Or.inr hp
  case fresh =>
    intro g n hp
    simp only [Task.advance, hcleared] at hp
    split at hp
    · simp at hp
    · next hg =>
      by_cases hl : (⟨g, n⟩ : Tracer.Spot) ∈ s.late
      · exact Or.inr (Or.inl (List.mem_filter.2 ⟨hl, by simpa using hg⟩))
      · exact Or.inr (Or.inr ⟨hp, hl⟩)

/-- A thread that reads what is wanted has it all to set, as far as it was to read it. -/
theorem Racing.of_read (h : s.Racing) {side : Side} {bs : List Breakpoint}
    (hset : ∀ f, ¬ (s.task side).Clears f) (hpending : (s.task side).pending = [])
    (henabled : ∀ b ∈ bs, b.enabled = true)
    (hread : ∀ f n b, (s.task side).Reads f → s.relay.registry.wanted? f n = some b → b ∈ bs) :
    Racing ⟨s.relay, Function.update s.task side (.set bs), s.late⟩ := by
  refine h.of_takesOver ?_
  constructor
  case live => exact h.live
  case registry => rfl
  case hook => rfl
  case enabled => exact henabled
  case planted => exact h.planted
  case events => exact fun _ he => Or.inl he
  case reads =>
    intro f n hr hn
    obtain ⟨b, hb⟩ := Option.isSome_iff_exists.1 hn
    exact Or.inr ⟨b, hread f n b hr hb, h.sound.located (Registry.wanted?_eq_some_iff.1 hb).1⟩
  case sets =>
    intro f n hw
    simp [hpending] at hw
  case clears => exact fun f n hc => absurd hc (hset f)
  case kept => exact fun f n hp => Or.inr hp
  case fresh => exact fun f n hp => late_or_not s.late hp

theorem mem_lateAfter_set_iff {r : Relay} {late : List Tracer.Spot} {b : Breakpoint}
    {bs : List Breakpoint} {f : SourceFile} {n : UInt32} :
    ⟨f, n⟩ ∈ lateAfter r late (.set (b :: bs)) ↔
      if b.location = ⟨f, some n⟩ then r.registry.wanted? f n = none else ⟨f, n⟩ ∈ late := by
  -- a breakpoint whose line is not known is set nowhere
  cases hline : b.line with
  | none =>
    have hne : b.location ≠ ⟨f, some n⟩ := by simp [Breakpoint.location, hline]
    simp only [lateAfter, hline]
    rw [if_neg hne]
  | some m =>
    simp only [lateAfter, Breakpoint.location, hline, Location.mk.injEq, Option.some.injEq]
    by_cases hspot : b.file = f ∧ m = n
    · obtain ⟨rfl, rfl⟩ := hspot
      cases hw : r.registry.wanted? b.file m <;> simp
    · have hne : (⟨f, n⟩ : Tracer.Spot) ≠ ⟨b.file, m⟩ := by
        intro heq
        obtain ⟨rfl, rfl⟩ := Tracer.Spot.mk.inj heq
        exact hspot ⟨rfl, rfl⟩
      rw [if_neg hspot]
      split
      · simp [hne]
      · simp [hne]

/-- Setting a breakpoint plants it at its line, if that is known. -/
theorem planted?_plantAll_singleton (t : Tracer) (b : Breakpoint) (f : SourceFile) (n : UInt32) :
    (t.plantAll [b]).planted? f n =
      if b.location = ⟨f, some n⟩ then some (.ofBreakpoint b) else t.planted? f n := by
  have hlisted : ∀ x, (if b.location = ⟨f, some n⟩ then some b else none) = some x ↔
      x ∈ [b] ∧ x.location = ⟨f, some n⟩ := by
    intro x
    rw [List.mem_singleton]
    split
    · next hloc =>
      rw [Option.some.injEq]
      exact ⟨fun hx => hx ▸ ⟨rfl, hloc⟩, fun hx => hx.1.symm⟩
    · next hloc =>
      refine ⟨fun hx => by simp at hx, ?_⟩
      rintro ⟨rfl, hx⟩
      exact absurd hx hloc
  rw [Tracer.planted?_plantAll hlisted]
  split <;> rfl

/-- A thread that sets a breakpoint at a known line makes the line late unless it is wanted. -/
theorem Racing.run_set (h : s.Racing) {side : Side} {b : Breakpoint} {bs : List Breakpoint}
    (ht : s.task side = .set (b :: bs)) : (s.run side).Racing := by
  have hpending : ∀ x ∈ b :: bs, x.enabled = true := by
    intro x hx
    refine h.enabled side x ?_
    rw [ht]
    exact hx
  obtain ⟨calls, log, hset⟩ := setBreakpoint_direct h.attached (hpending b List.mem_cons_self)
  have hlive : (s.relay.setBreakpoint b).1.Live := by
    rw [hset]
    exact h.live.of_eq rfl h.live.running rfl rfl fun _ he => Or.inl he
  have hplanted : ∀ f n, (s.relay.setBreakpoint b).1.native.tracer.planted? f n =
      if b.location = ⟨f, some n⟩ then some (.ofBreakpoint b)
      else s.relay.native.tracer.planted? f n := by
    intro f n
    rw [hset]
    exact planted?_plantAll_singleton _ b f n
  rw [run, ht]
  refine h.of_takesOver ?_
  constructor
  case live => exact hlive
  case registry => simp only [Task.advance, hset]
  case hook => simp only [Task.advance, hset]
  case enabled => exact fun x hx => hpending x (List.mem_cons_of_mem b hx)
  case planted =>
    rintro ⟨g, n⟩ hp
    simp only [Task.advance, hplanted]
    rw [mem_lateAfter_set_iff] at hp
    split
    · rfl
    · next hloc =>
      rw [if_neg hloc] at hp
      exact h.planted _ hp
  case events =>
    intro g he
    simp only [Task.advance, hset]
    exact Or.inl he
  case reads =>
    intro g n hr
    rw [ht] at hr
    exact hr.elim
  case sets =>
    rintro g n ⟨x, hx, hloc⟩
    rw [ht] at hx
    rcases List.mem_cons.1 hx with rfl | hx
    · simp only [Task.advance, hplanted]
      rw [if_pos hloc]
      exact Or.inr rfl
    · exact Or.inl ⟨x, hx, hloc⟩
  case clears =>
    intro g n hc
    rw [ht] at hc
    exact hc.elim
  case kept =>
    intro g n hp
    simp only [Task.advance, hplanted]
    split
    · exact Or.inr rfl
    · exact Or.inr hp
  case fresh =>
    intro g n hp
    simp only [Task.advance, hplanted] at hp
    rw [mem_lateAfter_set_iff]
    by_cases hloc : b.location = ⟨g, some n⟩
    -- the line has been set just now, and is late exactly if it is not wanted
    · rw [if_pos hloc]
      cases hw : s.relay.registry.wanted? g n with
      | some x => exact Or.inl rfl
      | none => exact Or.inr (Or.inl rfl)
    · rw [if_neg hloc] at hp ⊢
      exact late_or_not s.late hp

theorem Racing.run (h : s.Racing) (side : Side) : (s.run side).Racing := by
  cases ht : s.task side with
  | clear f => exact h.run_clear ht
  | read f =>
    rw [Race.run, ht]
    refine h.of_read ?_ ?_ ?_ ?_
    · rw [ht]
      exact fun _ => id
    · rw [ht]
      rfl
    · intro b hb
      exact (Registry.mem_enabledOf_iff.1 hb).2.1
    · intro g n b hr hb
      rw [ht] at hr
      obtain ⟨hmem, hloc⟩ := h.sound.wanted?_iff_mem_enabled.1 hb
      rw [Registry.mem_enabledOf_iff_mem_enabled]
      exact ⟨hmem, (congrArg Location.file hloc).trans hr.symm⟩
  | readAll =>
    rw [Race.run, ht]
    refine h.of_read ?_ ?_ ?_ ?_
    · rw [ht]
      exact fun _ => id
    · rw [ht]
      rfl
    · intro b hb
      exact (Registry.mem_enabled_iff.1 hb).2
    · intro g n b _ hb
      exact (h.sound.wanted?_iff_mem_enabled.1 hb).1
  | set bs =>
    cases bs with
    | nil =>
      -- a thread that is done stays so
      have hsame : s.run side = s := by
        rw [Race.run, ht]
        simp only [Task.advance, lateAfter]
        rw [← ht, Function.update_eq_self]
      rw [hsame]
      exact h
    | cons b bs => exact h.run_set ht

theorem Racing.move (h : s.Racing) (m : Move) (hm : s.Admits m) : (s.move m).Racing := by
  cases m with
  | edit d => exact h.edit d hm
  | dispatch => exact h.dispatch
  | load f => exact h.load f
  | run side => exact h.run side

theorem Reaches.racing {parts : Parts} (h : Reaches parts s) : s.Racing := by
  induction h with
  | start hr hd => exact racing_start hr.converging hd
  | move m _ hm ih => exact ih.move m hm

/-- Both threads are done, and no event about a breakpoint waits. -/
def Settled (s : Race) : Prop :=
  (∀ side, s.task side = .set []) ∧ ∀ e ∈ s.relay.queue.waiting, e.file? = none

/-- Once a race has settled, every wanted line of a file is in the table. The table has no others
exactly if the late lines of the file are wanted. -/
theorem Reaches.lines_eq_iff {parts : Parts} (h : Reaches parts s) (hs : s.Settled)
    (f : SourceFile) :
    (∀ n ∈ knownLines (s.relay.registry.enabledOf f), n ∈ s.relay.native.tracer.linesOf f) ∧
    (s.relay.native.tracer.linesOf f = knownLines (s.relay.registry.enabledOf f) ↔
      ∀ n, ⟨f, n⟩ ∈ s.late → n ∈ knownLines (s.relay.registry.enabledOf f)) := by
  have hr := h.racing
  obtain ⟨hdone, hq⟩ := hs
  have hevents : ¬ ∃ e ∈ s.relay.queue.waiting, e.file? = some f := by
    rintro ⟨e, he, hf⟩
    simp [hq e he] at hf
  have hcoming : ∀ n, (s.relay.registry.wanted? f n).isSome →
      (s.relay.native.tracer.planted? f n).isSome := by
    intro n hn
    rcases hr.coming f n hn with (he | ⟨side, hread⟩) | ⟨side, b, hb, -⟩ | hp
    · exact absurd he hevents
    · rw [hdone side] at hread
      exact hread.elim
    · rw [hdone side] at hb
      simp [Task.pending] at hb
    · exact hp
  have hgoing : ∀ n, (s.relay.native.tracer.planted? f n).isSome →
      (s.relay.registry.wanted? f n).isSome ∨ ⟨f, n⟩ ∈ s.late := by
    intro n hn
    rcases hr.going f n hn with (he | ⟨side, hclear⟩) | hdue
    · exact absurd he hevents
    · rw [hdone side] at hclear
      exact hclear.elim
    · exact hdue
  simp only [hr.sound.mem_knownLines_iff_wanted?, Tracer.mem_linesOf_iff]
  refine ⟨hcoming, fun heq n hl => ?_, fun hlate => ?_⟩
  · rw [← hr.sound.mem_knownLines_iff_wanted?, ← heq, Tracer.mem_linesOf_iff]
    exact hr.planted _ hl
  -- without unwanted late lines, all that is in the table is wanted
  · refine Tracer.linesOf_eq hr.sound fun n => ⟨fun hn => ?_, hcoming n⟩
    exact (hgoing n hn).elim id (hlate n)

/-! ## A breakpoint that is removed while it is being set -/

/-- The session of `sampleParts` with its breakpoint, when the debugger has been installed. -/
def sampleStart : Race :=
  start ((started sampleParts).move (.edit (.added sampleStored)))

theorem reaches_sampleStart : Reaches sampleParts sampleStart := by
  refine .start (.move _ .started fun b m l _ _ hown => ?_) (by cbv)
  rw [show (started sampleParts).registry.owners.find? m = none from rfl] at hown
  simp at hown

/-- The interpreter sets the breakpoint, and then the dispatch loop brings the file in line for the
event about it. -/
def sampleSettled : Race :=
  (((((sampleStart.move (.run .interpreter)).move (.run .interpreter)).move .dispatch).move
    (.run .dispatcher)).move (.run .dispatcher)).move (.run .dispatcher)

/-- Nothing was late, and the breakpoint is in the table. -/
theorem lines_sampleSettled :
    sampleSettled.Settled ∧ sampleSettled.relay.native.tracer.linesOf sampleFile = [10] := by
  have hreach : Reaches sampleParts sampleSettled :=
    .move _ (.move _ (.move _ (.move _ (.move _ (.move _ reaches_sampleStart trivial) trivial)
      trivial) trivial) trivial) trivial
  have hwaiting : sampleSettled.relay.queue.waiting = [] := by cbv
  have hlate : sampleSettled.late = [] := by cbv
  have hs : sampleSettled.Settled :=
    ⟨fun side => by cases side <;> cbv, by simp [hwaiting]⟩
  have hlines := (hreach.lines_eq_iff hs sampleFile).2.2 (by simp [hlate])
  exact ⟨hs, hlines.trans (by cbv)⟩

/-- When the interpreter has read the breakpoint, the IDE removes it. The dispatch loop brings the
file in line for both events, and then the interpreter sets the breakpoint. -/
def sampleLate : Race :=
  ((((((((sampleStart.move (.run .interpreter)).move (.edit (.removed sampleStored))).move
    .dispatch).move (.run .dispatcher)).move (.run .dispatcher)).move .dispatch).move
    (.run .dispatcher)).move (.run .dispatcher)).move (.run .interpreter)

/-- The breakpoint stays in the table, although the registry has no breakpoint any more. -/
theorem late_sampleLate : Reaches sampleParts sampleLate ∧ sampleLate.Settled ∧
    sampleLate.relay.native.tracer.linesOf sampleFile = [10] ∧
    knownLines (sampleLate.relay.registry.enabledOf sampleFile) = [] := by
  have hreach : Reaches sampleParts sampleLate :=
    .move _ (.move _ (.move _ (.move _ (.move _ (.move _ (.move _ (.move _ (.move _
      reaches_sampleStart trivial) trivial) trivial) trivial) trivial) trivial) trivial) trivial)
      trivial
  have hwaiting : sampleLate.relay.queue.waiting = [] := by cbv
  refine ⟨hreach, ⟨fun side => ?_, by simp [hwaiting]⟩, by cbv, by cbv⟩
  cases side <;> cbv

end Race

end DebugRelay.Relay
