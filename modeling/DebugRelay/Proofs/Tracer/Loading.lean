import DebugRelay.Proofs.Tracer.Counting
import DebugRelay.Proofs.Tracer.Stepping

/-!
# Stops at script loads

A load makes a stop due, which the next counted line takes, whatever frame it is in. `LastLoad` is
the load that a due stop comes from: the entry of a frame that switched files while loads are to
stop, without another switch since. For runs of an engine on a call stack (`OnStack`),
`stops_in_loaded_iff` says that no line was traced between the load and the stop, and that the stop
is in the loaded file unless the loaded frame was left before it ran a line: then the stop is in a
frame below it, which may run another file (`stops_in_caller`).
-/

namespace DebugRelay.Tracer

/-! ## Runs on a call stack -/

/-- The files of the entered frames after an act, the innermost first. -/
def Act.filesAfter (files : List SourceFile) : Act → List SourceFile
  | .report (.enter f) => f :: files
  | .report .leave => files.tail
  | _ => files

/-- The files of the entered frames after a list of acts. -/
def filesAfter (files : List SourceFile) (acts : List Act) : List SourceFile :=
  acts.foldl Act.filesAfter files

/-- An engine that has frames of these files entered can do the act: it leaves a frame that is
entered, and the line that it is about to run is one of the innermost frame. -/
def Act.OnStack (files : List SourceFile) : Act → Prop
  | .report .leave => files ≠ []
  | .report (.line stack) => ∀ f n, top? stack = some (f, n) → files.head? = some f
  | _ => True

/-- Every act of a list is one that the engine can do then. -/
def OnStack (files : List SourceFile) : List Act → Prop
  | [] => True
  | a :: rest => a.OnStack files ∧ OnStack (a.filesAfter files) rest

theorem onStack_append {files : List SourceFile} {acts more : List Act} :
    OnStack files (acts ++ more) ↔ OnStack files acts ∧ OnStack (filesAfter files acts) more := by
  induction acts generalizing files with
  | nil => simp [OnStack, filesAfter]
  | cons a rest ih => simp [OnStack, filesAfter, ih, and_assoc]

theorem filesAfter_append (files : List SourceFile) (acts more : List Act) :
    filesAfter files (acts ++ more) = filesAfter (filesAfter files acts) more :=
  List.foldl_append

/-! ## The current file -/

/-- The file that an act enters a frame of. -/
def Act.entered? : Act → Option SourceFile
  | .report (.enter f) => some f
  | _ => none

theorem Act.entered?_eq_some {a : Act} {f : SourceFile} (h : a.entered? = some f) :
    a = .report (.enter f) := by
  unfold entered? at h
  split at h
  · rw [Option.some.inj h]
  · simp at h

variable {t : Tracer} {f : SourceFile}

theorem enter_of_current (h : t.currentFile = some f) :
    (t.enter f).1 = { t with depth := t.depth + 1 } := by
  simp only [enter, h, if_true]

theorem enter_of_switch (h : t.currentFile ≠ some f) :
    (t.enter f).1 = { t with
      depth := t.depth + 1
      currentFile := some f
      loadPending := t.stopsAtLoad } := by
  simp only [enter, if_neg h]

theorem currentFile_enter (t : Tracer) (f : SourceFile) : (t.enter f).1.currentFile = some f := by
  by_cases h : t.currentFile = some f
  · rw [enter_of_current h]
    exact h
  · rw [enter_of_switch h]

theorem currentFile_line (t : Tracer) (stack : List Frame) :
    (t.line stack).1.currentFile = t.currentFile := by
  cases hline : (t.line stack).2 with
  | passed outcome =>
    obtain ⟨table, first, load, heq⟩ := line_eq_of_passed hline
    rw [heq]
  | stopped reason =>
    obtain ⟨-, table, first, load, heq⟩ := line_eq_of_stopped hline
    rw [heq]

/-- The current file is the one that a frame was entered of last, whatever frame was left since. -/
theorem currentFile_act (t : Tracer) (a : Act) :
    (t.act a).currentFile = a.entered?.or t.currentFile := by
  cases a with
  | attach => rfl
  | command c =>
    obtain ⟨start, load, table, release, quitting, heq⟩ := t.invoke_eq c
    change (t.invoke c).1.currentFile = t.currentFile
    rw [heq]
  | report p =>
    cases p with
    | enter f => exact t.currentFile_enter f
    | leave => rfl
    | line stack => exact t.currentFile_line stack
  | proceed =>
    obtain ⟨suspended, release, mode, heq⟩ := t.act_proceed_eq
    rw [heq]
    rfl

theorem currentFile_after_of_entered {acts : List Act} (h : t.currentFile = some f)
    (hlast : ∀ g, .report (.enter g) ∈ acts → g = f) : (t.after acts).currentFile = some f := by
  induction acts generalizing t with
  | nil => exact h
  | cons a rest ih =>
    refine ih ?_ fun g hg => hlast g (List.mem_cons_of_mem a hg)
    rw [currentFile_act]
    cases hentered : a.entered? with
    | none => exact h
    | some g =>
      rw [Option.some_or, hlast g (Act.entered?_eq_some hentered ▸ List.mem_cons_self)]

/-! ## Due stops -/

theorem quitting_act (h : t.quitting = true) (a : Act) : (t.act a).quitting = true := by
  cases a with
  | attach => exact h
  | command c => exact quitting_invoke h c
  | report p =>
    cases p with
    | enter f => exact (quitting_enter t f).trans h
    | leave => exact h
    | line stack =>
      change (t.line stack).1.quitting = true
      rw [line_of_quitting h]
      exact h
  | proceed =>
    obtain ⟨suspended, release, mode, heq⟩ := t.act_proceed_eq
    rw [heq]
    exact h

theorem willing_of_act {a : Act} (h : (t.act a).quitting = false) : t.quitting = false := by
  by_contra hq
  rw [Bool.not_eq_false] at hq
  rw [quitting_act hq] at h
  simp at h

/-- Looking for a reason to stop leaves no load stop due. -/
theorem loadPending_reason (t : Tracer) (f : SourceFile) (n : UInt32) :
    (t.reason f n).1.loadPending = false := by
  have hhere : ∀ u : Tracer, (u.reasonHere f n).1.loadPending = u.loadPending := by
    intro u
    obtain ⟨table, heq⟩ := u.hit_eq f n
    rw [reasonHere_fst, heq]
  unfold reason
  split
  · simp only
    split
    · rfl
    · exact hhere _
  · split
    · rfl
    · next hdue =>
      rw [hhere]
      simpa using hdue

/-- A load stop was due. -/
theorem loadPending_of_scriptLoad {n : UInt32} (h : (t.reason f n).2 = some .scriptLoad) :
    t.loadPending = true := by
  unfold reason at h
  split at h
  · simp only at h
    split at h
    · simp at h
    · exact absurd h (reasonHere_snd _ f n).2
  · split at h
    · next hdue => exact hdue
    · exact absurd h (reasonHere_snd _ f n).2

/-- A counted line takes the stop that is due, unless the script shall be aborted. -/
theorem loadPending_line (hquit : t.quitting = false) {stack : List Frame} (hs : Counts stack) :
    (t.line stack).1.loadPending = false := by
  rcases t.line_cases stack with ⟨-, htop⟩ | ⟨-, hq⟩ | ⟨f, n, -, -, ⟨hl, -⟩ | ⟨reason, -, hl⟩⟩
  · rw [counts_iff, htop] at hs
    simp at hs
  · simp [hquit] at hq
  · rw [hl]
    exact t.loadPending_reason f n
  · rw [hl]
    exact t.loadPending_reason f n

theorem line_of_not_counts {stack : List Frame} (hs : ¬ Counts stack) : (t.line stack).1 = t := by
  rw [counts_iff, Option.not_isSome_iff_eq_none] at hs
  rw [line, hs]

/-- A stop that is due after an act falls due with it, or was due before; then the act is no switch to
another file and no counted line. -/
theorem due_of_act {a : Act} (hquit : (t.act a).quitting = false)
    (hdue : (t.act a).loadPending = true) :
    (∃ f, a = .report (.enter f) ∧ t.currentFile ≠ some f ∧ t.stopsAtLoad = true) ∨
    (t.loadPending = true ∧ (∀ f, a = .report (.enter f) → t.currentFile = some f) ∧
      ∀ stack, a = .report (.line stack) → ¬ Counts stack) := by
  cases a with
  | attach => exact Or.inr ⟨hdue, by simp, by simp⟩
  | command c =>
    obtain ⟨start, load, table, release, quitting, heq⟩ := t.invoke_eq c
    change (t.invoke c).1.loadPending = true at hdue
    rw [heq] at hdue
    exact Or.inr ⟨hdue, by simp, by simp⟩
  | report p =>
    cases p with
    | enter f =>
      change (t.enter f).1.loadPending = true at hdue
      by_cases hcurrent : t.currentFile = some f
      · rw [enter_of_current hcurrent] at hdue
        exact Or.inr ⟨hdue, by rintro g ⟨⟩; exact hcurrent, by simp⟩
      · rw [enter_of_switch hcurrent] at hdue
        exact Or.inl ⟨f, rfl, hcurrent, hdue⟩
    | leave => exact Or.inr ⟨hdue, by simp, by simp⟩
    | line stack =>
      change (t.line stack).1.loadPending = true at hdue
      have hs : ¬ Counts stack := by
        intro hs
        rw [loadPending_line (willing_of_act hquit) hs] at hdue
        simp at hdue
      rw [line_of_not_counts hs] at hdue
      exact Or.inr ⟨hdue, by simp, by rintro stack' ⟨⟩; exact hs⟩
  | proceed =>
    obtain ⟨suspended, release, mode, heq⟩ := t.act_proceed_eq
    rw [heq] at hdue
    exact Or.inr ⟨hdue, by simp, by simp⟩

/-- The load that a due stop comes from: a frame of another file than the current one was entered
while loads are to stop, and no frame of yet another file since. -/
structure LastLoad (acts before : List Act) (f : SourceFile) (since : List Act) : Prop where
  split : acts = before ++ .report (.enter f) :: since
  switched : (({} : Tracer).after before).currentFile ≠ some f
  stops : (({} : Tracer).after before).stopsAtLoad = true
  last : ∀ g, .report (.enter g) ∈ since → g = f

variable {acts before since : List Act} {a : Act}

theorem LastLoad.currentFile (h : LastLoad acts before f since) :
    (({} : Tracer).after acts).currentFile = some f := by
  rw [h.split, after_append, after_cons]
  exact currentFile_after_of_entered (currentFile_enter _ f) h.last

theorem LastLoad.concat (h : LastLoad acts before f since)
    (ha : ∀ g, a = .report (.enter g) → g = f) :
    LastLoad (acts ++ [a]) before f (since ++ [a]) where
  split := by rw [h.split, List.append_assoc, List.cons_append]
  switched := h.switched
  stops := h.stops
  last := by
    intro g hg
    rcases List.mem_append.1 hg with hg | hg
    · exact h.last g hg
    · exact ha g (List.mem_singleton.1 hg).symm

/-- A stop comes from one load only. -/
theorem LastLoad.unique {before' since' : List Act} {f' : SourceFile}
    (h : LastLoad acts before f since) (h' : LastLoad acts before' f' since') :
    before = before' ∧ f = f' ∧ since = since' := by
  -- of two loads the later one would be no switch, since its file is the earlier one's
  have hlater : ∀ {b b' s s' : List Act} {g g' : SourceFile} {more : List Act},
      LastLoad acts b g s → LastLoad acts b' g' s' → b' ≠ b ++ .report (.enter g) :: more := by
    intro b b' s s' g g' more hl hl' heq
    have hsplit := hl.split
    rw [hl'.split, heq, List.append_assoc, List.append_cancel_left_eq, List.cons_append] at hsplit
    have hs : s = more ++ .report (.enter g') :: s' := (List.cons.inj hsplit).2.symm
    have hsame : g' = g := hl.last g' (by simp [hs])
    apply hl'.switched
    rw [heq, after_append, after_cons, hsame]
    refine currentFile_after_of_entered (currentFile_enter _ g) fun k hk => hl.last k ?_
    rw [hs]
    exact List.mem_append_left _ hk
  have heq := h.split.symm.trans h'.split
  rcases List.append_eq_append_iff.1 heq with ⟨more, hbefore, hrest⟩ | ⟨more, hbefore, hrest⟩
  · cases more with
    | nil => simp_all
    | cons x more => exact absurd (by rw [hbefore, (List.cons.inj hrest).1]) (hlater h h')
  · cases more with
    | nil => simp_all
    | cons x more => exact absurd (by rw [hbefore, (List.cons.inj hrest).1]) (hlater h' h)

/-- No line was traced in a list of acts. -/
def Untraced (acts : List Act) : Prop :=
  ∀ stack, .report (.line stack) ∈ acts → ¬ Counts stack

theorem Untraced.concat (h : Untraced acts)
    (ha : ∀ stack, a = .report (.line stack) → ¬ Counts stack) : Untraced (acts ++ [a]) := by
  intro stack hstack
  rcases List.mem_append.1 hstack with hstack | hstack
  · exact h stack hstack
  · exact ha stack (List.mem_singleton.1 hstack).symm

/-- A stop that is due comes from a load since which no line was traced. -/
theorem exists_lastLoad {acts : List Act} (hquit : (({} : Tracer).after acts).quitting = false)
    (hdue : (({} : Tracer).after acts).loadPending = true) :
    ∃ before f since, LastLoad acts before f since ∧ Untraced since := by
  induction acts using List.reverseRecOn with
  | nil => simp at hdue
  | append_singleton acts a ih =>
    have hstep : ({} : Tracer).after (acts ++ [a]) = (({} : Tracer).after acts).act a := by
      rw [after_append]
      rfl
    rw [hstep] at hquit hdue
    rcases due_of_act hquit hdue with ⟨f, rfl, hswitch, hstops⟩ | ⟨hbefore, henter, hline⟩
    · exact ⟨acts, f, [], ⟨rfl, hswitch, hstops, by simp⟩, by simp [Untraced]⟩
    · obtain ⟨before, f, since, hload, huntraced⟩ := ih (willing_of_act hquit) hbefore
      -- a frame that is entered is one of the current file, which is the loaded one
      have hfile : ∀ g, a = .report (.enter g) → g = f := by
        intro g hg
        exact Option.some.inj ((henter g hg).symm.trans hload.currentFile)
      exact ⟨before, f, since ++ [a], hload.concat hfile, huntraced.concat hline⟩

/-! ## The frame of a stop -/

/-- While frames of one file only are entered, the frames are some of that file above those that
were not left. -/
theorem filesAfter_of_entered {callers files : List SourceFile} {since : List Act}
    (hlast : ∀ g, .report (.enter g) ∈ since → g = f)
    (h : ∃ k rest, files = List.replicate k f ++ rest ∧ rest <:+ callers) :
    ∃ k rest, filesAfter files since = List.replicate k f ++ rest ∧ rest <:+ callers := by
  induction since generalizing files with
  | nil => exact h
  | cons a since ih =>
    refine ih (fun g hg => hlast g (List.mem_cons_of_mem a hg)) ?_
    obtain ⟨k, rest, rfl, hrest⟩ := h
    cases a with
    | report p =>
      cases p with
      | enter g =>
        rw [hlast g List.mem_cons_self]
        exact ⟨k + 1, rest, rfl, hrest⟩
      | leave =>
        cases k with
        | zero => exact ⟨0, rest.tail, rfl, (List.tail_suffix rest).trans hrest⟩
        | succ k => exact ⟨k, rest, rfl, hrest⟩
      | line stack => exact ⟨k, rest, rfl, hrest⟩
    | attach => exact ⟨k, rest, rfl, hrest⟩
    | command c => exact ⟨k, rest, rfl, hrest⟩
    | proceed => exact ⟨k, rest, rfl, hrest⟩

/-- A loaded frame was left: of the frames that were entered before it some are left, and the
innermost of these runs another file. -/
def ReturnedFrom (callers : List SourceFile) (f : SourceFile) (files : List SourceFile) : Prop :=
  ∃ g rest, files = g :: rest ∧ g ≠ f ∧ files <:+ callers

/-- The innermost frame runs the loaded file, unless the loaded frame was left for one that does
not. -/
theorem LastLoad.head_eq_iff (h : LastLoad acts before f since) {g : SourceFile}
    (hg : (filesAfter [] acts).head? = some g) :
    g = f ↔ ¬ ReturnedFrom (filesAfter [] before) f (filesAfter [] acts) := by
  constructor
  · rintro rfl ⟨k, rest, hfiles, hne, -⟩
    rw [hfiles] at hg
    exact hne (Option.some.inj hg)
  · intro hnot
    by_contra hne
    have hfiles : filesAfter [] acts = filesAfter (f :: filesAfter [] before) since := by
      rw [h.split, filesAfter_append]
      rfl
    have hentry : ∃ k rest, f :: filesAfter [] before = List.replicate k f ++ rest ∧
        rest <:+ filesAfter [] before := ⟨1, filesAfter [] before, rfl, List.suffix_refl _⟩
    obtain ⟨k, rest, heq, hrest⟩ := filesAfter_of_entered h.last hentry
    cases k with
    -- none of the frames of the loaded file is left
    | zero =>
      rw [← hfiles, List.replicate_zero, List.nil_append] at heq
      obtain ⟨below, hbelow⟩ := List.head?_eq_some_iff.1 hg
      exact hnot ⟨g, below, hbelow, hne, heq ▸ hrest⟩
    | succ k =>
      rw [hfiles, heq] at hg
      exact hne (Option.some.inj hg).symm

/-- Where a load stop is. A counted line of a run on a call stack that stops for a load does so for
the last one that fell due, which is one load only. No line was traced since that load, and the line
is in the loaded file exactly if the loaded frame was not left for a frame of another file. -/
theorem stops_in_loaded_iff {acts : List Act} {stack : List Frame}
    (hrun : OnStack [] (acts ++ [.report (.line stack)]))
    (hstop : ((({} : Tracer).after acts).line stack).2 = .stopped .scriptLoad) :
    ∃ g n, top? stack = some (g, n) ∧
      (∃ before f since, LastLoad acts before f since) ∧
      ∀ before f since, LastLoad acts before f since →
        Untraced since ∧
          (g = f ↔ ¬ ReturnedFrom (filesAfter [] before) f (filesAfter [] acts)) := by
  rcases (({} : Tracer).after acts).line_cases stack with
    ⟨hl, -⟩ | ⟨hl, -⟩ | ⟨g, n, htop, hquit, -⟩
  · simp [hl] at hstop
  · simp [hl] at hstop
  · have hdue : (({} : Tracer).after acts).loadPending = true :=
      loadPending_of_scriptLoad ((line_eq_stopped_iff _ htop hquit _).1 hstop)
    obtain ⟨before, f, since, hload, huntraced⟩ := exists_lastLoad hquit hdue
    have hhead : (filesAfter [] acts).head? = some g := (onStack_append.1 hrun).2.1 g n htop
    refine ⟨g, n, htop, ⟨before, f, since, hload⟩, fun before' f' since' hload' => ?_⟩
    obtain ⟨rfl, rfl, rfl⟩ := hload.unique hload'
    exact ⟨huntraced, hload.head_eq_iff hhead⟩

/-! ## A file that calls into another one -/

/-- A file besides the root. -/
def sampleLoaded : SourceFile := ⟨[⟨"called.py", by decide⟩]⟩

/-- A file runs a line while loads are to stop, and calls into another file. -/
def sampleLoad : List Act :=
  [.command (.suspendOnScriptLoad true), .report (.enter ⟨[]⟩), .report (.line (sampleAt 1)),
    .report (.enter sampleLoaded)]

/-- A stack at the first line of the other file. -/
def sampleLine : List Frame := [.ofFile .zero sampleLoaded 1 ∅]

/-- The first line of the other file stops for its load, and no frame was left for it. -/
theorem stops_sampleLoad :
    OnStack [] (sampleLoad ++ [.report (.line sampleLine)]) ∧
    ((({} : Tracer).after sampleLoad).line sampleLine).2 = .stopped .scriptLoad ∧
    LastLoad sampleLoad (sampleLoad.take 3) sampleLoaded [] ∧
    ¬ ReturnedFrom (filesAfter [] (sampleLoad.take 3)) sampleLoaded (filesAfter [] sampleLoad) := by
  have hrun : OnStack [] (sampleLoad ++ [.report (.line sampleLine)]) := by
    refine ⟨trivial, trivial, ?_, trivial, ?_, trivial⟩
    · rintro f n ⟨⟩
      rfl
    · rintro f n ⟨⟩
      rfl
  have hstop : ((({} : Tracer).after sampleLoad).line sampleLine).2 = .stopped .scriptLoad := by
    cbv
  have hload : LastLoad sampleLoad (sampleLoad.take 3) sampleLoaded [] :=
    ⟨rfl, by decide, by cbv, by simp⟩
  obtain ⟨g, n, htop, -, hall⟩ := stops_in_loaded_iff hrun hstop
  obtain ⟨-, hfile⟩ := hall _ _ _ hload
  have hg : g = sampleLoaded := (Prod.mk.inj (Option.some.inj htop)).1.symm
  exact ⟨hrun, hstop, hload, hfile.1 hg⟩

/-- The other file is left before it runs a line: the stop for its load is at the next line of the
caller. -/
theorem stops_in_caller :
    OnStack [] (sampleLoad ++ [.report .leave, .report (.line (sampleAt 2))]) ∧
    ((({} : Tracer).after (sampleLoad ++ [.report .leave])).line (sampleAt 2)).2 =
      .stopped .scriptLoad ∧
    top? (sampleAt 2) = some (⟨[]⟩, 2) ∧
    LastLoad (sampleLoad ++ [.report .leave]) (sampleLoad.take 3) sampleLoaded [.report .leave] ∧
    sampleLoaded ≠ ⟨[]⟩ := by
  refine ⟨?_, by cbv, rfl, ⟨rfl, by decide, by cbv, by simp⟩, by decide⟩
  refine ⟨trivial, trivial, ?_, trivial, by simp [Act.OnStack, Act.filesAfter], ?_, trivial⟩
  · rintro f n ⟨⟩
    rfl
  · rintro f n ⟨⟩
    rfl

end DebugRelay.Tracer
