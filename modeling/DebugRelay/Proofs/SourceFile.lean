import DebugRelay.SourceFile
import Mathlib.Data.List.Basic

/-!
# Reading a source file back

The text of a source file spells its names (`steps_text`). Locating that text gives the file again,
as long as nothing is there that the text could lead away from (`locate?_text`).
-/

namespace DebugRelay

namespace Path

theorem segments_ne_nil (cs : List Char) : segments cs ≠ [] := by
  cases cs with
  | nil => exact List.cons_ne_nil _ _
  | cons c rest =>
    rw [segments]
    split
    · exact List.cons_ne_nil _ _
    · cases segments rest <;> exact List.cons_ne_nil _ _

/-- A slash ends a segment, whatever stands before it. -/
theorem segments_append (front back : List Char) :
    segments (front ++ '/' :: back) = segments front ++ segments back := by
  induction front with
  | nil => rfl
  | cons c rest ih =>
    rw [List.cons_append, segments, segments, ih]
    split
    · rfl
    · cases hrest : segments rest with
      | nil => exact absurd hrest (segments_ne_nil rest)
      | cons s more => rfl

/-- What has no slash is one segment. -/
theorem segments_of_notMem {segment : List Char} (h : '/' ∉ segment) :
    segments segment = [segment] := by
  induction segment with
  | nil => rfl
  | cons c cs ih =>
    rw [List.mem_cons, not_or] at h
    rw [segments, if_neg (Ne.symm h.1), ih h.2]

theorem segments_intercalate {l : List (List Char)} (hne : l ≠ []) (h : ∀ s ∈ l, '/' ∉ s) :
    segments (['/'].intercalate l) = l := by
  induction l with
  | nil => exact absurd rfl hne
  | cons s rest ih =>
    have hs : '/' ∉ s := h s List.mem_cons_self
    cases rest with
    | nil => simpa using segments_of_notMem hs
    | cons s' more =>
      have hrest := ih (List.cons_ne_nil s' more) fun x hx => h x (List.mem_cons_of_mem s hx)
      rw [List.intercalate_cons_cons, List.append_assoc, List.singleton_append,
        segments_append, segments_of_notMem hs, hrest, List.singleton_append]

/-- The text of a name is a step to that name. -/
theorem ofSegment_text (n : FileName) : Step.ofSegment n.text.toList = .name n := by
  have hdots : n.text ≠ ".." := n.ordinary.2.2.1
  simp [Step.ofSegment, hdots, n.ordinary]

end Path

namespace SourceFile

open Path

/-- The text of a file leads from the root through its names. The root itself is one slash, which
has nothing after it either. -/
theorem steps_text (f : SourceFile) :
    steps f.text = .here :: if f.names = [] then [.here] else f.names.map .name := by
  have htext : f.text.toList = '/' :: ['/'].intercalate (f.names.map fun n => n.text.toList) := by
    simp [text, Function.comp_def]
  rw [steps, htext, segments, if_pos rfl, List.map_cons]
  split
  · next hnil =>
    rw [hnil]
    rfl
  · next hne =>
    rw [segments_intercalate (by simpa using hne), List.map_map]
    · simp only [Function.comp_def, ofSegment_text]
      rfl
    · intro s hs
      obtain ⟨n, -, rfl⟩ := List.mem_map.1 hs
      exact n.ordinary.2.2.2

theorem isAbsolute_text (f : SourceFile) : isAbsolute f.text = true := by
  simp [isAbsolute, text]

/-- Names lead down from where one is. -/
theorem foldl_take_names (f : SourceFile) (names : List FileName) :
    (names.map Step.name).foldl take f = ⟨f.names ++ names⟩ := by
  induction names generalizing f with
  | nil => simp
  | cons n rest ih =>
    rw [List.map_cons, List.foldl_cons, ih]
    simp [take]

/-- A file is in normal form: its text, taken by name alone, leads to it. -/
theorem ofSteps_text (f : SourceFile) : ofSteps (steps f.text) = f := by
  rw [steps_text, ofSteps, List.foldl_cons]
  split
  · next hnil =>
    obtain ⟨names⟩ := f
    obtain rfl : names = [] := hnil
    rfl
  · exact foldl_take_names ⟨[]⟩ f.names

/-- Nothing is where the path of a file leads. The root is always there. -/
def Absent (files : FileTree) (f : SourceFile) : Prop :=
  f.names ≠ [] → (files.follow [] (steps f.text)).isOk = false

/-- A walk that stays at the root. -/
theorem follow_here (files : FileTree) : files.follow [] [.here, .here] = .ok [] := by
  have hroot : files.isDirectory [] = true := by
    simp [FileTree.isDirectory, FileTree.find?, FileTree.root]
  simp [FileTree.follow, FileTree.walk, hroot]

theorem locate?_text {files : FileTree} {f : SourceFile} (h : f.Absent files) :
    locate? files f.text = some f := by
  rw [locate?, if_pos (isAbsolute_text f)]
  by_cases hnil : f.names = []
  · rw [steps_text, if_pos hnil, follow_here]
    obtain ⟨names⟩ := f
    obtain rfl : names = [] := hnil
    rfl
  · have hmissing := h hnil
    cases hfollow : files.follow [] (steps f.text) with
    | ok place => simp [hfollow, Except.isOk, Except.toBool] at hmissing
    | error e => simp only [ofSteps_text]

end SourceFile

end DebugRelay
