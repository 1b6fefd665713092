import DebugRelay.Proofs.Registry.Putting
import DebugRelay.Proofs.SourceFile.Relocating
import Mathlib.Logic.Relation

/-!
# Spellings of a path

A path that leads nowhere is located by its text alone. `Path.namesOf` says where that is: the text
between the slashes is read from left to right on a stack of names, from which two dots take the
last one away. Text that may stand between two slashes without a change of the names is idle
(`Path.Idle`), and paths that differ in idle text only are spellings of one another
(`Path.Respelled`). So all spellings of a path that lead nowhere are located as the same file, and a
breakpoint of any of them is the same entry of the registry (`located_by_names`).
-/

namespace DebugRelay

namespace Path

/-! ## The names that a path leads through -/

/-- Reads the text between two slashes on a stack of names, the last one on top. -/
def pile (stack : List String) (segment : String) : List String :=
  if segment = "" ∨ segment = "." then stack
  else if segment = ".." then stack.tail
  else segment :: stack

/-- The names that are left when a path was read from left to right. -/
def namesOf (path : String) : List String :=
  (((path.toList.splitOn '/').map String.ofList).foldl pile []).reverse

theorem segments_eq_splitOn (cs : List Char) : segments cs = cs.splitOn '/' := by
  induction cs with
  | nil => rfl
  | cons c rest ih =>
    have hsplit : (c :: rest).splitOn '/' =
        if c == '/' then [] :: rest.splitOn '/' else (rest.splitOn '/').modifyHead (c :: ·) :=
      List.splitOnP_cons_eq_if_modifyHead c rest
    rw [segments, ih, hsplit]
    by_cases hc : c = '/'
    · simp [hc]
    · cases hrest : rest.splitOn '/' with
      | nil => exact absurd hrest (List.splitOnP_ne_nil _ rest)
      | cons s more => simp [hc]

theorem slash_notMem_of_mem_segments {cs segment : List Char} (h : segment ∈ segments cs) :
    '/' ∉ segment := by
  induction cs generalizing segment with
  | nil =>
    obtain rfl := List.mem_singleton.1 h
    exact List.not_mem_nil
  | cons c rest ih =>
    rw [segments] at h
    split at h
    · rcases List.mem_cons.1 h with rfl | h
      · exact List.not_mem_nil
      · exact ih h
    · next hc =>
      cases hrest : segments rest with
      | nil => exact absurd hrest (segments_ne_nil rest)
      | cons s more =>
        rw [hrest] at h ih
        rcases List.mem_cons.1 h with rfl | h
        · rw [List.mem_cons, not_or]
          exact ⟨Ne.symm hc, ih List.mem_cons_self⟩
        · exact ih (List.mem_cons_of_mem s h)

/-! ## Idle text -/

/-- Text that leads back to where it starts: none at all, one dot, or a name and the way back. -/
inductive Idle : String → Prop where
  | none : Idle ""
  | dot : Idle "."
  | back (n : FileName) : Idle (n.text ++ "/..")

/-- The second path is the first one with idle text put in at a slash, or behind the last segment. -/
inductive Padded : String → String → Prop where
  | between {idle : String} (front back : String) (h : Idle idle) :
    Padded (front ++ "/" ++ back) (front ++ "/" ++ idle ++ "/" ++ back)
  | behind {idle front : String} (hfront : isAbsolute front = true) (h : Idle idle) :
    Padded front (front ++ "/" ++ idle)

/-- Two paths can be made from one another by putting in idle text and leaving it out. -/
def Respelled : String → String → Prop := Relation.EqvGen Padded

theorem steps_append (front back : String) :
    steps (front ++ "/" ++ back) = steps front ++ steps back := by
  have htext : (front ++ "/" ++ back).toList = front.toList ++ '/' :: back.toList := by simp
  rw [steps, htext, segments_append, List.map_append, steps, steps]

theorem steps_name (n : FileName) : steps n.text = [.name n] := by
  rw [steps, segments_of_notMem n.ordinary.2.2.2, List.map_singleton, ofSegment_text]

theorem isAbsolute_append (front back : String) :
    isAbsolute (front ++ "/" ++ back) = (isAbsolute front || front.toList.isEmpty) := by
  simp only [isAbsolute, String.toList_append]
  cases front.toList with
  | nil => rfl
  | cons c rest => simp

end Path

namespace SourceFile

variable {files : FileTree} {f : SourceFile} {path path' : String}

/-! ## Files by name alone -/

/-- A segment does to a file what it does to the stack of the file's names. -/
theorem texts_take {stack : List String} {segment : List Char} (hslash : '/' ∉ segment)
    (hf : f.names.map FileName.text = stack.reverse) :
    (f.take (Path.Step.ofSegment segment)).names.map FileName.text =
      (Path.pile stack (String.ofList segment)).reverse := by
  unfold Path.Step.ofSegment Path.pile
  by_cases hdots : String.ofList segment = ".."
  · simp only [hdots, if_true, take]
    rw [List.map_dropLast, hf, List.dropLast_reverse]
    rfl
  · rw [if_neg hdots]
    by_cases hname : IsFileName (String.ofList segment)
    · rw [dif_pos hname, if_neg (not_or.2 ⟨hname.1, hname.2.1⟩), if_neg hdots, List.reverse_cons,
        ← hf]
      exact List.map_append
    -- neither a name nor two dots, so the segment stays
    · have hstays : String.ofList segment = "" ∨ String.ofList segment = "." := by
        by_contra hnot
        rw [not_or] at hnot
        exact hname ⟨hnot.1, hnot.2, hdots, by rwa [String.toList_ofList]⟩
      rw [dif_neg hname, if_pos hstays]
      exact hf

theorem texts_foldl {segments : List (List Char)} {stack : List String}
    (hslash : ∀ segment ∈ segments, '/' ∉ segment)
    (hf : f.names.map FileName.text = stack.reverse) :
    ((segments.map Path.Step.ofSegment).foldl take f).names.map FileName.text =
      ((segments.map String.ofList).foldl Path.pile stack).reverse := by
  induction segments generalizing f stack with
  | nil => exact hf
  | cons segment rest ih =>
    rw [List.forall_mem_cons] at hslash
    exact ih hslash.2 (texts_take hslash.1 hf)

/-- By name alone a path leads to the file of its names. -/
theorem texts_ofSteps (path : String) :
    (ofSteps (Path.steps path)).names.map FileName.text = Path.namesOf path := by
  rw [Path.namesOf, ← Path.segments_eq_splitOn]
  exact texts_foldl (fun _ h => Path.slash_notMem_of_mem_segments h) rfl

theorem isFileName_of_mem_namesOf {s : String} (h : s ∈ Path.namesOf path) : IsFileName s := by
  rw [← texts_ofSteps] at h
  obtain ⟨n, -, rfl⟩ := List.mem_map.1 h
  exact n.ordinary

/-- Only the root is written with a slash at its end. -/
theorem text_eq_slash_of_getLast? (h : f.text.toList.getLast? = some '/') : f.text = "/" := by
  by_cases hnil : f.names = []
  · rw [text, hnil]
    rfl
  · obtain ⟨front, hfront⟩ := List.getLast?_eq_some_iff.1 h
    have htext : f.text = String.ofList front ++ "/" ++ "" := by
      apply String.toList_injective
      rw [hfront]
      simp
    -- the text after the last slash would be a segment that is no name
    have hlast : (Path.steps f.text).getLast? = some .here := by
      rw [htext, Path.steps_append]
      exact List.getLast?_concat
    rw [steps_text, if_neg hnil, List.getLast?_cons, List.getLast?_map] at hlast
    cases hn : f.names.getLast? with
    | none => exact absurd (List.getLast?_eq_none_iff.1 hn) hnil
    | some n => simp [hn] at hlast

/-! ## Spellings -/

/-- Idle text leads back to where it starts. -/
theorem foldl_take_idle {idle : String} (h : Path.Idle idle) (f : SourceFile) :
    (Path.steps idle).foldl take f = f := by
  cases h with
  | none => rfl
  | dot => rfl
  | back n =>
    have hsteps : Path.steps (n.text ++ "/..") = [.name n, .parent] := by
      have htext : n.text ++ "/.." = n.text ++ "/" ++ ".." := by
        rw [String.append_assoc]
        rfl
      rw [htext, Path.steps_append, Path.steps_name]
      rfl
    rw [hsteps]
    simp [take]

theorem ofSteps_of_padded (h : Path.Padded path path') :
    ofSteps (Path.steps path') = ofSteps (Path.steps path) := by
  cases h with
  | between front back hidle =>
    rw [Path.steps_append, Path.steps_append, Path.steps_append, ofSteps, ofSteps,
      List.foldl_append, List.foldl_append, foldl_take_idle hidle, List.foldl_append]
  | behind hfront hidle =>
    rw [Path.steps_append, ofSteps, ofSteps, List.foldl_append, foldl_take_idle hidle]

theorem isAbsolute_of_padded (h : Path.Padded path path') :
    Path.isAbsolute path' = Path.isAbsolute path := by
  cases h with
  | between front back hidle =>
    rw [Path.isAbsolute_append, Path.isAbsolute_append, Path.isAbsolute_append]
    simp
  | behind hfront hidle => simp [Path.isAbsolute_append, hfront]

/-- Spellings of one another lead to the same file by name alone, and if one of them starts at the
root, so does the other. -/
theorem alike_of_respelled (h : Path.Respelled path path') :
    ofSteps (Path.steps path') = ofSteps (Path.steps path) ∧
      Path.isAbsolute path' = Path.isAbsolute path := by
  induction h with
  | rel p q hpadded => exact ⟨ofSteps_of_padded hpadded, isAbsolute_of_padded hpadded⟩
  | refl p => exact ⟨rfl, rfl⟩
  | symm p q _ ih => exact ⟨ih.1.symm, ih.2.symm⟩
  | trans p q r _ _ ihpq ihqr => exact ⟨ihqr.1.trans ihpq.1, ihqr.2.trans ihpq.2⟩

/-- Nothing is where a path leads. -/
def LeadsNowhere (files : FileTree) (path : String) : Prop :=
  (files.follow [] (Path.steps path)).isOk = false

theorem locate?_of_leadsNowhere (habsolute : Path.isAbsolute path = true)
    (h : LeadsNowhere files path) : locate? files path = some (ofSteps (Path.steps path)) := by
  cases hfollow : files.follow [] (Path.steps path) with
  | error e => exact locate?_of_failure habsolute hfollow
  | ok place => simp [LeadsNowhere, hfollow, Except.isOk, Except.toBool] at h

/-- A breakpoint whose path is located as a file is in that file. -/
theorem exists_resolve_of_locate? (h : locate? files path = some f) (stored : StoredBreakpoint) :
    ∃ b, Breakpoint.resolve files { stored with path := .ok path } = .ok b ∧ b.file = f := by
  simp [Breakpoint.resolve, h]

/-- An absolute path that leads nowhere is located as the file whose names are left when it is read
from left to right: each is ordinary, and they are written with a slash in front of each. Every
spelling of the path that leads nowhere either is located as the same file. So a breakpoint whose
path is one of the two resolves to the same breakpoint in that file as with the other, and putting
it with the second path finds the entry that was put with the first. A path that is not absolute is
no file's, and whatever is told of it is refused as such. -/
theorem located_by_names (files : FileTree) (path : String) :
    (Path.isAbsolute path = true → LeadsNowhere files path →
      ∃ f, locate? files path = some f ∧
        f.text = "/" ++ String.intercalate "/" (Path.namesOf path) ∧
        (∀ s ∈ Path.namesOf path, IsFileName s) ∧
        (f.text.toList.getLast? = some '/' → f.text = "/") ∧
        ∀ path', Path.Respelled path path' → LeadsNowhere files path' →
          locate? files path' = some f ∧
          ∀ stored : StoredBreakpoint, ∃ b,
            Breakpoint.resolve files { stored with path := .ok path } = .ok b ∧
            Breakpoint.resolve files { stored with path := .ok path' } = .ok b ∧
            b.file = f ∧ ∀ r : Registry, (r.put b).1.put b = ((r.put b).1, .unchanged)) ∧
    (Path.isAbsolute path = false →
      locate? files path = none ∧
      ∀ stored : StoredBreakpoint, Breakpoint.resolve files { stored with path := .ok path } =
        .error (.relativePath path)) := by
  refine ⟨fun habsolute hnowhere => ?absolute, fun hrelative => ?relative⟩
  case relative =>
    have hnone : locate? files path = none := by simp [locate?, hrelative]
    exact ⟨hnone, fun stored => by simp [Breakpoint.resolve, hnone]⟩
  case absolute =>
    have hf := locate?_of_leadsNowhere habsolute hnowhere
    refine ⟨_, hf, ?_, fun s => isFileName_of_mem_namesOf, text_eq_slash_of_getLast?, ?_⟩
    · rw [text, texts_ofSteps]
    · intro path' hrespelled hnowhere'
      obtain ⟨hsteps, habsolute'⟩ := alike_of_respelled hrespelled
      have hf' := locate?_of_leadsNowhere (habsolute'.trans habsolute) hnowhere'
      rw [hsteps] at hf'
      refine ⟨hf', fun stored => ?_⟩
      obtain ⟨b, hb, hfile⟩ := exists_resolve_of_locate? hf stored
      have hsame : Breakpoint.resolve files { stored with path := .ok path' } =
          Breakpoint.resolve files { stored with path := .ok path } := by
        simp only [Breakpoint.resolve, hf, hf']
      refine ⟨b, hb, hsame.trans hb, hfile, fun r => ?_⟩
      exact r.put_put b

/-! ## A path that leaves the root and one that does so with idle text -/

/-- A dot and a slash at the end are put in. -/
theorem respelled_sample : Path.Respelled "/lib/../../a.py" "/lib/.././../a.py/" :=
  .trans _ "/lib/.././../a.py" _ (.rel _ _ (.between "/lib/.." "../a.py" .dot))
    (.rel _ _ (.behind (by decide) .none))

/-- Both are the file right below the root, as long as there are no files, and the path without its
first slash is none. -/
theorem located_sampleSpelled :
    (∃ f, locate? .empty "/lib/../../a.py" = some f ∧ f.text = "/a.py" ∧
      locate? .empty "/lib/.././../a.py/" = some f) ∧
    locate? .empty "lib/../../a.py" = none := by
  obtain ⟨habsolute, -⟩ := located_by_names .empty "/lib/../../a.py"
  obtain ⟨-, hrelative⟩ := located_by_names .empty "lib/../../a.py"
  have hnowhere : LeadsNowhere .empty "/lib/../../a.py" := by cbv
  have hnowhere' : LeadsNowhere .empty "/lib/.././../a.py/" := by cbv
  obtain ⟨f, hf, htext, -, -, hspelled⟩ := habsolute (by decide) hnowhere
  obtain ⟨hf', -⟩ := hspelled _ respelled_sample hnowhere'
  have hnames : "/" ++ String.intercalate "/" (Path.namesOf "/lib/../../a.py") = "/a.py" := by cbv
  exact ⟨⟨f, hf, htext.trans hnames, hf'⟩, (hrelative (by decide)).1⟩

end SourceFile

end DebugRelay
