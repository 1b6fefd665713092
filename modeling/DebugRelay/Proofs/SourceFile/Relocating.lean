import DebugRelay.Proofs.FileTree
import DebugRelay.Proofs.Splits
import DebugRelay.Proofs.Wire.RoundTrip

/-!
# Locating a file twice

A path that leads somewhere is located where it leads to, and no name on the way there from the
root is a link (`linkless_of_walk`). A path that leads nowhere is located by its text alone, and
that text may well lead through a link to something else (`SourceFile.Redirected`). So the path of a
file that was located is located as the same file again unless the file is redirected
(`located_again_unless_redirected`), and the one that it is located as then stays.
-/

namespace DebugRelay

/-! ## Places without links on the way -/

namespace FileTree

/-- No name on the way from the root to a place, its own included, is a link. -/
def Linkless (t : FileTree) (p : Place) : Prop :=
  ∀ dir n behind, p = dir ++ n :: behind → ∀ target, t.find? (dir ++ [n]) ≠ some (.link target)

variable {t : FileTree} {toMake : Bool} {links : Nat} {at_ p : Place} {steps : List Path.Step}

theorem linkless_nil (t : FileTree) : t.Linkless [] := by
  intro dir n behind h
  simp at h

theorem Linkless.dropLast (h : t.Linkless p) : t.Linkless p.dropLast := by
  intro dir n behind hp
  obtain rfl | ⟨above, last, rfl⟩ := List.eq_nil_or_concat p
  · simp at hp
  · rw [List.concat_eq_append, List.dropLast_concat] at hp
    apply h dir n (behind ++ [last])
    rw [List.concat_eq_append, hp, List.append_assoc, List.cons_append]

/-- An entry of a linkless place that is no link. -/
theorem Linkless.concat (h : t.Linkless p) {n : FileName}
    (hn : ∀ target, t.find? (p ++ [n]) ≠ some (.link target)) : t.Linkless (p ++ [n]) := by
  intro dir n' behind hp
  rcases concat_eq_append_cons hp with ⟨rfl, rfl, -⟩ | ⟨between, hp, -⟩
  · exact hn
  · exact h dir n' between hp

theorem linkless_linkStart (h : t.Linkless p) (target : String) :
    t.Linkless (linkStart p target) := by
  rw [linkStart]
  split
  · exact t.linkless_nil
  · exact h

/-- A walk follows every link that it meets, so there is none on the way to where it ends. -/
theorem linkless_of_walk (hat : t.Linkless at_) (h : t.walk toMake links at_ steps = .ok p) :
    t.Linkless p := by
  fun_induction FileTree.walk t toMake links at_ steps with
  | case1 => exact Except.ok.inj h ▸ hat
  | case2 _ _ _ _ ih => exact ih hat h
  | case3 _ _ _ _ ih => exact ih hat.dropLast h
  -- a last name that is missing
  | case4 _ _ _ _ _ _ hnone =>
    obtain rfl := Except.ok.inj h
    exact hat.concat (by simp [hnone])
  -- a link, which starts over at the root or where it stands
  | case7 _ _ _ _ _ target _ _ ih => exact ih (linkless_linkStart hat target) h
  -- an entry that is no link
  | case8 _ _ _ _ _ _ entry hentry hfound ih =>
    refine ih (hat.concat fun target htarget => ?_) h
    rw [hfound] at htarget
    exact hentry target (Option.some.inj htarget)
  | case5 | case6 | case9 | case10 => simp at h

/-- A walk that gets past a name that is no link goes on from there. -/
theorem walk_of_walk_name {n : FileName} (hn : ∀ target, t.find? (at_ ++ [n]) ≠ some (.link target))
    (h : t.walk toMake links at_ (.name n :: steps) = .ok p) :
    t.walk toMake links (at_ ++ [n]) steps = .ok p := by
  rw [walk.eq_def] at h
  simp only at h
  split at h
  · split at h
    · split at h
      -- the last name, which may be missing
      · split at h
        · next hlast =>
          obtain rfl := Except.ok.inj h
          have hnil : steps = [] := by simp_all
          rw [hnil, walk]
        · cases h
      · next target hlink => exact absurd hlink (hn target)
      · exact h
    · cases h
  · cases h

/-- Names without a link among them lead nowhere but straight down. -/
theorem walk_names_of_linkless {names : List FileName} (hlinkless : t.Linkless (at_ ++ names))
    (h : t.walk toMake links at_ (names.map .name) = .ok p) : p = at_ ++ names := by
  induction names generalizing at_ with
  | nil =>
    rw [List.map_nil, walk] at h
    rw [List.append_nil]
    exact (Except.ok.inj h).symm
  | cons n rest ih =>
    rw [List.append_cons] at hlinkless ⊢
    exact ih hlinkless (walk_of_walk_name (hlinkless at_ n rest (List.append_cons ..).symm) h)

end FileTree

namespace SourceFile

variable {files : FileTree} {f : SourceFile} {path : String}

/-- The path of a file leads to something, but through a link. -/
def Redirected (files : FileTree) (f : SourceFile) : Prop :=
  (files.follow [] (Path.steps f.text)).isOk = true ∧ ¬ files.Linkless f.names

theorem locate?_of_follow {place : Place} (habsolute : Path.isAbsolute path = true)
    (h : files.follow [] (Path.steps path) = .ok place) : locate? files path = some ⟨place⟩ := by
  simp only [locate?, if_pos habsolute, h]

theorem locate?_of_failure {e : FileTree.Failure} (habsolute : Path.isAbsolute path = true)
    (h : files.follow [] (Path.steps path) = .error e) :
    locate? files path = some (ofSteps (Path.steps path)) := by
  simp only [locate?, if_pos habsolute, h]

/-- The text of a file is followed like its names. -/
theorem follow_text (files : FileTree) (f : SourceFile) :
    files.follow [] (Path.steps f.text) = files.follow [] (f.names.map .name) := by
  have hhere : ∀ steps, files.follow [] (.here :: steps) = files.follow [] steps := by
    intro steps
    rw [FileTree.follow, FileTree.walk, if_pos files.isDirectory_nil]
    rfl
  rw [steps_text, hhere]
  split
  · next hnil => rw [hhere, hnil, List.map_nil]
  · rfl

/-- What a path leads to has no link on its way from the root. -/
theorem linkless_of_follow {place : Place}
    (h : files.follow [] (Path.steps path) = .ok place) : files.Linkless place :=
  FileTree.linkless_of_walk files.linkless_nil h

theorem locate?_text_of_not_redirected (h : ¬ f.Redirected files) :
    locate? files f.text = some f := by
  cases hfollow : files.follow [] (Path.steps f.text) with
  | error e => rw [locate?_of_failure f.isAbsolute_text hfollow, ofSteps_text]
  | ok place =>
    have hlinkless : files.Linkless ([] ++ f.names) := by
      by_contra hlink
      exact h ⟨by rw [hfollow]; rfl, hlink⟩
    have hplace : place = f.names := by
      rw [follow_text] at hfollow
      exact FileTree.walk_names_of_linkless hlinkless hfollow
    rw [locate?_of_follow f.isAbsolute_text hfollow, hplace]

/-- A redirected file is located somewhere else, where nothing redirects it. -/
theorem locate?_text_of_redirected (h : f.Redirected files) :
    ∃ g, locate? files f.text = some g ∧ g ≠ f ∧ ¬ g.Redirected files := by
  obtain ⟨hok, hlink⟩ := h
  cases hfollow : files.follow [] (Path.steps f.text) with
  | error e => simp [hfollow, Except.isOk, Except.toBool] at hok
  | ok place =>
    have hlinkless : files.Linkless place := linkless_of_follow hfollow
    refine ⟨⟨place⟩, locate?_of_follow f.isAbsolute_text hfollow, ?_, fun h => h.2 hlinkless⟩
    rintro rfl
    exact hlink hlinkless

/-- An absolute path is located as some file, and as one that is not redirected if it leads to
anything. -/
theorem exists_locate? (files : FileTree) (h : Path.isAbsolute path = true) :
    ∃ f, locate? files path = some f ∧
      ((files.follow [] (Path.steps path)).isOk = true → ¬ f.Redirected files) := by
  cases hfollow : files.follow [] (Path.steps path) with
  | error e => exact ⟨_, locate?_of_failure h hfollow, by simp [Except.isOk, Except.toBool]⟩
  | ok place =>
    have hlinkless : files.Linkless place := linkless_of_follow hfollow
    exact ⟨⟨place⟩, locate?_of_follow h hfollow, fun _ hredirected => hredirected.2 hlinkless⟩

/-- Every absolute path is located as a file, whose path is absolute again. That path is located as
the same file, and a location or a breakpoint in the file that was written is read back as it was,
exactly if the file is not redirected; one that is redirected comes from a path that leads nowhere.
What the path of the file is located as, and is read back as, is located as itself from then on. -/
theorem located_again_unless_redirected (files : FileTree) (path : String)
    (h : Path.isAbsolute path = true) :
    ∃ f g, locate? files path = some f ∧ Path.isAbsolute f.text = true ∧
      locate? files f.text = some g ∧ locate? files g.text = some g ∧
      (g = f ↔ ¬ f.Redirected files) ∧
      (f.Redirected files → (files.follow [] (Path.steps path)).isOk = false) ∧
      (∀ l : Location, l.file = f →
        Location.ofJson? files l.toJson = some { l with file := g }) ∧
      ∀ b : Breakpoint, b.file = f →
        Breakpoint.ofJson? files b.toJson = some { b with file := g } := by
  obtain ⟨f, hf, hfollowed⟩ := exists_locate? files h
  have hg : ∃ g, locate? files f.text = some g ∧ ¬ g.Redirected files ∧
      (g = f ↔ ¬ f.Redirected files) := by
    by_cases hredirected : f.Redirected files
    · obtain ⟨g, hg, hne, hstays⟩ := locate?_text_of_redirected hredirected
      exact ⟨g, hg, hstays, iff_of_false hne (not_not.2 hredirected)⟩
    · exact ⟨f, locate?_text_of_not_redirected hredirected, hredirected,
        iff_of_true rfl hredirected⟩
  obtain ⟨g, hg, hstays, hsame⟩ := hg
  refine ⟨f, g, hf, f.isAbsolute_text, hg, locate?_text_of_not_redirected hstays, hsame, ?_, ?_, ?_⟩
  · intro hredirected
    rw [← Bool.not_eq_true]
    exact fun hok => hfollowed hok hredirected
  · rintro l rfl
    exact Location.ofJson?_toJson_of_read hg
  · rintro b rfl
    exact Breakpoint.ofJson?_toJson_of_read hg

/-! ## A link behind a directory that is missing -/

/-- A directory with one file and a link to it. -/
def sampleLinked : FileTree :=
  ⟨[(⟨"a.py", isFileName_script⟩, .file .empty), (⟨"b", by decide⟩, .link "a.py")]⟩

/-- The path of the link leads to the file. -/
theorem located_sampleLinked :
    ∃ f g, locate? sampleLinked "/b" = some f ∧ locate? sampleLinked f.text = some g ∧ g = f := by
  obtain ⟨f, g, hf, -, hg, -, hsame, hfollowed, -⟩ :=
    located_again_unless_redirected sampleLinked "/b" (by decide)
  have hok : (sampleLinked.follow [] (Path.steps "/b")).isOk = true := by cbv
  refine ⟨f, g, hf, hg, hsame.2 fun hredirected => ?_⟩
  rw [hfollowed hredirected] at hok
  cases hok

/-- The link, taken for a file. -/
def sampleLink : SourceFile := ⟨[⟨"b", by decide⟩]⟩

/-- Behind a directory that is missing the link is located by its text, and from there as the
file. -/
theorem moved_sampleLinked :
    Path.isAbsolute "/lib/../b" = true ∧
    locate? sampleLinked "/lib/../b" = some sampleLink ∧
    locate? sampleLinked sampleLink.text = some ⟨[⟨"a.py", isFileName_script⟩]⟩ ∧
    locate? sampleLinked sampleLink.text ≠ some sampleLink := by
  have hmoved : locate? sampleLinked sampleLink.text =
    some ⟨[⟨"a.py", isFileName_script⟩]⟩ := by cbv
  refine ⟨by decide, by cbv, hmoved, ?_⟩
  rw [hmoved]
  decide

end SourceFile

end DebugRelay
