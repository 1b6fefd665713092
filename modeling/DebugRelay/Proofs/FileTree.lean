import DebugRelay.FileTree
import Mathlib.Data.List.Basic

/-!
# Reading a file back

A walk ends at a directory, or at something in a directory that is no link (`isEnd_of_walk`). So a
file that was written to a path is where the path leads afterwards (`resolve_of_write`), and has the
content that was written (`read_of_write`).
-/

namespace DebugRelay.FileTree

/-! ## Directories -/

/-- What is above a directory is a directory. -/
theorem Node.entry_find?_dropLast {node : Node} {p : Place}
    (h : (node.find? p).map Node.entry = some .directory) :
    (node.find? p.dropLast).map Node.entry = some .directory := by
  induction p generalizing node with
  | nil => exact h
  | cons n rest ih =>
    rw [find?_cons] at h
    cases hchild : node.children.lookup n with
    | none => simp [hchild] at h
    | some child =>
      rw [hchild, Option.bind_some] at h
      cases rest with
      | nil => simp [entry_of_lookup hchild]
      | cons n' more =>
        rw [List.dropLast_cons_of_ne_nil (List.cons_ne_nil n' more), find?_cons, hchild,
          Option.bind_some]
        exact ih h

variable {t : FileTree}

theorem isDirectory_iff {p : Place} : t.isDirectory p = true ↔ t.find? p = some .directory := by
  rw [isDirectory, decide_eq_true_iff]

theorem isDirectory_nil (t : FileTree) : t.isDirectory [] = true := by
  simp [isDirectory_iff, find?, root]

theorem isDirectory_dropLast {p : Place} (h : t.isDirectory p = true) :
    t.isDirectory p.dropLast = true := by
  rw [isDirectory_iff] at h ⊢
  exact Node.entry_find?_dropLast h

/-! ## Where walks end -/

/-- A directory, or a place in a directory that holds no link. -/
def IsEnd (t : FileTree) (p : Place) : Prop :=
  t.isDirectory p = true ∨
    ∃ dir n, p = dir ++ [n] ∧ t.isDirectory dir = true ∧ ∀ target, t.find? p ≠ some (.link target)

theorem isDirectory_linkStart {dir : Place} (h : t.isDirectory dir = true) (target : String) :
    t.isDirectory (linkStart dir target) = true := by
  rw [linkStart]
  split
  · exact t.isDirectory_nil
  · exact h

theorem isEnd_of_walk {toMake : Bool} {links : Nat} {at_ : Place} {steps : List Path.Step}
    {p : Place}
    (hat : t.IsEnd at_) (h : t.walk toMake links at_ steps = .ok p) : t.IsEnd p := by
  fun_induction FileTree.walk t toMake links at_ steps with
  -- nothing is left to do
  | case1 => exact Except.ok.inj h ▸ hat
  -- a step that stays, and one to the directory above
  | case2 _ _ _ _ ih => exact ih hat h
  | case3 _ _ _ hdir ih => exact ih (Or.inl (isDirectory_dropLast hdir)) h
  -- a last name that is missing
  | case4 _ dir _ hdir n _ hnone =>
    obtain rfl := Except.ok.inj h
    exact Or.inr ⟨dir, n, rfl, hdir, by simp [hnone]⟩
  -- a link, which starts over at a directory
  | case7 _ _ hdir _ _ target _ _ ih => exact ih (Or.inl (isDirectory_linkStart hdir target)) h
  -- an entry that is no link
  | case8 _ dir _ hdir n _ entry hentry hfound ih =>
    refine ih (Or.inr ⟨dir, n, rfl, hdir, ?_⟩) h
    intro target htarget
    rw [hfound] at htarget
    exact hentry target (Option.some.inj htarget)
  -- the walk fails
  | case5 | case6 | case9 | case10 => simp at h

/-! ## Writing -/

/-- Once there is a file where a walk ended, the same walk leads to it. -/
theorem walk_of_put {t' : FileTree} {p : Place} {content : ByteArray}
    (hput : ∀ q, t'.find? q = if q = p then some (.file content) else t.find? q)
    (hdir : t.isDirectory p = false) (hlink : ∀ target, t.find? p ≠ some (.link target))
    {links : Nat} {at_ : Place} {steps : List Path.Step} (h : t.walk true links at_ steps = .ok p) :
    t'.walk false links at_ steps = .ok p := by
  have hdirs : ∀ q, t'.isDirectory q = t.isDirectory q := by
    intro q
    by_cases hq : q = p
    · rw [hq, hdir]
      simp [isDirectory, hput]
    · simp [isDirectory, hput, hq]
  fun_induction FileTree.walk t true links at_ steps with
  | case1 =>
    rw [walk]
    exact h
  | case2 _ _ _ hat ih =>
    rw [walk, if_pos ((hdirs _).trans hat)]
    exact ih h
  | case3 _ _ _ hat ih =>
    rw [walk, if_pos ((hdirs _).trans hat)]
    exact ih h
  -- the missing name is the place of the file now
  | case4 _ dir rest hat n hname hnone hlast =>
    obtain rfl := Except.ok.inj h
    have hrest : rest = [] := by simpa using hlast
    have hfound : t'.find? (dir ++ [n]) = some (.file content) := by rw [hput, if_pos rfl]
    rw [walk, if_pos ((hdirs _).trans hat), hrest]
    simp only [hname, if_true, hfound]
    rw [walk]
  | case7 dir rest hat n hname target hfound links' ih =>
    have hne : dir ++ [n] ≠ p := fun heq => hlink target (heq ▸ hfound)
    have hfound' : t'.find? (dir ++ [n]) = some (.link target) := by rw [hput, if_neg hne, hfound]
    rw [walk, if_pos ((hdirs _).trans hat)]
    simp only [hname, if_true, hfound']
    exact ih h
  | case8 _ dir rest hat n hname entry hentry hfound ih =>
    rw [walk, if_pos ((hdirs _).trans hat)]
    by_cases hq : dir ++ [n] = p
    · have hfound' : t'.find? (dir ++ [n]) = some (.file content) := by rw [hput, if_pos hq]
      simp only [hname, if_true, hfound']
      exact ih h
    · have hfound' : t'.find? (dir ++ [n]) = some entry := by rw [hput, if_neg hq, hfound]
      simp only [hname, if_true, hfound']
      exact ih h
  | case5 | case6 | case9 | case10 => simp at h

theorem steps_ne_nil (path : String) : Path.steps path ≠ [] := by
  have hne : ∀ cs, Path.segments cs ≠ [] := by
    intro cs
    unfold Path.segments
    split
    · simp
    · split
      · simp
      · split <;> simp
  simpa [Path.steps] using hne path.toList

/-- A walk that has a step to take starts from a directory. -/
theorem isDirectory_of_walk {toMake : Bool} {links : Nat} {at_ : Place} {steps : List Path.Step}
    {p : Place} (hsteps : steps ≠ []) (h : t.walk toMake links at_ steps = .ok p) :
    t.isDirectory at_ = true := by
  obtain ⟨step, rest, rfl⟩ := List.exists_cons_of_ne_nil hsteps
  by_contra hdir
  rw [walk.eq_def] at h
  simp [hdir] at h

theorem pathSteps_eq_ok {path : String} {steps : List Path.Step} (h : pathSteps path = .ok steps) :
    steps = Path.steps path := by
  unfold pathSteps at h
  split at h
  · simp at h
  split at h
  · simp at h
  split at h
  · simp at h
  · exact (Except.ok.inj h).symm

variable {t' : FileTree} {cwd : Place} {path : String} {content : ByteArray}

/-- What is done when a file is written: it is put where the path leads, and is no directory and no
link there. -/
theorem write_eq_ok (h : t.write cwd path content = .ok t') :
    ∃ steps p, pathSteps path = .ok steps ∧ t.walk true linkLimit (start cwd path) steps = .ok p ∧
      t.isDirectory p = false ∧ t' = t.put p (.file content) := by
  cases hsteps : pathSteps path with
  | error e =>
    rw [write, hsteps] at h
    simp [bind, Except.bind] at h
  | ok steps =>
    cases hwalk : t.walk true linkLimit (start cwd path) steps with
    | error e =>
      simp [write, hsteps, hwalk, bind, Except.bind] at h
    | ok p =>
      simp only [write, hsteps, hwalk, bind, Except.bind] at h
      split at h
      · simp at h
      · next hdir => exact ⟨steps, p, rfl, hwalk, by simpa using hdir, (Except.ok.inj h).symm⟩

/-- A file that was written to a path is where the path leads. -/
theorem resolve_of_write (h : t.write cwd path content = .ok t') :
    ∃ p, t'.resolve cwd path = .ok p ∧ t'.find? p = some (.file content) := by
  obtain ⟨steps, p, hsteps, hwalk, hdir, rfl⟩ := write_eq_ok h
  have hstart : t.isDirectory (start cwd path) = true :=
    isDirectory_of_walk (pathSteps_eq_ok hsteps ▸ steps_ne_nil path) hwalk
  rcases isEnd_of_walk (Or.inl hstart) hwalk with hend | ⟨dir, n, rfl, habove, hlink⟩
  · rw [hdir] at hend
    exact absurd hend (by decide)
  · have hput := t.find?_put (.file content) (p := dir ++ [n]) (by simp) (by simpa using habove)
      (by simp [hdir])
    refine ⟨dir ++ [n], ?_, by rw [hput, if_pos rfl]⟩
    simp only [resolve, hsteps, bind, Except.bind]
    exact walk_of_put hput hdir hlink hwalk

theorem exists?_of_write (h : t.write cwd path content = .ok t') : t'.exists? cwd path = true := by
  obtain ⟨p, hresolve, -⟩ := resolve_of_write h
  rw [exists?, hresolve]
  rfl

theorem read_of_write (h : t.write cwd path content = .ok t') :
    t'.read cwd path = .ok content := by
  obtain ⟨p, hresolve, hfound⟩ := resolve_of_write h
  simp only [read, hresolve, bind, Except.bind, hfound]

end DebugRelay.FileTree
