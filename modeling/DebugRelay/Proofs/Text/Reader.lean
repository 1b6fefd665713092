import DebugRelay.Text.Reader
import Mathlib.Data.List.Basic

/-!
# What readers take

Readers of a whole list take what they read apart one by one (`mapM_eq_some_map`), and readers of a
front take what was put there.
-/

namespace DebugRelay.Text.Reader

/-- A list is read if each of its elements is. -/
theorem mapM_eq_some_map {α β : Type} {f : α → Option β} {g : α → β} {l : List α}
    (h : ∀ x ∈ l, f x = some (g x)) : l.mapM f = some (l.map g) := by
  induction l with
  | nil => rfl
  | cons x rest ih =>
    have hx : f x = some (g x) := h x List.mem_cons_self
    have hrest := ih fun y hy => h y (List.mem_cons_of_mem x hy)
    simp [hx, hrest]

theorem count_append {k : Nat} {cs : List Char} (h : cs.length = k) (rest : List Char) :
    count k (cs ++ rest) = some (cs, rest) := by
  subst h
  induction cs with
  | nil => rfl
  | cons c cs ih => rw [List.length_cons, List.cons_append, count, ih, Option.map_some]

/-- A run ends where the test fails. -/
theorem run1_append {p : Char → Bool} {cs rest : List Char} (hne : cs ≠ [])
    (hall : ∀ c ∈ cs, p c = true) (hrest : ∀ c ∈ rest.head?, p c = false) :
    run1 p (cs ++ rest) = some (cs, rest) := by
  have hstop : rest.takeWhile p = [] ∧ rest.dropWhile p = rest := by
    cases rest with
    | nil => exact ⟨rfl, rfl⟩
    | cons c more =>
      have hc : p c = false := hrest c rfl
      simp [hc]
  have htake : (cs ++ rest).takeWhile p = cs := by
    rw [List.takeWhile_append_of_pos hall, hstop.1, List.append_nil]
  have hdrop : (cs ++ rest).dropWhile p = rest := by
    rw [List.dropWhile_append_of_pos hall, hstop.2]
  obtain ⟨c, more, rfl⟩ := List.exists_cons_of_ne_nil hne
  rw [run1, htake, hdrop]

end DebugRelay.Text.Reader
