import Mathlib.Data.List.Basic

/-!
# Splits of a list

What a history or a line is like is said of its splits: one element, with what came before it and
what came since. A list with one more element at an end is split there, or where it was split
without that element.
-/

namespace DebugRelay

variable {α : Type}

/-- A list with a first member, taken apart at some member: at the first, or further back. -/
theorem exists_cons_eq_append_iff {p : List α → α → List α → Prop} {x : α} {xs : List α} :
    (∃ before y behind, x :: xs = before ++ y :: behind ∧ p before y behind) ↔
      p [] x xs ∨ ∃ before y behind, xs = before ++ y :: behind ∧ p (x :: before) y behind := by
  constructor
  · rintro ⟨before, y, behind, heq, hp⟩
    cases before with
    | nil =>
      obtain ⟨rfl, rfl⟩ := List.cons.inj heq
      exact Or.inl hp
    | cons z before =>
      obtain ⟨rfl, rfl⟩ := List.cons.inj heq
      exact Or.inr ⟨before, y, behind, rfl, hp⟩
  · rintro (hp | ⟨before, y, behind, rfl, hp⟩)
    · exact ⟨[], x, xs, rfl, hp⟩
    · exact ⟨x :: before, y, behind, rfl, hp⟩

/-- A list with a last member, taken apart at some member: at the last, or further ahead. -/
theorem concat_eq_append_cons {xs before behind : List α} {x y : α}
    (heq : xs ++ [x] = before ++ y :: behind) :
    (before = xs ∧ y = x ∧ behind = []) ∨
      ∃ between, xs = before ++ y :: between ∧ behind = between ++ [x] := by
  rcases List.eq_nil_or_concat behind with rfl | ⟨between, z, rfl⟩
  · obtain ⟨hxs, hx⟩ := List.append_inj' heq rfl
    exact Or.inl ⟨hxs.symm, (List.cons.inj hx).1.symm, rfl⟩
  · rw [List.concat_eq_append, ← List.cons_append, ← List.append_assoc] at heq
    obtain ⟨hxs, hx⟩ := List.append_inj' heq rfl
    exact Or.inr ⟨between, hxs, by rw [List.concat_eq_append, hx]⟩

end DebugRelay
