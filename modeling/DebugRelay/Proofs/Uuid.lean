import Mathlib
import DebugRelay.Proofs.Text.Reader
import DebugRelay.Uuid

/-!
# Reading an identifier back

The text of an identifier spells it (`ofText?_text`).
-/

namespace DebugRelay.Uuid

theorem digit?_lowerHexChar (d : Fin 16) : digit? (Text.lowerHexChar d.val) = some d := by
  revert d
  decide

/-- The digits of a text as its characters. -/
theorem mapM_digit?_map (digits : List (Fin 16)) :
    (digits.map fun (d : Fin 16) => Text.lowerHexChar d.val).mapM digit? = some digits := by
  have hread : digits.mapM (digit? ∘ fun (d : Fin 16) => Text.lowerHexChar d.val) =
      some (digits.map id) :=
    Text.Reader.mapM_eq_some_map fun d _ => digit?_lowerHexChar d
  rw [List.mapM_map, hread, List.map_id]

/-! ## Hyphens -/

/-- There is a hyphen between any two groups. -/
theorem length_hyphenate (n : Nat) (lengths : List Nat) {cs : List Char}
    (h : cs.length = (n :: lengths).sum) :
    (hyphenate (n :: lengths) cs).length = cs.length + lengths.length := by
  induction lengths generalizing n cs with
  | nil =>
    have hn : cs.length = n := by simpa using h
    simp [hyphenate, hn]
  | cons m rest ih =>
    simp only [List.sum_cons] at h
    have hrest : (cs.drop n).length = (m :: rest).sum := by
      rw [List.length_drop, List.sum_cons]
      omega
    rw [hyphenate, List.length_append, List.length_cons, ih m hrest, List.length_take,
      List.length_drop, List.length_cons]
    · omega
    · simp

/-- Groups that were put apart by hyphens are put together again. -/
theorem unhyphenate_hyphenate (n : Nat) (lengths : List Nat) {cs : List Char}
    (h : cs.length = (n :: lengths).sum) :
    unhyphenate (n :: lengths) (hyphenate (n :: lengths) cs) = some cs := by
  induction lengths generalizing n cs with
  | nil =>
    have hn : cs.length = n := by simpa using h
    simp [hyphenate, unhyphenate, ← hn]
  | cons m rest ih =>
    simp only [List.sum_cons] at h
    have hrest : (cs.drop n).length = (m :: rest).sum := by
      rw [List.length_drop, List.sum_cons]
      omega
    have htake : (cs.take n).length = n := by
      rw [List.length_take]
      omega
    have hdrop : ∀ more : List Char, (cs.take n ++ more).drop n = more := by
      intro more
      exact List.drop_left' htake
    have hfirst : ∀ more : List Char, (cs.take n ++ more).take n = cs.take n := by
      intro more
      exact List.take_left' htake
    simp only [hyphenate, unhyphenate, hdrop, hfirst, ih m hrest, Option.map_some,
      List.take_append_drop]

/-- An identifier is read as it is written. -/
theorem ofText?_text (u : Uuid) : ofText? u.text = some u := by
  have hlength :
      (u.digits.map fun (d : Fin 16) => Text.lowerHexChar d.val).length = groups.sum := by
    rw [List.length_map, u.length_eq]
    rfl
  have htext : u.text.toList.length = 36 := by
    rw [text, String.toList_ofList, groups, length_hyphenate 8 [4, 4, 4, 12] hlength, hlength]
    rfl
  have hdigits : ofDigits? (u.digits.map fun (d : Fin 16) => Text.lowerHexChar d.val) = some u := by
    rw [ofDigits?, mapM_digit?_map]
    simp [u.length_eq]
  -- the length of the text tells that it has hyphens and nothing around it
  have hbare : u.text.toList.length ≠ 32 := by
    rw [htext]
    decide
  simp only [ofText?, if_neg hbare, if_pos htext]
  rw [text, String.toList_ofList, groups, unhyphenate_hyphenate 8 [4, 4, 4, 12] hlength,
    Option.bind_some, hdigits]

end DebugRelay.Uuid
