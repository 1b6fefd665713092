import Mathlib
import DebugRelay.Proofs.Text.Reader
import DebugRelay.Text.Digits

/-!
# Reading numbers back

The digits of a number spell it, also behind zeros (`digitsValue_paddedDigits`), and a number in
hexadecimal is read as it was written (`readDigits?_upperHex`).
-/

namespace DebugRelay.Text

variable {base : Nat} (h : 2 ≤ base)

theorem digitsValue_concat (base : Nat) (digits : List Nat) (d : Nat) :
    digitsValue base (digits ++ [d]) = digitsValue base digits * base + d := by
  simp [digitsValue]

theorem digitsValue_replicate_append (base k : Nat) (digits : List Nat) :
    digitsValue base (List.replicate k 0 ++ digits) = digitsValue base digits := by
  induction k with
  | zero => rfl
  | succ k ih =>
    rw [List.replicate_succ, List.cons_append, ← ih]
    simp [digitsValue]

theorem digitsValue_reverse_digitsBack (n : Nat) :
    digitsValue base (digitsBack base h n).reverse = n := by
  induction n using Nat.strongRecOn with
  | ind n ih =>
    rw [digitsBack]
    split
    · next hzero =>
      rw [hzero]
      rfl
    · next hpos =>
      have hless : n / base < n := Nat.div_lt_self (by omega) h
      rw [List.reverse_cons, digitsValue_concat, ih (n / base) hless]
      exact Nat.div_add_mod' n base

theorem lt_of_mem_digitsBack (n : Nat) : ∀ d ∈ digitsBack base h n, d < base := by
  induction n using Nat.strongRecOn with
  | ind n ih =>
    rw [digitsBack]
    split
    · simp
    · next hpos =>
      intro d hd
      rcases List.mem_cons.1 hd with rfl | hd
      · exact Nat.mod_lt n (by omega)
      · exact ih (n / base) (Nat.div_lt_self (by omega) h) d hd

theorem length_digitsBack_le {n k : Nat} (hn : n < base ^ k) :
    (digitsBack base h n).length ≤ k := by
  induction k generalizing n with
  | zero =>
    obtain rfl : n = 0 := by simpa using hn
    rw [digitsBack, dif_pos rfl]
    exact Nat.le_refl 0
  | succ k ih =>
    rw [digitsBack]
    split
    · exact Nat.zero_le (k + 1)
    · have hdiv : n / base < base ^ k := Nat.div_lt_of_lt_mul (by rwa [Nat.pow_succ'] at hn)
      exact Nat.succ_le_succ (ih hdiv)

theorem digitsValue_paddedDigits (width n : Nat) :
    digitsValue base (paddedDigits base h width n) = n := by
  rw [paddedDigits, digitsValue_replicate_append, digitsValue_reverse_digitsBack]

theorem lt_of_mem_paddedDigits (width n : Nat) : ∀ d ∈ paddedDigits base h width n, d < base := by
  intro d hd
  rcases List.mem_append.1 hd with hd | hd
  · rw [List.eq_of_mem_replicate hd]
    omega
  · exact lt_of_mem_digitsBack h n d (List.mem_reverse.1 hd)

theorem length_paddedDigits {width n : Nat} (hn : n < base ^ width) :
    (paddedDigits base h width n).length = width := by
  have hle := length_digitsBack_le h hn
  simp only [paddedDigits, List.length_append, List.length_replicate, List.length_reverse]
  omega

/-! ## Hexadecimal -/

theorem hexDigit?_upperHexChar {d : Nat} (hd : d < 16) : hexDigit? (upperHexChar d) = some d := by
  have hall : ∀ d : Fin 16, hexDigit? (upperHexChar d.val) = some d.val := by decide
  exact hall ⟨d, hd⟩

theorem readDigits?_upperHex (width n : Nat) :
    readDigits? hexDigit? 16 (upperHex width n).toList = some n := by
  have hread : ((paddedDigits 16 (by decide) width n).map upperHexChar).mapM hexDigit? =
      some ((paddedDigits 16 (by decide) width n).map id) := by
    rw [List.mapM_map]
    refine Reader.mapM_eq_some_map fun d hd => ?_
    exact hexDigit?_upperHexChar (lt_of_mem_paddedDigits _ width n d hd)
  rw [readDigits?, upperHex, String.toList_ofList, hread, List.map_id, Option.map_some,
    digitsValue_paddedDigits]

theorem length_upperHex {width n : Nat} (hn : n < 16 ^ width) :
    (upperHex width n).toList.length = width := by
  rw [upperHex, String.toList_ofList, List.length_map, length_paddedDigits _ hn]

end DebugRelay.Text
