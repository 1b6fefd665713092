import DebugRelay.Proofs.Text.Digits
import DebugRelay.Toml.Printer
import DebugRelay.Toml.Reader
import Mathlib.Data.List.TakeWhile

/-!
# Reading strings back

A string literal is read as the string that it was written for, whichever of the four forms was
chosen (`quotedString_write`), as long as no quote follows the literal. The form that is chosen for
a string is one that can hold it (`fits_fitting`).
-/

namespace DebugRelay.Toml

open Text Text.Reader

/-! ## Escapes -/

/-- A character that is no bare control is written as it is where nothing is escaped. -/
theorem isTextChar_of_not_isBareControl {c : Char} (h : isBareControl c = false)
    (hline : c ≠ '\n') :
    isTextChar c = true := by
  simp only [isBareControl, Bool.or_eq_false_iff, Bool.and_eq_false_iff, decide_eq_false_iff_not,
    bne_eq_false_iff_eq, beq_eq_false_iff_ne] at h
  simp only [isTextChar, Bool.or_eq_true, beq_iff_eq, Bool.and_eq_true, decide_eq_true_eq,
    bne_iff_ne]
  grind

theorem toNat_lt_of_isBareControl {c : Char} (h : isBareControl c = true) : c.toNat < 16 ^ 4 := by
  simp only [isBareControl, Bool.or_eq_true, Bool.and_eq_true, decide_eq_true_eq, beq_iff_eq] at h
  rcases h with ⟨⟨h, -⟩, -⟩ | rfl
  · omega
  · decide

/-- The four digits of a character that is escaped by its number. -/
theorem escape_upperHex {c : Char} (h : isBareControl c = true) (more : List Char) :
    escape ('u' :: (upperHex 4 c.toNat).toList ++ more) = some (c, more) := by
  have hcount : count 4 ((upperHex 4 c.toNat).toList ++ more) =
      some ((upperHex 4 c.toNat).toList, more) :=
    count_append (length_upperHex (toNat_lt_of_isBareControl h)) more
  have hnamed : named? (upperHex 4 c.toNat).toList = some c := by
    have hvalid : c.toNat.isValidChar := c.valid
    simp only [named?, readDigits?_upperHex, Option.bind_eq_bind, Option.bind_some, if_pos hvalid,
      Char.ofNat_toNat]
  simp only [List.cons_append, escape, hcount, Option.bind_eq_bind, Option.bind_some, hnamed]

theorem escape_quote (more : List Char) : escape (['"'] ++ more) = some ('"', more) := rfl

/-- A character that is no quote is written as it is or as an escape that is read as it. -/
theorem escapeChar_cases (multi : Bool) (c : Char) :
    (escapeChar multi c = [c] ∧ c ≠ '\\' ∧ c ≠ '\r' ∧
      (isTextChar c = true ∨ multi = true ∧ c = '\n')) ∨
    ∃ e, escapeChar multi c = '\\' :: e ∧ ∀ more, escape (e ++ more) = some (c, more) := by
  unfold escapeChar
  split
  · next h => exact Or.inr ⟨['b'], rfl, fun more => by rw [h]; rfl⟩
  split
  · next h => exact Or.inr ⟨['t'], rfl, fun more => by rw [h]; rfl⟩
  split
  · next h =>
    cases multi with
    | true => exact Or.inl ⟨by rw [h]; rfl, by rw [h]; decide, by rw [h]; decide, Or.inr ⟨rfl, h⟩⟩
    | false => exact Or.inr ⟨['n'], rfl, fun more => by rw [h]; rfl⟩
  next hline =>
  split
  · next h => exact Or.inr ⟨['f'], rfl, fun more => by rw [h]; rfl⟩
  split
  · next h => exact Or.inr ⟨['r'], rfl, fun more => by rw [h]; rfl⟩
  next hreturn =>
  split
  · next h => exact Or.inr ⟨['\\'], rfl, fun more => by rw [h]; rfl⟩
  next hback =>
  split
  · next h => exact Or.inr ⟨_, rfl, escape_upperHex h⟩
  · next h =>
    have htext := isTextChar_of_not_isBareControl (by simpa using h) hline
    exact Or.inl ⟨rfl, hback, hreturn, Or.inl htext⟩

/-! ## Strings on one line -/

/-- The rest of a string, with a character in front of it. -/
def prepend (c : Char) (body : List Char × List Char) : List Char × List Char :=
  (c :: body.1, body.2)

theorem literalBody_append {cs : List Char} (h : ∀ c ∈ cs, c ≠ '\'' ∧ isTextChar c = true)
    (rest : List Char) : literalBody (cs ++ '\'' :: rest) = some (cs, rest) := by
  induction cs with
  | nil => rfl
  | cons c cs ih =>
    obtain ⟨hquote, htext⟩ := h c List.mem_cons_self
    have hrest := ih fun x hx => h x (List.mem_cons_of_mem c hx)
    simp [literalBody, htext, hrest]

theorem basicBody_text {c : Char} (hquote : c ≠ '"') (hback : c ≠ '\\')
    (htext : isTextChar c = true)
    (more : List Char) : basicBody (c :: more) = (basicBody more).map (prepend c) := by
  simp only [basicBody, htext, if_true]
  rfl

theorem basicBody_escape {e more : List Char} {c : Char} (h : escape (e ++ more) = some (c, more)) :
    basicBody ('\\' :: (e ++ more)) = (basicBody more).map (prepend c) := by
  have hlength : more.length ≤ (e ++ more).length := by simp
  simp only [basicBody, h, if_pos hlength]
  rfl

/-- Every quote is escaped. -/
theorem basicBody_escapeFrom (quotes : Nat) (cs rest : List Char) :
    basicBody (escapeFrom false 0 quotes cs ++ '"' :: rest) = some (cs, rest) := by
  induction cs generalizing quotes with
  | nil =>
    rw [escapeFrom, List.nil_append, basicBody]
  | cons c cs ih =>
    rw [escapeFrom]
    split
    · next hquote =>
      have hread := basicBody_escape (escape_quote (escapeFrom false 0 0 cs ++ '"' :: rest))
      rw [ih 0] at hread
      rw [if_neg (Nat.not_lt_zero quotes), hquote]
      exact hread
    · next hquote =>
      rw [List.append_assoc]
      rcases escapeChar_cases false c with ⟨heq, hback, -, htext⟩ | ⟨e, heq, hread⟩
      · have htext : isTextChar c = true := by simpa using htext
        rw [heq, List.singleton_append, basicBody_text hquote hback htext, ih 0]
        rfl
      · rw [heq, List.cons_append, basicBody_escape (hread _), ih 0]
        rfl

/-! ## Strings over several lines -/

/-- Up to two quotes in front of the three that end a string belong to it. -/
theorem closing_run {quote : Char} {k : Nat} (hk : k ≤ 2) {rest : List Char}
    (hrest : ∀ c ∈ rest.head?, c ≠ quote) :
    closing quote (List.replicate k quote ++ quote :: quote :: quote :: rest) =
      some (List.replicate k quote, rest) := by
  have hstop : rest.takeWhile (· == quote) = [] := by
    cases rest with
    | nil => rfl
    | cons c more =>
      have hc : c ≠ quote := hrest c rfl
      simp [hc]
  have hrun : (List.replicate k quote ++ quote :: quote :: quote :: rest).takeWhile (· == quote) =
      List.replicate k quote ++ [quote, quote, quote] := by
    rw [List.takeWhile_append_of_pos (by simp)]
    simp [hstop]
  have hinside : min (k + 3 - 3) 2 = k := by omega
  simp only [closing, hrun, List.length_append, List.length_replicate, List.length_cons,
    List.length_nil, hinside]
  rw [if_neg (by omega)]
  simp [List.drop_append]

/-- Two quotes do not end a string. -/
theorem closing_of_few {quote d : Char} {k : Nat} (hk : k ≤ 2) (hd : d ≠ quote) (more : List Char) :
    closing quote (List.replicate k quote ++ d :: more) = none := by
  have hrun : (List.replicate k quote ++ d :: more).takeWhile (· == quote) =
      List.replicate k quote := by
    rw [List.takeWhile_append_of_pos (by simp)]
    simp [hd]
  simp only [closing, hrun, List.length_replicate]
  rw [if_pos (by omega)]

theorem closing_of_ne {quote d : Char} (hd : d ≠ quote) (more : List Char) :
    closing quote (d :: more) = none := closing_of_few (Nat.zero_le 2) hd more

theorem multiBasicBody_of_closing {cs inside rest : List Char}
    (h : closing '"' cs = some (inside, rest)) : multiBasicBody cs = some (inside, rest) := by
  rw [multiBasicBody.eq_def, h]

theorem multiBasicBody_text {c : Char} {more : List Char} (hclose : closing '"' (c :: more) = none)
    (hback : c ≠ '\\') (hreturn : c ≠ '\r') (htext : isTextChar c = true ∨ c = '\n') :
    multiBasicBody (c :: more) = (multiBasicBody more).map (prepend c) := by
  have htext : (isTextChar c || c == '\n') = true := by simpa using htext
  rw [multiBasicBody, hclose]
  · simp only [htext, if_true]
    rfl
  · exact hback
  · exact fun _ h _ => hreturn h

theorem multiBasicBody_escape {e more : List Char} {c : Char}
    (h : escape (e ++ more) = some (c, more)) :
    multiBasicBody ('\\' :: (e ++ more)) = (multiBasicBody more).map (prepend c) := by
  have hlength : more.length ≤ (e ++ more).length := by simp
  have hclose : closing '"' ('\\' :: (e ++ more)) = none := closing_of_ne (by decide) _
  simp only [multiBasicBody, hclose, h, if_pos hlength]
  rfl

/-- The quotes that are not escaped at the front: the whole string, or so few of them that they do
not end it. -/
theorem escapeFrom_cases {quotes : Nat} (hq : quotes ≤ 2) (cs : List Char) :
    (∃ k, k + quotes ≤ 2 ∧ cs = List.replicate k '"' ∧ escapeFrom true 2 quotes cs = cs) ∨
    ∃ k d more, k + quotes ≤ 2 ∧ d ≠ '"' ∧
      escapeFrom true 2 quotes cs = List.replicate k '"' ++ d :: more := by
  induction cs generalizing quotes with
  | nil => exact Or.inl ⟨0, by omega, rfl, rfl⟩
  | cons c cs ih =>
    rw [escapeFrom]
    split
    · next hquote =>
      subst hquote
      split
      · next hless =>
        rcases ih (Nat.succ_le_of_lt hless) with ⟨k, hk, hall, heq⟩ | ⟨k, d, more, hk, hd, heq⟩
        · refine Or.inl ⟨k + 1, by omega, ?_, ?_⟩
          · rw [List.replicate_succ, ← hall]
          · rw [heq]
        · refine Or.inr ⟨k + 1, d, more, by omega, hd, ?_⟩
          rw [heq, List.replicate_succ, List.cons_append]
      · exact Or.inr ⟨0, '\\', _, by omega, by decide, rfl⟩
    · next hquote =>
      rcases escapeChar_cases true c with ⟨heq, -⟩ | ⟨e, heq, -⟩
      · exact Or.inr ⟨0, c, _, by omega, hquote, by rw [heq]; rfl⟩
      · exact Or.inr ⟨0, '\\', _, by omega, by decide, by rw [heq]; rfl⟩

/-- Every third quote in a row is escaped. -/
theorem multiBasicBody_escapeFrom {quotes : Nat} (hq : quotes ≤ 2) (cs : List Char)
    {rest : List Char} (hrest : ∀ c ∈ rest.head?, c ≠ '"') :
    multiBasicBody (escapeFrom true 2 quotes cs ++ '"' :: '"' :: '"' :: rest) =
      some (cs, rest) := by
  induction cs generalizing quotes with
  | nil => exact multiBasicBody_of_closing (closing_run (Nat.zero_le 2) hrest)
  | cons c cs ih =>
    rcases escapeFrom_cases hq (c :: cs) with ⟨k, hk, hall, heq⟩ | ⟨k, d, more, hk, hd, heq⟩
    · rw [heq, hall]
      exact multiBasicBody_of_closing (closing_run (by omega) hrest)
    -- the quotes in front are too few to end the string, so it goes on with its first character
    have hfew : closing '"'
        (escapeFrom true 2 quotes (c :: cs) ++ '"' :: '"' :: '"' :: rest) = none := by
      rw [heq, List.append_assoc]
      exact closing_of_few (by omega) hd _
    rw [escapeFrom] at hfew ⊢
    by_cases hquote : c = '"'
    · subst hquote
      by_cases hless : quotes < 2
      · rw [if_pos rfl, if_pos hless, List.cons_append] at hfew ⊢
        rw [multiBasicBody_text hfew (by decide) (by decide) (Or.inl rfl),
          ih (Nat.succ_le_of_lt hless)]
        rfl
      · have hread := multiBasicBody_escape
          (escape_quote (escapeFrom true 2 0 cs ++ '"' :: '"' :: '"' :: rest))
        rw [ih (Nat.zero_le 2)] at hread
        rw [if_pos rfl, if_neg hless]
        exact hread
    · rw [if_neg hquote, List.append_assoc] at hfew ⊢
      rcases escapeChar_cases true c with ⟨heq, hback, hreturn, htext⟩ | ⟨e, heq, hread⟩
      · rw [heq, List.singleton_append] at hfew ⊢
        rw [multiBasicBody_text hfew hback hreturn (by simpa using htext), ih (Nat.zero_le 2)]
        rfl
      · rw [heq, List.cons_append, multiBasicBody_escape (hread _), ih (Nat.zero_le 2)]
        rfl

theorem multiLiteralBody_of_closing {cs inside rest : List Char}
    (h : closing '\'' cs = some (inside, rest)) : multiLiteralBody cs = some (inside, rest) := by
  rw [multiLiteralBody.eq_def, h]

theorem multiLiteralBody_text {c : Char} {more : List Char}
    (hclose : closing '\'' (c :: more) = none)
    (hreturn : c ≠ '\r') (htext : isTextChar c = true ∨ c = '\n') :
    multiLiteralBody (c :: more) = (multiLiteralBody more).map (prepend c) := by
  have htext : (isTextChar c || c == '\n') = true := by simpa using htext
  rw [multiLiteralBody, hclose]
  · simp only [htext, if_true]
    rfl
  · exact fun _ h _ => hreturn h

theorem length_takeWhile_le_longestRun (quote : Char) (cs : List Char) :
    (cs.takeWhile (· == quote)).length ≤ longestRun quote cs := by
  cases cs with
  | nil => exact Nat.le_refl 0
  | cons c rest =>
    rw [longestRun]
    split
    · next h =>
      subst h
      rw [List.takeWhile_cons_of_pos (by simp), List.length_cons]
      exact Nat.le_max_left _ _
    · next h => simp [h]

/-- What stands in front of a string without long runs of quotes: quotes alone, or so few of them
that they do not end it. -/
theorem replicate_cases {quote : Char} {cs : List Char} (h : longestRun quote cs ≤ 2) :
    (∃ k ≤ 2, cs = List.replicate k quote) ∨
    ∃ k d more, k ≤ 2 ∧ d ≠ quote ∧ cs = List.replicate k quote ++ d :: more := by
  have hk := Nat.le_trans (length_takeWhile_le_longestRun quote cs) h
  have htake : cs.takeWhile (· == quote) =
      List.replicate (cs.takeWhile (· == quote)).length quote :=
    List.eq_replicate_iff.2 ⟨rfl, fun c hc => by simpa using List.mem_takeWhile_imp hc⟩
  have hsplit := List.takeWhile_append_dropWhile (p := (· == quote)) (l := cs)
  cases hdrop : cs.dropWhile (· == quote) with
  | nil =>
    rw [hdrop, List.append_nil] at hsplit
    exact Or.inl ⟨_, hk, hsplit.symm.trans htake⟩
  | cons d more =>
    have hd : d ≠ quote := by
      have hstop := List.head?_dropWhile_not (· == quote) cs
      rw [hdrop] at hstop
      simpa using hstop
    rw [hdrop, htake] at hsplit
    exact Or.inr ⟨_, d, more, hk, hd, hsplit.symm⟩

theorem longestRun_tail_le {quote c : Char} {cs : List Char} :
    longestRun quote cs ≤ longestRun quote (c :: cs) := by
  rw [longestRun.eq_2]
  split
  · exact Nat.le_max_right _ _
  · exact Nat.le_refl _

theorem multiLiteralBody_append {cs : List Char} (hruns : longestRun '\'' cs ≤ 2)
    (htext : ∀ c ∈ cs, c ≠ '\r' ∧ (isTextChar c = true ∨ c = '\n')) {rest : List Char}
    (hrest : ∀ c ∈ rest.head?, c ≠ '\'') :
    multiLiteralBody (cs ++ '\'' :: '\'' :: '\'' :: rest) = some (cs, rest) := by
  induction cs with
  | nil => exact multiLiteralBody_of_closing (closing_run (Nat.zero_le 2) hrest)
  | cons c cs ih =>
    rcases replicate_cases hruns with ⟨k, hk, hall⟩ | ⟨k, d, more, hk, hd, heq⟩
    · rw [hall]
      exact multiLiteralBody_of_closing (closing_run hk hrest)
    have hfew : closing '\'' (c :: cs ++ '\'' :: '\'' :: '\'' :: rest) = none := by
      rw [heq, List.append_assoc]
      exact closing_of_few hk hd _
    obtain ⟨hreturn, hc⟩ := htext c List.mem_cons_self
    rw [List.cons_append] at hfew ⊢
    rw [multiLiteralBody_text hfew hreturn hc,
      ih (Nat.le_trans longestRun_tail_le hruns) fun x hx => htext x (List.mem_cons_of_mem c hx)]
    rfl

/-! ## Literals -/

/-- A literal of one quote on each side is not taken for one of three. -/
theorem quotedString_basic {cs : List Char} (h : ∀ more, cs ≠ '"' :: '"' :: more) :
    quotedString ('"' :: cs) = (basicBody cs).map fun p => (String.ofList p.1, p.2) := by
  unfold quotedString
  split
  · next heq =>
    obtain ⟨-, hcs⟩ := List.cons.inj heq
    exact absurd hcs (h _)
  · next heq =>
    obtain ⟨-, hcs⟩ := List.cons.inj heq
    rw [hcs]
  · simp_all
  · simp_all
  · next hquote _ _ => exact absurd rfl (hquote cs)

theorem quotedString_literal {cs : List Char} (h : ∀ more, cs ≠ '\'' :: '\'' :: more) :
    quotedString ('\'' :: cs) = (literalBody cs).map fun p => (String.ofList p.1, p.2) := by
  unfold quotedString
  split
  · simp_all
  · simp_all
  · next heq =>
    obtain ⟨-, hcs⟩ := List.cons.inj heq
    exact absurd hcs (h _)
  · next heq =>
    obtain ⟨-, hcs⟩ := List.cons.inj heq
    rw [hcs]
  · next hquote => exact absurd rfl (hquote cs)

/-- The line feed that was put at the start is dropped, and no other one. -/
theorem skipFirstNewline_opening {cs body : List Char}
    (h : '\n' ∉ cs → ∀ c ∈ body.head?, c ≠ '\n' ∧ c ≠ '\r') :
    skipFirstNewline (opening cs ++ body) = body := by
  by_cases hline : '\n' ∈ cs
  · have hopening : opening cs = ['\n'] := by simp [opening, hline]
    rw [hopening]
    rfl
  · have hopening : opening cs = [] := by simp [opening, hline]
    rw [hopening, List.nil_append]
    cases body with
    | nil => rfl
    | cons c more =>
      obtain ⟨hfeed, hreturn⟩ := h hline c rfl
      have hnone : newline (c :: more) = none := by
        unfold newline
        split <;> simp_all
      rw [skipFirstNewline, hnone]

/-- Whether a string can be written in a form. -/
def StringForm.Fits (cs : List Char) : StringForm → Prop
  | basic | multiBasic => True
  | literal => ∀ c ∈ cs, c ≠ '\'' ∧ isTextChar c = true
  | multiLiteral =>
    longestRun '\'' cs ≤ 2 ∧ ∀ c ∈ cs, c ≠ '\r' ∧ (isTextChar c = true ∨ c = '\n')

theorem notMem_of_longestRun_eq_zero {quote : Char} {cs : List Char} (h : longestRun quote cs = 0) :
    quote ∉ cs := by
  induction cs with
  | nil => exact List.not_mem_nil
  | cons c rest ih =>
    rw [longestRun] at h
    split at h
    · omega
    · next hne =>
      rw [List.mem_cons, not_or]
      exact ⟨Ne.symm hne, ih h⟩

/-- A string without bare controls has text and line feeds only. -/
theorem isTextChar_of_any_eq_false {cs : List Char} (h : cs.any isBareControl = false) {c : Char}
    (hc : c ∈ cs) : c ≠ '\r' ∧ (isTextChar c = true ∨ c = '\n') := by
  have hbare : isBareControl c = false := by simpa using List.any_eq_false.1 h c hc
  constructor
  · rintro rfl
    exact absurd hbare (by decide)
  · by_cases hline : c = '\n'
    · exact Or.inr hline
    · exact Or.inl (isTextChar_of_not_isBareControl hbare hline)

/-- The form that is chosen for a string can hold it. -/
theorem fits_fitting (cs : List Char) : (StringForm.fitting cs).Fits cs := by
  unfold StringForm.fitting
  simp only
  split
  · trivial
  split
  -- no controls, no line feeds and no single quotes
  · next h =>
    simp only [Bool.and_eq_true, Bool.not_eq_true', beq_iff_eq, List.contains_eq_mem,
      decide_eq_false_iff_not] at h
    obtain ⟨⟨hcontrols, hline⟩, hsingles⟩ := h
    intro c hc
    constructor
    · rintro rfl
      exact notMem_of_longestRun_eq_zero hsingles hc
    · rcases isTextChar_of_any_eq_false hcontrols hc with ⟨-, htext | rfl⟩
      · exact htext
      · exact absurd hc hline
  split
  · trivial
  split
  · next h =>
    simp only [Bool.and_eq_true, Bool.not_eq_true', decide_eq_true_eq] at h
    exact ⟨h.2, fun c hc => isTextChar_of_any_eq_false h.1 hc⟩
  split
  · trivial
  · trivial

/-- The first character of a string where escapes count. -/
theorem head?_escapeFrom {multi : Bool} {bare : Nat} {cs : List Char} {c : Char}
    (h : c ∈ (escapeFrom multi bare 0 cs).head?) :
    c ≠ '\r' ∧ (c = '\n' → '\n' ∈ cs) ∧ (bare = 0 → c ≠ '"') := by
  cases cs with
  | nil => simp [escapeFrom] at h
  | cons d rest =>
    rw [escapeFrom] at h
    split at h
    · split at h
      · next hbare =>
        obtain rfl := Option.some.inj h
        exact ⟨by decide, by simp, by omega⟩
      · obtain rfl := Option.some.inj h
        exact ⟨by decide, by simp, by simp⟩
    · next hquote =>
      rcases escapeChar_cases multi d with ⟨heq, -, hreturn, -⟩ | ⟨e, heq, -⟩
      · rw [heq] at h
        obtain rfl := Option.some.inj h
        exact ⟨hreturn, fun hline => hline ▸ List.mem_cons_self, fun _ => hquote⟩
      · rw [heq] at h
        obtain rfl := Option.some.inj h
        exact ⟨by decide, by simp, by simp⟩

/-- A first character, of a string or of the quotes behind it. -/
theorem head?_append_cons {cs rest : List Char} {c d : Char} (h : c ∈ (cs ++ d :: rest).head?) :
    c ∈ cs.head? ∨ c = d := by
  cases cs with
  | nil => exact Or.inr (Option.some.inj h).symm
  | cons x more => exact Or.inl h

/-- A string on one line does not begin with the quote that ends it, so only the empty string puts
two quotes together. -/
theorem append_ne_quotes {quote : Char} {cs rest : List Char} (hcs : ∀ c ∈ cs.head?, c ≠ quote)
    (hrest : ∀ c ∈ rest.head?, c ≠ quote) (more : List Char) :
    cs ++ quote :: rest ≠ quote :: quote :: more := by
  intro h
  cases cs with
  | nil =>
    obtain ⟨-, hrest'⟩ := List.cons.inj h
    exact hrest quote (by rw [hrest']; rfl) rfl
  | cons c cs => exact hcs c rfl (List.cons.inj h).1

/-- A literal in a form that can hold the string is read as that string, if no quote follows it. -/
theorem quotedString_write {cs : List Char} {form : StringForm} (hfits : form.Fits cs)
    {rest : List Char} (hrest : ∀ c ∈ rest.head?, c ≠ '"' ∧ c ≠ '\'') :
    quotedString (form.write cs ++ rest) = some (String.ofList cs, rest) := by
  have hdouble : ∀ c ∈ rest.head?, c ≠ '"' := fun c hc => (hrest c hc).1
  have hsingle : ∀ c ∈ rest.head?, c ≠ '\'' := fun c hc => (hrest c hc).2
  cases form with
  | basic =>
    have hquotes := append_ne_quotes
      (fun c hc => (@head?_escapeFrom false 0 cs c hc).2.2 rfl) hdouble
    rw [StringForm.write, List.append_assoc, List.cons_append, List.singleton_append,
      quotedString_basic hquotes, basicBody_escapeFrom, Option.map_some]
  | literal =>
    have hquotes := append_ne_quotes (fun c hc => (hfits c (List.mem_of_mem_head? hc)).1) hsingle
    rw [StringForm.write, List.append_assoc, List.cons_append, List.singleton_append,
      quotedString_literal hquotes, literalBody_append hfits, Option.map_some]
  | multiBasic =>
    have hbody := multiBasicBody_escapeFrom (Nat.zero_le 2) cs hdouble
    have hskip : skipFirstNewline (opening cs ++
        (escapeFrom true 2 0 cs ++ '"' :: '"' :: '"' :: rest)) =
        escapeFrom true 2 0 cs ++ '"' :: '"' :: '"' :: rest := by
      refine skipFirstNewline_opening fun hline c hc => ?_
      rcases head?_append_cons hc with hc | rfl
      · obtain ⟨hreturn, hfeed, -⟩ := head?_escapeFrom hc
        exact ⟨fun heq => hline (hfeed heq), hreturn⟩
      · exact ⟨by decide, by decide⟩
    simp only [StringForm.write, List.cons_append, List.nil_append, List.append_assoc, quotedString,
      hskip, hbody, Option.map_some]
  | multiLiteral =>
    obtain ⟨hruns, htext⟩ := hfits
    have hbody := multiLiteralBody_append hruns htext hsingle
    have hskip : skipFirstNewline (opening cs ++ (cs ++ '\'' :: '\'' :: '\'' :: rest)) =
        cs ++ '\'' :: '\'' :: '\'' :: rest := by
      refine skipFirstNewline_opening fun hline c hc => ?_
      rcases head?_append_cons hc with hc | rfl
      · have hmem := List.mem_of_mem_head? hc
        exact ⟨fun heq => hline (heq ▸ hmem), (htext c hmem).1⟩
      · exact ⟨by decide, by decide⟩
    simp only [StringForm.write, List.cons_append, List.nil_append, List.append_assoc, quotedString,
      hskip, hbody, Option.map_some]

/-- The literal of a string is read as that string. -/
theorem quotedString_stringLiteral (s : String) {rest : List Char}
    (hrest : ∀ c ∈ rest.head?, c ≠ '"' ∧ c ≠ '\'') :
    quotedString ((stringLiteral s).toList ++ rest) = some (s, rest) := by
  rw [stringLiteral, String.toList_ofList, quotedString_write (fits_fitting s.toList) hrest,
    String.ofList_toList]

end DebugRelay.Toml
