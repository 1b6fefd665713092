import DebugRelay.Text.Digits

/-!
# UUIDs

A UUID is thirty-two hexadecimal digits. It is written in five groups with hyphens, in lower case,
and read with or without hyphens; with them also between braces and after `urn:uuid:`, which may be
in any case.
-/

namespace DebugRelay

/-- A universally unique identifier: thirty-two hexadecimal digits. -/
structure Uuid where
  digits : List (Fin 16)
  length_eq : digits.length = 32
  deriving DecidableEq

namespace Uuid

/-- The identifier whose digits are all zero. -/
def zero : Uuid := ⟨List.replicate 32 0, by decide⟩

instance : Inhabited Uuid := ⟨zero⟩

/-- The lengths of the groups between the hyphens. -/
def groups : List Nat := [8, 4, 4, 4, 12]

/-- Cuts characters into groups and puts a hyphen between them. -/
def hyphenate : List Nat → List Char → List Char
  | [], cs => cs
  | [n], cs => cs.take n
  | n :: rest, cs => cs.take n ++ '-' :: hyphenate rest (cs.drop n)

/-- Takes groups with a hyphen between them apart, and joins them without. -/
def unhyphenate : List Nat → List Char → Option (List Char)
  | [], cs => if cs = [] then some [] else none
  | [n], cs => if cs.length = n then some cs else none
  | n :: rest, cs =>
    match cs.drop n with
    | '-' :: more => (unhyphenate rest more).map (cs.take n ++ ·)
    | _ => none

/-- The identifier in five groups, in lower case. -/
def text (u : Uuid) : String :=
  String.ofList (hyphenate groups (u.digits.map fun (d : Fin 16) => Text.lowerHexChar d.val))

/-- The value of a hexadecimal digit of either case. -/
def digit? (c : Char) : Option (Fin 16) :=
  (Text.hexDigit? c).bind fun n => if h : n < 16 then some ⟨n, h⟩ else none

/-- The identifier with the given digits. -/
def ofDigits? (cs : List Char) : Option Uuid := do
  let digits ← cs.mapM digit?
  if h : digits.length = 32 then some ⟨digits, h⟩ else none

/-- The identifier that a text spells. -/
def ofText? (s : String) : Option Uuid :=
  let cs := s.toList
  let hyphenated := fun cs => (unhyphenate groups cs).bind ofDigits?
  -- the length tells the form: plain, hyphenated, in braces, or with the prefix
  if cs.length = 32 then ofDigits? cs
  else if cs.length = 36 then hyphenated cs
  else if cs.length = 38 ∧ cs.head? = some '\x7b' ∧ cs.getLast? = some '\x7d' then
    hyphenated (cs.drop 1).dropLast
  else if cs.length = 45 ∧ (cs.take 9).map Char.toLower = "urn:uuid:".toList then
    hyphenated (cs.drop 9)
  else none

end Uuid

end DebugRelay
