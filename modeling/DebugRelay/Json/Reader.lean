import DebugRelay.Json.Double
import DebugRelay.Json.Value
import DebugRelay.Text.Digits
import DebugRelay.Text.Reader

/-!
# Reading JSON text

`Json.parse?` reads a text that holds exactly one JSON value. White space is the four characters of
the standard. A literal of the right form always reads; whether it denotes a value is decided
afterwards: escapes must pair their surrogates, numbers must stay in the range of doubles, and
containers nest at most `Json.nestingLimit` deep.
-/

namespace DebugRelay.Json

open Text Text.Reader

/-- How many containers may enclose a value, its own included. -/
def nestingLimit : Nat := 127

/-- The white space of JSON. -/
def isSpace (c : Char) : Bool := c == ' ' || c == '\t' || c == '\n' || c == '\r'

/-! ## Strings -/

/-- The character that a one-letter escape stands for. -/
def escaped? : Char → Option Char
  | '"' => some '"'
  | '\\' => some '\\'
  | '/' => some '/'
  | 'b' => some '\x08'
  | 'f' => some '\x0c'
  | 'n' => some '\n'
  | 'r' => some '\r'
  | 't' => some '\t'
  | _ => none

/-- Takes the rest of a string after its opening quote, as code points and surrogates. -/
def stringUnits : Reader (List Nat)
  | [] => none
  | '"' :: rest => some ([], rest)
  | '\\' :: 'u' :: a :: b :: c :: d :: rest => do
    let unit ← readDigits? hexDigit? 16 [a, b, c, d]
    let (units, rest) ← stringUnits rest
    some (unit :: units, rest)
  | '\\' :: e :: rest => do
    let c ← escaped? e
    let (units, rest) ← stringUnits rest
    some (c.toNat :: units, rest)
  | c :: rest =>
    if c.toNat < 0x20 ∨ c = '\\' then none
    else do
      let (units, rest) ← stringUnits rest
      some (c.toNat :: units, rest)

/-- The text of code points and surrogates; each high surrogate needs a low one after it. -/
def unitsText? : List Nat → Option (List Char)
  | [] => some []
  | high :: rest =>
    if 0xd800 ≤ high ∧ high < 0xdc00 then
      match rest with
      | low :: rest =>
        if 0xdc00 ≤ low ∧ low < 0xe000 then
          (unitsText? rest).map
            (Char.ofNat (0x10000 + (high - 0xd800) * 0x400 + (low - 0xdc00)) :: ·)
        else none
      | [] => none
    else if 0xdc00 ≤ high ∧ high < 0xe000 then none
    else (unitsText? rest).map (Char.ofNat high :: ·)

/-- Takes the rest of a string after its opening quote; its text, if the escapes denote one. -/
def stringBody : Reader (Option String) := fun cs =>
  (stringUnits cs).map fun (units, rest) => ((unitsText? units).map String.ofList, rest)

/-! ## Numbers -/

/-- The number of a literal without fraction and exponent. A whole number has to fit in 64 bits;
other ones and the negative zero are doubles. -/
def wholeNumber? (negative : Bool) (digits : List Nat) : Option Number :=
  let n : Int := digitsValue 10 digits
  let n := if negative then -n else n
  if (negative && n == 0) || decide (n < Int64.minValue.toInt) ||
      decide ((UInt64.size : Int) ≤ n) then
    (double? negative digits [] 0).map .double
  else some (.whole n)

/-- Takes the fraction digits of a number, if there are any. -/
def fractionDigits : Reader (Option (List Char))
  | '.' :: rest => (run1 isDecimal rest).map fun (ds, rest) => (some ds, rest)
  | cs => some (none, cs)

/-- Takes the exponent of a number, if there is one. -/
def exponentPart : Reader (Option Int)
  | e :: rest =>
    if e = 'e' ∨ e = 'E' then
      let (sign, rest) : Int × List Char :=
        match rest with
        | '-' :: rest => (-1, rest)
        | '+' :: rest => (1, rest)
        | rest => (1, rest)
      do
        let (ds, rest) ← run1 isDecimal rest
        let n ← readDigits? decimalDigit? 10 ds
        some (some (sign * n), rest)
    else some (none, e :: rest)
  | [] => some (none, [])

/-- Takes the digits before the point: a lone zero, or digits that start with another one. -/
def wholeDigits : Reader (List Char) := fun cs => do
  let (ds, rest) ← run1 isDecimal cs
  if ds.head? = some '0' ∧ ds ≠ ['0'] then none else some (ds, rest)

/-- Takes a number. -/
def number : Reader Json := fun cs => do
  let (negative, cs) : Bool × List Char :=
    match cs with
    | '-' :: rest => (true, rest)
    | cs => (false, cs)
  let (ds, cs) ← wholeDigits cs
  let (fs, cs) ← fractionDigits cs
  let (e, cs) ← exponentPart cs
  let whole ← ds.mapM decimalDigit?
  let fraction ← (fs.getD []).mapM decimalDigit?
  let n : Option Number :=
    match fs, e with
    | none, none => wholeNumber? negative whole
    | _, _ => (double? negative whole fraction (e.getD 0)).map .double
  some (n.elim .unreadable .num, cs)

/-! ## Values -/

/-- Lets a reader start and end in white space. -/
def spaced {α : Type} (r : Reader α) : Reader α := fun cs => do
  let (x, rest) ← r (cs.dropWhile isSpace)
  some (x, rest.dropWhile isSpace)

/-- Takes a field of an object; its name, if the escapes denote one, and its value. -/
def fieldWith (value : Reader Json) : Reader (Option String × Json) := fun cs => do
  let (name, cs) ← spaced (fun
    | '"' :: rest => stringBody rest
    | _ => none) cs
  let ((), cs) ← literal [':'] cs
  let (j, cs) ← spaced value cs
  some ((name, j), cs)

/-- The object with the given fields, if each of them has a name. -/
def objectOf (fields : List (Option String × Json)) : Json :=
  match fields.mapM fun f => f.1.map fun name => (name, f.2) with
  | some fields => .obj fields
  | none => .unreadable

/-- Takes a value that `level` containers enclose. The fuel bounds the nesting that is read. -/
def value (fuel level : Nat) : Reader Json :=
  match fuel with
  | 0 => fun _ => none
  | fuel + 1 => fun cs =>
    let contained := fun j : Json => if level < nestingLimit then j else .unreadable
    match cs with
    | '"' :: rest => (stringBody rest).map fun (s, rest) =>
      (match s with
        | some s => .str s
        | none => .unreadable, rest)
    | '[' :: rest =>
      match rest.dropWhile isSpace with
      | ']' :: rest => some (contained (.arr []), rest)
      | rest => (listed ']' (spaced (value fuel (level + 1))) rest).map fun (items, rest) =>
        (contained (.arr items), rest)
    | '\x7b' :: rest =>
      match rest.dropWhile isSpace with
      | '\x7d' :: rest => some (contained (.obj []), rest)
      | rest => (listed '\x7d' (fieldWith (value fuel (level + 1))) rest).map fun (fields, rest) =>
        (contained (objectOf fields), rest)
    | 't' :: rest => (literal ['r', 'u', 'e'] rest).map fun (_, rest) => (.bool true, rest)
    | 'f' :: rest => (literal ['a', 'l', 's', 'e'] rest).map fun (_, rest) => (.bool false, rest)
    | 'n' :: rest => (literal ['u', 'l', 'l'] rest).map fun (_, rest) => (.null, rest)
    | cs => number cs

/-- The value that a text spells, if it is one JSON value. -/
def parse? (text : String) : Option Json :=
  let cs := text.toList
  readAll (spaced (value (cs.length + 1) 0)) cs

end DebugRelay.Json
