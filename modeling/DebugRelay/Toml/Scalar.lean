import DebugRelay.Decimal
import DebugRelay.Text.Digits
import DebugRelay.Text.Reader
import DebugRelay.Toml.Value

/-!
# TOML scalars without quotes

Truth values, numbers and points in time are written as one token, or as two with a blank between a
date and a time. `Toml.scalar?` reads the whole of such a token.
-/

namespace DebugRelay.Toml

open Text Text.Reader

/-- The digits of a number in some base with single underscores between them. -/
def separated? (digit? : Char → Option Nat) : List Char → Option (List Nat)
  | [] => none
  | [c] => (digit? c).map fun d => [d]
  | c :: '_' :: d :: rest => do
    let n ← digit? c
    some (n :: (← separated? digit? (d :: rest)))
  | c :: rest => do
    let n ← digit? c
    some (n :: (← separated? digit? rest))

/-- A sign in front of a number: whether it is negative, and the rest. -/
def splitSign : List Char → Bool × List Char
  | '-' :: rest => (true, rest)
  | '+' :: rest => (false, rest)
  | cs => (false, cs)

/-- The digits of a decimal number without a needless zero at the front. -/
def plainDigits? (cs : List Char) : Option (List Nat) := do
  let ds ← separated? decimalDigit? cs
  if ds.head? = some 0 ∧ ds ≠ [0] then none else some ds

/-- Whether an integer fits in 64 bits with its sign. -/
def fits (n : Int) : Bool := decide (Int64.minValue.toInt ≤ n) && decide (n ≤ Int64.maxValue.toInt)

/-- An integer: in base sixteen, eight or two without a sign, or in base ten. -/
def integer? (cs : List Char) : Option Int := do
  let n : Int ←
    match cs with
    | '0' :: 'x' :: rest => (separated? hexDigit? rest).map fun ds => digitsValue 16 ds
    | '0' :: 'o' :: rest =>
      (separated? (fun c => (decimalDigit? c).filter (· < 8)) rest).map fun ds => digitsValue 8 ds
    | '0' :: 'b' :: rest =>
      (separated? (fun c => (decimalDigit? c).filter (· < 2)) rest).map fun ds => digitsValue 2 ds
    | cs =>
      let (negative, rest) := splitSign cs
      (plainDigits? rest).map fun ds =>
        let n : Int := digitsValue 10 ds
        if negative then -n else n
  if fits n then some n else none

/-- Whether some characters are a float. A positive one must have a finite double next to it. -/
def isFloat (cs : List Char) : Bool :=
  let (negative, rest) := splitSign cs
  if rest = ['i', 'n', 'f'] || rest = ['n', 'a', 'n'] then true
  else
    let isMark := fun c => c == 'e' || c == 'E'
    let (front, back) := (rest.takeWhile (!isMark ·), rest.dropWhile (!isMark ·))
    let exponent : Option (Option Int) :=
      match back with
      | [] => some none
      | _ :: more =>
        let (negative, ds) := splitSign more
        (separated? decimalDigit? ds).map fun ds =>
          let n : Int := digitsValue 10 ds
          some (if negative then -n else n)
    let whole := front.takeWhile (· ≠ '.')
    let fraction : Option (Option (List Nat)) :=
      match front.dropWhile (· ≠ '.') with
      | [] => some none
      | _ :: more => (separated? decimalDigit? more).map some
    match plainDigits? whole, fraction, exponent with
    | some ds, some fs, some e =>
      if fs.isNone && e.isNone then false
      else
        let fs := fs.getD []
        negative || Decimal.isFinite (digitsValue 10 (ds ++ fs)) (e.getD 0 - fs.length)
    | _, _, _ => false

/-! ## Points in time -/

/-- Takes a number of exactly `width` digits. -/
def digits (width : Nat) : Reader Nat := fun cs => do
  let (ds, rest) ← count width cs
  some (← readDigits? decimalDigit? 10 ds, rest)

/-- Takes hours and minutes. -/
def hourMinute : Reader Unit := fun cs => do
  let (hour, cs) ← digits 2 cs
  let ((), cs) ← literal [':'] cs
  let (minute, cs) ← digits 2 cs
  if hour ≤ 23 ∧ minute ≤ 59 then some ((), cs) else none

/-- Takes a time of day. -/
def time : Reader Unit := fun cs => do
  let ((), cs) ← hourMinute cs
  let ((), cs) ← literal [':'] cs
  let (second, cs) ← digits 2 cs
  if 60 < second then none
  else
    match cs with
    | '.' :: rest => (run1 isDecimal rest).map fun (_, rest) => ((), rest)
    | cs => some ((), cs)

/-- The number of days of a month. -/
def monthLength (year month : Nat) : Nat :=
  if month = 2 then
    (if year % 4 = 0 ∧ (year % 100 ≠ 0 ∨ year % 400 = 0) then 29 else 28)
  else if month = 4 ∨ month = 6 ∨ month = 9 ∨ month = 11 then 30
  else 31

/-- Takes a date. -/
def date : Reader Unit := fun cs => do
  let (year, cs) ← digits 4 cs
  let ((), cs) ← literal ['-'] cs
  let (month, cs) ← digits 2 cs
  let ((), cs) ← literal ['-'] cs
  let (day, cs) ← digits 2 cs
  if 1 ≤ month ∧ month ≤ 12 ∧ 1 ≤ day ∧ day ≤ monthLength year month then some ((), cs) else none

/-- Takes an offset from UTC, which may be missing. -/
def offset : Reader Unit
  | [] => some ((), [])
  | c :: rest =>
    if c = 'Z' ∨ c = 'z' then some ((), rest)
    else if c = '+' ∨ c = '-' then hourMinute rest
    else none

/-- Whether some characters are a date. -/
def isDate (cs : List Char) : Bool := (readAll date cs).isSome

/-- Whether some characters are a date, a time, or both with or without an offset. -/
def isDatetime (cs : List Char) : Bool :=
  let dated : Reader Unit := fun cs => do
    let ((), cs) ← date cs
    match cs with
    | c :: rest =>
      if c = 'T' ∨ c = 't' ∨ c = ' ' then
        let ((), cs) ← time rest
        offset cs
      else none
    | [] => some ((), [])
  (readAll dated cs).isSome || (readAll time cs).isSome

/-- The value that a token without quotes spells. -/
def scalar? (cs : List Char) : Option Toml :=
  if cs = ['t', 'r', 'u', 'e'] then some (.boolean true)
  else if cs = ['f', 'a', 'l', 's', 'e'] then some (.boolean false)
  else
    match integer? cs with
    | some n => some (.integer n)
    | none =>
      if isFloat cs then some (.float (String.ofList cs))
      else if isDatetime cs then some (.datetime (String.ofList cs))
      else none

end DebugRelay.Toml
