import DebugRelay.Text.Blank
import DebugRelay.Text.Digits
import DebugRelay.Text.Reader

/-!
# Points in time

An `Instant` counts seconds from the start of 1970 in UTC. It is written in the form of RFC 3339
with a `Z`, and read in a looser form: blanks may stand around the numbers, numbers may be short,
and any offset from UTC may be given.
-/

namespace DebugRelay

/-- A point in time. -/
structure Instant where
  /-- Seconds since the start of 1970 in UTC, leap seconds not counted. -/
  seconds : Int
  /-- Nanoseconds of the second; a thousand million and more within a leap second. -/
  nanos : Nat
  deriving DecidableEq

namespace Instant

/-! ## The calendar -/

/-- The day of a date, counted from the start of 1970. Years begin in March here, so that the leap
day is the last. -/
def dayOfDate (year : Int) (month day : Nat) : Int :=
  let y := if month ≤ 2 then year - 1 else year
  let era := y.fdiv 400
  let yearOfEra := y - era * 400
  let dayOfYear : Int := (153 * ((month + 9) % 12) + 2) / 5 + day - 1
  let dayOfEra := yearOfEra * 365 + yearOfEra / 4 - yearOfEra / 100 + dayOfYear
  era * 146097 + dayOfEra - 719468

/-- The date of a day counted from the start of 1970, as year, month and day. -/
def dateOfDay (n : Int) : Int × Nat × Nat :=
  let z := n + 719468
  let era := z.fdiv 146097
  let dayOfEra := (z - era * 146097).toNat
  let yearOfEra := (dayOfEra - dayOfEra / 1460 + dayOfEra / 36524 - dayOfEra / 146096) / 365
  let dayOfYear := dayOfEra - (365 * yearOfEra + yearOfEra / 4 - yearOfEra / 100)
  let mp := (5 * dayOfYear + 2) / 153
  let day := dayOfYear - (153 * mp + 2) / 5 + 1
  let month := if mp < 10 then mp + 3 else mp - 9
  (yearOfEra + era * 400 + (if month ≤ 2 then 1 else 0), month, day)

/-- Whether a year has a leap day. -/
def isLeapYear (year : Int) : Bool := year % 4 == 0 && (year % 100 != 0 || year % 400 == 0)

/-- The number of days of a month. -/
def monthLength (year : Int) (month : Nat) : Nat :=
  if month = 2 then (if isLeapYear year then 29 else 28)
  else if month = 4 ∨ month = 6 ∨ month = 9 ∨ month = 11 then 30
  else 31

/-- The first year that is counted. -/
def firstYear : Int := -262143

/-- The last year that is counted. -/
def lastYear : Int := 262142

/-- Whether a date is in the calendar, in the years that are counted. -/
def isDate (year : Int) (month day : Nat) : Bool :=
  decide (firstYear ≤ year ∧ year ≤ lastYear) && decide (1 ≤ month ∧ month ≤ 12) &&
    decide (1 ≤ day ∧ day ≤ monthLength year month)

/-- Whether seconds from the start of 1970 fall into the years that are counted. -/
def isCounted (seconds : Int) : Bool :=
  decide (dayOfDate firstYear 1 1 ≤ seconds.fdiv 86400) &&
    decide (seconds.fdiv 86400 ≤ dayOfDate lastYear 12 31)

/-! ## Writing -/

/-- The fraction of a second in three, six or nine digits, whichever shows all of it. -/
def fractionText (nanos : Nat) : String :=
  if nanos = 0 then ""
  else if nanos % 1000000 = 0 then "." ++ Text.decimal 3 (nanos / 1000000)
  else if nanos % 1000 = 0 then "." ++ Text.decimal 6 (nanos / 1000)
  else "." ++ Text.decimal 9 nanos

/-- A year in four digits; with its sign outside of the first ten thousand years. -/
def yearText (year : Int) : String :=
  if 0 ≤ year ∧ year ≤ 9999 then Text.decimal 4 year.toNat
  else (if year < 0 then "-" else "+") ++ Text.decimal 4 year.natAbs

/-- The instant in UTC in the form of RFC 3339. -/
def text (t : Instant) : String :=
  let (year, month, day) := dateOfDay (t.seconds.fdiv 86400)
  let ofDay := (t.seconds - t.seconds.fdiv 86400 * 86400).toNat
  let leap := t.nanos / 1000000000
  yearText year ++ "-" ++ Text.decimal 2 month ++ "-" ++ Text.decimal 2 day ++ "T" ++
    Text.decimal 2 (ofDay / 3600) ++ ":" ++ Text.decimal 2 (ofDay / 60 % 60) ++ ":" ++
    Text.decimal 2 (ofDay % 60 + leap) ++ fractionText (t.nanos % 1000000000) ++ "Z"

/-! ## Reading -/

open Text Text.Reader

/-- Takes blanks and then a number of at most `width` digits. -/
def numberUpTo (width : Nat) : Reader Nat := fun cs => do
  let cs := dropBlanks cs
  let ds := (cs.take width).takeWhile isDecimal
  if ds.isEmpty then none
  else some (← readDigits? decimalDigit? 10 ds, cs.drop ds.length)

/-- Takes a year: four digits at most, or any number of them after a sign. -/
def yearNumber : Reader Int := fun cs => do
  match dropBlanks cs with
  | '-' :: rest =>
    let (ds, rest) ← run1 isDecimal rest
    some (-(← readDigits? decimalDigit? 10 ds), rest)
  | '+' :: rest =>
    let (ds, rest) ← run1 isDecimal rest
    some (← readDigits? decimalDigit? 10 ds, rest)
  | cs => (numberUpTo 4 cs).map fun (n, rest) => (n, rest)

/-- Takes blanks and then a given character. -/
def mark (c : Char) : Reader Unit := fun cs => literal [c] (dropBlanks cs)

/-- Takes a fraction of a second as nanoseconds; digits after the ninth do not count. -/
def fraction : Reader Nat
  | '.' :: rest => do
    let (ds, rest) ← run1 isDecimal rest
    let nine := ds.take 9
    some ((← readDigits? decimalDigit? 10 nine) * Nat.pow 10 (9 - nine.length), rest)
  | cs => some (0, cs)

/-- Takes an offset from UTC in seconds. -/
def offset : Reader Int := fun cs =>
  let utc := (cs.take 3).map Char.toLower
  if utc = ['u', 't', 'c'] then some (0, cs.drop 3)
  else
    match cs with
    | [] => none
    | sign :: rest =>
      if sign = 'Z' ∨ sign = 'z' then some (0, rest)
      else if sign = '+' ∨ sign = '-' ∨ sign = '\u2212' then do
        let (hs, rest) ← count 2 rest
        let hours ← readDigits? decimalDigit? 10 hs
        let (ms, rest) ← count 2 (rest.dropWhile fun c => c == ':' || isBlank c)
        let minutes ← readDigits? decimalDigit? 10 ms
        if minutes ≤ 59 ∧ hours ≤ 23 then
          let n : Int := hours * 3600 + minutes * 60
          some (if sign = '+' then n else -n, rest)
        else none
      else none

/-- The instant that a text names. It has to fall into the years that are counted where the text is
meant, and in UTC. -/
def ofText? (s : String) : Option Instant := do
  let (year, cs) ← yearNumber s.toList
  let ((), cs) ← mark '-' cs
  let (month, cs) ← numberUpTo 2 cs
  let ((), cs) ← mark '-' cs
  let (day, cs) ← numberUpTo 2 cs
  let cs ←
    match cs with
    | c :: rest => if c = 'T' ∨ c = 't' ∨ c = ' ' then some rest else none
    | [] => none
  let (hour, cs) ← numberUpTo 2 cs
  let ((), cs) ← mark ':' cs
  let (minute, cs) ← numberUpTo 2 cs
  let ((), cs) ← mark ':' cs
  let (second, cs) ← numberUpTo 2 cs
  let (nanos, cs) ← fraction cs
  let (away, cs) ← offset (dropBlanks cs)
  if isDate year month day ∧ hour ≤ 23 ∧ minute ≤ 59 ∧ second ≤ 60 ∧ dropBlanks cs = [] then
    -- a leap second is the last second of the minute with more than its nanoseconds
    let leap := second / 60
    let local_ := dayOfDate year month day * 86400 + hour * 3600 + minute * 60 + second - leap
    if isCounted (local_ - away) then
      some { seconds := local_ - away, nanos := nanos + leap * 1000000000 }
    else none
  else none

end Instant

end DebugRelay
