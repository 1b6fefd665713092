/-!
# Digits

Numbers written in a base up to sixteen, and the values of digit characters.
-/

namespace DebugRelay.Text

/-- The value of a decimal digit. -/
def decimalDigit? (c : Char) : Option Nat :=
  if '0' ≤ c ∧ c ≤ '9' then some (c.toNat - '0'.toNat) else none

/-- The value of a hexadecimal digit of either case. -/
def hexDigit? (c : Char) : Option Nat :=
  if '0' ≤ c ∧ c ≤ '9' then some (c.toNat - '0'.toNat)
  else if 'a' ≤ c ∧ c ≤ 'f' then some (c.toNat - 'a'.toNat + 10)
  else if 'A' ≤ c ∧ c ≤ 'F' then some (c.toNat - 'A'.toNat + 10)
  else none

/-- Whether a character is a decimal digit. -/
def isDecimal (c : Char) : Bool := (decimalDigit? c).isSome

/-- The number that digits spell in a base, first digit first. -/
def digitsValue (base : Nat) (digits : List Nat) : Nat :=
  digits.foldl (fun n d => n * base + d) 0

/-- The number that digit characters spell, if all of them are digits. -/
def readDigits? (digit? : Char → Option Nat) (base : Nat) (cs : List Char) : Option Nat :=
  (cs.mapM digit?).map (digitsValue base)

/-- The digit character of a value below sixteen, with letters from `a`. -/
def lowerHexChar (d : Nat) : Char :=
  if d < 10 then Char.ofNat ('0'.toNat + d) else Char.ofNat ('a'.toNat + (d - 10))

/-- The digit character of a value below sixteen, with letters from `A`. -/
def upperHexChar (d : Nat) : Char :=
  if d < 10 then Char.ofNat ('0'.toNat + d) else Char.ofNat ('A'.toNat + (d - 10))

/-- The digits of a number, last digit first; zero has none. -/
def digitsBack (base : Nat) (h : 2 ≤ base) (n : Nat) : List Nat :=
  if _ : n = 0 then [] else n % base :: digitsBack base h (n / base)
termination_by n
decreasing_by exact Nat.div_lt_self (by omega) h

/-- The digits of a number, first digit first, at least `width` of them. -/
def paddedDigits (base : Nat) (h : 2 ≤ base) (width n : Nat) : List Nat :=
  let ds := (digitsBack base h n).reverse
  List.replicate (width - ds.length) 0 ++ ds

/-- A number in lower-case hexadecimal, at least `width` digits. -/
def lowerHex (width n : Nat) : String :=
  String.ofList ((paddedDigits 16 (by decide) width n).map lowerHexChar)

/-- A number in upper-case hexadecimal, at least `width` digits. -/
def upperHex (width n : Nat) : String :=
  String.ofList ((paddedDigits 16 (by decide) width n).map upperHexChar)

/-- A number in decimal, at least `width` digits. -/
def decimal (width n : Nat) : String :=
  String.ofList ((paddedDigits 10 (by decide) width n).map lowerHexChar)

end DebugRelay.Text
