import DebugRelay.Text.Digits

/-!
# Doubles in JSON

A number with a fraction or an exponent is a double. `double?` reads one as the digits that fit in
a word of 64 bits, scaled by a power of ten; every step rounds to the nearest double. Digits before
the point that do not fit count as zeros, and digits after it that do not fit are ignored.
`doubleText` writes the exact value of a double, so that nothing is lost whoever reads it.
-/

namespace DebugRelay.Json

/-! ## Reading -/

/-- The number that the leading digits spell, as many of them as fit in 64 bits together with those
before, and how many digits are left over. -/
def leading (before : Nat) : List Nat → Nat × Nat
  | [] => (before, 0)
  | d :: rest =>
    if before * 10 + d < 2 ^ 64 then leading (before * 10 + d) rest
    else (before, rest.length + 1)

/-- The largest exponent of a power of ten that is a finite double. -/
def largestPower : Nat := 308

/-- The double nearest to a power of ten. -/
def powerOfTen (n : Nat) : Float := Float.ofScientific 1 false n

/-- Divides by a power of ten, in several steps if no double is as large as that. -/
def scaleDown (x : Float) (n : Nat) : Float :=
  if n ≤ largestPower then x / powerOfTen n
  else if x == 0 then x
  else scaleDown (x / powerOfTen largestPower) (n - largestPower)
termination_by n
decreasing_by simp only [largestPower] at *; omega

/-- Multiplies by a power of ten, if the product is finite. -/
def scaleUp? (x : Float) (n : Nat) : Option Float :=
  if x == 0 then some x
  else if n ≤ largestPower ∧ (x * powerOfTen n).isFinite then some (x * powerOfTen n)
  else none

/-- The bits of the double that a sign, the digits before and after the point and a power of ten
stand for, if it is finite. -/
def double? (negative : Bool) (whole fraction : List Nat) (exponent : Int) : Option UInt64 :=
  let (significand, dropped) := leading 0 whole
  let (significand, ignored) := leading significand fraction
  let x := (UInt64.ofNat significand).toFloat
  let scaled : Option Float :=
    match exponent + dropped - (fraction.length - ignored : Nat) with
    | .ofNat n => scaleUp? x n
    | .negSucc n => some (scaleDown x (n + 1))
  scaled.map fun y => (if negative then -y else y).toBits

/-! ## Writing -/

/-- Takes factors of two out of a number, up to a number of them. -/
def halve (n : Nat) : Nat → Nat × Nat
  | 0 => (n, 0)
  | k + 1 => if n % 2 = 0 then halve (n / 2) k else (n, k + 1)

/-- The exact value of a finite double, given by its bits. It always shows a point or an exponent,
which tells it from a whole number. -/
def doubleText (bits : UInt64) : String :=
  let sign := if Nat.pow 2 63 ≤ bits.toNat then "-" else ""
  let biased := bits.toNat / Nat.pow 2 52 % Nat.pow 2 11
  let fraction := bits.toNat % Nat.pow 2 52
  let (mantissa, exponent) := if biased = 0 then (fraction, 1) else (fraction + Nat.pow 2 52, biased)
  sign ++
    if 1075 ≤ exponent then Text.decimal 1 (mantissa * Nat.pow 2 (exponent - 1075)) ++ ".0"
    else
      match halve mantissa (1075 - exponent) with
      | (n, 0) => Text.decimal 1 n ++ ".0"
      | (n, k) => Text.decimal 1 (n * Nat.pow 5 k) ++ "e-" ++ Text.decimal 1 k

end DebugRelay.Json
