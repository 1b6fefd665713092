/-!
# Decimal fractions and doubles

Which decimal fractions have a finite double next to them.
-/

namespace DebugRelay.Decimal

/-- The smallest number that rounds beyond the largest finite double. -/
def doubleBound : Nat := Nat.pow 2 1024 - Nat.pow 2 970

/-- Whether `digits · 10 ^ exponent` has a finite double next to it. The number of digits settles
all but the numbers close to the bound. -/
def isFinite (digits : Nat) (exponent : Int) : Bool :=
  let size : Int := (Nat.toDigits 10 digits).length + exponent
  if digits = 0 || decide (size < 300) then true
  else if 320 < size then false
  else if 0 ≤ exponent then decide (digits * Nat.pow 10 exponent.toNat < doubleBound)
  else decide (digits < doubleBound * Nat.pow 10 (-exponent).toNat)

end DebugRelay.Decimal
