/-!
# Decimal numbers as doubles

The double nearest to a decimal number.  Of two that are equally near the one with the even
significand is taken; the division is exact, and no floating-point operation rounds.
-/

namespace ShaderCalls.Text

/-- A quotient rounded to the nearest natural number, a half to the even one. -/
def roundedQuotient (numerator denominator : Nat) : Nat :=
  let quotient := numerator / denominator
  let twice := 2 * (numerator % denominator)
  if denominator < twice || (twice = denominator && quotient % 2 = 1) then quotient + 1
  else quotient

/-- The power of two that the significand of the double nearest to a quotient counts: its quotient
by that power lies between `2 ^ 52` and `2 ^ 53`, unless it is too small for that. -/
def binaryExponent (numerator denominator : Nat) : Int :=
  let low : Int := (numerator.log2 : Int) - denominator.log2 - 53
  let fits :=
    if 0 ≤ low then decide (numerator < denominator * Nat.pow 2 (low.toNat + 53))
    else decide (numerator * Nat.pow 2 (-low).toNat < denominator * Nat.pow 2 53)
  max (-1074) (if fits then low else low + 1)

/-- The double nearest to a quotient of positive numbers. -/
def nearestToQuotient (numerator denominator : Nat) : Float :=
  let exponent := binaryExponent numerator denominator
  let significand :=
    if 0 ≤ exponent then roundedQuotient numerator (denominator * Nat.pow 2 exponent.toNat)
    else roundedQuotient (numerator * Nat.pow 2 (-exponent).toNat) denominator
  significand.toUInt64.toFloat.scaleB exponent

/-- The double nearest to a natural number times a power of ten. -/
def nearestToDecimal (number : Nat) (power : Int) : Float :=
  let places : Int := (Nat.toDigits 10 number).length + power
  if number = 0 || places < -330 then 0.0
  else if 310 < places then 1.0 / 0.0
  else if 0 ≤ power then nearestToQuotient (number * Nat.pow 10 power.toNat) 1
  else nearestToQuotient number (Nat.pow 10 (-power).toNat)

/-- The double nearest to an integer. -/
def nearestToInt (value : Int) : Float :=
  let magnitude := nearestToDecimal value.natAbs 0
  if value < 0 then -magnitude else magnitude

end ShaderCalls.Text
