import LootLedger.Decimal.Rounding

/-!
# Doubles as numbers

Market values are double-precision numbers. A finite double is a whole number times a power of
two; this module takes a double apart into those two, and finds the double nearest to a
fraction. Both directions go through the 64-bit pattern, so no floating-point operation takes
part and nothing is rounded on the way.

## Main definitions

* `Decimal.Magnitude`: what a bit pattern stands for, its sign apart
* `Decimal.magnitudeOf`, `Decimal.isNegative`: a double taken apart
* `Decimal.nearestBits?`: the pattern of the double nearest to a fraction, if it is finite
-/

namespace LootLedger.Decimal

/-- What a bit pattern stands for, its sign apart. -/
inductive Magnitude
  /-- `mantissa * 2 ^ (scale - 1074)` -/
  | finite (mantissa scale : Nat)
  | infinite
  | notANumber
  deriving DecidableEq, Repr

/-- The number of patterns per power of two. -/
def fractionCount : Nat := Nat.pow 2 52

/-- The pattern of infinity; patterns of finite doubles are below it. -/
def infinityBits : Nat := 2047 * Nat.pow 2 52

/-- What the pattern `bits`, without its sign bit, stands for. -/
def Magnitude.ofBits (bits : Nat) : Magnitude :=
  let fraction := bits % fractionCount
  let exponent := bits / fractionCount % 2048
  if exponent = 2047 then (if fraction = 0 then .infinite else .notANumber)
  else if exponent = 0 then .finite fraction 0
  else .finite (fractionCount + fraction) (exponent - 1)

/-- The magnitude of a double. -/
def magnitudeOf (x : Float) : Magnitude :=
  .ofBits (x.toBits.toNat % Nat.pow 2 63)

/-- The sign bit of a double is set. -/
def isNegative (x : Float) : Bool :=
  x.toBits.toNat ≥ Nat.pow 2 63

/-- The fraction that `mantissa * 2 ^ (scale - 1074)` is. -/
def binaryFraction (mantissa scale : Nat) : Nat × Nat :=
  if 1074 ≤ scale then (mantissa * Nat.pow 2 (scale - 1074), 1)
  else (mantissa, Nat.pow 2 (1074 - scale))

/-- The fraction `num / den` in units of `2 ^ (scale - 1074)`, rounded. -/
def roundAtScale (num den scale : Nat) : Nat :=
  if 1074 ≤ scale then roundDiv num (den * Nat.pow 2 (scale - 1074))
  else roundDiv (num * Nat.pow 2 (1074 - scale)) den

/-- The least scale at which `num / den` is below `2 ^ 53` units. -/
def scaleOf (num den : Nat) : Nat :=
  let guess := num.log2 + 1074 - (den.log2 + 53)
  let above : Bool :=
    if 1074 ≤ guess then decide (Nat.pow 2 53 * (den * Nat.pow 2 (guess - 1074)) ≤ num)
    else decide (Nat.pow 2 53 * den ≤ num * Nat.pow 2 (1074 - guess))
  if above then guess + 1 else guess

/-- The pattern of the non-negative double nearest to `num / den`, ties to the even pattern;
`none` if the fraction is beyond the largest finite double. -/
def nearestBits? (num den : Nat) : Option Nat :=
  let scale := scaleOf num den
  let bits := scale * fractionCount + roundAtScale num den scale
  if bits < infinityBits then some bits else none

/-- The double nearest to `± digits * 10 ^ exponent`, if it is finite. Exponents far outside
the range of doubles are answered without computing the power. -/
def ofDecimal? (negative : Bool) (digits : Nat) (exponent : Int) : Option Float :=
  let sign : Nat := if negative then Nat.pow 2 63 else 0
  let zero : Float := Float.ofBits sign.toUInt64
  if digits = 0 then some zero
  else if exponent + (digitCount digits : Int) > 400 then none
  else if exponent + (digitCount digits : Int) < -400 then some zero
  else
    let (num, den) := unscale digits 1 (-exponent)
    (nearestBits? num den).map fun bits => Float.ofBits (sign + bits).toUInt64

end LootLedger.Decimal
