import LootLedger.Decimal.Binary64

/-!
# Reading a decimal in steps

Finding the double nearest to a decimal takes exact numbers of any size. There is a quicker way: a
word of digits is turned into a double, and that is multiplied with a power of ten or divided by
one, which is a double from a table. Each step is rounded, so what comes of them is the nearest
double where all but one of them are exact, and elsewhere perhaps a neighbour of it.

## Main definitions

* `Decimal.product?`, `Decimal.quotient?`: the two steps
* `Decimal.scaled?`: a double times a power of ten
* `Decimal.ofWord?`: the double that a word times a power of ten is read as
-/

namespace LootLedger.Decimal

/-- The number that the pattern of a finite double stands for, its sign apart, as a fraction. -/
def fractionOf (bits : Nat) : Nat × Nat :=
  match Magnitude.ofBits bits with
  | .finite mantissa scale => binaryFraction mantissa scale
  | _ => (0, 1)

/-- The pattern of the product of two positive doubles, if it is finite. -/
def product? (x y : Nat) : Option Nat :=
  let (num, den) := fractionOf x
  let (num', den') := fractionOf y
  nearestBits? (num * num') (den * den')

/-- The pattern of the quotient of two positive doubles, if it is finite. -/
def quotient? (x y : Nat) : Option Nat :=
  let (num, den) := fractionOf x
  let (num', den') := fractionOf y
  nearestBits? (num * den') (den * num')

/-- The largest power of ten that is in the range of doubles. -/
def maxPower : Nat := 308

/-- The pattern of the double nearest to a power of ten. -/
def powerBits (k : Nat) : Nat :=
  (nearestBits? (Nat.pow 10 k) 1).getD infinityBits

/-- The pattern of a double times a power of ten, if it is finite. What is divided by a power beyond
the largest one is divided by that one first. -/
def scaled? (bits : Nat) (exponent : Int) : Option Nat :=
  if bits = 0 then some 0
  else if exponent.natAbs ≤ maxPower then
    if 0 ≤ exponent then product? bits (powerBits exponent.natAbs)
    else quotient? bits (powerBits exponent.natAbs)
  else if 0 ≤ exponent then none
  else (quotient? bits (powerBits maxPower)).bind (scaled? · (exponent + maxPower))
termination_by exponent.natAbs
decreasing_by
  rename_i hrange hnegative
  rw [maxPower] at *
  omega

/-- The double that `± word * 10 ^ exponent` is read as, if that is finite. -/
def ofWord? (negative : Bool) (word : Nat) (exponent : Int) : Option Float :=
  let sign : Nat := if negative then Nat.pow 2 63 else 0
  let start := if word = 0 then some 0 else nearestBits? word 1
  (start.bind (scaled? · exponent)).map fun bits => Float.ofBits (sign + bits).toUInt64

end LootLedger.Decimal
