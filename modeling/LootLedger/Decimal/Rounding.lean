/-!
# Rounding quotients

The one place where the library rounds: a quotient of natural numbers goes to the nearest whole
number, and an exact half to the even neighbour. Reading a decimal into a double and printing a
double with a fixed number of places are both this function at different scales.

## Main definitions

* `Decimal.roundDiv`: the nearest whole number, ties to even
* `Decimal.magnitude`: the power of ten at or below a positive quotient
-/

namespace LootLedger.Decimal

/-- The whole number nearest to `num / den`, an exact half going to the even neighbour. -/
def roundDiv (num den : Nat) : Nat :=
  let q := num / den
  let r := num % den
  if 2 * r < den then q
  else if 2 * r > den then q + 1
  else if q % 2 = 0 then q else q + 1

/-- How many decimal digits a number has, one for zero. -/
def digitCount (n : Nat) : Nat :=
  if n < 10 then 1 else digitCount (n / 10) + 1
termination_by n
decreasing_by omega

/-- The `k` with `10 ^ k ≤ num / den < 10 ^ (k + 1)`, for positive `num` and `den`. A quotient
of one or more is placed by the digits of its whole part, a smaller one by those of its
reciprocal. -/
def magnitude (num den : Nat) : Int :=
  if den ≤ num then (digitCount (num / den) : Int) - 1
  else
    let places := digitCount (den / num)
    if den ≤ num * Nat.pow 10 (places - 1) then -((places : Int) - 1) else -(places : Int)

/-- The fraction `num / den` divided by `10 ^ p`, again as a fraction. -/
def unscale (num den : Nat) (p : Int) : Nat × Nat :=
  if 0 ≤ p then (num, den * Nat.pow 10 p.toNat) else (num * Nat.pow 10 (-p).toNat, den)

/-- The rounded quotient is within half a unit of the quotient. -/
theorem roundDiv_bounds (num : Nat) {den : Nat} (h : 0 < den) :
    2 * num ≤ 2 * (roundDiv num den * den) + den ∧
      2 * (roundDiv num den * den) ≤ 2 * num + den := by
  have hr : num % den < den := Nat.mod_lt _ h
  have hd : den * (num / den) + num % den = num := Nat.div_add_mod num den
  have hq : (num / den + 1) * den = den * (num / den) + den := by
    rw [Nat.add_mul, Nat.one_mul, Nat.mul_comm]
  have hq' : num / den * den = den * (num / den) := Nat.mul_comm _ _
  simp only [roundDiv]
  split
  · omega
  · split
    · omega
    · split <;> omega

end LootLedger.Decimal
