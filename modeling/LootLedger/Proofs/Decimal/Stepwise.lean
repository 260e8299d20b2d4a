import LootLedger.Decimal.Stepwise
import LootLedger.Proofs.Decimal.Double

/-!
# Where steps are as good as one

A decimal is read in steps, and each step is rounded. As long as the digits are a number of 53 bits
and the power of ten is one of those that are doubles themselves, the first step and the table are
exact. Then only the last step rounds, and what it rounds is the decimal itself: the double that it
gives is the nearest one.

## Main definitions

* `Decimal.IsExact`: a pattern stands for a number

## Main results

* `Decimal.exists_isExact`, `Decimal.isExact_powerBits`: words and powers that are doubles
* `Decimal.ofWord?_of_roundsTo`: a short decimal that rounds to a double is read as that double
* `Decimal.isFinite_of_ofWord?`: whatever is read in steps is finite
-/

namespace LootLedger.Decimal

/-! ### Patterns that stand for a number -/

/-- The pattern is the one of a positive double, and the double is the number. -/
structure IsExact (bits : ℕ) (v : ℚ) : Prop where
  ne_zero : bits ≠ 0
  den_pos : 0 < (fractionOf bits).2
  ratio_eq : ratio (fractionOf bits) = v

section

variable {mantissa scale : ℕ}

/-- A double is told from its pattern. -/
theorem ofBits_of_isCanonical (hd : IsCanonical mantissa scale) :
    Magnitude.ofBits (scale * fractionCount + mantissa) = .finite mantissa scale := by
  obtain ⟨hlt, hle, hscale⟩ := hd
  rw [Magnitude.ofBits, fractionCount_eq]
  rcases Nat.lt_or_ge mantissa (2 ^ 52) with hsmall | hlarge
  · obtain rfl : scale = 0 := by omega
    rw [Nat.zero_mul, Nat.zero_add, Nat.mod_eq_of_lt hsmall, Nat.div_eq_of_lt hsmall]
    rfl
  · obtain ⟨rest, rfl⟩ := Nat.exists_eq_add_of_le hlarge
    have hrest : rest < 2 ^ 52 := by omega
    have hbits : scale * 2 ^ 52 + (2 ^ 52 + rest) = rest + 2 ^ 52 * (scale + 1) := by ring
    rw [hbits, Nat.add_mul_mod_self_left, Nat.mod_eq_of_lt hrest,
      Nat.add_mul_div_left _ _ (by norm_num), Nat.div_eq_of_lt hrest, Nat.zero_add,
      Nat.mod_eq_of_lt (by omega), if_neg (by omega), if_neg (by omega), Nat.add_sub_cancel]

/-- A double stands for its mantissa in units of its scale. -/
theorem isExact_of_isCanonical (hd : IsCanonical mantissa scale) (hm : 0 < mantissa) :
    IsExact (scale * fractionCount + mantissa) (mantissa * unit scale) where
  ne_zero := by omega
  den_pos := by
    rw [fractionOf, ofBits_of_isCanonical hd]
    exact binaryFraction_pos mantissa scale
  ratio_eq := by
    rw [fractionOf, ofBits_of_isCanonical hd]
    exact ratio_binaryFraction mantissa scale

/-- A double is rounded to itself. -/
theorem roundsTo_self (mantissa scale : ℕ) : RoundsTo mantissa scale (mantissa * unit scale) := by
  have hunit := unit_pos scale
  have hlow : lowerEnd mantissa scale ≤ 4 * mantissa - 1 := by
    rw [lowerEnd]
    split <;> linarith
  have hend := mul_le_mul_of_nonneg_right hlow hunit.le
  refine ⟨by linarith, by linarith, .inr ⟨by linarith, by linarith⟩⟩

end

/-- **A word of 53 bits** is a double. -/
theorem exists_isExact {n : ℕ} (hn : 0 < n) (h : n < 2 ^ 53) :
    ∃ bits, nearestBits? n 1 = some bits ∧ IsExact bits n := by
  have hlog : n.log2 < 53 := (Nat.log2_lt hn.ne').mpr h
  have hpow : 0 < 2 ^ (52 - n.log2) := by positivity
  have hlow := Nat.mul_le_mul_right (2 ^ (52 - n.log2)) (Nat.log2_self_le hn.ne')
  have hhigh := Nat.mul_lt_mul_of_pos_right (Nat.lt_log2_self (n := n)) hpow
  rw [← Nat.pow_add] at hlow hhigh
  rw [show n.log2 + (52 - n.log2) = 52 by omega] at hlow
  rw [show n.log2 + 1 + (52 - n.log2) = 53 by omega] at hhigh
  -- the mantissa is the number, moved to the left as far as it goes
  have hd : IsCanonical (n * 2 ^ (52 - n.log2)) (1022 + n.log2) :=
    ⟨hhigh, fun _ => hlow, by omega⟩
  have hvalue : ((n * 2 ^ (52 - n.log2) : ℕ) : ℚ) * unit (1022 + n.log2) = n := by
    rw [unit_of_ge (by omega), show 1074 - (1022 + n.log2) = 52 - n.log2 by omega, Nat.cast_mul,
      mul_one_div, mul_div_assoc, div_self (by positivity), mul_one]
  have hm : 0 < n * 2 ^ (52 - n.log2) := Nat.mul_pos hn hpow
  have hrounds := roundsTo_self (n * 2 ^ (52 - n.log2)) (1022 + n.log2)
  have hexact := isExact_of_isCanonical hd hm
  rw [hvalue] at hrounds hexact
  refine ⟨_, nearestBits?_of_roundsTo hd hm Nat.one_pos ?_, hexact⟩
  rwa [ratio, Nat.cast_one, div_one]

/-- **The powers of ten up to the twenty-second** are doubles. -/
theorem isExact_powerBits {k : ℕ} (h : k ≤ 22) : IsExact (powerBits k) (10 ^ k) := by
  have htable : ∀ k ≤ 22, powerBits k ≠ 0 ∧ 0 < (fractionOf (powerBits k)).2 ∧
      (fractionOf (powerBits k)).1 = 10 ^ k * (fractionOf (powerBits k)).2 := by
    decide +kernel
  obtain ⟨hne, hden, hnum⟩ := htable k h
  refine ⟨hne, hden, ?_⟩
  have hden' : ((fractionOf (powerBits k)).2 : ℚ) ≠ 0 := by exact_mod_cast hden.ne'
  rw [ratio, hnum, Nat.cast_mul, mul_div_assoc, div_self hden', mul_one, Nat.cast_pow,
    Nat.cast_ofNat]

/-! ### The last step -/

section

variable {mantissa scale : ℕ} (hd : IsCanonical mantissa scale) (hm : 0 < mantissa) {x y : ℕ}
  {v w : ℚ} (hx : IsExact x v) (hy : IsExact y w)

include hd hm hx hy

theorem product?_of_roundsTo (h : RoundsTo mantissa scale (v * w)) :
    product? x y = some (scale * fractionCount + mantissa) := by
  refine nearestBits?_of_roundsTo hd hm (Nat.mul_pos hx.den_pos hy.den_pos) ?_
  rw [ratio, Nat.cast_mul, Nat.cast_mul, mul_div_mul_comm]
  change RoundsTo _ _ (ratio (fractionOf x) * ratio (fractionOf y))
  rwa [hx.ratio_eq, hy.ratio_eq]

theorem quotient?_of_roundsTo (hw : w ≠ 0) (h : RoundsTo mantissa scale (v / w)) :
    quotient? x y = some (scale * fractionCount + mantissa) := by
  have hnum : 0 < (fractionOf y).1 := by
    refine Nat.pos_of_ne_zero fun hzero => hw ?_
    rw [← hy.ratio_eq, ratio, hzero, Nat.cast_zero, zero_div]
  refine nearestBits?_of_roundsTo hd hm (Nat.mul_pos hx.den_pos hnum) ?_
  rw [ratio, Nat.cast_mul, Nat.cast_mul, ← div_div_div_eq]
  change RoundsTo _ _ (ratio (fractionOf x) / ratio (fractionOf y))
  rwa [hx.ratio_eq, hy.ratio_eq]

omit hy in
/-- A number that is moved by a power of the table is rounded once. -/
theorem scaled?_of_roundsTo {exponent : ℤ} (hexponent : exponent.natAbs ≤ 22)
    (h : RoundsTo mantissa scale (v * 10 ^ exponent)) :
    scaled? x exponent = some (scale * fractionCount + mantissa) := by
  have hpower := isExact_powerBits hexponent
  rw [scaled?, if_neg hx.ne_zero, if_pos (hexponent.trans (by decide))]
  split
  · next hle =>
    refine product?_of_roundsTo hd hm hx hpower ?_
    rwa [← zpow_natCast, Int.natAbs_of_nonneg hle]
  · next hlt =>
    refine quotient?_of_roundsTo hd hm hx hpower (by positivity) ?_
    rwa [← zpow_natCast, Int.ofNat_natAbs_of_nonpos (by omega), zpow_neg, div_inv_eq_mul]

end

/-! ### Reading -/

theorem ofWord?_eq (negative : Bool) (word : ℕ) (exponent : ℤ) :
    ofWord? negative word exponent =
      ((if word = 0 then some 0 else nearestBits? word 1).bind (scaled? · exponent)).map
        fun bits => Float.ofBits (signBit negative + bits).toUInt64 :=
  rfl

theorem scaled?_zero (exponent : ℤ) : scaled? 0 exponent = some 0 := by
  rw [scaled?, if_pos rfl]

section

variable {x : Float} {mantissa scale : ℕ}

/-- **A short decimal that rounds to a double is read as that double.** -/
theorem ofWord?_of_roundsTo (hx : magnitudeOf x = .finite mantissa scale) (hm : 0 < mantissa)
    {word : ℕ} (hword : word < 2 ^ 53) {exponent : ℤ} (hexponent : exponent.natAbs ≤ 22)
    (h : RoundsTo mantissa scale (word * 10 ^ exponent)) :
    ofWord? (isNegative x) word exponent = some x := by
  have hpos : 0 < word := by
    rcases Nat.eq_zero_or_pos word with rfl | hpos
    · have := h.pos hm
      simp at this
    · exact hpos
  obtain ⟨bits, hbits, hexact⟩ := exists_isExact hpos hword
  rw [ofWord?_eq, if_neg hpos.ne', hbits, Option.bind_some,
    scaled?_of_roundsTo (magnitudeOf_isCanonical hx) hm hexact hexponent h, Option.map_some,
    ofBits_signBit_add hx]

/-- No digits are read as zero, its sign kept. -/
theorem ofWord?_zero (hx : magnitudeOf x = .finite 0 scale) (exponent : ℤ) :
    ofWord? (isNegative x) 0 exponent = some x := by
  have hd := magnitudeOf_isCanonical hx
  have hscale : scale = 0 := by
    by_contra hne
    exact absurd (hd.le_mantissa (Nat.pos_of_ne_zero hne)) (by norm_num)
  have hofBits := ofBits_signBit_add hx
  rw [hscale, Nat.zero_mul, Nat.add_zero] at hofBits
  rw [ofWord?_eq, if_pos rfl, Option.bind_some, scaled?_zero, Option.map_some, Nat.add_zero,
    hofBits]

end

/-! ### What is read is finite -/

theorem infinityBits_pos : 0 < infinityBits := by
  rw [infinityBits_eq]
  norm_num

theorem lt_of_product? {x y bits : ℕ} (h : product? x y = some bits) : bits < infinityBits :=
  lt_of_nearestBits? h

theorem lt_of_quotient? {x y bits : ℕ} (h : quotient? x y = some bits) : bits < infinityBits :=
  lt_of_nearestBits? h

theorem lt_of_scaled? {bits bits' : ℕ} {exponent : ℤ} (h : scaled? bits exponent = some bits') :
    bits' < infinityBits := by
  induction bits, exponent using scaled?.induct with
  | case1 exponent =>
    rw [scaled?_zero] at h
    exact Option.some.inj h ▸ infinityBits_pos
  | case2 bits exponent hne hrange hle =>
    rw [scaled?, if_neg hne, if_pos hrange, if_pos hle] at h
    exact lt_of_product? h
  | case3 bits exponent hne hrange hlt =>
    rw [scaled?, if_neg hne, if_pos hrange, if_neg hlt] at h
    exact lt_of_quotient? h
  | case4 bits exponent hne hrange hle =>
    rw [scaled?, if_neg hne, if_neg hrange, if_pos hle] at h
    cases h
  | case5 bits exponent hne hrange hlt ih =>
    rw [scaled?, if_neg hne, if_neg hrange, if_neg hlt] at h
    obtain ⟨smaller, -, h⟩ := Option.bind_eq_some_iff.mp h
    exact ih smaller h

/-- **Whatever is read in steps is finite.** -/
theorem isFinite_of_ofWord? {negative : Bool} {word : ℕ} {exponent : ℤ} {x : Float}
    (h : ofWord? negative word exponent = some x) : IsFinite x := by
  rw [ofWord?_eq] at h
  obtain ⟨bits, hbits, rfl⟩ := Option.map_eq_some_iff.mp h
  obtain ⟨start, -, hscaled⟩ := Option.bind_eq_some_iff.mp hbits
  exact isFinite_ofBits negative (lt_of_scaled? hscaled)

end LootLedger.Decimal
