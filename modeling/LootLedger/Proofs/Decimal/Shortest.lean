import LootLedger.Proofs.Decimal.Nearest

/-!
# The shortest decimal lies in the rounding interval

The digits of a double are those of the first grid of decimals that has a point in the rounding
interval. A grid of seventeen digits always has one: its points are at most `10 ^ -16` of the double
apart, and a double of 53 bits has an interval that reaches further than half of that on both sides.
So the search always ends with digits, and what it ends with rounds to the double.

## Main definitions

* `Decimal.Shortest.value`: the number that digits and a power of ten stand for

## Main results

* `Decimal.zpow_magnitude_le`: the power of ten at or below a quotient
* `Decimal.isSome_onGrid_seventeen`: seventeen digits suffice
* `Decimal.shortest_roundsTo`: the shortest decimal rounds to the double
-/

namespace LootLedger.Decimal

/-- The number that digits and a power of ten stand for. -/
def Shortest.value (d : Shortest) : ℚ :=
  d.digits * 10 ^ d.exponent

theorem ten_zpow_pos (e : ℤ) : (0 : ℚ) < 10 ^ e :=
  zpow_pos (by norm_num) _

/-! ### Fractions -/

theorem zpow_of_nonneg {e : ℤ} (h : 0 ≤ e) : (10 : ℚ) ^ e = (10 ^ e.toNat : ℕ) := by
  rw [Nat.cast_pow, Nat.cast_ofNat, ← zpow_natCast, Int.toNat_of_nonneg h]

theorem zpow_of_neg {e : ℤ} (h : ¬ 0 ≤ e) : (10 : ℚ) ^ e = 1 / (10 ^ (-e).toNat : ℕ) := by
  rw [← zpow_of_nonneg (by omega), one_div, zpow_neg, inv_inv]

theorem ratio_fraction (d : Shortest) : ratio d.fraction = d.value := by
  rw [Shortest.fraction, Shortest.value, ratio]
  split
  · next h => rw [zpow_of_nonneg h, Nat.cast_one, div_one]; exact Nat.cast_mul _ _
  · next h => rw [zpow_of_neg h, mul_one_div]; rfl

theorem fraction_pos (d : Shortest) : 0 < d.fraction.2 := by
  rw [Shortest.fraction]
  split
  · exact Nat.one_pos
  · exact Nat.pow_pos (by norm_num)

theorem ratio_unscale (num den : ℕ) (p : ℤ) :
    ratio (unscale num den p) = ratio (num, den) / 10 ^ p := by
  rw [unscale]
  split
  · next h =>
    rw [zpow_of_nonneg h, ratio, ratio, div_div, Nat.pow_eq, Nat.cast_mul]
  · next h =>
    rw [zpow_of_neg h, ratio, ratio, div_div_eq_mul_div, div_one, div_mul_eq_mul_div, Nat.pow_eq,
      Nat.cast_mul]

theorem unscale_pos {den : ℕ} (hden : 0 < den) (num : ℕ) (p : ℤ) :
    0 < (unscale num den p).2 := by
  rw [unscale]
  split
  · exact Nat.mul_pos hden (Nat.pow_pos (by norm_num))
  · exact hden

theorem binaryFraction_pos (mantissa scale : ℕ) : 0 < (binaryFraction mantissa scale).2 := by
  rw [binaryFraction]
  split
  · exact Nat.one_pos
  · exact Nat.pow_pos (by norm_num)

theorem fractionLt_iff {x y : ℕ × ℕ} (hx : 0 < x.2) (hy : 0 < y.2) :
    fractionLt x y = true ↔ ratio x < ratio y := by
  have hx' : (0 : ℚ) < x.2 := by exact_mod_cast hx
  have hy' : (0 : ℚ) < y.2 := by exact_mod_cast hy
  rw [fractionLt, decide_eq_true_eq, ratio, ratio, div_lt_div_iff₀ hx' hy']
  exact_mod_cast Iff.rfl

/-- A rounded quotient is at most half a unit away from the quotient. -/
theorem abs_roundDiv_sub_le {x : ℕ × ℕ} (hx : 0 < x.2) :
    |(roundDiv x.1 x.2 : ℚ) - ratio x| ≤ 1 / 2 := by
  have hx' : (0 : ℚ) < x.2 := by exact_mod_cast hx
  obtain ⟨hhigh, hlow⟩ := roundDiv_bounds x.1 hx
  have hhigh' : (2 * x.1 : ℚ) ≤ 2 * (roundDiv x.1 x.2 * x.2) + x.2 := by exact_mod_cast hhigh
  have hlow' : (2 * (roundDiv x.1 x.2 * x.2) : ℚ) ≤ 2 * x.1 + x.2 := by exact_mod_cast hlow
  have hmul : ratio x * x.2 = x.1 := div_mul_cancel₀ _ hx'.ne'
  rw [abs_le]
  constructor <;> refine le_of_mul_le_mul_right ?_ hx' <;> linarith

/-! ### The power of ten of a quotient -/

theorem digitCount_pos (n : ℕ) : 0 < digitCount n := by
  rw [digitCount]
  split <;> omega

theorem pow_digitCount {n : ℕ} (hn : 0 < n) :
    10 ^ (digitCount n - 1) ≤ n ∧ n < 10 ^ digitCount n := by
  induction n using Nat.strongRecOn with
  | _ n ih =>
    rw [digitCount]
    split
    · next h => exact ⟨by rw [Nat.sub_self, Nat.pow_zero]; exact hn, by simpa using h⟩
    · next h =>
      obtain ⟨hlow, hhigh⟩ := ih (n / 10) (by omega) (by omega)
      have hpos := digitCount_pos (n / 10)
      rw [Nat.add_sub_cancel, Nat.pow_succ]
      refine ⟨?_, by omega⟩
      obtain ⟨k, hk⟩ : ∃ k, digitCount (n / 10) = k + 1 := ⟨digitCount (n / 10) - 1, by omega⟩
      rw [hk, Nat.add_sub_cancel] at hlow
      rw [hk, Nat.pow_succ]
      omega

/-- **The magnitude of a quotient** is a power of ten at or below it. -/
theorem zpow_magnitude_le {num den : ℕ} (hnum : 0 < num) (hden : 0 < den) :
    (10 : ℚ) ^ magnitude num den ≤ ratio (num, den) := by
  have hden' : (0 : ℚ) < den := by exact_mod_cast hden
  rw [magnitude, ratio, le_div_iff₀ hden']
  split
  · next h =>
    obtain ⟨hlow, -⟩ := pow_digitCount (Nat.div_pos h hden)
    have hcount := digitCount_pos (num / den)
    have hle : 10 ^ (digitCount (num / den) - 1) * den ≤ num :=
      (Nat.mul_le_mul_right den hlow).trans (Nat.div_mul_le_self num den)
    rw [show (digitCount (num / den) : ℤ) - 1 = (digitCount (num / den) - 1 : ℕ) by omega,
      zpow_natCast]
    exact_mod_cast hle
  · next h =>
    -- a quotient below one is placed by its reciprocal
    have hplace {k : ℕ} (hk : den ≤ num * 10 ^ k) : (10 : ℚ) ^ (-(k : ℤ)) * den ≤ num := by
      rw [zpow_neg, zpow_natCast, inv_mul_le_iff₀ (by positivity), mul_comm]
      exact_mod_cast hk
    obtain ⟨-, hhigh⟩ := pow_digitCount (n := den / num) (Nat.div_pos (by omega) hnum)
    have hcount := digitCount_pos (den / num)
    dsimp only
    split
    · next hle =>
      rw [show (digitCount (den / num) : ℤ) - 1 = (digitCount (den / num) - 1 : ℕ) by omega]
      exact hplace hle
    · exact hplace ((Nat.div_lt_iff_lt_mul hnum).mp hhigh |>.le.trans_eq (Nat.mul_comm _ _))

/-! ### The search on a grid -/

section

variable {mantissa scale : ℕ}

/-- The ends of the rounding interval that the search looks into. -/
theorem ratio_roundingInterval (scale : ℕ) (hm : 0 < mantissa) :
    ratio (roundingInterval mantissa scale).1 = lowerEnd mantissa scale * unit scale / 4 ∧
      ratio (roundingInterval mantissa scale).2 = (4 * mantissa + 2) * unit scale / 4 := by
  have hquarter (x : ℕ × ℕ) : ratio (x.1, 4 * x.2) = ratio x / 4 := by
    rw [ratio, ratio, Nat.cast_mul, Nat.cast_ofNat, div_div, mul_comm (x.2 : ℚ)]
  rw [roundingInterval]
  dsimp only
  rw [hquarter, hquarter, ratio_binaryFraction, ratio_binaryFraction]
  constructor
  · rw [lowerEnd]
    split <;> rw [Nat.cast_sub (by omega)] <;> push_cast <;> rfl
  · push_cast
    rfl

theorem roundingInterval_pos (mantissa scale : ℕ) :
    0 < (roundingInterval mantissa scale).1.2 ∧ 0 < (roundingInterval mantissa scale).2.2 :=
  ⟨Nat.mul_pos (by norm_num) (binaryFraction_pos _ _),
    Nat.mul_pos (by norm_num) (binaryFraction_pos _ _)⟩

/-- The test of the search. -/
theorem inInterval_iff (hm : 0 < mantissa) {x : ℕ × ℕ} (hx : 0 < x.2) :
    inInterval (roundingInterval mantissa scale) (mantissa % 2 = 0) x = true ↔
      RoundsTo mantissa scale (ratio x) := by
  obtain ⟨hlow, hhigh⟩ := ratio_roundingInterval scale hm
  obtain ⟨hlow', hhigh'⟩ := roundingInterval_pos mantissa scale
  rw [inInterval]
  split
  · next heven =>
    rw [decide_eq_true_eq] at heven
    rw [Bool.and_eq_true, Bool.not_eq_true', Bool.not_eq_true', ← Bool.not_eq_true,
      ← Bool.not_eq_true, fractionLt_iff hx hlow', fractionLt_iff hhigh' hx, not_lt, not_lt, hlow,
      hhigh, div_le_iff₀' (by norm_num), le_div_iff₀' (by norm_num)]
    exact ⟨fun h => ⟨h.1, h.2, .inl heven⟩, fun h => ⟨h.low, h.high⟩⟩
  · next hodd =>
    rw [decide_eq_true_eq] at hodd
    rw [Bool.and_eq_true, fractionLt_iff hlow' hx, fractionLt_iff hx hhigh', hlow, hhigh,
      div_lt_iff₀' (by norm_num), lt_div_iff₀' (by norm_num)]
    exact ⟨fun h => ⟨h.1.le, h.2.le, .inr h⟩, fun h => h.ties.resolve_left hodd⟩

/-- What is found on a grid rounds to the double. -/
theorem roundsTo_of_onGrid (hm : 0 < mantissa) {n : ℕ} {d : Shortest}
    (h : onGrid mantissa scale n = some d) : RoundsTo mantissa scale d.value := by
  rw [← ratio_fraction]
  unfold onGrid at h
  have hfound := List.find?_some h
  exact (inInterval_iff hm (fraction_pos d)).mp hfound

/-- A number whose distance from the double is small against it rounds to it. -/
theorem roundsTo_of_abs_sub_le (hd : IsCanonical mantissa scale) {x : ℚ}
    (h : |x - mantissa * unit scale| * (2 * 10 ^ 16) ≤ mantissa * unit scale) :
    RoundsTo mantissa scale x := by
  have hunit := unit_pos scale
  have hlt : (mantissa : ℚ) + 1 ≤ 2 ^ 53 := by exact_mod_cast hd.mantissa_lt
  have hmul := mul_le_mul_of_nonneg_right hlt hunit.le
  have hsmall : 4 * |x - mantissa * unit scale| < 2 * unit scale := by linarith
  obtain ⟨hleft, hright⟩ := abs_le.mp (le_refl |x - mantissa * unit scale|)
  have hlow : lowerEnd mantissa scale * unit scale < 4 * x := by
    rw [lowerEnd]
    split
    · next hdenser =>
      -- the interval is half as long below, but so is the mantissa
      have hmantissa : (mantissa : ℚ) = 2 ^ 52 := by
        rw [hdenser.1, fractionCount_eq]
        norm_num
      rw [hmantissa] at h hleft ⊢
      linarith
    · linarith
  have hhigh : 4 * x < (4 * mantissa + 2) * unit scale := by linarith
  exact ⟨hlow.le, hhigh.le, .inr ⟨hlow, hhigh⟩⟩

/-- **Seventeen digits suffice.** -/
theorem isSome_onGrid_seventeen (hd : IsCanonical mantissa scale) (hm : 0 < mantissa) :
    (onGrid mantissa scale 17).isSome := by
  have hunit := unit_pos scale
  have hm' : (0 : ℚ) < mantissa := by exact_mod_cast hm
  have hvalue := ratio_binaryFraction mantissa scale
  have hden := binaryFraction_pos mantissa scale
  generalize hfraction : binaryFraction mantissa scale = x at hvalue hden
  obtain ⟨num, den⟩ := x
  have hnum : 0 < num := by
    rcases Nat.eq_zero_or_pos num with rfl | hnum
    · rw [ratio, Nat.cast_zero, zero_div] at hvalue
      exact absurd hvalue (mul_pos hm' hunit).ne
    · exact hnum
  have hmagnitude := zpow_magnitude_le hnum hden
  have hround := abs_roundDiv_sub_le (unscale_pos hden num (magnitude num den - (17 : ℕ) + 1))
  rw [ratio_unscale, hvalue] at hround
  rw [hvalue] at hmagnitude
  unfold onGrid
  rw [hfraction]
  generalize hexponent : magnitude num den - (17 : ℕ) + 1 = exponent at hround
  dsimp only
  rw [hexponent]
  refine List.find?_isSome.mpr ⟨⟨_, exponent⟩, by simp; exact .inl rfl, ?_⟩
  rw [inInterval_iff hm (fraction_pos _), ratio_fraction]
  refine roundsTo_of_abs_sub_le hd ?_
  have hpow := ten_zpow_pos exponent
  have hstep : (10 : ℚ) ^ magnitude num den = 10 ^ exponent * 10 ^ 16 := by
    rw [← zpow_natCast, ← zpow_add₀ (by norm_num)]
    congr 1
    omega
  rw [Shortest.value]
  have hscaled := mul_le_mul_of_nonneg_right hround hpow.le
  rw [← abs_of_pos hpow, ← abs_mul, sub_mul, abs_of_pos hpow, div_mul_cancel₀ _ hpow.ne'] at hscaled
  linarith

/-! ### The shortest decimal -/

theorem value_normalize (d : Shortest) : d.normalize.value = d.value := by
  induction d using Shortest.normalize.induct with
  | case1 d h ih =>
    rw [Shortest.normalize, if_pos h, ih, Shortest.value, Shortest.value]
    have hdigits : d.digits = 10 * (d.digits / 10) := by omega
    have hcast : (d.digits : ℚ) = 10 * (d.digits / 10 : ℕ) := by exact_mod_cast hdigits
    rw [hcast, zpow_add_one₀ (by norm_num)]
    ring
  | case2 d h => rw [Shortest.normalize, if_neg h]

/-- **The shortest decimal rounds to the double.** -/
theorem shortest_roundsTo (hd : IsCanonical mantissa scale) (hm : 0 < mantissa) :
    RoundsTo mantissa scale (shortest mantissa scale).value := by
  have hsome : ((List.range 17).findSome? fun n => onGrid mantissa scale (n + 1)).isSome := by
    rw [List.findSome?_isSome_iff]
    exact ⟨16, by simp, isSome_onGrid_seventeen hd hm⟩
  obtain ⟨d, hfound⟩ := Option.isSome_iff_exists.mp hsome
  obtain ⟨n, -, hn⟩ := List.exists_of_findSome?_eq_some hfound
  rw [shortest, hfound, Option.getD_some, value_normalize]
  exact roundsTo_of_onGrid hm hn

end

end LootLedger.Decimal
