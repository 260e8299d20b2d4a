import LootLedger.Decimal.Shortest
import Mathlib.Algebra.Order.Field.Power
import Mathlib.Data.Nat.Log
import Mathlib.Tactic.FieldSimp
import Mathlib.Tactic.GCongr
import Mathlib.Tactic.Linarith
import Mathlib.Tactic.NormNum
import Mathlib.Tactic.Positivity
import Mathlib.Tactic.Ring

/-!
# The double nearest to a fraction

A fraction is rounded in units: those of the least scale at which the fraction has a mantissa of 53
bits. All fractions between the ends of the rounding interval of a double are rounded to it. That is
plain where the double and the fraction have the same units. Where the doubles below are denser, a
fraction just below the double has units of half the size; there it rounds up to the next power of
two, whose pattern is the one of the double.

## Main definitions

* `Decimal.ratio`: the number that a fraction is
* `Decimal.unit`: one unit at a scale
* `Decimal.IsCanonical`: mantissa and scale are those of a finite double
* `Decimal.RoundsTo`: a number lies in the rounding interval of a double

## Main results

* `Decimal.scaleOf_spec`: the scale at which a fraction is rounded
* `Decimal.nearestBits?_of_roundsTo`: a fraction between the ends is rounded to the double
-/

namespace LootLedger.Decimal

/-! ### Fractions and units -/

/-- The number that a fraction is. -/
def ratio (x : ℕ × ℕ) : ℚ :=
  x.1 / x.2

/-- One unit at a scale. -/
def unit (scale : ℕ) : ℚ :=
  2 ^ ((scale : ℤ) - 1074)

theorem unit_pos (scale : ℕ) : 0 < unit scale :=
  zpow_pos (by norm_num) _

theorem unit_succ (scale : ℕ) : unit (scale + 1) = 2 * unit scale := by
  rw [unit, unit, Nat.cast_succ, add_sub_right_comm, zpow_add_one₀ (by norm_num), mul_comm]

theorem unit_le_unit {s t : ℕ} (h : s ≤ t) : unit s ≤ unit t :=
  zpow_le_zpow_right₀ (by norm_num) (by omega)

/-- A large unit is a number. -/
theorem unit_of_le {scale : ℕ} (h : 1074 ≤ scale) : unit scale = (2 ^ (scale - 1074) : ℕ) := by
  have hexponent : (scale : ℤ) - 1074 = (scale - 1074 : ℕ) := by omega
  rw [unit, hexponent, zpow_natCast, Nat.cast_pow, Nat.cast_ofNat]

/-- A small unit is a part of one. -/
theorem unit_of_ge {scale : ℕ} (h : scale ≤ 1074) :
    unit scale = 1 / (2 ^ (1074 - scale) : ℕ) := by
  have hexponent : (scale : ℤ) - 1074 = -((1074 - scale : ℕ) : ℤ) := by omega
  rw [unit, hexponent, zpow_neg, zpow_natCast, Nat.cast_pow, Nat.cast_ofNat, one_div]

theorem ratio_binaryFraction (mantissa scale : ℕ) :
    ratio (binaryFraction mantissa scale) = mantissa * unit scale := by
  rw [binaryFraction]
  split
  · next h => rw [ratio, unit_of_le h, Nat.cast_one, div_one]; exact Nat.cast_mul _ _
  · next h => rw [ratio, unit_of_ge (by omega), mul_one_div]; rfl

/-! ### Rounding quotients -/

/-- A whole number is what a quotient is rounded to if it is at most half a unit away, an exact half
only from an even one. -/
theorem roundDiv_eq {num den r : ℕ} (hden : 0 < den)
    (hlow : 2 * (r * den) ≤ 2 * num + den) (hhigh : 2 * num ≤ 2 * (r * den) + den)
    (hties : r % 2 = 0 ∨ 2 * (r * den) < 2 * num + den ∧ 2 * num < 2 * (r * den) + den) :
    roundDiv num den = r := by
  have hdiv := Nat.div_add_mod num den
  have hmod := Nat.mod_lt num hden
  rw [roundDiv]
  generalize num / den = q at *
  generalize num % den = rest at *
  have hq : q ≤ r := by
    by_contra! hlt
    have := Nat.mul_le_mul_left den hlt
    rw [Nat.mul_succ] at this
    nlinarith
  have hr : r ≤ q + 1 := by
    by_contra! hlt
    have := Nat.mul_le_mul_left den hlt
    rw [Nat.mul_succ, Nat.mul_succ] at this
    nlinarith
  obtain rfl | rfl : r = q ∨ r = q + 1 := by omega
  · rw [Nat.mul_comm r den] at hlow hhigh hties
    split_ifs <;> omega
  · have hsucc : (q + 1) * den = den * q + den := by rw [Nat.add_mul, Nat.one_mul, Nat.mul_comm]
    rw [hsucc] at hlow hhigh hties
    split_ifs <;> omega

/-- A fraction in units of a scale, as a fraction. -/
def inUnits (num den scale : ℕ) : ℕ × ℕ :=
  if 1074 ≤ scale then (num, den * 2 ^ (scale - 1074)) else (num * 2 ^ (1074 - scale), den)

theorem roundAtScale_eq_roundDiv (num den scale : ℕ) :
    roundAtScale num den scale = roundDiv (inUnits num den scale).1 (inUnits num den scale).2 := by
  rw [roundAtScale, inUnits]
  split <;> rfl

theorem inUnits_pos {num den : ℕ} (hden : 0 < den) (scale : ℕ) :
    0 < (inUnits num den scale).2 := by
  rw [inUnits]
  split
  · exact Nat.mul_pos hden (by positivity)
  · exact hden

theorem ratio_inUnits (num den scale : ℕ) :
    ratio (inUnits num den scale) = ratio (num, den) / unit scale := by
  rw [inUnits]
  split
  · next h =>
    rw [unit_of_le h, ratio, ratio, div_div]
    push_cast
    rfl
  · next h =>
    rw [unit_of_ge (by omega), ratio, ratio, div_div_eq_mul_div, div_one, div_mul_eq_mul_div]
    push_cast
    rfl

/-- A whole number is what a fraction is rounded to if it is at most half a unit away, an exact half
only from an even one. -/
theorem roundDiv_eq_of_ratio {x : ℕ × ℕ} {r : ℕ} (hden : 0 < x.2) (hlow : 2 * r - 1 ≤ 2 * ratio x)
    (hhigh : 2 * ratio x ≤ 2 * r + 1)
    (hties : r % 2 = 0 ∨ 2 * r - 1 < 2 * ratio x ∧ 2 * ratio x < 2 * r + 1) :
    roundDiv x.1 x.2 = r := by
  have hden' : (0 : ℚ) < x.2 := by exact_mod_cast hden
  rw [ratio, ← mul_div_assoc] at hlow hhigh hties
  rw [le_div_iff₀ hden', sub_mul, one_mul, sub_le_iff_le_add] at hlow
  rw [div_le_iff₀ hden', add_mul, one_mul] at hhigh
  rw [lt_div_iff₀ hden', div_lt_iff₀ hden', sub_mul, add_mul, one_mul, sub_lt_iff_lt_add] at hties
  refine roundDiv_eq hden ?_ ?_ (hties.imp_right fun ⟨hl, hh⟩ => ⟨?_, ?_⟩)
  · rw [← mul_assoc]
    exact_mod_cast hlow
  · rw [← mul_assoc]
    exact_mod_cast hhigh
  · rw [← mul_assoc]
    exact_mod_cast hl
  · rw [← mul_assoc]
    exact_mod_cast hh

/-- **A fraction in units of a scale** is rounded to a number if it is at most half a unit away, an
exact half only from an even one. -/
theorem roundAtScale_eq {num den scale r : ℕ} (hden : 0 < den)
    (hlow : (2 * r - 1) * unit scale ≤ 2 * ratio (num, den))
    (hhigh : 2 * ratio (num, den) ≤ (2 * r + 1) * unit scale)
    (hties : r % 2 = 0 ∨ (2 * r - 1) * unit scale < 2 * ratio (num, den) ∧
      2 * ratio (num, den) < (2 * r + 1) * unit scale) : roundAtScale num den scale = r := by
  have hunit := unit_pos scale
  rw [roundAtScale_eq_roundDiv]
  refine roundDiv_eq_of_ratio (inUnits_pos hden scale) ?_ ?_ ?_ <;>
    rw [ratio_inUnits, ← mul_div_assoc]
  · exact (le_div_iff₀ hunit).mpr hlow
  · exact (div_le_iff₀ hunit).mpr hhigh
  · exact hties.imp_right fun ⟨hl, hh⟩ =>
      ⟨(lt_div_iff₀ hunit).mpr hl, (div_lt_iff₀ hunit).mpr hh⟩

/-! ### The scale of a fraction -/

/-- A fraction is below one number and at least another by powers of two. -/
theorem zpow_log2_le_ratio {num den : ℕ} (hnum : 0 < num) (hden : 0 < den) :
    (2 : ℚ) ^ ((num.log2 : ℤ) - den.log2 - 1) ≤ ratio (num, den) ∧
      ratio (num, den) < 2 ^ ((num.log2 : ℤ) - den.log2 + 1) := by
  have hden' : (0 : ℚ) < den := by exact_mod_cast hden
  have hlow : (2 : ℚ) ^ (num.log2 : ℤ) ≤ num := by
    exact_mod_cast Nat.log2_self_le hnum.ne'
  have hhigh : (num : ℚ) < 2 ^ ((num.log2 : ℤ) + 1) := by
    exact_mod_cast Nat.lt_log2_self
  have hlow' : (2 : ℚ) ^ (den.log2 : ℤ) ≤ den := by
    exact_mod_cast Nat.log2_self_le hden.ne'
  have hhigh' : (den : ℚ) < 2 ^ ((den.log2 : ℤ) + 1) := by
    exact_mod_cast Nat.lt_log2_self
  constructor
  · rw [ratio, le_div_iff₀ hden']
    calc (2 : ℚ) ^ ((num.log2 : ℤ) - den.log2 - 1) * den
        ≤ 2 ^ ((num.log2 : ℤ) - den.log2 - 1) * 2 ^ ((den.log2 : ℤ) + 1) := by gcongr
      _ = 2 ^ (num.log2 : ℤ) := by
        rw [← zpow_add₀ (by norm_num)]
        congr 1
        ring
      _ ≤ num := hlow
  · rw [ratio, div_lt_iff₀ hden']
    calc (num : ℚ) < 2 ^ ((num.log2 : ℤ) + 1) := hhigh
      _ = 2 ^ ((num.log2 : ℤ) - den.log2 + 1) * 2 ^ (den.log2 : ℤ) := by
        rw [← zpow_add₀ (by norm_num)]
        congr 1
        ring
      _ ≤ 2 ^ ((num.log2 : ℤ) - den.log2 + 1) * den := by gcongr

/-- The test of a scale compares the fraction with `2 ^ 53` of its units. -/
theorem le_ratio_iff {num den : ℕ} (hden : 0 < den) (scale : ℕ) :
    2 ^ 53 * unit scale ≤ ratio (num, den) ↔
      if 1074 ≤ scale then Nat.pow 2 53 * (den * Nat.pow 2 (scale - 1074)) ≤ num
      else Nat.pow 2 53 * den ≤ num * Nat.pow 2 (1074 - scale) := by
  have hden' : (0 : ℚ) < den := by exact_mod_cast hden
  rw [ratio, le_div_iff₀ hden']
  split
  · next h =>
    rw [unit_of_le h, mul_assoc, mul_comm _ (den : ℚ)]
    exact_mod_cast Iff.rfl
  · next h =>
    have hpow : (0 : ℚ) < (2 ^ (1074 - scale) : ℕ) := by positivity
    rw [unit_of_ge (by omega), mul_one_div, div_mul_eq_mul_div, div_le_iff₀ hpow]
    exact_mod_cast Iff.rfl

/-- **The scale at which a fraction is rounded** is the least one at which it is below `2 ^ 53`
units. -/
theorem scaleOf_spec {num den : ℕ} (hnum : 0 < num) (hden : 0 < den) :
    ratio (num, den) < 2 ^ 53 * unit (scaleOf num den) ∧
      ∀ s < scaleOf num den, 2 ^ 53 * unit s ≤ ratio (num, den) := by
  obtain ⟨hlow, hhigh⟩ := zpow_log2_le_ratio hnum hden
  have hunits (s : ℕ) : (2 : ℚ) ^ 53 * unit s = 2 ^ ((s : ℤ) - 1021) := by
    rw [unit, ← zpow_natCast, ← zpow_add₀ (by norm_num)]
    congr 1
    omega
  have hmono {s : ℕ} {e : ℤ} (h : (s : ℤ) - 1021 ≤ e) : (2 : ℚ) ^ 53 * unit s ≤ 2 ^ e := by
    rw [hunits]
    exact zpow_le_zpow_right₀ (by norm_num) h
  have hmono' {s : ℕ} {e : ℤ} (h : e ≤ (s : ℤ) - 1021) : (2 : ℚ) ^ e ≤ 2 ^ 53 * unit s := by
    rw [hunits]
    exact zpow_le_zpow_right₀ (by norm_num) h
  rw [scaleOf]
  generalize hguess : num.log2 + 1074 - (den.log2 + 53) = guess
  have htest : (if 1074 ≤ guess then
      decide (Nat.pow 2 53 * (den * Nat.pow 2 (guess - 1074)) ≤ num)
    else decide (Nat.pow 2 53 * den ≤ num * Nat.pow 2 (1074 - guess))) =
      decide (2 ^ 53 * unit guess ≤ ratio (num, den)) := by
    rw [Bool.eq_iff_iff, decide_eq_true_eq, le_ratio_iff hden]
    split <;> exact decide_eq_true_iff
  rw [htest]
  by_cases habove : 2 ^ 53 * unit guess ≤ ratio (num, den)
  · rw [decide_eq_true habove, if_pos rfl]
    refine ⟨hhigh.trans_le (hmono' ?_), fun s hs => le_trans ?_ habove⟩
    · omega
    · have := unit_le_unit (Nat.le_of_lt_succ hs)
      gcongr
  · rw [decide_eq_false habove, if_neg Bool.false_ne_true]
    refine ⟨lt_of_not_ge habove, fun s hs => (hmono ?_).trans hlow⟩
    omega

/-! ### The rounding interval of a double -/

theorem fractionCount_eq : fractionCount = 2 ^ 52 :=
  rfl

theorem infinityBits_eq : infinityBits = 2047 * 2 ^ 52 :=
  rfl

/-- Mantissa and scale are those of a finite double: 53 bits in units of the scale, fewer only at
the least scale. -/
structure IsCanonical (mantissa scale : ℕ) : Prop where
  mantissa_lt : mantissa < 2 ^ 53
  le_mantissa : 0 < scale → 2 ^ 52 ≤ mantissa
  scale_le : scale ≤ 2045

/-- Four times the lower end of the rounding interval of a double, in units: the interval is half as
long where the doubles below are denser. -/
def lowerEnd (mantissa scale : ℕ) : ℚ :=
  if mantissa = fractionCount ∧ 0 < scale then 4 * mantissa - 1 else 4 * mantissa - 2

/-- A number lies in the rounding interval of a double, whose ends belong to it if the mantissa is
even. -/
structure RoundsTo (mantissa scale : ℕ) (x : ℚ) : Prop where
  low : lowerEnd mantissa scale * unit scale ≤ 4 * x
  high : 4 * x ≤ (4 * mantissa + 2) * unit scale
  ties : mantissa % 2 = 0 ∨
    lowerEnd mantissa scale * unit scale < 4 * x ∧ 4 * x < (4 * mantissa + 2) * unit scale

section

variable {mantissa scale : ℕ} {x : ℚ}

theorem le_lowerEnd (mantissa scale : ℕ) : (4 * mantissa - 2 : ℚ) ≤ lowerEnd mantissa scale := by
  rw [lowerEnd]
  split <;> linarith

theorem RoundsTo.pos (h : RoundsTo mantissa scale x) (hm : 0 < mantissa) : 0 < x := by
  have hm' : (1 : ℚ) ≤ mantissa := by exact_mod_cast hm
  have := mul_pos (show (0 : ℚ) < lowerEnd mantissa scale by
    linarith [le_lowerEnd mantissa scale]) (unit_pos scale)
  linarith [h.low]

/-- A fraction in the rounding interval of a double is below `2 ^ 53` units of it. -/
theorem RoundsTo.lt (h : RoundsTo mantissa scale x) (hd : IsCanonical mantissa scale) :
    x < 2 ^ 53 * unit scale := by
  have hm : (mantissa : ℚ) + 1 ≤ 2 ^ 53 := by exact_mod_cast hd.mantissa_lt
  have := mul_le_mul_of_nonneg_right hm (unit_pos scale).le
  linarith [h.high, unit_pos scale]

/-- The scale of a fraction is found by its units. -/
theorem scaleOf_eq {num den : ℕ} (hnum : 0 < num) (hden : 0 < den)
    (hhigh : ratio (num, den) < 2 ^ 53 * unit scale)
    (hlow : 0 < scale → 2 ^ 52 * unit scale ≤ ratio (num, den)) : scaleOf num den = scale := by
  obtain ⟨habove, hbelow⟩ := scaleOf_spec hnum hden
  refine le_antisymm (not_lt.mp fun hlt => (hbelow scale hlt).not_gt hhigh)
    (not_lt.mp fun hlt => ?_)
  obtain ⟨t, rfl⟩ : ∃ t, scale = t + 1 := ⟨scale - 1, by omega⟩
  have hunit := unit_le_unit (Nat.le_of_lt_succ hlt)
  have := hlow (by omega)
  rw [unit_succ] at this
  linarith

/-- Where fraction and double have the same units, the fraction is rounded to the mantissa. -/
theorem RoundsTo.roundAtScale_eq {num den : ℕ} (h : RoundsTo mantissa scale (ratio (num, den)))
    (hden : 0 < den) : roundAtScale num den scale = mantissa := by
  have hend := mul_le_mul_of_nonneg_right (le_lowerEnd mantissa scale) (unit_pos scale).le
  refine Decimal.roundAtScale_eq hden ?_ ?_ (h.ties.imp_right fun ⟨hl, hh⟩ => ⟨?_, ?_⟩)
  · linarith [h.low]
  · linarith [h.high]
  · linarith
  · linarith

/-- Just below the double the doubles are denser. -/
theorem RoundsTo.denser (h : RoundsTo mantissa scale x) (hd : IsCanonical mantissa scale)
    (hscale : 0 < scale) (hlt : x < 2 ^ 52 * unit scale) :
    mantissa = 2 ^ 52 ∧ (4 * 2 ^ 52 - 1) * unit scale ≤ 4 * x := by
  have hm : mantissa = 2 ^ 52 := by
    by_contra hne
    have hlt' : 2 ^ 52 + 1 ≤ mantissa := by
      have := hd.le_mantissa hscale
      omega
    have hm : (2 ^ 52 + 1 : ℚ) ≤ mantissa := by exact_mod_cast hlt'
    have := mul_le_mul_of_nonneg_right
      (show (4 * 2 ^ 52 + 2 : ℚ) ≤ lowerEnd mantissa scale by
        linarith [le_lowerEnd mantissa scale]) (unit_pos scale).le
    linarith [h.low, unit_pos scale]
  refine ⟨hm, ?_⟩
  have hlow := h.low
  rw [lowerEnd, if_pos ⟨hm, hscale⟩, hm] at hlow
  exact_mod_cast hlow

/-- **The nearest double** to a fraction in the rounding interval of a double is that double. -/
theorem nearestBits?_of_roundsTo {num den : ℕ} (hd : IsCanonical mantissa scale)
    (hm : 0 < mantissa) (hden : 0 < den) (h : RoundsTo mantissa scale (ratio (num, den))) :
    nearestBits? num den = some (scale * fractionCount + mantissa) := by
  have hnum : 0 < num := by
    rcases Nat.eq_zero_or_pos num with rfl | hnum
    · have := h.pos hm
      simp [ratio] at this
    · exact hnum
  have hbits : scale * fractionCount + mantissa < infinityBits := by
    have := hd.mantissa_lt
    have := hd.scale_le
    rw [fractionCount_eq, infinityBits_eq]
    omega
  rw [nearestBits?]
  by_cases hsame : 0 < scale → 2 ^ 52 * unit scale ≤ ratio (num, den)
  · rw [scaleOf_eq hnum hden (h.lt hd) hsame, h.roundAtScale_eq hden, if_pos hbits]
  · obtain ⟨hscale, hlt⟩ := Classical.not_imp.mp hsame
    rw [not_le] at hlt
    obtain ⟨rfl, hlow⟩ := h.denser hd hscale hlt
    obtain ⟨t, rfl⟩ : ∃ t, scale = t + 1 := ⟨scale - 1, by omega⟩
    have hunit := unit_pos t
    rw [unit_succ] at hlt hlow
    have hround : roundAtScale num den t = 2 ^ 53 := by
      refine Decimal.roundAtScale_eq hden ?_ ?_ (.inl (by norm_num)) <;> push_cast <;> linarith
    have hsum : t * fractionCount + 2 ^ 53 = (t + 1) * fractionCount + 2 ^ 52 := by
      rw [fractionCount_eq]
      omega
    rw [scaleOf_eq hnum hden (by linarith) (fun _ => by linarith), hround, hsum, if_pos hbits]

end

end LootLedger.Decimal
