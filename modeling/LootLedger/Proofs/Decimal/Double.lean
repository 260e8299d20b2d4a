import LootLedger.Proofs.Decimal.Shortest
import Mathlib

/-!
# Doubles and their patterns

The pattern of a finite double is its sign bit and a number made up of its scale and its mantissa.
So a double can be told from what it is made from, to the last bit: the sign goes its own way, and
with it a negative zero is kept apart from zero. Decimals are made into finite doubles only.

## Main definitions

* `Decimal.IsFinite`: a double is no infinity and not NaN

## Main results

* `Decimal.toNat_toBits`: the pattern of a finite double
* `Decimal.isFinite_of_ofDecimal?`: decimals are read as finite doubles
-/

namespace LootLedger.Decimal

/-- A double is no infinity and not NaN. -/
def IsFinite (x : Float) : Prop :=
  ∃ mantissa scale, magnitudeOf x = .finite mantissa scale

/-! ### Patterns -/

section

variable {bits mantissa scale : ℕ}

/-- The pattern of a finite double is its scale and its mantissa. -/
theorem ofBits_eq_finite (hbits : bits < 2 ^ 63)
    (h : Magnitude.ofBits bits = .finite mantissa scale) :
    bits = scale * fractionCount + mantissa ∧ IsCanonical mantissa scale := by
  have hfraction := Nat.mod_lt bits (show 0 < 2 ^ 52 by norm_num)
  have hdiv := Nat.div_add_mod bits (2 ^ 52)
  have hexponent : bits / 2 ^ 52 < 2048 := by omega
  rw [Magnitude.ofBits, fractionCount_eq, Nat.mod_eq_of_lt hexponent] at h
  rw [fractionCount_eq]
  split at h
  · split at h <;> cases h
  · split at h
    · obtain ⟨rfl, rfl⟩ := Magnitude.finite.inj h
      exact ⟨by omega, ⟨by omega, fun h => absurd h (lt_irrefl 0), by norm_num⟩⟩
    · obtain ⟨rfl, rfl⟩ := Magnitude.finite.inj h
      exact ⟨by omega, ⟨by omega, fun _ => by omega, by omega⟩⟩

theorem exists_ofBits_eq_finite (h : bits < infinityBits) :
    ∃ mantissa scale, Magnitude.ofBits bits = .finite mantissa scale := by
  rw [infinityBits_eq] at h
  have hexponent : bits / 2 ^ 52 < 2047 := by omega
  rw [Magnitude.ofBits, fractionCount_eq, Nat.mod_eq_of_lt (hexponent.trans (by norm_num)),
    if_neg hexponent.ne]
  split <;> exact ⟨_, _, rfl⟩

end

section

variable {x : Float} {mantissa scale : ℕ}

/-- The sign bit of a double. -/
def signBit (negative : Bool) : ℕ :=
  if negative then Nat.pow 2 63 else 0

theorem magnitudeOf_isCanonical (h : magnitudeOf x = .finite mantissa scale) :
    IsCanonical mantissa scale :=
  (ofBits_eq_finite (Nat.mod_lt _ (by norm_num)) h).2

/-- **The pattern of a finite double** is its sign bit, its scale and its mantissa. -/
theorem toNat_toBits (h : magnitudeOf x = .finite mantissa scale) :
    x.toBits.toNat = signBit (isNegative x) + (scale * fractionCount + mantissa) := by
  have hbits : x.toBits.toNat < 2 ^ 64 := UInt64.toNat_lt _
  have hmagnitude : x.toBits.toNat % 2 ^ 63 = scale * fractionCount + mantissa :=
    (ofBits_eq_finite (Nat.mod_lt _ (by norm_num)) h).1
  rw [← hmagnitude, signBit, isNegative, Nat.pow_eq]
  split
  · next h =>
    rw [decide_eq_true_eq] at h
    omega
  · next h =>
    rw [decide_eq_true_eq] at h
    omega

/-- A double is made from its pattern. -/
theorem ofBits_signBit_add (h : magnitudeOf x = .finite mantissa scale) :
    Float.ofBits (signBit (isNegative x) + (scale * fractionCount + mantissa)).toUInt64 = x := by
  rw [← toNat_toBits h, Nat.toUInt64_eq, UInt64.ofNat_toNat, Float.ofBits_toBits]

end

/-! ### What is read is finite -/

/-- A double has the pattern that it is made from, unless that is one of NaN. -/
theorem toBits_ofBits {bits : UInt64} (h : bits.toNat / 2 ^ 52 % 2 ^ 11 ≠ 2047) :
    (Float.ofBits bits).toBits = bits := by
  have hexponent :
      @Float.Model.UnpackedFloat.unpackExponent .binary64 bits.toBitVec ≠ -1#11 := by
    intro heq
    have hnat := congrArg BitVec.toNat heq
    rw [Float.Model.UnpackedFloat.unpackExponent_def, BitVec.extractLsb'_toNat,
      Nat.shiftRight_eq_div_pow] at hnat
    exact h hnat
  refine UInt64.toBitVec_inj.mp ?_
  refine (@Float.Model.UnpackedFloat.pack_unpack .binary64 bits.toBitVec (by decide)).trans ?_
  rw [Float.Model.UnpackedFloat.isNaNBits, if_neg]
  rw [decide_eq_true_eq]
  exact fun hnan => hexponent hnan.1

theorem isFinite_ofBits (negative : Bool) {bits : ℕ} (h : bits < infinityBits) :
    IsFinite (Float.ofBits (signBit negative + bits).toUInt64) := by
  obtain ⟨mantissa, scale, hfinite⟩ := exists_ofBits_eq_finite h
  rw [infinityBits_eq] at h
  have hsum : signBit negative + bits < 2 ^ 64 ∧ (signBit negative + bits) % 2 ^ 63 = bits ∧
      (signBit negative + bits) / 2 ^ 52 % 2 ^ 11 ≠ 2047 := by
    rw [signBit, Nat.pow_eq]
    split <;> omega
  obtain ⟨hlt, hmod, hexponent⟩ := hsum
  have hnat : (signBit negative + bits).toUInt64.toNat = signBit negative + bits :=
    UInt64.toNat_ofNat_of_lt hlt
  refine ⟨mantissa, scale, ?_⟩
  rw [magnitudeOf, toBits_ofBits (by rwa [hnat]), hnat, Nat.pow_eq, hmod, hfinite]

theorem lt_of_nearestBits? {num den bits : ℕ} (h : nearestBits? num den = some bits) :
    bits < infinityBits := by
  obtain ⟨hlt, hbits⟩ := Option.ite_none_right_eq_some.mp h
  exact Option.some.inj hbits ▸ hlt

theorem ofDecimal?_eq (negative : Bool) (digits : ℕ) (exponent : ℤ) :
    ofDecimal? negative digits exponent =
      if digits = 0 then some (Float.ofBits (signBit negative).toUInt64)
      else if exponent + digitCount digits > 400 then none
      else if exponent + digitCount digits < -400 then
        some (Float.ofBits (signBit negative).toUInt64)
      else (nearestBits? (unscale digits 1 (-exponent)).1 (unscale digits 1 (-exponent)).2).map
        fun bits => Float.ofBits (signBit negative + bits).toUInt64 :=
  rfl

/-- **What decimals are read as is finite.** -/
theorem isFinite_of_ofDecimal? {negative : Bool} {digits : ℕ} {exponent : ℤ} {x : Float}
    (h : ofDecimal? negative digits exponent = some x) : IsFinite x := by
  have hzero := isFinite_ofBits negative (show 0 < infinityBits by rw [infinityBits_eq]; norm_num)
  rw [Nat.add_zero] at hzero
  rw [ofDecimal?_eq] at h
  split at h
  · rwa [Option.some.inj h] at hzero
  split at h
  · cases h
  split at h
  · rwa [Option.some.inj h] at hzero
  obtain ⟨bits, hbits, rfl⟩ := Option.map_eq_some_iff.mp h
  exact isFinite_ofBits negative (lt_of_nearestBits? hbits)

end LootLedger.Decimal
