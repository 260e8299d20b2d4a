import LootLedger.Http.Retry
import Mathlib.Order.Lattice.Nat

/-!
# Pauses are exact

A pause is reckoned in machine words, where a product too large for a word becomes the largest word.
That never shows. Two to the thirty-second fits a word, so the factor is the power that is meant.
And where the product does not fit, the longest pause is the shorter of the two both with the exact
product and with the largest word in its place, because it is a word itself. So a pause is the one
that whole numbers without limit give.

## Main definitions

* `Http.RetryPolicy.wanted`: the pause before it is cut, as a whole number
* `Http.RetryPolicy.PausesExactly`: the pauses of a policy are exact, bounded and never get shorter

## Main results

* `Http.RetryPolicy.toNat_saturatingMul`: the product that stops at the largest word
* `Http.RetryPolicy.toNat_pause`: the pause as a whole number
* `Http.RetryPolicy.pausesExactly`: the pauses of every policy
-/

namespace LootLedger.Http.RetryPolicy

/-! ### Words as whole numbers -/

theorem toNat_min (a b : UInt64) : (min a b).toNat = min a.toNat b.toNat := by
  change (if a ≤ b then a else b).toNat = _
  split
  · next hle => rw [Nat.min_eq_left (UInt64.le_iff_toNat_le.mp hle)]
  · next hle => rw [Nat.min_eq_right (Nat.le_of_not_le (mt UInt64.le_iff_toNat_le.mpr hle))]

/-- The test of the product is made with a quotient, which cannot be too large for a word. -/
theorem saturates_iff (a b : UInt64) :
    (b ≠ 0 ∧ (18446744073709551615 : UInt64) / b < a) ↔
      18446744073709551615 < a.toNat * b.toNat := by
  have hzero : b ≠ 0 ↔ 0 < b.toNat := by
    rw [Nat.pos_iff_ne_zero, ne_eq, ne_eq, ← UInt64.toNat_inj]
    rfl
  have hdiv : ((18446744073709551615 : UInt64) / b).toNat = 18446744073709551615 / b.toNat :=
    UInt64.toNat_div _ _
  rw [hzero, UInt64.lt_iff_toNat_lt, hdiv]
  rcases Nat.eq_zero_or_pos b.toNat with hb | hb
  · simp [hb]
  · rw [and_iff_right hb, Nat.div_lt_iff_lt_mul hb]

/-- **The product that stops at the largest word.** -/
theorem toNat_saturatingMul (a b : UInt64) :
    (saturatingMul a b).toNat = min (a.toNat * b.toNat) 18446744073709551615 := by
  rw [saturatingMul]
  split
  · next hlarge =>
    rw [Nat.min_eq_right (Nat.le_of_lt ((saturates_iff a b).mp hlarge))]
    rfl
  · next hfits =>
    have hle := Nat.le_of_not_lt (mt (saturates_iff a b).mpr hfits)
    rw [UInt64.toNat_mul, Nat.mod_eq_of_lt (by omega), Nat.min_eq_left hle]

/-- The factor is a power of two, because the shift stays below the size of a word. -/
theorem toNat_factor (attempt : UInt32) :
    ((1 : UInt64) <<< (min attempt 32).toUInt64).toNat = 2 ^ min attempt.toNat 32 := by
  have hshift : (min attempt 32).toUInt64.toNat = min attempt.toNat 32 := by
    change (if attempt ≤ 32 then attempt else 32).toNat = _
    split
    · next hle => exact (Nat.min_eq_left (UInt32.le_iff_toNat_le.mp hle)).symm
    · next hle =>
      exact (Nat.min_eq_right (Nat.le_of_not_le (mt UInt32.le_iff_toNat_le.mpr hle))).symm
  have hsmall : min attempt.toNat 32 < 64 := by omega
  have hfits : 2 ^ min attempt.toNat 32 < 2 ^ 64 := Nat.pow_lt_pow_right (by decide) hsmall
  rw [UInt64.toNat_shiftLeft, hshift, Nat.mod_eq_of_lt hsmall, UInt64.toNat_one,
    Nat.one_shiftLeft, Nat.mod_eq_of_lt hfits]

/-! ### Pauses -/

/-- The pause before it is cut to the longest one: what the service asks for, or the initial pause
doubled as often as was tried, up to 32 times. -/
def wanted (policy : RetryPolicy) (attempt : UInt32) : Option UInt64 → Nat
  | some seconds => seconds.toNat
  | none => policy.initialPause.toNat * 2 ^ min attempt.toNat 32

/-- **The pause as a whole number** is the one that is wanted, cut to the longest one. -/
theorem toNat_pause (policy : RetryPolicy) (attempt : UInt32) (retryAfter : Option UInt64) :
    (policy.pause attempt retryAfter).toNat =
      min (policy.wanted attempt retryAfter) policy.longestPause.toNat := by
  cases retryAfter with
  | some seconds => exact toNat_min _ _
  | none =>
    have hword : policy.longestPause.toNat ≤ 18446744073709551615 :=
      Nat.le_of_lt_succ policy.longestPause.toNat_lt
    rw [pause, toNat_min, toNat_saturatingMul, toNat_factor, wanted, Nat.min_assoc,
      Nat.min_eq_right hword]

/-- More attempts do not want a shorter pause. -/
theorem wanted_le_wanted (policy : RetryPolicy) {attempt attempt' : UInt32}
    (h : attempt ≤ attempt') : policy.wanted attempt none ≤ policy.wanted attempt' none :=
  have hexponent : min attempt.toNat 32 ≤ min attempt'.toNat 32 :=
    min_le_min_right 32 (UInt32.le_iff_toNat_le.mp h)
  Nat.mul_le_mul_left _ (Nat.pow_le_pow_right (by decide) hexponent)

/-- The pauses of a policy are what whole numbers without limit give. -/
structure PausesExactly (policy : RetryPolicy) : Prop where
  /-- The service asks for a pause. -/
  asked : ∀ attempt seconds, (policy.pause attempt (some seconds)).toNat =
    min seconds.toNat policy.longestPause.toNat
  /-- The service asks for none. -/
  doubled : ∀ attempt, (policy.pause attempt none).toNat =
    min (policy.initialPause.toNat * 2 ^ min attempt.toNat 32) policy.longestPause.toNat
  le_longestPause : ∀ attempt retryAfter, policy.pause attempt retryAfter ≤ policy.longestPause
  pause_le_pause : ∀ attempt attempt', attempt ≤ attempt' →
    policy.pause attempt none ≤ policy.pause attempt' none

/-- **The pauses of every policy are exact.** None of them is longer than the longest one, and
without a word from the service they never get shorter. -/
theorem pausesExactly (policy : RetryPolicy) : policy.PausesExactly where
  asked attempt seconds := toNat_pause policy attempt (some seconds)
  doubled attempt := toNat_pause policy attempt none
  le_longestPause attempt retryAfter := by
    rw [UInt64.le_iff_toNat_le, toNat_pause]
    exact Nat.min_le_right _ _
  pause_le_pause attempt attempt' h := by
    rw [UInt64.le_iff_toNat_le, toNat_pause, toNat_pause]
    exact min_le_min_right _ (wanted_le_wanted policy h)

/-- The largest words, with the shift at its limit. -/
example : ({ initialPause := 18446744073709551615, longestPause := 18446744073709551615 } :
    RetryPolicy).pause 4294967295 none = 18446744073709551615 := by decide

end LootLedger.Http.RetryPolicy
