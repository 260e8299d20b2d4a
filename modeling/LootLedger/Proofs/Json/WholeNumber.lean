import LootLedger.Json.Printer
import LootLedger.Json.Reader
import LootLedger.Proofs.Text.Numeral

/-!
# Whole numbers are read back

A numeral without fraction and exponent is a whole number, as long as it fits 64 bits; a longer one
is a double. So the numerals that are read back as they were are those of the 64-bit numbers, with a
sign or without. The reader takes all digits it can get, and goes on to look for a point and for an
exponent, so what stands behind a number must not begin with any of these.

## Main definitions

* `Json.EndsNumber`: a text that no number goes on into
* `Json.IsWord`: a whole number that fits 64 bits

## Main results

* `Json.eq_nil_of_digits_eq_zero_cons`: numerals have no leading zeros, as the reader demands
* `Json.readNumber?_intText`: a whole number of 64 bits is read back
-/

namespace LootLedger.Json

open Text (Chars)

/-- The text does not begin with what could be part of a number. -/
def EndsNumber (s : Chars) : Prop :=
  ∀ c ∈ s.head?, Text.isDigit c = false ∧ c ≠ '.' ∧ c ≠ 'e' ∧ c ≠ 'E'

/-- A whole number that fits 64 bits, with a sign or without. -/
def IsWord (n : Int) : Prop :=
  -(2 ^ 63) ≤ n ∧ n ≤ Text.max64

theorem isWord_natCast {n : Nat} (h : n ≤ Text.max64) : IsWord n := by
  refine ⟨?_, Int.ofNat_le.mpr h⟩
  have : (0 : Int) ≤ n := Int.natCast_nonneg n
  clear h
  omega

/-! ### The parts of a number -/

theorem spanDigits_digits (n : Nat) {s : Chars} (hs : EndsNumber s) :
    spanDigits (Text.digits n ++ s) = (Text.digits n, s) := by
  have hdigits : ∀ c ∈ Text.digits n, Text.isDigit c = true := fun c => Text.isDigit_of_mem_digits
  have hend : ∀ c ∈ s.head?, Text.isDigit c = false := fun c hc => (hs c hc).1
  rw [spanDigits, Text.takeWhile_isDigit_append hdigits hend,
    Text.dropWhile_isDigit_append hdigits hend]

/-- A numeral that starts with a zero has no other digit. -/
theorem eq_nil_of_digits_eq_zero_cons {n : Nat} {s : Chars} (h : Text.digits n = '0' :: s) :
    s = [] := by
  induction n using Nat.strongRecOn generalizing s with
  | _ n ih =>
    rcases Nat.lt_or_ge n 10 with hn | hn
    · rw [Text.digits_of_lt_ten hn] at h
      exact (List.cons.inj h).2.symm
    · rw [Text.digits_of_ten_le hn] at h
      obtain ⟨c, t, ht⟩ := List.exists_cons_of_ne_nil (Text.digits_ne_nil (n / 10))
      rw [ht, List.cons_append] at h
      obtain rfl := (List.cons.inj h).1
      -- the digits before the last one would be a zero on their own
      rw [ih (n / 10) (by omega) ht] at ht
      have hzero := Text.ofDigits_digits (n / 10)
      rw [ht, show Text.ofDigits ['0'] = 0 from rfl] at hzero
      omega

theorem readWhole?_digits (n : Nat) {s : Chars} (hs : EndsNumber s) :
    readWhole? (Text.digits n ++ s) = some (Text.digits n, s) := by
  rw [readWhole?, spanDigits_digits n hs]
  split
  · next h => exact absurd (Prod.mk.inj h).1 (Text.digits_ne_nil n)
  · next h => rw [(Prod.mk.inj h).1, (Prod.mk.inj h).2]
  · next hne h => exact absurd (eq_nil_of_digits_eq_zero_cons (Prod.mk.inj h).1) hne
  · next h => rw [(Prod.mk.inj h).1, (Prod.mk.inj h).2]

theorem readFraction?_of_endsNumber {s : Chars} (hs : EndsNumber s) :
    readFraction? s = some (none, s) := by
  cases s with
  | nil => rfl
  | cons c s =>
    have hc := (hs c rfl).2.1
    unfold readFraction?
    split
    · next h => exact absurd (List.cons.inj h).1 hc
    · rfl

theorem readExponent?_of_endsNumber {s : Chars} (hs : EndsNumber s) :
    readExponent? s = some (none, s) := by
  cases s with
  | nil => rfl
  | cons c s =>
    have hc := (hs c rfl).2.2
    rw [readExponent?, if_neg (by simp [hc])]

/-! ### The digits of a word -/

/-- A number grows with its digits. -/
theorem ofDigits_le_append (s t : Chars) : Text.ofDigits s ≤ Text.ofDigits (s ++ t) := by
  induction t generalizing s with
  | nil => rw [List.append_nil]
  | cons c t ih =>
    have hsucc := Text.ofDigits_append_singleton s c
    rw [List.append_cons]
    exact le_trans (by omega) (ih (s ++ [c]))

/-- Digits that fit 64 bits together are all taken. -/
theorem takeDigits_append {s t : Chars} (h : Text.ofDigits (s ++ t) ≤ Text.max64) :
    takeDigits (Text.ofDigits s) t = (Text.ofDigits (s ++ t), []) := by
  induction t generalizing s with
  | nil => rw [takeDigits, List.append_nil]
  | cons c t ih =>
    rw [List.append_cons] at h ⊢
    rw [takeDigits, ← Text.ofDigits_append_singleton, if_pos ((ofDigits_le_append _ t).trans h),
      ih h]

theorem takeDigits_zero {s : Chars} (h : Text.ofDigits s ≤ Text.max64) :
    takeDigits 0 s = (Text.ofDigits s, []) :=
  takeDigits_append (s := []) h

theorem takeDigits_digits {n : Nat} (h : n ≤ Text.max64) :
    takeDigits 0 (Text.digits n) = (n, []) := by
  have hdigits := Text.ofDigits_digits n
  rw [takeDigits_zero (hdigits.symm ▸ h), hdigits]

theorem number_digits {n : Nat} (h : n ≤ Text.max64) :
    number false (Text.digits n) none none = .int n := by
  simp only [number, takeDigits_digits h, and_self, if_true]
  rw [if_neg (by decide)]

theorem number_negative_digits {n : Nat} (h : 0 < n ∧ n ≤ Nat.pow 2 63) :
    number true (Text.digits n) none none = .int (-n) := by
  have hword : n ≤ Text.max64 := h.2.trans (by decide)
  simp only [number, takeDigits_digits hword, and_self, if_true]
  rw [if_pos h]

/-! ### A whole number -/

theorem readNumber?_digits {n : Nat} (h : n ≤ Text.max64) {s : Chars} (hs : EndsNumber s) :
    readNumber? (Text.digits n ++ s) = some (.int n, s) := by
  -- the first digit is not taken for a minus sign
  have hdigits : ∀ c ∈ Text.digits n, Text.isDigit c = true := fun c => Text.isDigit_of_mem_digits
  have hsign := Text.append_ne_cons_of_isDigit hdigits (Text.digits_ne_nil n) (c := '-') rfl s
  unfold readNumber?
  split
  next hparts =>
  split at hparts
  · next hminus => exact absurd hminus (hsign _)
  · obtain ⟨rfl, rfl⟩ := Prod.mk.inj hparts
    simp only [readWhole?_digits n hs, readFraction?_of_endsNumber hs,
      readExponent?_of_endsNumber hs, Option.bind_eq_bind, Option.bind_some, number_digits h]
    rfl

theorem readNumber?_minus_digits {n : Nat} (h : 0 < n ∧ n ≤ Nat.pow 2 63) {s : Chars}
    (hs : EndsNumber s) : readNumber? ('-' :: (Text.digits n ++ s)) = some (.int (-n), s) := by
  unfold readNumber?
  simp only [readWhole?_digits n hs, readFraction?_of_endsNumber hs,
    readExponent?_of_endsNumber hs, Option.bind_eq_bind, Option.bind_some,
    number_negative_digits h]
  rfl

/-- **A whole number of 64 bits is read back.** -/
theorem readNumber?_intText {n : Int} (h : IsWord n) {s : Chars} (hs : EndsNumber s) :
    readNumber? (intText n ++ s) = some (.int n, s) := by
  obtain ⟨hlow, hhigh⟩ := h
  rw [intText]
  split
  · next hneg =>
    have hbound : 0 < n.natAbs ∧ n.natAbs ≤ Nat.pow 2 63 := by
      clear hhigh
      rw [show Nat.pow 2 63 = 9223372036854775808 from rfl]
      omega
    rw [List.cons_append, readNumber?_minus_digits hbound hs, show -(n.natAbs : Int) = n by omega]
  · next hneg =>
    rw [readNumber?_digits (by omega) hs, show (n.natAbs : Int) = n by omega]

end LootLedger.Json
