import LootLedger.Text.Number
import Mathlib.Data.List.Induction
import Mathlib.Tactic.IntervalCases

/-!
# Numerals read back

A numeral is a non-empty run of digits without leading zeros, or one filled up with zeros to a
width. Either way the number it was written for is read from it, so numerals of one number agree
and numerals of two numbers differ. All runs of digits are of the second kind.

## Main definitions

* `Text.IsNumeralOf`: digits that denote a number

## Main results

* `Text.all_isDigit_digits`, `Text.digits_ne_nil`: the shape of a numeral
* `Text.readNat?_digits`: a numeral within the limit is read
* `Text.ofDigits_paddedDigits`, `Text.length_paddedDigits`: numerals of a fixed width
* `Text.isNumeralOf_iff`: the digits that denote a number
* `Text.readNat?_eq_some_iff`: the texts that are read as a number
* `Text.takeWhile_isDigit_append`, `Text.trimLeft_append_of_isDigit`: digits in front of a text
-/

namespace LootLedger.Text

/-! ### Digits -/

theorem isDigit_digitChar (n : Nat) : isDigit (digitChar n) = true := by
  have h : n % 10 < 10 := Nat.mod_lt _ (by decide)
  simp only [digitChar]
  generalize n % 10 = d at h
  interval_cases d <;> decide

/-- The last digit comes off the end. -/
theorem digits_of_ten_le {n : Nat} (h : 10 ≤ n) :
    digits n = digits (n / 10) ++ [digitChar n] := by
  rw [digits, if_neg (by omega)]

theorem digits_of_lt_ten {n : Nat} (h : n < 10) : digits n = [digitChar n] := by
  rw [digits, if_pos h]

theorem isDigit_of_mem_digits {n : Nat} {c : Char} (h : c ∈ digits n) : isDigit c = true := by
  induction n using Nat.strongRecOn with
  | _ n ih =>
    rcases Nat.lt_or_ge n 10 with hn | hn
    · rw [digits_of_lt_ten hn, List.mem_singleton] at h
      exact h ▸ isDigit_digitChar n
    · rw [digits_of_ten_le hn, List.mem_append, List.mem_singleton] at h
      rcases h with h | h
      · exact ih (n / 10) (by omega) h
      · exact h ▸ isDigit_digitChar n

theorem all_isDigit_digits (n : Nat) : (digits n).all isDigit = true :=
  List.all_eq_true.mpr fun _ => isDigit_of_mem_digits

theorem digits_ne_nil (n : Nat) : digits n ≠ [] := by
  rw [digits]
  split <;> simp

theorem length_digits_le {n k : Nat} (hk : 0 < k) (h : n < 10 ^ k) : (digits n).length ≤ k := by
  induction k generalizing n with
  | zero => omega
  | succ k ih =>
    rcases Nat.lt_or_ge n 10 with hn | hn
    · simp [digits_of_lt_ten hn]
    · have hk' : 0 < k := by
        rcases k with _ | k
        · simp at h
          omega
        · omega
      have := ih hk' (n := n / 10) (by rw [Nat.pow_succ] at h; omega)
      rw [digits_of_ten_le hn, List.length_append, List.length_singleton]
      omega

/-! ### Reading a numeral -/

@[simp] theorem readDigits?_digits (n : Nat) : readDigits? (digits n) = some n := by
  rw [readDigits?, if_pos ⟨digits_ne_nil n, all_isDigit_digits n⟩, ofDigits_digits]

/-- Digits have no sign in front, so what they denote is read if it is within the limit. -/
theorem readNat?_of_isDigit {limit : Nat} {ds : Chars} (hne : ds ≠ [])
    (hds : ∀ c ∈ ds, isDigit c = true) :
    readNat? limit ds = if ofDigits ds ≤ limit then some (ofDigits ds) else none := by
  have hsign : ∀ rest, ds ≠ '+' :: rest := by
    intro rest hplus
    have : isDigit '+' = true := hds '+' (hplus ▸ List.mem_cons_self)
    exact absurd this (by decide)
  have hread : readDigits? ds = some (ofDigits ds) :=
    if_pos ⟨hne, List.all_eq_true.mpr hds⟩
  unfold readNat?
  split
  · next rest => exact absurd rfl (hsign rest)
  · dsimp only
    rw [hread, Option.filter_some]
    simp only [decide_eq_true_eq]

/-- **A numeral within the limit is read back.** -/
theorem readNat?_digits {limit n : Nat} (h : n ≤ limit) : readNat? limit (digits n) = some n := by
  rw [readNat?_of_isDigit (digits_ne_nil n) fun _ => isDigit_of_mem_digits, ofDigits_digits,
    if_pos h]

/-! ### Numerals of a fixed width -/

theorem ofDigits_append (s t : Chars) :
    ofDigits (s ++ t) = t.foldl (fun n c => 10 * n + digitValue c) (ofDigits s) := by
  rw [ofDigits, List.foldl_append, ofDigits]

theorem ofDigits_zeros (n : Nat) : ofDigits (List.replicate n '0') = 0 := by
  induction n with
  | zero => rfl
  | succ n ih => rw [List.replicate_succ', ofDigits_append_singleton, ih]; rfl

@[simp] theorem ofDigits_paddedDigits (width n : Nat) : ofDigits (paddedDigits width n) = n := by
  rw [paddedDigits, ofDigits_append, ofDigits_zeros]
  exact ofDigits_digits n

theorem paddedDigits_injective (width : Nat) : Function.Injective (paddedDigits width) := by
  intro m n h
  rw [← ofDigits_paddedDigits width m, h, ofDigits_paddedDigits]

theorem length_paddedDigits {width n : Nat} (hw : 0 < width) (h : n < 10 ^ width) :
    (paddedDigits width n).length = width := by
  have := length_digits_le hw h
  rw [paddedDigits, List.length_append, List.length_replicate]
  omega

theorem isDigit_of_mem_paddedDigits {width n : Nat} {c : Char} (h : c ∈ paddedDigits width n) :
    isDigit c = true := by
  rw [paddedDigits, List.mem_append, List.mem_replicate] at h
  rcases h with ⟨-, rfl⟩ | h
  · decide
  · exact isDigit_of_mem_digits h

theorem paddedDigits_ne_nil (width n : Nat) : paddedDigits width n ≠ [] := by
  rw [paddedDigits]
  exact List.append_ne_nil_of_right_ne_nil _ (digits_ne_nil n)

/-! ### Numerals with zeros in front

Every run of digits is a numeral that is filled up with zeros to its own length. So digits denote a
number if they are its numeral, with zeros in front or without. -/

theorem toNat_of_isDigit {c : Char} (h : isDigit c = true) : 48 ≤ c.toNat ∧ c.toNat ≤ 57 := by
  simpa [isDigit, Char.le_def, UInt32.le_iff_toNat_le] using h

theorem digitValue_lt_ten {c : Char} (h : isDigit c = true) : digitValue c < 10 := by
  obtain ⟨-, hle⟩ := toNat_of_isDigit h
  have hzero : '0'.toNat = 48 := rfl
  rw [digitValue, hzero]
  omega

theorem digitChar_digitValue {c : Char} (h : isDigit c = true) : digitChar (digitValue c) = c := by
  obtain ⟨hge, -⟩ := toNat_of_isDigit h
  have hzero : '0'.toNat = 48 := rfl
  rw [digitChar, Nat.mod_eq_of_lt (digitValue_lt_ten h), digitValue, hzero,
    Nat.add_sub_cancel' hge, Char.ofNat_toNat]

/-- One more digit, and room for it. -/
theorem paddedDigits_succ {width d : Nat} (hwidth : 0 < width) (hd : d < 10) (n : Nat) :
    paddedDigits (width + 1) (10 * n + d) = paddedDigits width n ++ [digitChar d] := by
  have hchar : digitChar (10 * n + d) = digitChar d := by
    rw [digitChar, digitChar, Nat.mul_add_mod]
  rcases Nat.eq_zero_or_pos n with rfl | hn
  · -- The numeral of zero is one more zero in front.
    have hzeros : List.replicate width '0' = List.replicate (width - 1) '0' ++ ['0'] := by
      rw [← List.replicate_succ', Nat.sub_add_cancel hwidth]
    rw [paddedDigits, paddedDigits, Nat.mul_zero, Nat.zero_add, digits_of_lt_ten hd,
      digits_of_lt_ten (by decide), List.length_singleton, List.length_singleton,
      Nat.add_sub_cancel, hzeros]
    rfl
  · have hquotient : (10 * n + d) / 10 = n := by omega
    rw [paddedDigits, paddedDigits, digits_of_ten_le (by omega), hquotient, hchar,
      List.length_append, List.length_singleton, Nat.add_sub_add_right, List.append_assoc]

/-- **Digits are the numeral of what they denote**, filled up to their length. -/
theorem paddedDigits_ofDigits {ds : Chars} (hne : ds ≠ []) (hds : ∀ c ∈ ds, isDigit c = true) :
    paddedDigits ds.length (ofDigits ds) = ds := by
  induction ds using List.reverseRecOn with
  | nil => exact absurd rfl hne
  | append_singleton ds c ih =>
    have hc : isDigit c = true := hds c (by simp)
    rw [ofDigits_append_singleton, List.length_append, List.length_singleton]
    by_cases hnil : ds = []
    · subst hnil
      rw [ofDigits, List.foldl_nil, Nat.mul_zero, Nat.zero_add, paddedDigits,
        digits_of_lt_ten (digitValue_lt_ten hc), digitChar_digitValue hc]
      rfl
    · rw [paddedDigits_succ (List.length_pos_iff.mpr hnil) (digitValue_lt_ten hc),
        ih hnil fun d hd => hds d (List.mem_append_left _ hd), digitChar_digitValue hc]

/-- Digits that denote `n`: its numeral, with any number of zeros in front. -/
def IsNumeralOf (n : Nat) (ds : Chars) : Prop :=
  ∃ width, ds = paddedDigits width n

theorem isNumeralOf_digits (n : Nat) : IsNumeralOf n (digits n) :=
  ⟨0, by rw [paddedDigits, Nat.zero_sub, List.replicate_zero, List.nil_append]⟩

theorem IsNumeralOf.ne_nil {n : Nat} {ds : Chars} (h : IsNumeralOf n ds) : ds ≠ [] := by
  obtain ⟨width, rfl⟩ := h
  exact paddedDigits_ne_nil width n

/-- Digits denote one number only. -/
theorem IsNumeralOf.unique {m n : Nat} {ds : Chars} (hm : IsNumeralOf m ds)
    (hn : IsNumeralOf n ds) : m = n := by
  obtain ⟨width, rfl⟩ := hm
  obtain ⟨width', h⟩ := hn
  rw [← ofDigits_paddedDigits width m, h, ofDigits_paddedDigits]

theorem isNumeralOf_iff {n : Nat} {ds : Chars} (hne : ds ≠ [])
    (hds : ∀ c ∈ ds, isDigit c = true) : IsNumeralOf n ds ↔ ofDigits ds = n := by
  constructor
  · rintro ⟨width, rfl⟩
    exact ofDigits_paddedDigits width n
  · rintro rfl
    exact ⟨ds.length, (paddedDigits_ofDigits hne hds).symm⟩

theorem IsNumeralOf.isDigit {n : Nat} {ds : Chars} (h : IsNumeralOf n ds) :
    ∀ c ∈ ds, isDigit c = true := by
  obtain ⟨width, rfl⟩ := h
  exact fun _ => isDigit_of_mem_paddedDigits

theorem readDigits?_eq_some_iff {n : Nat} {s : Chars} :
    readDigits? s = some n ↔ IsNumeralOf n s := by
  rw [readDigits?, Option.ite_none_right_eq_some, List.all_eq_true, Option.some_inj]
  constructor
  · rintro ⟨⟨hne, hdigits⟩, hvalue⟩
    exact (isNumeralOf_iff hne hdigits).mpr hvalue
  · exact fun h => ⟨⟨h.ne_nil, h.isDigit⟩, (isNumeralOf_iff h.ne_nil h.isDigit).mp h⟩

/-- **What is read as a number**: digits, perhaps with a plus sign in front, that denote a number
within the limit. -/
theorem readNat?_eq_some_iff {limit n : Nat} {s : Chars} :
    readNat? limit s = some n ↔ ∃ sign ds, s = sign ++ ds ∧ (sign = [] ∨ sign = ['+']) ∧
      IsNumeralOf n ds ∧ n ≤ limit := by
  have hread (t : Chars) :
      (readDigits? t).filter (· ≤ limit) = some n ↔ IsNumeralOf n t ∧ n ≤ limit := by
    rw [Option.filter_eq_some_iff, readDigits?_eq_some_iff, decide_eq_true_eq]
  unfold readNat?
  split
  · next rest =>
    rw [hread]
    constructor
    · rintro ⟨hn, hle⟩
      exact ⟨['+'], rest, rfl, .inr rfl, hn, hle⟩
    · rintro ⟨sign, ds, heq, rfl | rfl, hn, hle⟩
      · -- a plus sign is no digit
        obtain rfl : '+' :: rest = ds := heq
        exact absurd (hn.isDigit '+' List.mem_cons_self) (by decide)
      · exact ⟨(List.cons.inj heq).2 ▸ hn, hle⟩
  · next hsign =>
    rw [hread]
    constructor
    · rintro ⟨hn, hle⟩
      exact ⟨[], s, rfl, .inl rfl, hn, hle⟩
    · rintro ⟨sign, ds, rfl, rfl | rfl, hn, hle⟩
      · exact ⟨hn, hle⟩
      · exact absurd rfl (hsign ds)

/-! ### Digits in front of a text -/

theorem isBlank_eq_false_of_isDigit {c : Char} (h : isDigit c = true) : isBlank c = false := by
  have hbounds := toNat_of_isDigit h
  simp [isBlank]
  omega

section

variable {ds s : Chars} (hds : ∀ c ∈ ds, isDigit c = true)

include hds

/-- A run of digits is taken up to the first character that is no digit. -/
theorem takeWhile_isDigit_append (hs : ∀ c ∈ s.head?, isDigit c = false) :
    (ds ++ s).takeWhile isDigit = ds := by
  rw [List.takeWhile_append_of_pos hds]
  cases s with
  | nil => simp
  | cons c s => simp [hs c rfl]

theorem dropWhile_isDigit_append (hs : ∀ c ∈ s.head?, isDigit c = false) :
    (ds ++ s).dropWhile isDigit = s := by
  rw [List.dropWhile_append_of_pos hds]
  cases s with
  | nil => rfl
  | cons c s => simp [hs c rfl]

theorem append_ne_cons_of_isDigit (hne : ds ≠ []) {c : Char} (hc : isDigit c = false)
    (s t : Chars) : ds ++ s ≠ c :: t := by
  obtain ⟨d, ds, rfl⟩ := List.exists_cons_of_ne_nil hne
  have hd := hds d List.mem_cons_self
  intro h
  rw [(List.cons.inj h).1, hc] at hd
  cases hd

/-- Where blanks are passed over, a run of digits is not. -/
theorem trimLeft_append_of_isDigit (hne : ds ≠ []) (s : Chars) : trimLeft (ds ++ s) = ds ++ s := by
  obtain ⟨d, ds, rfl⟩ := List.exists_cons_of_ne_nil hne
  exact trimLeft_cons_of_not_isBlank (isBlank_eq_false_of_isDigit (hds d List.mem_cons_self))

end

end LootLedger.Text
