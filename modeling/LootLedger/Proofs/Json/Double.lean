import LootLedger.Proofs.Decimal.Stepwise
import LootLedger.Proofs.Json.WholeNumber

/-!
# What doubles are read back as

A double is written with a point, with an exponent, or with both, so that it is not taken for a
whole number. Where the point stands and whether zeros fill up the digits is a matter of layout:
every numeral that is written has the digits of the shortest decimal of the double, perhaps with
zeros behind them, and the power of ten that belongs to them.

The shortest decimal is nearer to its double than to any other one. But numerals are not read as the
nearest double, they are read in steps, and so a double may be read back as one of its neighbours.
What it is read back as has a name here, `reread?`; whether it is the double itself is a question
about the double alone. The answer is yes where the steps are exact.

## Main definitions

* `Json.Numeral`: the parts of a numeral
* `Json.IsNumeralOf`: a text that is a numeral of a decimal, with a point or an exponent
* `Json.reread?`: the double that a double is read back as
* `Json.IsShort`: a double with few digits and places

## Main results

* `Json.readNumber?_text`: a numeral is read as its parts
* `Json.isNumeralOf_magnitude`: the numeral of a double has the digits of its shortest decimal
* `Json.readNumber?_floatText`: what a finite double is read back as
* `Json.reread?_of_isShort`: short doubles are read back as themselves
-/

namespace LootLedger.Json

open Text (Chars)
open Decimal (IsFinite isNegative magnitudeOf RoundsTo)

/-! ### Numerals -/

/-- The parts of a numeral, its sign apart. -/
structure Numeral where
  whole : Chars
  fraction : Option Chars
  exponent : Option Int

/-- A point and the digits behind it. -/
def fractionText : Option Chars → Chars
  | none => []
  | some places => '.' :: places

/-- An exponent mark and a signed exponent. -/
def exponentText : Option Int → Chars
  | none => []
  | some e => 'e' :: ((if e < 0 then ['-'] else ['+']) ++ Text.digits e.natAbs)

/-- The minus sign of a negative number. -/
def signText (negative : Bool) : Chars :=
  if negative then ['-'] else []

namespace Numeral

/-- The text of a numeral. -/
def text (n : Numeral) : Chars :=
  n.whole ++ (fractionText n.fraction ++ exponentText n.exponent)

/-- The parts are digits, as the reader demands them: the whole part has no leading zero, and some
digit follows a point. -/
structure IsWellFormed (n : Numeral) : Prop where
  whole_digits : ∀ c ∈ n.whole, Text.isDigit c = true
  whole_ne_nil : n.whole ≠ []
  no_leading_zero : ∀ s, n.whole = '0' :: s → s = []
  fraction_digits : ∀ places, n.fraction = some places → ∀ c ∈ places, Text.isDigit c = true
  fraction_ne_nil : ∀ places, n.fraction = some places → places ≠ []

/-- The numeral is not one of a whole number. -/
def IsPointed (n : Numeral) : Prop :=
  ¬ (n.fraction = none ∧ n.exponent = none)

/-- All digits of a numeral. -/
def digits (n : Numeral) : Chars :=
  n.whole ++ n.fraction.getD []

/-- The power of ten that the digits of a numeral are multiplied with. -/
def power (n : Numeral) : Int :=
  n.exponent.getD 0 - ((n.fraction.getD []).length : Int)

end Numeral

/-- The text is a numeral of the decimal, with a point or an exponent. A whole number may have its
zeros, and one more of them behind the point. -/
def IsNumeralOf (t : Chars) (d : Decimal.Shortest) : Prop :=
  ∃ n : Numeral, ∃ zeros ≤ (d.exponent + 1).toNat, n.IsWellFormed ∧ n.IsPointed ∧
    Text.ofDigits n.digits = d.digits * 10 ^ zeros ∧ n.power = d.exponent - zeros ∧ t = n.text

@[simp] theorem text_of_fraction (whole places : Chars) :
    Numeral.text ⟨whole, some places, none⟩ = whole ++ '.' :: places := by
  simp [Numeral.text, fractionText, exponentText]

/-! ### Reading a numeral -/

section

variable {s : Chars}

theorem spanDigits_append {ds : Chars} (hds : ∀ c ∈ ds, Text.isDigit c = true)
    (hs : ∀ c ∈ s.head?, Text.isDigit c = false) : spanDigits (ds ++ s) = (ds, s) := by
  rw [spanDigits, Text.takeWhile_isDigit_append hds hs, Text.dropWhile_isDigit_append hds hs]

theorem readWhole?_append {ds : Chars} (hds : ∀ c ∈ ds, Text.isDigit c = true) (hne : ds ≠ [])
    (hzero : ∀ t, ds = '0' :: t → t = []) (hs : ∀ c ∈ s.head?, Text.isDigit c = false) :
    readWhole? (ds ++ s) = some (ds, s) := by
  rw [readWhole?, spanDigits_append hds hs]
  split
  · next h => exact absurd (Prod.mk.inj h).1 hne
  · next h => rw [(Prod.mk.inj h).1, (Prod.mk.inj h).2]
  · next hne h => exact absurd (hzero _ (Prod.mk.inj h).1) hne
  · next h => rw [(Prod.mk.inj h).1, (Prod.mk.inj h).2]

theorem readFraction?_some {places : Chars} (hplaces : ∀ c ∈ places, Text.isDigit c = true)
    (hne : places ≠ []) (hs : ∀ c ∈ s.head?, Text.isDigit c = false) :
    readFraction? ('.' :: (places ++ s)) = some (some places, s) := by
  rw [readFraction?, spanDigits_append hplaces hs]
  split
  · next h => exact absurd (Prod.mk.inj h).1 hne
  · next h => rw [(Prod.mk.inj h).1, (Prod.mk.inj h).2]

theorem readSigned?_minus (n : ℕ) (hs : EndsNumber s) :
    readSigned? ('-' :: (Text.digits n ++ s)) = some (-(n : ℤ), s) := by
  rw [readSigned?]
  dsimp only
  rw [spanDigits_digits n hs]
  split
  · next h => exact absurd (Prod.mk.inj h).1 (Text.digits_ne_nil n)
  · next h => rw [← (Prod.mk.inj h).1, ← (Prod.mk.inj h).2, Text.ofDigits_digits]; rfl

theorem readSigned?_plus (n : ℕ) (hs : EndsNumber s) :
    readSigned? ('+' :: (Text.digits n ++ s)) = some ((n : ℤ), s) := by
  rw [readSigned?]
  dsimp only
  rw [spanDigits_digits n hs]
  split
  · next h => exact absurd (Prod.mk.inj h).1 (Text.digits_ne_nil n)
  · next h => rw [← (Prod.mk.inj h).1, ← (Prod.mk.inj h).2, Text.ofDigits_digits]; rfl

/-- An exponent is read, or its absence is noticed. -/
theorem readExponent?_exponentText (e : Option ℤ) (hs : EndsNumber s) :
    readExponent? (exponentText e ++ s) = some (e, s) := by
  cases e with
  | none => exact readExponent?_of_endsNumber hs
  | some e =>
    rw [exponentText, List.cons_append, readExponent?, if_pos (.inl rfl)]
    split
    · next h =>
      rw [List.singleton_append, List.cons_append, readSigned?_minus _ hs,
        show -(e.natAbs : ℤ) = e by omega]
      rfl
    · next h =>
      rw [List.singleton_append, List.cons_append, readSigned?_plus _ hs,
        show (e.natAbs : ℤ) = e by omega]
      rfl

/-- An exponent begins with its mark. -/
theorem head?_exponentText (e : Option ℤ) (hs : EndsNumber s) :
    ∀ c ∈ (exponentText e ++ s).head?, Text.isDigit c = false ∧ c ≠ '.' := by
  cases e with
  | none => exact fun c hc => ⟨(hs c hc).1, (hs c hc).2.1⟩
  | some e =>
    intro c hc
    obtain rfl := Option.some.inj hc
    decide

/-- What follows the whole part does not begin with a digit. -/
theorem head?_fractionText (f : Option Chars) {t : Chars}
    (ht : ∀ c ∈ t.head?, Text.isDigit c = false) :
    ∀ c ∈ (fractionText f ++ t).head?, Text.isDigit c = false := by
  cases f with
  | none => exact ht
  | some places =>
    intro c hc
    obtain rfl := Option.some.inj hc
    decide

/-- A fraction is read, or its absence is noticed. -/
theorem readFraction?_fractionText {n : Numeral} (hn : n.IsWellFormed) {t : Chars}
    (ht : ∀ c ∈ t.head?, Text.isDigit c = false ∧ c ≠ '.') :
    readFraction? (fractionText n.fraction ++ t) = some (n.fraction, t) := by
  cases hf : n.fraction with
  | none =>
    rw [fractionText, List.nil_append]
    unfold readFraction?
    split
    · exact absurd rfl (ht '.' rfl).2
    · rfl
  | some places =>
    exact readFraction?_some (hn.fraction_digits places hf) (hn.fraction_ne_nil places hf)
      fun c hc => (ht c hc).1

/-- **A numeral is read as its parts.** -/
theorem readNumber?_text {n : Numeral} (hn : n.IsWellFormed) (negative : Bool)
    (hs : EndsNumber s) :
    readNumber? (signText negative ++ (n.text ++ s)) =
      some (number negative n.whole n.fraction n.exponent, s) := by
  have hexponent := head?_exponentText n.exponent hs
  have hwhole := readWhole?_append hn.whole_digits hn.whole_ne_nil hn.no_leading_zero
    (head?_fractionText n.fraction fun c hc => (hexponent c hc).1)
  have hfraction := readFraction?_fractionText hn hexponent
  rw [Numeral.text, List.append_assoc, List.append_assoc]
  have hparts (negative : Bool) : (do
      let whole ← readWhole? (n.whole ++
        (fractionText n.fraction ++ (exponentText n.exponent ++ s)))
      let fraction ← readFraction? whole.2
      let exponent ← readExponent? fraction.2
      return (number negative whole.1 fraction.1 exponent.1, exponent.2)) =
        some (number negative n.whole n.fraction n.exponent, s) := by
    simp only [hwhole, hfraction, readExponent?_exponentText n.exponent hs,
      Option.bind_eq_bind, Option.bind_some]
    rfl
  cases negative with
  | true => exact hparts true
  | false =>
    rw [← hparts false, signText, if_neg Bool.false_ne_true, List.nil_append]
    unfold readNumber?
    split
    next hsign =>
    split at hsign
    · next h =>
      exact absurd h (Text.append_ne_cons_of_isDigit hn.whole_digits hn.whole_ne_nil rfl _ _)
    · obtain ⟨rfl, rfl⟩ := Prod.mk.inj hsign
      rfl

end

/-- A numeral with a point or an exponent is not taken for a whole number. -/
theorem exists_number_eq {n : Numeral} (hn : n.IsPointed) (negative : Bool) :
    ∃ x, number negative n.whole n.fraction n.exponent = floatValue x := by
  rw [number]
  dsimp only
  rw [if_neg fun h => hn h.2]
  exact ⟨_, rfl⟩

/-- If its digits fit 64 bits together, all of them count. -/
theorem number_of_isPointed {n : Numeral} (hn : n.IsPointed)
    (h : Text.ofDigits n.digits ≤ Text.max64) (negative : Bool) :
    number negative n.whole n.fraction n.exponent =
      floatValue (Decimal.ofWord? negative (Text.ofDigits n.digits) n.power) := by
  rw [Numeral.digits] at h
  have hwhole := (ofDigits_le_append n.whole (n.fraction.getD [])).trans h
  rw [number, takeDigits_zero hwhole]
  dsimp only
  rw [if_neg fun h => hn h.2, takeDigits_append h, Numeral.digits, Numeral.power]
  simp

/-! ### Layouts -/

section

variable {digits : ℕ} (hdigits : 0 < digits)

/-- Digits that are filled up with zeros stand for so many powers of ten more. -/
theorem ofDigits_append_zeros (s : Chars) (k : ℕ) :
    Text.ofDigits (s ++ List.replicate k '0') = Text.ofDigits s * 10 ^ k := by
  induction k with
  | zero => rw [List.replicate_zero, List.append_nil, Nat.pow_zero, Nat.mul_one]
  | succ k ih =>
    rw [List.replicate_succ', ← List.append_assoc, Text.ofDigits_append_singleton, ih,
      show Text.digitValue '0' = 0 from rfl, Nat.pow_succ]
    ring

/-- Zeros before the digits stand for nothing. -/
theorem ofDigits_zeros_append (k : ℕ) (s : Chars) :
    Text.ofDigits (List.replicate k '0' ++ s) = Text.ofDigits s := by
  rw [Text.ofDigits_append, Text.ofDigits_zeros, Text.ofDigits]

theorem isDigit_of_mem_zeros {k : ℕ} {c : Char} (h : c ∈ List.replicate k '0') :
    Text.isDigit c = true := by
  rw [(List.mem_replicate.mp h).2]
  rfl

include hdigits

/-- A positive number has no leading zero. -/
theorem digits_ne_zero_cons (s : Chars) : Text.digits digits ≠ '0' :: s := by
  intro h
  have hzero := Text.ofDigits_digits digits
  rw [h, eq_nil_of_digits_eq_zero_cons h, show Text.ofDigits ['0'] = 0 from rfl] at hzero
  omega

/-- Neither have the first digits of it. -/
theorem take_digits_ne_zero_cons {k : ℕ} (hk : 0 < k) (s : Chars) :
    (Text.digits digits).take k ≠ '0' :: s := by
  obtain ⟨c, t, hct⟩ := List.exists_cons_of_ne_nil (Text.digits_ne_nil digits)
  obtain ⟨k, rfl⟩ := Nat.exists_eq_add_one_of_ne_zero hk.ne'
  rw [hct, List.take_succ_cons]
  intro h
  exact digits_ne_zero_cons hdigits t (by rw [hct, (List.cons.inj h).1])

omit hdigits in
/-- All digits behind the point. -/
theorem isNumeralOf_leading (zeros : ℕ) :
    IsNumeralOf ('0' :: '.' :: (List.replicate zeros '0' ++ Text.digits digits))
      ⟨digits, -(zeros + (Text.digits digits).length : ℤ)⟩ := by
  refine ⟨⟨['0'], some (List.replicate zeros '0' ++ Text.digits digits), none⟩, 0, Nat.zero_le _,
    ⟨by simp; rfl, by simp, by simp, ?_, ?_⟩, by simp [Numeral.IsPointed], ?_, ?_, by simp⟩
  · intro places h c hc
    obtain rfl := Option.some.inj h
    exact (List.mem_append.mp hc).elim isDigit_of_mem_zeros Text.isDigit_of_mem_digits
  · intro places h
    obtain rfl := Option.some.inj h
    exact List.append_ne_nil_of_right_ne_nil _ (Text.digits_ne_nil digits)
  · rw [Numeral.digits, Option.getD_some, show ['0'] = List.replicate 1 '0' from rfl,
      ofDigits_zeros_append, ofDigits_zeros_append, Text.ofDigits_digits, Nat.pow_zero, Nat.mul_one]
  · simp [Numeral.power]

/-- All digits before the point, which zeros fill up. -/
theorem isNumeralOf_trailing (zeros : ℕ) :
    IsNumeralOf (Text.digits digits ++ List.replicate zeros '0' ++ ['.', '0'])
      ⟨digits, zeros⟩ := by
  refine ⟨⟨Text.digits digits ++ List.replicate zeros '0', some ['0'], none⟩, zeros + 1, ?_,
    ⟨?_, ?_, ?_, by simp; rfl, by simp⟩, by simp [Numeral.IsPointed], ?_, ?_, by simp⟩
  · exact le_rfl
  · intro c hc
    exact (List.mem_append.mp hc).elim Text.isDigit_of_mem_digits isDigit_of_mem_zeros
  · exact List.append_ne_nil_of_left_ne_nil (Text.digits_ne_nil digits) _
  · intro s h
    obtain ⟨c, t, hct⟩ := List.exists_cons_of_ne_nil (Text.digits_ne_nil digits)
    dsimp only at h
    rw [hct, List.cons_append] at h
    exact absurd (by rw [hct, (List.cons.inj h).1]) (digits_ne_zero_cons hdigits t)
  · rw [Numeral.digits, Option.getD_some, show ['0'] = List.replicate 1 '0' from rfl,
      ofDigits_append_zeros, ofDigits_append_zeros, Text.ofDigits_digits, Nat.mul_assoc,
      ← Nat.pow_add]
  · simp [Numeral.power]

/-- The point among the digits. -/
theorem isNumeralOf_inner {k : ℕ} (hk : 0 < k) (hlt : k < (Text.digits digits).length) :
    IsNumeralOf ((Text.digits digits).take k ++ '.' :: (Text.digits digits).drop k)
      ⟨digits, (k : ℤ) - (Text.digits digits).length⟩ := by
  refine ⟨⟨(Text.digits digits).take k, some ((Text.digits digits).drop k), none⟩, 0,
    Nat.zero_le _, ⟨?_, ?_, ?_, ?_, ?_⟩, by simp [Numeral.IsPointed], ?_, ?_, by simp⟩
  · exact fun c hc => Text.isDigit_of_mem_digits (List.mem_of_mem_take hc)
  · simp [hk.ne', Text.digits_ne_nil]
  · exact fun s h => absurd h (take_digits_ne_zero_cons hdigits hk s)
  · intro places h c hc
    obtain rfl := Option.some.inj h
    exact Text.isDigit_of_mem_digits (List.mem_of_mem_drop hc)
  · intro places h
    obtain rfl := Option.some.inj h
    simpa using hlt
  · rw [Numeral.digits, Option.getD_some, List.take_append_drop, Text.ofDigits_digits, Nat.pow_zero,
      Nat.mul_one]
  · rw [Numeral.power, Option.getD_some, Option.getD_none, List.length_drop]
    dsimp only
    omega

/-- A digit, further ones behind a point, and an exponent. -/
theorem isNumeralOf_scientific (point : ℤ) :
    IsNumeralOf (numberLayout.scientific (Text.digits digits) point)
      ⟨digits, point - (Text.digits digits).length⟩ := by
  have hwhole : ∀ c ∈ (Text.digits digits).take 1, Text.isDigit c = true := fun c hc =>
    Text.isDigit_of_mem_digits (List.mem_of_mem_take hc)
  have hne : (Text.digits digits).take 1 ≠ [] := by simp [Text.digits_ne_nil]
  have hzero : ∀ s, (Text.digits digits).take 1 = '0' :: s → s = [] := fun s h =>
    absurd h (take_digits_ne_zero_cons hdigits Nat.one_pos s)
  rw [Decimal.Layout.scientific]
  split
  · next hlength =>
    have hpos := List.length_pos_of_ne_nil (Text.digits_ne_nil digits)
    have htake : (Text.digits digits).take 1 = Text.digits digits := List.take_of_length_le hlength
    refine ⟨⟨(Text.digits digits).take 1, none, some (point - 1)⟩, 0, Nat.zero_le _,
      ⟨hwhole, hne, hzero, by simp, by simp⟩, by simp [Numeral.IsPointed], ?_, ?_, ?_⟩
    · rw [Numeral.digits, Option.getD_none, List.append_nil, htake, Text.ofDigits_digits,
        Nat.pow_zero, Nat.mul_one]
    · rw [Numeral.power, Option.getD_none, Option.getD_some, List.length_nil]
      dsimp only
      omega
    · rw [List.append_nil]
      rfl
  · next hlength =>
    refine ⟨⟨(Text.digits digits).take 1, some ((Text.digits digits).drop 1), some (point - 1)⟩, 0,
      Nat.zero_le _, ⟨hwhole, hne, hzero, ?_, ?_⟩, by simp [Numeral.IsPointed], ?_, ?_, ?_⟩
    · intro places h c hc
      obtain rfl := Option.some.inj h
      exact Text.isDigit_of_mem_digits (List.mem_of_mem_drop hc)
    · intro places h
      obtain rfl := Option.some.inj h
      exact List.ne_nil_of_length_pos (by rw [List.length_drop]; omega)
    · rw [Numeral.digits, Option.getD_some, List.take_append_drop, Text.ofDigits_digits,
        Nat.pow_zero, Nat.mul_one]
    · rw [Numeral.power, Option.getD_some, Option.getD_some, List.length_drop]
      dsimp only
      omega
    · rw [List.append_assoc]
      rfl

/-- The positional text of a decimal is a numeral of it. -/
theorem isNumeralOf_positional (point : ℤ) :
    IsNumeralOf (numberLayout.positional (Text.digits digits) point)
      ⟨digits, point - (Text.digits digits).length⟩ := by
  rw [Decimal.Layout.positional]
  split
  · next hpoint =>
    have h := @isNumeralOf_leading digits (-point).toNat
    rwa [show -(((-point).toNat : ℤ) + (Text.digits digits).length) =
      point - (Text.digits digits).length by omega] at h
  split
  · next hpoint hwhole =>
    have h := isNumeralOf_trailing hdigits (point.toNat - (Text.digits digits).length)
    rwa [show ((point.toNat - (Text.digits digits).length : ℕ) : ℤ) =
      point - (Text.digits digits).length by omega] at h
  · next hpoint hwhole =>
    have h := isNumeralOf_inner hdigits (k := point.toNat) (by omega) (by omega)
    rwa [Int.toNat_of_nonneg (by omega)] at h

end

/-- The shortest decimal of a positive double has digits. -/
theorem digits_shortest_pos {mantissa scale : ℕ} (hd : Decimal.IsCanonical mantissa scale)
    (hm : 0 < mantissa) : 0 < (Decimal.shortest mantissa scale).digits := by
  have hpos := (Decimal.shortest_roundsTo hd hm).pos hm
  rw [Decimal.Shortest.value] at hpos
  by_contra! hzero
  rw [Nat.le_zero.mp hzero, Nat.cast_zero, zero_mul] at hpos
  exact lt_irrefl _ hpos

/-- **The numeral of a double** is one of its shortest decimal. -/
theorem isNumeralOf_magnitude {mantissa scale : ℕ} (hd : Decimal.IsCanonical mantissa scale)
    (hm : 0 < mantissa) :
    IsNumeralOf (numberLayout.magnitude mantissa scale) (Decimal.shortest mantissa scale) := by
  have hdigits := digits_shortest_pos hd hm
  rw [Decimal.Layout.magnitude, if_neg hm.ne']
  generalize Decimal.shortest mantissa scale = d at *
  have hpoint : d.exponent + (Text.digits d.digits).length - (Text.digits d.digits).length =
    d.exponent := by omega
  have hpositional := isNumeralOf_positional hdigits (d.exponent + (Text.digits d.digits).length)
  have hscientific := isNumeralOf_scientific hdigits (d.exponent + (Text.digits d.digits).length)
  rw [hpoint] at hpositional hscientific
  dsimp only
  split
  · exact hpositional
  · exact hscientific

/-! ### Doubles -/

/-- The double that a double is read back as, if there is one. -/
def reread? (x : Float) : Option Float :=
  match readNumber? (floatText x) with
  | some (.float y, []) => some y
  | _ => none

section

variable {x : Float} {mantissa scale : ℕ}

theorem floatText_eq (hx : magnitudeOf x = .finite mantissa scale) :
    floatText x = signText (isNegative x) ++ numberLayout.magnitude mantissa scale := by
  rw [floatText, Decimal.Layout.text?, hx, signText]
  dsimp only
  rw [Option.getD_some]
  split <;> rfl

/-- A finite double is written as a numeral with a point or an exponent. -/
theorem exists_floatText_eq (h : IsFinite x) : ∃ n : Numeral, n.IsWellFormed ∧ n.IsPointed ∧
    floatText x = signText (isNegative x) ++ n.text := by
  obtain ⟨mantissa, scale, hx⟩ := h
  rw [floatText_eq hx]
  rcases Nat.eq_zero_or_pos mantissa with rfl | hm
  · exact ⟨⟨['0'], some ['0'], none⟩, ⟨by simp; rfl, by simp, by simp, by simp; rfl, by simp⟩,
      by simp [Numeral.IsPointed], rfl⟩
  · obtain ⟨n, _, -, hn, hpointed, -, -, htext⟩ :=
      isNumeralOf_magnitude (Decimal.magnitudeOf_isCanonical hx) hm
    exact ⟨n, hn, hpointed, by rw [htext]⟩

/-- **What a finite double is read back as,** whatever stands behind it. -/
theorem readNumber?_floatText (h : IsFinite x) {s : Chars} (hs : EndsNumber s) :
    readNumber? (floatText x ++ s) = some (floatValue (reread? x), s) := by
  obtain ⟨n, hn, hpointed, htext⟩ := exists_floatText_eq h
  obtain ⟨y, hy⟩ := exists_number_eq hpointed (isNegative x)
  have hread {t : Chars} (ht : EndsNumber t) :
      readNumber? (floatText x ++ t) = some (floatValue y, t) := by
    rw [htext, List.append_assoc, readNumber?_text hn _ ht, hy]
  have hreread : reread? x = y := by
    have hnil := hread (t := []) nofun
    rw [List.append_nil] at hnil
    rw [reread?, hnil]
    cases y <;> rfl
  rw [hread hs, hreread]

/-- A finite double begins like no other value. -/
theorem exists_floatText_cons (h : IsFinite x) :
    ∃ c s, floatText x = c :: s ∧ (c = '-' ∨ Text.isDigit c = true) := by
  obtain ⟨n, hn, -, htext⟩ := exists_floatText_eq h
  rw [htext, signText]
  split
  · exact ⟨'-', _, rfl, .inl rfl⟩
  · obtain ⟨c, t, hct⟩ := List.exists_cons_of_ne_nil hn.whole_ne_nil
    rw [Numeral.text, hct]
    exact ⟨c, _, rfl, .inr (hn.whole_digits c (hct ▸ List.mem_cons_self))⟩

/-! ### Short doubles -/

/-- A decimal with few digits and places. -/
structure IsShortDecimal (d : Decimal.Shortest) : Prop where
  /-- The digits are a number of 53 bits, also if zeros fill them up to one place behind the
  point. -/
  digits : d.digits * 10 ^ (d.exponent + 1).toNat < 2 ^ 53
  places : -22 ≤ d.exponent

/-- A double that is zero or has a short decimal. -/
def IsShort (x : Float) : Prop :=
  ∃ mantissa scale, magnitudeOf x = .finite mantissa scale ∧
    (0 < mantissa → IsShortDecimal (Decimal.shortest mantissa scale))

theorem reread?_of_numeral {n : Numeral} (hn : n.IsWellFormed) (hpointed : n.IsPointed)
    (htext : floatText x = signText (isNegative x) ++ n.text)
    (hdigits : Text.ofDigits n.digits ≤ Text.max64) :
    reread? x = Decimal.ofWord? (isNegative x) (Text.ofDigits n.digits) n.power := by
  have hread := readNumber?_text hn (isNegative x) (s := []) nofun
  rw [List.append_nil, ← htext, number_of_isPointed hpointed hdigits] at hread
  rw [reread?, hread]
  cases Decimal.ofWord? (isNegative x) (Text.ofDigits n.digits) n.power <;> rfl

/-- **Short doubles are read back as themselves.** -/
theorem reread?_of_isShort (h : IsShort x) : reread? x = some x := by
  obtain ⟨mantissa, scale, hx, hshort⟩ := h
  have hd := Decimal.magnitudeOf_isCanonical hx
  rcases Nat.eq_zero_or_pos mantissa with rfl | hm
  · rw [reread?_of_numeral (n := ⟨['0'], some ['0'], none⟩)
      ⟨by simp; rfl, by simp, by simp, by simp; rfl, by simp⟩ (by simp [Numeral.IsPointed])
      (floatText_eq hx) (by decide)]
    exact Decimal.ofWord?_zero hx _
  · obtain ⟨hword, hplaces⟩ := hshort hm
    have hpos := digits_shortest_pos hd hm
    have hrounds := Decimal.shortest_roundsTo hd hm
    obtain ⟨n, zeros, hzeros, hn, hpointed, hdigits, hpower, htext⟩ := isNumeralOf_magnitude hd hm
    generalize Decimal.shortest mantissa scale = d at *
    have hlt : Text.ofDigits n.digits < 2 ^ 53 := by
      rw [hdigits]
      exact (Nat.mul_le_mul_left _ (Nat.pow_le_pow_right (by norm_num) hzeros)).trans_lt hword
    have hexponent : (d.exponent + 1).toNat < 16 := by
      have hle := Nat.le_mul_of_pos_left (10 ^ (d.exponent + 1).toNat) hpos
      exact (Nat.pow_lt_pow_iff_right (show 1 < 10 by norm_num)).mp (by omega)
    -- zeros behind the digits are made up for by the power
    have hvalue : (Text.ofDigits n.digits : ℚ) * 10 ^ n.power = d.value := by
      rw [hdigits, hpower, Decimal.Shortest.value, zpow_sub₀ (by norm_num), zpow_natCast,
        Nat.cast_mul, Nat.cast_pow, Nat.cast_ofNat, mul_assoc, mul_div_cancel₀ _ (by positivity)]
    rw [reread?_of_numeral hn hpointed (by rw [floatText_eq hx, htext])
      (hlt.le.trans (by decide))]
    exact Decimal.ofWord?_of_roundsTo hx hm hlt (by omega) (hvalue ▸ hrounds)

end

end LootLedger.Json
