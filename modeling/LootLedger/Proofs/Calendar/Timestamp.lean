import LootLedger.Proofs.Calendar.VersionKey
import Mathlib.Data.List.TakeWhile

/-!
# Timestamps are read back

The reader of timestamps takes many liberties: blanks between the numbers, numerals without leading
zeros, fractions of any length, offsets. A timestamp that was written uses none of them, so what is
to be shown is that no liberty is taken where none is meant: each number has its full width and ends
where the next mark stands, and the fraction is exact with three, six or nine digits.

## Main results

* `Date.readNumber?_paddedDigits`: a number of fixed width is read back, whatever follows
* `Date.readYear?_yearText`: a year is read back, with its sign if it is far away
* `Instant.readFraction?_fractionText`: so is a fraction of a second
* `Instant.parse?_text`: a timestamp is read back as the instant it was written for
-/

namespace LootLedger

open Text (Chars)

theorem forall_isDigit_paddedDigits (width n : Nat) :
    ∀ c ∈ Text.paddedDigits width n, Text.isDigit c = true :=
  fun _ => Text.isDigit_of_mem_paddedDigits

namespace Date

/-! ### Dates -/

/-- **A number of fixed width is read back,** whatever follows it. -/
theorem readNumber?_paddedDigits {width n : Nat} (hw : 0 < width) (h : n < 10 ^ width)
    (s : Chars) : readNumber? width (Text.paddedDigits width n ++ s) = some (n, s) := by
  have hdigits := forall_isDigit_paddedDigits width n
  rw [readNumber?, Text.trimLeft_append_of_isDigit hdigits (Text.paddedDigits_ne_nil width n),
    List.take_left' (Text.length_paddedDigits hw h), List.takeWhile_eq_self_iff.mpr hdigits,
    if_neg (Text.paddedDigits_ne_nil width n), Text.ofDigits_paddedDigits, List.drop_left' rfl]

theorem readNumber?_twoDigits {n : Nat} (h : n < 100) (s : Chars) :
    readNumber? 2 (Text.paddedDigits 2 n ++ s) = some (n, s) :=
  readNumber?_paddedDigits (by decide) h s

/-- After a sign all digits are read, however many there are. -/
theorem signed_paddedDigits (n : Nat) {s : Chars} (hs : ∀ c ∈ s.head?, Text.isDigit c = false) :
    readYear?.signed (Text.paddedDigits 4 n ++ s).length (Text.paddedDigits 4 n ++ s) =
      some (n, s) := by
  rw [readYear?.signed, List.take_length,
    Text.takeWhile_isDigit_append (forall_isDigit_paddedDigits 4 n) hs,
    if_neg (Text.paddedDigits_ne_nil 4 n), Text.ofDigits_paddedDigits, List.drop_left' rfl]

/-- **A year is read back,** with its sign if it has more than four digits or lies before year
zero. -/
theorem readYear?_yearText (year : Int) {s : Chars}
    (hs : ∀ c ∈ s.head?, Text.isDigit c = false) :
    readYear? (yearText year ++ s) = some (year, s) := by
  rw [yearText]
  split
  · next hnear =>
    have hdigits := forall_isDigit_paddedDigits 4 year.toNat
    have hne := Text.paddedDigits_ne_nil 4 year.toNat
    have hread : readNumber? 4 (Text.paddedDigits 4 year.toNat ++ s) = some (year.toNat, s) :=
      readNumber?_paddedDigits (by decide) (by omega) s
    rw [readYear?, Text.trimLeft_append_of_isDigit hdigits hne]
    split
    · next h => exact absurd h (Text.append_ne_cons_of_isDigit hdigits hne rfl s _)
    · next h => exact absurd h (Text.append_ne_cons_of_isDigit hdigits hne rfl s _)
    · rw [hread]
      exact congrArg (fun n => some (n, s)) (show (year.toNat : Int) = year by omega)
  · have hsigned := signed_paddedDigits year.natAbs hs
    split
    · next hneg =>
      rw [List.cons_append, readYear?, Text.trimLeft_cons_of_not_isBlank (by decide)]
      change (readYear?.signed _ _).map _ = _
      rw [hsigned]
      exact congrArg (fun n => some (n, s)) (show -(year.natAbs : Int) = year by omega)
    · next hneg =>
      rw [List.cons_append, readYear?, Text.trimLeft_cons_of_not_isBlank (by decide)]
      change (readYear?.signed _ _).map _ = _
      rw [hsigned]
      exact congrArg (fun n => some (n, s)) (show (year.natAbs : Int) = year by omega)

/-- A mark between two numbers is passed. -/
theorem dropPrefix?_mark {c : Char} (hc : Text.isBlank c = false) (s : Chars) :
    Text.dropPrefix? [c] (Text.trimLeft (c :: s)) = some s := by
  rw [Text.trimLeft_cons_of_not_isBlank hc]
  exact Text.dropPrefix?_append [c] s

theorem of?_self (d : Date) : of? d.year d.month d.day = some d :=
  dif_pos d.isDay

/-- **A date is read back,** whatever follows it. -/
theorem read?_text (d : Date) (s : Chars) : read? (d.text ++ s) = some (d, s) := by
  have hmonth := d.month_le
  have hday := d.day_le
  rw [text, List.append_assoc, List.append_assoc, read?, List.cons_append,
    readYear?_yearText d.year (by rintro c ⟨⟩; decide)]
  simp only [Option.bind_eq_bind, Option.bind_some, dropPrefix?_mark (c := '-') rfl,
    List.cons_append, readNumber?_twoDigits (show d.month < 100 by omega),
    readNumber?_twoDigits (show d.day < 100 by omega), of?_self, Option.pure_def]

end Date

namespace Instant

/-! ### Instants -/

/-- A fraction of up to nine digits counts as many nanoseconds as its last digit stands for. -/
theorem readFraction?_paddedDigits {width n : Nat} (hw : 0 < width) (hle : width ≤ 9)
    (h : n < 10 ^ width) (s : Chars) :
    readFraction? ('.' :: (Text.paddedDigits width n ++ 'Z' :: s)) =
      some (n * Nat.pow 10 (9 - width), 'Z' :: s) := by
  have hlength := Text.length_paddedDigits hw h
  have htake : ((Text.paddedDigits width n ++ 'Z' :: s).take 9).takeWhile Text.isDigit =
      Text.paddedDigits width n := by
    rw [List.take_append, hlength, List.take_of_length_le (by omega)]
    refine Text.takeWhile_isDigit_append (forall_isDigit_paddedDigits width n) fun c hc => ?_
    cases hrest : 9 - width with
    | zero => simp [hrest] at hc
    | succ k =>
      rw [hrest] at hc
      obtain rfl := Option.some.inj hc
      decide
  rw [readFraction?]
  dsimp only
  rw [htake, if_neg (Text.paddedDigits_ne_nil width n), Text.ofDigits_paddedDigits,
    List.drop_left' rfl, hlength]
  rfl

/-- **A fraction is read back** from the fewest digits that are exact. -/
theorem readFraction?_fractionText {n : Nat} (h : n < 1000000000) (s : Chars) :
    readFraction? (fractionText n ++ 'Z' :: s) = some (n, 'Z' :: s) := by
  rw [fractionText]
  split_ifs with hzero hmilli hmicro
  · rw [hzero]
    rfl
  · rw [List.cons_append, readFraction?_paddedDigits (by decide) (by decide) (by omega),
      show Nat.pow 10 (9 - 3) = 1000000 from rfl, show n / 1000000 * 1000000 = n by omega]
  · rw [List.cons_append, readFraction?_paddedDigits (by decide) (by decide) (by omega),
      show Nat.pow 10 (9 - 6) = 1000 from rfl, show n / 1000 * 1000 = n by omega]
  · rw [List.cons_append, readFraction?_paddedDigits (by decide) (by decide) (by omega),
      show n * Nat.pow 10 (9 - 9) = n from Nat.mul_one n]

theorem of?_self (t : Instant) : of? t.date t.hour t.minute t.second t.nanosecond = some t :=
  dif_pos ⟨t.hour_lt, t.minute_lt, t.second_le, t.nanosecond_lt⟩

/-- Universal time is local time without an offset. -/
theorem ofLocal?_zero (t : Instant) :
    ofLocal? t.date t.hour t.minute t.second t.nanosecond 0 = some t := by
  have hh := t.hour_lt
  have hm := t.minute_lt
  have hminutes : ((60 * t.hour + t.minute - 0 : Int) % 1440).toNat = 60 * t.hour + t.minute := by
    omega
  rw [ofLocal?]
  simp only [hminutes]
  rw [if_neg (by omega), if_neg (by omega), show (60 * t.hour + t.minute) / 60 = t.hour by omega,
    show (60 * t.hour + t.minute) % 60 = t.minute by omega]
  exact t.of?_self

/-- **A timestamp is read back** as the instant it was written for, in any year, with any fraction
and in a leap second too. -/
theorem parse?_text (t : Instant) : parse? t.text = some t := by
  have hh := t.hour_lt
  have hm := t.minute_lt
  have hs := t.second_le
  rw [parse?, text, timeText]
  simp only [List.append_assoc, List.cons_append, Date.read?_text, Option.bind_eq_bind,
    Option.bind_some, Date.readNumber?_twoDigits (show t.hour < 100 by omega),
    Date.readNumber?_twoDigits (show t.minute < 100 by omega),
    Date.readNumber?_twoDigits (show t.second < 100 by omega),
    Date.dropPrefix?_mark (c := ':') rfl, readFraction?_fractionText t.nanosecond_lt]
  rw [show readOffset? (Text.trimLeft ['Z']) = some (0, []) from rfl, Option.bind_some,
    if_pos ⟨rfl, hh, hm, hs⟩]
  exact t.ofLocal?_zero

end Instant

end LootLedger
