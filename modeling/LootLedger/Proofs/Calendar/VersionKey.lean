import LootLedger.Calendar.Instant
import LootLedger.Proofs.Text.Numeral

/-!
# What a version key tells

A version key is the calendar second of an instant, written without any marks between its numbers.
Nothing is lost by that: all numbers but the year have two digits, so they can be cut off again
from the end, and a year with more than four digits has a sign in front.

## Main results

* `Date.yearText_injective`: years are told apart by their text
* `Instant.versionKey_eq_iff`: two instants share a key exactly if they share a calendar second
* `Instant.versionKey_ne_empty`: no key is the empty text, which stands for no document
-/

namespace LootLedger

open Text (Chars)

theorem Date.day_le (d : Date) : d.day ≤ 31 :=
  le_trans d.isDay.2.2.2 (daysInMonth_le d.year d.month)

/-- The sign of a year far away. -/
theorem isDigit_sign (year : Int) : Text.isDigit (if year < 0 then '-' else '+') = false := by
  split <;> decide

/-- **Years are told apart by their text.** -/
theorem Date.yearText_injective : Function.Injective Date.yearText := by
  -- a numeral has no sign in front, so the two forms of a year never meet
  have hmixed {m : Nat} {year : Int} {s : Chars} :
      Text.paddedDigits 4 m ≠ (if year < 0 then '-' else '+') :: s := by
    intro h
    have := Text.isDigit_of_mem_paddedDigits (h ▸ List.mem_cons_self)
    rw [isDigit_sign] at this
    cases this
  intro a b h
  rw [yearText, yearText] at h
  by_cases ha : 0 ≤ a ∧ a ≤ 9999 <;> by_cases hb : 0 ≤ b ∧ b ≤ 9999
  · rw [if_pos ha, if_pos hb] at h
    have := Text.paddedDigits_injective 4 h
    omega
  · rw [if_pos ha, if_neg hb] at h
    exact absurd h hmixed
  · rw [if_neg ha, if_pos hb] at h
    exact absurd h.symm hmixed
  · rw [if_neg ha, if_neg hb] at h
    obtain ⟨hsign, hdigits⟩ := List.cons.inj h
    have := Text.paddedDigits_injective 4 hdigits
    split at hsign <;> split at hsign
    · omega
    · exact absurd hsign (by decide)
    · exact absurd hsign (by decide)
    · omega

namespace Instant

/-- Two numbers below a hundred at the ends of equal texts are equal, and so is what stands before
them. -/
theorem append_paddedDigits_inj {s t : Chars} {m n : Nat} (hm : m < 100) (hn : n < 100)
    (h : s ++ Text.paddedDigits 2 m = t ++ Text.paddedDigits 2 n) : s = t ∧ m = n := by
  have hlen : (Text.paddedDigits 2 m).length = (Text.paddedDigits 2 n).length := by
    rw [Text.length_paddedDigits (by decide) hm, Text.length_paddedDigits (by decide) hn]
  obtain ⟨hs, hd⟩ := List.append_inj' h hlen
  exact ⟨hs, Text.paddedDigits_injective 2 hd⟩

/-- **Two instants share a version key exactly if they share a calendar second.** -/
theorem versionKey_eq_iff {a b : Instant} : a.versionKey = b.versionKey ↔
    a.date = b.date ∧ a.hour = b.hour ∧ a.minute = b.minute ∧ a.second = b.second := by
  constructor
  · intro h
    have hs := a.second_le
    have hs' := b.second_le
    have hm := a.minute_lt
    have hm' := b.minute_lt
    have hh := a.hour_lt
    have hh' := b.hour_lt
    have hd := a.date.day_le
    have hd' := b.date.day_le
    have ho := a.date.month_le
    have ho' := b.date.month_le
    obtain ⟨h, hsecond⟩ := append_paddedDigits_inj (by omega) (by omega) (String.ofList_injective h)
    obtain ⟨h, hminute⟩ := append_paddedDigits_inj (by omega) (by omega) h
    obtain ⟨h, hhour⟩ := append_paddedDigits_inj (by omega) (by omega) h
    obtain ⟨h, hday⟩ := append_paddedDigits_inj (by omega) (by omega) h
    obtain ⟨h, hmonth⟩ := append_paddedDigits_inj (by omega) (by omega) h
    have hyear := Date.yearText_injective h
    refine ⟨Date.ordinal_injective ?_, hhour, hminute, hsecond⟩
    rw [Date.ordinal, Date.ordinal, hyear, hmonth, hday]
  · rintro ⟨hd, hh, hm, hs⟩
    rw [versionKey, versionKey, hd, hh, hm, hs]

/-- **No version key is the empty text.** -/
theorem versionKey_ne_empty (t : Instant) : t.versionKey ≠ "" := by
  intro h
  have hnil := congrArg String.toList h
  rw [versionKey, String.toList_ofList] at hnil
  exact List.append_ne_nil_of_right_ne_nil _ (Text.paddedDigits_ne_nil 2 t.second) hnil

end Instant

end LootLedger
