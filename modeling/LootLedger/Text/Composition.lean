import LootLedger.Text.Combining
import LootLedger.Text.Composition.Table

/-!
# Composed form

A letter with an accent can be one character, or the letter and a mark, and several marks can
come in more than one order. The composed form, which is Normalization Form C of Unicode, writes
all of these the same way: the letters are taken apart, the marks put in order, and what can be
one character is put together.

## Main definitions

* `Text.parts?`, `Text.whole?`: a composed character taken apart, and put together
* `Text.composed`: the composed form of a text

## Main statements

* `Text.hangulWhole?_of_hangulParts?`: a syllable taken apart is put together again
-/

namespace LootLedger.Text

/-! ### Hangul syllables

A syllable is written as a block of a leading consonant, a vowel and perhaps a trailing consonant,
and the blocks come in the order of these. There are 19 leading consonants, 21 vowels and 27
trailing consonants. -/

/-- The first Hangul syllable. -/
def firstSyllable : Nat := 0xAC00

/-- The number of Hangul syllables. -/
def syllableCount : Nat := 11172

/-- A syllable as what stands before its last letter and this letter. -/
def hangulParts? (n : Nat) : Option (Nat × Nat) :=
  if firstSyllable ≤ n ∧ n < firstSyllable + syllableCount then
    let k := n - firstSyllable
    if k % 28 = 0 then some (0x1100 + k / 588, 0x1161 + k % 588 / 28)
    else some (n - k % 28, 0x11A7 + k % 28)
  else none

/-- The syllable of a consonant and a vowel, or of a syllable without a trailing consonant and
this consonant. -/
def hangulWhole? (a b : Nat) : Option Nat :=
  if 0x1100 ≤ a ∧ a < 0x1113 ∧ 0x1161 ≤ b ∧ b < 0x1176 then
    some (firstSyllable + (a - 0x1100) * 588 + (b - 0x1161) * 28)
  else if firstSyllable ≤ a ∧ a < firstSyllable + syllableCount ∧ (a - firstSyllable) % 28 = 0 ∧
      0x11A7 < b ∧ b < 0x11C3 then
    some (a + (b - 0x11A7))
  else none

/-- A syllable taken apart is put together again. -/
theorem hangulWhole?_of_hangulParts? {n a b : Nat} (h : hangulParts? n = some (a, b)) :
    hangulWhole? a b = some n := by
  have start : firstSyllable = 0xAC00 := rfl
  have count : syllableCount = 11172 := rfl
  unfold hangulParts? at h
  split at h
  · dsimp only at h
    split at h
    · obtain ⟨rfl, rfl⟩ := Prod.mk.inj (Option.some.inj h)
      rw [hangulWhole?, if_pos (by omega)]
      exact congrArg some (by omega)
    · obtain ⟨rfl, rfl⟩ := Prod.mk.inj (Option.some.inj h)
      rw [hangulWhole?, if_neg (by omega), if_pos (by omega)]
      exact congrArg some (by omega)
  · cases h

/-! ### Letters and marks -/

/-- A composed character as its letter and its mark. -/
def parts? (c : Char) : Option (Char × Char) :=
  match hangulParts? c.toNat with
  | some (a, b) => some (Char.ofNat a, Char.ofNat b)
  | none => (composites.find? (·.whole = c)).map fun p => (p.letter, p.mark)

/-- The composed character of a letter and a mark. -/
def whole? (letter mark : Char) : Option Char :=
  match hangulWhole? letter.toNat mark.toNat with
  | some n => some (Char.ofNat n)
  | none =>
    (composites.find? fun p => p.letter = letter ∧ p.mark = mark).map Composite.whole

/-- A character taken apart as often as the depth allows. -/
def unfolded : (depth : Nat) → Char → Chars
  | 0, c => [c]
  | depth + 1, c =>
    match parts? c with
    | some (letter, mark) => unfolded depth letter ++ [mark]
    | none => [c]

/-- A text with its composed characters taken apart and its marks in order. No letter has more
than three marks of its own. -/
def decomposed (s : Chars) : Chars :=
  inMarkOrder (s.flatMap (unfolded 3))

/-- Puts a letter together with the marks that follow it, and goes on behind them. The marks that
the letter does not take are kept, last one first; a mark is out of reach behind one of its own
class. -/
def composeFrom (letter : Char) (kept : Chars) : Chars → Chars
  | [] => letter :: kept.reverse
  | c :: s =>
    let inReach := kept.head?.all fun k => combiningClass k < combiningClass c
    match if inReach then whole? letter c else none with
    | some whole => composeFrom whole kept s
    | none =>
      if combiningClass c = 0 then letter :: kept.reverse ++ composeFrom c [] s
      else composeFrom letter (c :: kept) s

/-- The composed form of a text. -/
def composed (s : Chars) : Chars :=
  let isLoose := fun c => decide (combiningClass c ≠ 0)
  let parts := decomposed s
  match parts.dropWhile isLoose with
  | [] => parts
  | letter :: rest => parts.takeWhile isLoose ++ composeFrom letter [] rest

end LootLedger.Text
