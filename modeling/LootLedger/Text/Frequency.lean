import LootLedger.Text.Blank

/-!
# Character frequencies

A text as a multiset: how often each character occurs in it. The counts are kept in ascending
order of their characters, each character once and each count positive, so two texts have equal
counts exactly when one is a rearrangement of the other.

## Main definitions

* `Text.frequencies`: the counts of a text
* `Text.frequencyOf`: the count of one character
* `Text.isWithin`: every character of one occurs as often in the other
-/

namespace LootLedger.Text

/-- Counts by character, in ascending order. -/
abbrev Frequencies := List (Char × Nat)

/-- Counts one more occurrence of a character. -/
def countOne (c : Char) : Frequencies → Frequencies
  | [] => [(c, 1)]
  | (d, n) :: rest =>
    if c = d then (d, n + 1) :: rest
    else if c < d then (c, 1) :: (d, n) :: rest
    else (d, n) :: countOne c rest

/-- How often each character occurs. -/
def frequencies (s : Chars) : Frequencies :=
  s.foldl (fun counts c => countOne c counts) []

/-- How often a character was counted. -/
def frequencyOf (counts : Frequencies) (c : Char) : Nat :=
  (counts.lookup c).getD 0

/-- Every character counted in the first occurs at least as often in the second. -/
def isWithin (inner outer : Frequencies) : Bool :=
  inner.all fun (c, n) => n ≤ frequencyOf outer c

end LootLedger.Text
