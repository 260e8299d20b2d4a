import LootLedger.Text.Blank

/-!
# Columns

Cells of a table. Widths are counted in characters. A cell that is longer than its column pushes
what follows to the right, so long texts are cut beforehand where that matters.

## Main definitions

* `Text.padRight`, `Text.padLeft`: a cell filled up to a width
* `Text.shortened`: a text cut to a width
-/

namespace LootLedger.Text

/-- The text filled up with spaces on the right to at least the width. -/
def padRight (width : Nat) (s : Chars) : Chars :=
  s ++ List.replicate (width - s.length) ' '

/-- The text filled up with spaces on the left to at least the width. -/
def padLeft (width : Nat) (s : Chars) : Chars :=
  List.replicate (width - s.length) ' ' ++ s

/-- The text if it is not longer than the width, else its start and three dots. -/
def shortened (width : Nat) (s : Chars) : Chars :=
  if width < s.length then s.take (width - 3) ++ ['.', '.', '.'] else s

theorem le_length_padRight (width : Nat) (s : Chars) : width ≤ (padRight width s).length := by
  simp only [padRight, List.length_append, List.length_replicate]
  omega

theorem le_length_padLeft (width : Nat) (s : Chars) : width ≤ (padLeft width s).length := by
  simp only [padLeft, List.length_append, List.length_replicate]
  omega

theorem length_shortened_le {width : Nat} (h : 3 ≤ width) (s : Chars) :
    (shortened width s).length ≤ width := by
  unfold shortened
  split
  · simp only [List.length_append, List.length_take, List.length_cons, List.length_nil]
    omega
  · omega

end LootLedger.Text
