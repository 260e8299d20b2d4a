import LootLedger.Text.Blank

/-!
# Edit distance

The least number of insertions, deletions and substitutions of single characters that turn one
word into another. It is computed row by row: the row of `s` against `t` lists the distances of
`s` from every prefix of `t`, and one more character of `s` gives the next row from the last.

## Main definitions

* `Text.editDistance`
-/

namespace LootLedger.Text

/-- The rest of the next row. `left` is the entry just computed, and `diagonal :: row` are the
entries of the last row from the column before on. -/
def nextEntries (c : Char) : Nat → Nat → List Nat → Chars → List Nat
  | _, _, [], _ => []
  | _, _, _ :: _, [] => []
  | left, diagonal, above :: row, d :: t =>
    let entry := min (min (left + 1) (above + 1)) (diagonal + if c = d then 0 else 1)
    entry :: nextEntries c entry above row t

/-- The row after one more character `c` of the first word. -/
def nextRow (t : Chars) (row : List Nat) (c : Char) : List Nat :=
  match row with
  | [] => []
  | first :: rest => (first + 1) :: nextEntries c (first + 1) first rest t

/-- The distances of the empty word from the prefixes of `t`, shortest prefix first. -/
def firstRow (t : Chars) : List Nat :=
  List.range (t.length + 1)

/-- The least number of single-character edits between two words. -/
def editDistance (s t : Chars) : Nat :=
  (s.foldl (nextRow t) (firstRow t)).getLastD 0

example : editDistance "kitten".toList "sitting".toList = 3 := by decide

example : editDistance [] "Show".toList = 4 := by decide

end LootLedger.Text
