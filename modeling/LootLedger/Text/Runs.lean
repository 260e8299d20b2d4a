import LootLedger.Text.Hexadecimal
import LootLedger.Text.Split

/-!
# Tables of character properties

A property of characters is mostly the same for a whole stretch of code points, so a table of it
lists only the code points at which the value changes. A table is written as a text of entries
with blanks between them. Each entry is a code point in hexadecimal digits and, after it, the
value from there on, in letters that are no such digits or after a mark.

## Main definitions

* `Text.Run`, `Text.Runs`, `Text.Runs.ofText`: tables and their written form
* `Text.Runs.at?`: the run that a code point lies in

## Main statements

* `Text.Runs.first_le_of_at?`: a run that is found does not start after the code point
-/

namespace LootLedger.Text

/-- The characters whose code points a text gives in hexadecimal digits, with commas between. -/
def codePoints (s : Chars) : Chars :=
  (splitAtChar ',' s).map fun digits => Char.ofNat ((ofHexDigits? digits).getD 0)

/-- A value from a code point on. -/
structure Run (α : Type) where
  first : Nat
  value : α
  deriving Repr

/-- Runs of code points, in ascending order. Each extends to the next one. -/
abbrev Runs (α : Type) := Array (Run α)

namespace Runs

variable {α : Type}

/-- The run that an entry spells. -/
def entry (value : Chars → α) (s : Chars) : Run α :=
  let isHex := fun c => (hexValue? c).isSome
  { first := (ofHexDigits? (s.takeWhile isHex)).getD 0, value := value (s.dropWhile isHex) }

/-- The table that a text spells, given how the values are spelled. -/
def ofText (value : Chars → α) (s : String) : Runs α :=
  ((words s.toList).map (entry value)).toArray

/-- The last of the runs with positions from `low` to before `high` that starts at a code point
or before it. -/
def lastFrom (runs : Runs α) (n low high : Nat) : Option (Run α) :=
  if low + 1 < high then
    let middle := (low + high) / 2
    if runs[middle]?.any (·.first ≤ n) then lastFrom runs n middle high
    else lastFrom runs n low middle
  else runs[low]?.filter (·.first ≤ n)
termination_by high - low

/-- The run that a code point lies in. -/
def at? (runs : Runs α) (n : Nat) : Option (Run α) :=
  lastFrom runs n 0 runs.size

/-- The value for a character, or `usual` if the table does not go down to it. -/
def valueAt (runs : Runs α) (usual : α) (c : Char) : α :=
  ((runs.at? c.toNat).map Run.value).getD usual

theorem first_le_of_lastFrom {runs : Runs α} {n low high : Nat} {r : Run α}
    (h : lastFrom runs n low high = some r) : r.first ≤ n := by
  fun_induction lastFrom runs n low high with
  | case1 low high _ middle _ ih => exact ih h
  | case2 low high _ middle _ ih => exact ih h
  | case3 low high _ => simpa using (Option.filter_eq_some_iff.1 h).2

/-- A run that is found does not start after the code point. -/
theorem first_le_of_at? {runs : Runs α} {n : Nat} {r : Run α} (h : runs.at? n = some r) :
    r.first ≤ n :=
  first_le_of_lastFrom h

end Runs

end LootLedger.Text
