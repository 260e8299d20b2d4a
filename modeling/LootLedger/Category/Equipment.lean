import LootLedger.Category.BaseName
import LootLedger.Selection
import LootLedger.Text.Split

/-!
# Base types in names

Finding the base type of equipment that a name holds. A name may have quality words in front,
which are taken off, and magic affixes around the base type, which a search for the longest
contained base type sees through. Lengths are counted in bytes.

## Main definitions

* `BaseName.withoutQuality`
* `BaseName.longestIn?`: the longest base type contained in a name
* `BaseName.equipment?`: the category of equipment that a name tells
-/

namespace LootLedger.BaseName

open Text (Chars)

/-- The rest of a name after one quality word in front of it. -/
def dropQuality? (name : Chars) : Option Chars :=
  qualityPrefixes.findSome? fun word => Text.dropPrefix? word.toList name

theorem length_lt_of_dropQuality? {name rest : Chars} (h : dropQuality? name = some rest) :
    rest.length < name.length := by
  obtain ⟨word, hword, hdrop⟩ := List.exists_of_findSome?_eq_some h
  have hne : word.toList ≠ [] := by
    simp only [qualityPrefixes, List.mem_cons, List.not_mem_nil, or_false] at hword
    rcases hword with rfl | rfl | rfl | rfl | rfl <;> decide
  have hlen := congrArg List.length (Text.eq_append_of_dropPrefix? hdrop)
  have hpos := List.length_pos_iff.2 hne
  simp only [List.length_append] at hlen
  omega

/-- The name after all quality words in front of it. -/
def withoutQualityChars (name : Chars) : Chars :=
  match _h : dropQuality? name with
  | some rest => withoutQualityChars rest
  | none => name
termination_by name.length
decreasing_by exact length_lt_of_dropQuality? _h

/-- The name after all quality words in front of it. -/
def withoutQuality (name : String) : String :=
  String.ofList (withoutQualityChars name.toList)

/-- The longest base type that a name contains, the last listed of equally long ones, with its
category. -/
def longestIn? (name : String) : Option (String × Category) :=
  lastGreatest (fun entry => entry.1.utf8ByteSize)
    (equipmentBases.filter fun entry => Text.contains name entry.1)

/-- The category of equipment that a name tells: of the base type that it is, but for quality
words, or else of the longest base type that it contains. -/
def equipment? (name : String) : Option Category :=
  let name := withoutQuality name
  match equipmentBases.lookup name with
  | some category => some category
  | none => (longestIn? name).map (·.2)

end LootLedger.BaseName
