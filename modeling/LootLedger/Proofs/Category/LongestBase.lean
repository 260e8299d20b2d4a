import LootLedger.Entries
import LootLedger.Proofs.Category.Quality
import Mathlib.Data.List.Nodup

/-!
# The longest base type in a name

The category of equipment is looked up in two steps. A name that is a base type is found in the
table, and any other name is searched for base types. One could leave out the first step: a base type
contains nothing else that is as long as itself, so a search in it finds the base type, under the one
category that the table has for it. The first step is there to be quick.

The search itself can meet several base types. The longest counts, and of equally long ones the one
furthest down the table.

## Main definitions

* `BaseName.IsLongestIn`: an entry of the table whose base type is the longest in a name

## Main results

* `BaseName.longestIn?_eq_some_iff`, `BaseName.longestIn?_eq_none_iff`: what the search finds
* `BaseName.longestIn?_of_mem`: what it finds in a base type
* `BaseName.equipment?_eq_longestIn?`: both steps together are the search alone
-/

namespace LootLedger.BaseName

/-- An entry of the table with its base type in the name. No base type in the name is longer, and
those further down the table are shorter. -/
structure IsLongestIn (entry : String × Category) (name : String) : Prop where
  contains : Text.contains name entry.1 = true
  not_longer : ∀ e ∈ equipmentBases, Text.contains name e.1 = true →
    e.1.utf8ByteSize ≤ entry.1.utf8ByteSize
  shorter_after : ∃ before after, equipmentBases = before ++ entry :: after ∧
    ∀ e ∈ after, Text.contains name e.1 = true → e.1.utf8ByteSize < entry.1.utf8ByteSize

variable {name : String} {entry : String × Category}

theorem IsLongestIn.mem (h : IsLongestIn entry name) : entry ∈ equipmentBases := by
  obtain ⟨before, after, htable, -⟩ := h.shorter_after
  rw [htable]
  exact List.mem_append_right before List.mem_cons_self

/-! ### The search -/

/-- **The search finds the longest base type in the name.** -/
theorem longestIn?_eq_some_iff : longestIn? name = some entry ↔ IsLongestIn entry name := by
  rw [longestIn?, lastGreatest_filter_eq_some_iff]
  constructor
  · rintro ⟨before, after, htable, hcontains, hbefore, hafter⟩
    refine ⟨hcontains, fun e he hin => ?_, before, after, htable, hafter⟩
    rw [htable] at he
    obtain he | rfl | he : e ∈ before ∨ e = entry ∨ e ∈ after := by simpa using he
    · exact Nat.not_lt.mp (hbefore e he hin)
    · exact Nat.le_refl _
    · exact Nat.le_of_lt (hafter e he hin)
  · intro h
    obtain ⟨before, after, htable, hafter⟩ := h.shorter_after
    refine ⟨before, after, htable, h.contains, fun e he hin => ?_, hafter⟩
    exact Nat.not_lt.mpr (h.not_longer e (htable ▸ List.mem_append_left _ he) hin)

theorem longestIn?_eq_none_iff :
    longestIn? name = none ↔ ∀ e ∈ equipmentBases, Text.contains name e.1 = false := by
  simp only [longestIn?, lastGreatest_eq_none_iff, List.filter_eq_nil_iff, Bool.not_eq_true]

/-! ### Both steps -/

theorem nodup_equipmentBases : (equipmentBases.map Prod.fst).Nodup := by
  decide +kernel

/-- In a base type the search finds the base type. -/
theorem longestIn?_of_mem (h : entry ∈ equipmentBases) : longestIn? entry.1 = some entry := by
  have hfound : entry ∈ equipmentBases.filter fun e => Text.contains entry.1 e.1 :=
    List.mem_filter.mpr ⟨h, Text.contains_iff.mpr List.infix_rfl⟩
  refine lastGreatest_eq_some hfound fun e he => ?_
  obtain ⟨hmem, hin⟩ := List.mem_filter.mp he
  by_cases hsame : e.1 = entry.1
  · exact .inl (List.inj_on_of_nodup_map nodup_equipmentBases hmem h hsame)
  · exact .inr (Text.utf8ByteSize_lt_of_infix (Text.contains_iff.mp hin) hsame)

/-- The search alone tells the category. -/
theorem equipment?_eq_map_longestIn? (name : String) :
    equipment? name = (longestIn? (withoutQuality name)).map Prod.snd := by
  rw [equipment?]
  cases hlookup : equipmentBases.lookup (withoutQuality name) with
  | none => rfl
  | some category => rw [longestIn?_of_mem (mem_of_lookup hlookup), Option.map_some]

theorem equipment?_withoutQuality (name : String) :
    equipment? (withoutQuality name) = equipment? name := by
  rw [equipment?_eq_map_longestIn?, equipment?_eq_map_longestIn?, withoutQuality_withoutQuality]

/-- **Looking a name up first makes no difference.** The category of equipment that a name tells is
that of the longest base type in the name without its quality words, and what the search for the
longest base type answers is just that. -/
theorem equipment?_eq_longestIn? (name : String) :
    equipment? name = (longestIn? (withoutQuality name)).map Prod.snd ∧
      (∀ entry, longestIn? name = some entry ↔ IsLongestIn entry name) ∧
      (longestIn? name = none ↔ ∀ e ∈ equipmentBases, Text.contains name e.1 = false) :=
  ⟨equipment?_eq_map_longestIn? name, fun _ => longestIn?_eq_some_iff, longestIn?_eq_none_iff⟩

end LootLedger.BaseName
