import LootLedger.Price.Identifier
import LootLedger.Proofs.Category.LongestBase
import LootLedger.Proofs.Category.Rules

/-!
# The base type of magic equipment

A magic item that reports no base type has one in its type line, between the names of its affixes.
Two searches look for it. Classification looks for a category: first in the type line without its
quality words, and then once more in the whole type line. The identifier looks for a name, in the
type line without quality words only.

They meet the same base type. The second search of classification takes the quality words off before
it begins, so it is the first one over again. And of all rules of classification only the last one
answers with gear, so a category of gear was found by no other way.

## Main results

* `Item.ofEquipment?_of_givenBase_eq_empty`: what classification finds
* `Item.equipmentBase_of_magic`: what the identifier finds
* `Item.baseId?_of_mem_gear`: both have the base type in common
-/

namespace LootLedger

/-- What is priced by its base type is gear. -/
theorem Classification.mem_gear_of_isEquipment {c : Classification} (h : c.isEquipment = true) :
    c.category ∈ Category.gear := by
  simp only [isEquipment, Bool.or_eq_true, List.contains_iff_mem] at h
  simp only [Category.gear, List.mem_append]
  exact .inl (.inl h)

namespace Item

variable {item : Item}

/-! ### The two searches -/

/-- **What classification finds** without a base type: the longest one in the type line without its
quality words. -/
theorem ofEquipment?_of_givenBase_eq_empty (h : item.givenBase = "") :
    Classification.ofEquipment? item (BaseName.withoutQuality item.baseType) =
      (BaseName.longestIn? (BaseName.withoutQuality item.typeLine)).map
        fun entry => { category := entry.2 } := by
  rw [Classification.ofEquipment?, BaseName.equipment?_withoutQuality, baseType_eq_typeLine h,
    Option.or_self, BaseName.equipment?_eq_map_longestIn?, Option.map_map]
  rfl

/-- **What the identifier finds**, if there is anything to find. -/
theorem equipmentBase_of_magic (hmagic : item.rarity = .magic) (hidentified : item.identified = true)
    (h : item.givenBase = "") {entry : String × Category}
    (hentry : BaseName.longestIn? (BaseName.withoutQuality item.typeLine) = some entry) :
    item.equipmentBase = entry.1 := by
  simp [equipmentBase, h, hmagic, hidentified, hentry]

/-! ### What they have in common -/

/-- **Category and identifier name the same base type.** Take an identified magic item without a base
type that is classified as gear, so as armour, a weapon or an accessory, a jewel or a flask, and has a
level from which base types are priced. Its identifier begins with a base type from its type line, and
the category of that base type is the one that the item is given. -/
theorem baseId?_of_mem_gear {c : Classification} (hmagic : item.rarity = .magic)
    (hidentified : item.identified = true) (hbase : item.givenBase = "")
    (hlevel : 82 ≤ item.itemLevel.toNat) (hclass : item.classify? = some c)
    (hgear : c.category ∈ Category.gear) :
    ∃ base, BaseName.equipmentBases.lookup base = some c.category ∧
      Text.contains item.typeLine base = true ∧
      item.baseId? = some (base ++ " " ++ numeral (min item.itemLevel.toNat 86) ++
        item.influenceMark) := by
  obtain ⟨-, -, -, -, hequipment⟩ := classify?_of_gear hclass hgear
  rw [ofEquipment?_of_givenBase_eq_empty hbase] at hequipment
  obtain ⟨entry, hentry, rfl⟩ := Option.map_eq_some_iff.mp hequipment
  have hlongest := BaseName.longestIn?_eq_some_iff.mp hentry
  refine ⟨entry.1, lookup_eq_some_of_mem BaseName.nodup_equipmentBases hlongest.mem, ?_, ?_⟩
  · have hin := Text.contains_iff.mp hlongest.contains
    rw [BaseName.withoutQuality, String.toList_ofList] at hin
    exact Text.contains_iff.mpr (hin.trans (BaseName.withoutQualityChars_suffix _).isInfix)
  · rw [baseId?, equipmentBase_of_magic hmagic hidentified hbase hentry]
    exact if_neg (Nat.not_lt.mpr hlevel)

/-- A ring with the name of another ring in front, above the highest level that is told apart. -/
theorem baseId?_of_mem_gear_ring :
    let item : Item := { typeLine := "Superior Gold Ring Two-Stone Ring of the Lynx", rarity := .magic,
                         itemLevel := 100, influenced := (· = .elder) }
    let c : Classification := { category := .rings }
    item.rarity = .magic ∧ item.identified = true ∧ item.givenBase = "" ∧
      82 ≤ item.itemLevel.toNat ∧ item.classify? = some c ∧ c.category ∈ Category.gear ∧
      ∃ base, BaseName.equipmentBases.lookup base = some .rings ∧
        Text.contains item.typeLine base = true ∧
        item.baseId? = some (base ++ " " ++ numeral 86 ++ " Elder") := by
  intro item c
  have hlevel : 82 ≤ item.itemLevel.toNat := by decide
  have hclass : item.classify? = some c := by decide +kernel
  have hgear : c.category ∈ Category.gear := Classification.mem_gear_of_isEquipment (by decide)
  exact ⟨rfl, rfl, rfl, hlevel, hclass, hgear,
    baseId?_of_mem_gear rfl rfl rfl hlevel hclass hgear⟩

end Item

end LootLedger
