import LootLedger.Category.Classify
import LootLedger.Entries

/-!
# What the rules of classification can answer

The rules that give an item its category are asked one after another, and each has categories of its
own to answer with. The last one looks for base types of equipment, so its answers are gear: armour,
weapons, accessories, jewels and flasks. The one before it looks at the shape of the name, and only
it can answer that an item is a map. What the other rules answer is neither.

So a category tells which rules had no answer. One of them asks for the rarity, and knows every item
with a frame beyond those of equipment and relics. Gear is therefore never found in such a frame,
whatever base type is in its name.

## Main definitions

* `Category.gear`: the categories of base types of equipment
* `Category.IsGoods`: neither gear nor a map

## Main results

* `Classification.ofRarity?_isGoods` and its companions: what each rule answers with
* `Item.classify?_of_gear`: gear is what no rule but the last one knows
* `Item.rarity_of_not_isGoods`: the rarities of gear and maps
-/

namespace LootLedger

namespace Category

/-- What is known by a base type of equipment. -/
def gear : List Category :=
  armours ++ accessories ++ weapons ++ jewels ++ [flasks]

/-- Neither gear nor a map. -/
def IsGoods (category : Category) : Prop :=
  category ≠ .maps ∧ category ∉ gear

instance (category : Category) : Decidable category.IsGoods :=
  inferInstanceAs (Decidable (_ ∧ _))

theorem IsGoods.ne_maps {category : Category} (h : category.IsGoods) : category ≠ .maps :=
  h.1

theorem IsGoods.notMem_gear {category : Category} (h : category.IsGoods) : category ∉ gear :=
  h.2

end Category

/-! ### Names in tables -/

theorem BaseName.equipment?_mem_gear {name : String} {category : Category}
    (h : equipment? name = some category) : category ∈ Category.gear := by
  have htable : ∀ entry ∈ equipmentBases, entry.2 ∈ Category.gear := by decide +kernel
  rw [equipment?] at h
  split at h
  · next hlookup =>
    cases h
    exact htable _ (mem_of_lookup hlookup)
  · obtain ⟨entry, hlongest, rfl⟩ := Option.map_eq_some_iff.mp h
    exact htable entry (List.mem_filter.mp (mem_of_lastGreatest hlongest)).1

namespace Classification

variable {item : Item} {base : String} {c : Classification}

/-! ### The rules before the last one -/

theorem ofMarker?_isGoods {typeLine : String} (h : ofMarker? typeLine = some c) :
    c.category.IsGoods := by
  have htable : ∀ entry ∈ BaseName.typeMarkers, entry.2.IsGoods := by decide
  obtain ⟨entry, hfind, rfl⟩ := Option.map_eq_some_iff.mp h
  exact htable entry (List.mem_of_find?_eq_some hfind)

theorem otherBases_isGoods (h : BaseName.otherBases.lookup base = some c) :
    c.category.IsGoods := by
  have htable : ∀ entry ∈ BaseName.otherBases, entry.2.category.IsGoods := by decide +kernel
  exact htable _ (mem_of_lookup h)

theorem ofGem_isGoods (base : String) : (ofGem base).category.IsGoods := by
  have htable : ∀ entry ∈ BaseName.gemBases, entry.2.category.IsGoods := by decide
  rw [ofGem]
  split
  · next hlookup => exact htable _ (mem_of_lookup hlookup)
  · split
    · split <;> decide
    · split <;> decide

theorem currencyKind_isGoods (base : String) : (currencyKind base).IsGoods := by
  have hsuffixes : ∀ entry ∈ BaseName.currencySuffixes, entry.2.IsGoods := by decide
  have hprefixes : ∀ entry ∈ BaseName.currencyPrefixes, entry.2.IsGoods := by decide
  rw [currencyKind]
  split
  · next hentry =>
    obtain hsuffix | ⟨-, hprefix⟩ := Option.or_eq_some_iff.mp hentry
    · exact hsuffixes _ (List.mem_of_find?_eq_some hsuffix)
    · exact hprefixes _ (List.mem_of_find?_eq_some hprefix)
  · split <;> decide

theorem ofStackable?_isGoods (h : ofStackable? base = some c) : c.category.IsGoods := by
  rw [ofStackable?] at h
  split at h
  · cases h
    decide
  · split at h <;> cases h
    decide

theorem ofRarity?_isGoods (h : ofRarity? item base = some c) : c.category.IsGoods := by
  rw [ofRarity?] at h
  split at h
  · cases h
    exact ofGem_isGoods base
  · cases h; decide
  · cases h; decide
  · cases h; decide
  · split at h
    · cases h; decide
    split at h
    · cases h
      show Category.IsGoods .harvestSeed
      decide
    split at h
    · cases h; decide
    split at h <;> cases h
    cases hstack : ofStackable? base with
    | none => exact currencyKind_isGoods base
    | some c => exact ofStackable?_isGoods hstack

/-- The rule that looks at the shape of a name may answer that it is a map, but never with gear. -/
theorem ofShape?_notMem_gear (h : ofShape? item base = some c) : c.category ∉ Category.gear := by
  rw [ofShape?] at h
  split at h
  · next hstack =>
    cases h
    exact (ofStackable?_isGoods hstack).notMem_gear
  · split at h
    · cases h; decide
    split at h
    · cases h; decide
    split at h
    · cases h; decide
    split at h <;> cases h
    decide

/-- The frames beyond those of equipment and relics tell a category by themselves. -/
theorem rarity_of_ofRarity?_eq_none (h : ofRarity? item base = none) :
    item.rarity.isClassic = true ∨ item.rarity = .relic := by
  cases hrarity : item.rarity with
  | normal | magic | rare | unique => exact .inl rfl
  | relic => exact .inr rfl
  | gem | divinationCard | quest | prophecy => simp [ofRarity?, hrarity] at h
  | currency =>
    simp only [ofRarity?, hrarity] at h
    split at h
    · cases h
    split at h
    · cases h
    split at h <;> simp at h

/-! ### The last rule -/

theorem ofEquipment?_mem_gear (h : ofEquipment? item base = some c) :
    c.category ∈ Category.gear := by
  obtain ⟨category, hname, rfl⟩ := Option.map_eq_some_iff.mp h
  obtain hbase | ⟨-, htype⟩ := Option.or_eq_some_iff.mp hname
  · exact BaseName.equipment?_mem_gear hbase
  · exact BaseName.equipment?_mem_gear htype

end Classification

/-! ### Items -/

namespace Item

variable {item : Item} {c : Classification}

/-- The answer is that of the first rule that has one. -/
theorem classify?_eq_some_iff :
    item.classify? = some c ↔
      Classification.ofMarker? item.typeLine = some c ∨
      Classification.ofMarker? item.typeLine = none ∧
        (BaseName.otherBases.lookup (BaseName.withoutQuality item.baseType) = some c ∨
        BaseName.otherBases.lookup (BaseName.withoutQuality item.baseType) = none ∧
          (Classification.ofRarity? item (BaseName.withoutQuality item.baseType) = some c ∨
          Classification.ofRarity? item (BaseName.withoutQuality item.baseType) = none ∧
            (Classification.ofShape? item (BaseName.withoutQuality item.baseType) = some c ∨
            Classification.ofShape? item (BaseName.withoutQuality item.baseType) = none ∧
              Classification.ofEquipment? item (BaseName.withoutQuality item.baseType) =
                some c))) := by
  simp only [classify?, Option.or_eq_some_iff]

/-- **Gear** is what no rule but the last one knows. -/
theorem classify?_of_gear (h : item.classify? = some c) (hgear : c.category ∈ Category.gear) :
    Classification.ofMarker? item.typeLine = none ∧
      BaseName.otherBases.lookup (BaseName.withoutQuality item.baseType) = none ∧
      Classification.ofRarity? item (BaseName.withoutQuality item.baseType) = none ∧
      Classification.ofShape? item (BaseName.withoutQuality item.baseType) = none ∧
      Classification.ofEquipment? item (BaseName.withoutQuality item.baseType) = some c := by
  obtain hmarker | ⟨hmarker, hbases | ⟨hbases, hrarity | ⟨hrarity, hshape | ⟨hshape, hequip⟩⟩⟩⟩ :=
    classify?_eq_some_iff.mp h
  · exact absurd hgear (Classification.ofMarker?_isGoods hmarker).notMem_gear
  · exact absurd hgear (Classification.otherBases_isGoods hbases).notMem_gear
  · exact absurd hgear (Classification.ofRarity?_isGoods hrarity).notMem_gear
  · exact absurd hgear (Classification.ofShape?_notMem_gear hshape)
  · exact ⟨hmarker, hbases, hrarity, hshape, hequip⟩

/-- An item with any other frame is known by a rule before the last one, and is no map. -/
theorem exists_classify?_isGoods
    (h : ¬ (item.rarity.isClassic = true ∨ item.rarity = .relic)) :
    ∃ c, item.classify? = some c ∧ c.category.IsGoods := by
  cases hmarker : Classification.ofMarker? item.typeLine with
  | some c =>
    exact ⟨c, classify?_eq_some_iff.mpr (.inl hmarker), Classification.ofMarker?_isGoods hmarker⟩
  | none =>
    cases hbases : BaseName.otherBases.lookup (BaseName.withoutQuality item.baseType) with
    | some c =>
      exact ⟨c, classify?_eq_some_iff.mpr (.inr ⟨hmarker, .inl hbases⟩),
        Classification.otherBases_isGoods hbases⟩
    | none =>
      obtain ⟨c, hrarity⟩ := Option.ne_none_iff_exists'.mp
        (mt Classification.rarity_of_ofRarity?_eq_none h)
      exact ⟨c, classify?_eq_some_iff.mpr (.inr ⟨hmarker, .inr ⟨hbases, .inl hrarity⟩⟩),
        Classification.ofRarity?_isGoods hrarity⟩

/-- **The rarities of gear and maps** are those that equipment rolls with, and that of relics. -/
theorem rarity_of_not_isGoods (h : item.classify? = some c) (hgoods : ¬ c.category.IsGoods) :
    item.rarity.isClassic = true ∨ item.rarity = .relic := by
  refine Decidable.byContradiction fun hrarity => ?_
  obtain ⟨c', hc', hgoods'⟩ := exists_classify?_isGoods hrarity
  obtain rfl := Option.some.inj (h.symm.trans hc')
  exact hgoods hgoods'

end Item

end LootLedger
