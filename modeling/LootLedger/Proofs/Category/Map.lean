import LootLedger.Proofs.Category.Rules

/-!
# Which items are maps

Of the rules that give an item its category, only one can answer that it is a map: the one that
looks at the shape of the name. The rules before it have categories of their own, and so has the one
after it. So an item is a map exactly if no earlier rule knows it and it has a tier, or the word for
maps in its type line.

One of the earlier rules asks for the rarity, and knows every item with a frame beyond those of
equipment and relics. Such an item is never a map, whatever it is called and whatever tier it
claims.

## Main definitions

* `Item.IsMap`: the item is classified as a map
* `Item.LooksLikeMap`: it has a tier, or the word for maps in its type line

## Main results

* `Item.isMap_iff`: which items are maps
* `Item.IsMap.rarity`: maps have a rarity that equipment rolls with, or are relics
-/

namespace LootLedger

/-- The item has a tier, or the word for maps in its type line. -/
def Item.LooksLikeMap (item : Item) : Prop :=
  0 < item.mapTier ∨ "Map".toList ∈ Text.splitAtChar ' ' item.typeLine.toList

/-- The item is classified as a map. -/
def Item.IsMap (item : Item) : Prop :=
  item.classify?.map (·.category) = some .maps

namespace Classification

variable {item : Item} {base : String} {c : Classification}

/-! ### The rule that knows maps -/

theorem looksLikeMap_iff :
    (0 < item.mapTier || (Text.splitAtChar ' ' item.typeLine.toList).contains "Map".toList) = true ↔
      item.LooksLikeMap := by
  simp [Item.LooksLikeMap]

theorem ofShape?_of_looksLikeMap (hstack : ofStackable? base = none) (h : item.LooksLikeMap) :
    ofShape? item base = some { category := .maps } := by
  rw [ofShape?, hstack]
  exact if_pos (looksLikeMap_iff.mpr h)

theorem looksLikeMap_of_ofShape? (h : ofShape? item base = some c) (hmaps : c.category = .maps) :
    ofStackable? base = none ∧ item.LooksLikeMap := by
  rw [ofShape?] at h
  split at h
  · next hstack =>
    cases h
    exact absurd hmaps (ofStackable?_isGoods hstack).ne_maps
  · next hstack =>
    refine ⟨hstack, ?_⟩
    split at h
    · next hlooks => exact looksLikeMap_iff.mp hlooks
    -- What is left are the marks of other categories.
    split at h
    · cases h; cases hmaps
    split at h
    · cases h; cases hmaps
    split at h <;> cases h
    cases hmaps

end Classification

/-! ### Maps -/

namespace Item

variable {item : Item}

/-- **Which items are maps.** An item is a map exactly if no rule that comes before knows it and it
has a tier, or the word for maps in its type line. -/
theorem isMap_iff :
    item.IsMap ↔
      Classification.ofMarker? item.typeLine = none ∧
        BaseName.otherBases.lookup (BaseName.withoutQuality item.baseType) = none ∧
        Classification.ofRarity? item (BaseName.withoutQuality item.baseType) = none ∧
        Classification.ofStackable? (BaseName.withoutQuality item.baseType) = none ∧
        item.LooksLikeMap := by
  constructor
  · intro h
    obtain ⟨c, hc, hmaps⟩ := Option.map_eq_some_iff.mp h
    obtain hmarker | ⟨hmarker, hbases | ⟨hbases, hrarity | ⟨hrarity, hshape | ⟨-, hequip⟩⟩⟩⟩ :=
      classify?_eq_some_iff.mp hc
    · exact absurd hmaps (Classification.ofMarker?_isGoods hmarker).ne_maps
    · exact absurd hmaps (Classification.otherBases_isGoods hbases).ne_maps
    · exact absurd hmaps (Classification.ofRarity?_isGoods hrarity).ne_maps
    · exact ⟨hmarker, hbases, hrarity, Classification.looksLikeMap_of_ofShape? hshape hmaps⟩
    · exact absurd (Classification.ofEquipment?_mem_gear hequip) (hmaps ▸ by decide)
  · rintro ⟨hmarker, hbases, hrarity, hstack, hlooks⟩
    rw [IsMap, classify?, hmarker, hbases, hrarity,
      Classification.ofShape?_of_looksLikeMap hstack hlooks]
    rfl

/-- Maps have a rarity that equipment rolls with, or are relics. -/
theorem IsMap.rarity (h : item.IsMap) :
    item.rarity.isClassic = true ∨ item.rarity = .relic := by
  obtain ⟨c, hc, hmaps⟩ := Option.map_eq_some_iff.mp h
  exact rarity_of_not_isGoods hc fun hgoods => hgoods.ne_maps hmaps

end Item

end LootLedger
