import LootLedger.Proofs.Price.Precedence

/-!
# Relics and uniques

A relic is a unique in a frame of its own, and is worth what the unique is worth. This is not for want
of asking: rarities are asked for in many places, and in most of them uniques count among the frames
that equipment rolls with while relics do not.

Classification asks for the frames that tell a category by themselves, and takes all others alike. So
the category of an item is the same in all frames of equipment and in that of relics. Prices ask for
uniques and relics together, and that comes before all questions that would tell them apart.

## Main definitions

* `Item.withRarity`: the item in another frame
* `Classification.ofPhrase?`: what a name tells in a frame that tells nothing

## Main results

* `Item.classify?_withRarity`: frames that categories do not depend on
* `priceOf?_relic`: relics have the categories and prices of uniques
-/

namespace LootLedger

/-- The item in another frame. -/
def Item.withRarity (item : Item) (rarity : Rarity) : Item :=
  { item with rarity }

/-! ### Categories -/

/-- What the rule that asks for the rarity still answers where the frame tells nothing. -/
def Classification.ofPhrase? (item : Item) (base : String) : Option Classification :=
  if Text.begins item.typeLine "Captured Soul of " then some { category := .pantheonSoul }
  else
    match seedTier? base with
    | some tier => some { category := .harvestSeed, subcategory := some tier }
    | none =>
      if item.itemClass = "Labyrinth Trinket" || Text.ends base " Trinket" then
        some { category := .trinkets }
      else none

theorem Classification.ofRarity?_eq_ofPhrase? (item : Item) (base : String)
    (h : item.rarity.isClassic = true ∨ item.rarity = .relic) :
    ofRarity? item base = ofPhrase? item base := by
  cases hrarity : item.rarity with
  | normal | magic | rare | unique | relic =>
    simp only [ofRarity?, ofPhrase?, hrarity]
    cases seedTier? base <;> rfl
  | gem | currency | divinationCard | quest | prophecy =>
    simp [hrarity, Rarity.isClassic, Rarity.frame] at h

namespace Item

/-- **Frames that categories do not depend on** are those of equipment and of relics. -/
theorem classify?_withRarity (item : Item) {r r' : Rarity}
    (h : r.isClassic = true ∨ r = .relic) (h' : r'.isClassic = true ∨ r' = .relic) :
    (item.withRarity r).classify? = (item.withRarity r').classify? := by
  have hphrase (base : String) : Classification.ofRarity? (item.withRarity r) base =
      Classification.ofRarity? (item.withRarity r') base := by
    rw [Classification.ofRarity?_eq_ofPhrase? (item.withRarity r) base h,
      Classification.ofRarity?_eq_ofPhrase? (item.withRarity r') base h']
    rfl
  -- No other rule asks for the rarity.
  rw [classify?, hphrase]
  rfl

/-! ### Prices -/

theorem classify?_relic (item : Item) :
    (item.withRarity .relic).classify? = (item.withRarity .unique).classify? :=
  item.classify?_withRarity (.inr rfl) (.inl rfl)

theorem isWorthless_relic_iff (item : Item) :
    (item.withRarity .relic).IsWorthless ↔ (item.withRarity .unique).IsWorthless := by
  have hrelic : Rarity.relic ≠ .quest := by decide
  have hunique : Rarity.unique ≠ .quest := by decide
  rw [IsWorthless, IsWorthless, classify?_relic]
  exact or_congr (iff_of_false hrelic hunique) Iff.rfl

/-- The worth of what goes by a name of its own asks for the rarity no more. -/
theorem worth?_relic (item : Item) :
    (item.withRarity .relic).worth? = (item.withRarity .unique).worth? := by
  have hrelic : (item.withRarity .relic).IsNamed := .inr rfl
  have hunique : (item.withRarity .unique).IsNamed := .inl rfl
  by_cases hless : (item.withRarity .unique).IsWorthless
  · rw [worth?_of_isWorthless hless, worth?_of_isWorthless (item.isWorthless_relic_iff.mpr hless)]
  have hless' := mt item.isWorthless_relic_iff.mp hless
  by_cases hunit : item.typeLine = priceUnit
  · rw [worth?_of_isUnit hless hunit, worth?_of_isUnit hless' hunit]
    rfl
  · rw [worth?_of_isNamed hless hunit hunique, worth?_of_isNamed hless' hunit hrelic,
      classify?_relic]
    rfl

end Item

/-- **Relics are valued like uniques**, and have the same categories. This holds for every item, in
every table, and whether there is a price or none. -/
theorem priceOf?_relic [Money V] (item : Item) (table : PriceTable V) :
    priceOf? table (item.withRarity .relic) = priceOf? table (item.withRarity .unique) ∧
      (item.withRarity .relic).classify? = (item.withRarity .unique).classify? := by
  refine ⟨?_, item.classify?_relic⟩
  rw [priceOf?, priceOf?, item.worth?_relic]

end LootLedger
