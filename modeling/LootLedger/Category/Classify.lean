import LootLedger.Category.Equipment
import LootLedger.Item.Basic

/-!
# Classifying items

Which category an item belongs to. The rules are tried in a fixed order: marks in the type line,
base types that decide by themselves, the rarity, the shape of the name, the icon, and last the
base types of equipment. An item that no rule knows has no category.

## Main definitions

* `Item.classify?`
* `Item.category?`: the name of the category or subcategory
-/

namespace LootLedger

namespace Classification

/-- The class of a gem. -/
def ofGem (base : String) : Classification :=
  match BaseName.gemBases.lookup base with
  | some c => c
  | none =>
    if Text.ends base " Support" then
      if Text.begins base "Awakened " then
        { category := .supportGems, subcategory := some "Awakened" }
      else { category := .supportGems }
    else if Text.begins base "Vaal " then
      { category := .activeGems, subcategory := some "Vaal" }
    else { category := .activeGems }

/-- The tier of a seed: the word in front of a name that ends like a seed's. -/
def seedTier? (base : String) : Option String :=
  if BaseName.seedKinds.any fun kind => Text.ends base kind then
    BaseName.seedTiers.find? fun tier => Text.begins base (tier ++ " ")
  else none

/-- The kind of a currency item. -/
def currencyKind (base : String) : Category :=
  let bySuffix := BaseName.currencySuffixes.find? fun entry => Text.ends base entry.1
  let byPrefix := BaseName.currencyPrefixes.find? fun entry => Text.begins base entry.1
  match bySuffix.or byPrefix with
  | some (_, kind) => kind
  | none => if Text.contains base BaseName.essenceMarker then .essence else .currency

/-- The class of scarabs and incubators, which come with several rarities. -/
def ofStackable? (base : String) : Option Classification :=
  if Text.ends base " Scarab" then
    some { category := .mapFragments, subcategory := some "Scarab" }
  else if Text.ends base " Incubator" then some { category := .incubator }
  else none

/-- What the rarity tells, with the few names that come before it is asked about currency. -/
def ofRarity? (item : Item) (base : String) : Option Classification :=
  match item.rarity with
  | .gem => some (ofGem base)
  | .divinationCard => some { category := .divinationCard }
  | .quest => some { category := .questItems }
  | .prophecy => some { category := .prophecy }
  | _ =>
    if Text.begins item.typeLine "Captured Soul of " then some { category := .pantheonSoul }
    else
      match seedTier? base with
      | some tier => some { category := .harvestSeed, subcategory := some tier }
      | none =>
        if item.itemClass = "Labyrinth Trinket" || Text.ends base " Trinket" then
          some { category := .trinkets }
        else if item.rarity = .currency then
          some ((ofStackable? base).getD { category := currencyKind base })
        else none

/-- What name and icon tell. -/
def ofShape? (item : Item) (base : String) : Option Classification :=
  match ofStackable? base with
  | some c => some c
  | none =>
    if 0 < item.mapTier || (Text.splitAtChar ' ' item.typeLine.toList).contains "Map".toList then
      some { category := .maps }
    else if Text.contains item.typeLine " Piece of " then some { category := .harbingerPiece }
    else if Text.contains item.icon "BestiaryOrbFull" then some { category := .capturedBeast }
    else if Text.contains item.icon "Metamorphosis" then some { category := .metamorphSample }
    else none

/-- The category that a mark in a type line tells. -/
def ofMarker? (typeLine : String) : Option Classification :=
  (BaseName.typeMarkers.find? fun entry => Text.contains typeLine entry.1).map
    fun entry => { category := entry.2 }

/-- The category of equipment that base type or type line tells. -/
def ofEquipment? (item : Item) (base : String) : Option Classification :=
  ((BaseName.equipment? base).or (BaseName.equipment? item.typeLine)).map
    fun category => { category }

end Classification

namespace Item

/-- The class of an item: the answer of the first rule that knows it. -/
def classify? (item : Item) : Option Classification :=
  let base := BaseName.withoutQuality item.baseType
  (Classification.ofMarker? item.typeLine).or <|
    (BaseName.otherBases.lookup base).or <|
      (Classification.ofRarity? item base).or <|
        (Classification.ofShape? item base).or (Classification.ofEquipment? item base)

/-- The name of the category, or of the subcategory where it is asked for and there is one. -/
def category? (item : Item) (wantSubcategory : Bool) : Option String :=
  item.classify?.map (·.resolve wantSubcategory)

end Item

end LootLedger
