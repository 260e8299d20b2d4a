/-!
# Categories

The market category of an item, and the families that categories form. Some categories are
divided further; the subcategory is then what the market lists.

## Main definitions

* `Category`, `Category.name`
* `Classification`: a category with its subcategory
* `Classification.isEquipment`, `Classification.isJewel`, `Classification.isGem`
-/

namespace LootLedger

/-- A market category. -/
inductive Category
  | currency
  | oil
  | fossil
  | resonator
  | essence
  | deliriumOrb
  | catalyst
  | vial
  | incubator
  | harvestSeed
  | watchstone
  | mapFragments
  | maps
  | divinationCard
  | prophecy
  | questItems
  | activeGems
  | supportGems
  | pantheonSoul
  | trinkets
  | capturedBeast
  | metamorphSample
  | harbingerPiece
  | contract
  | blueprint
  | helmets
  | bodyArmours
  | gloves
  | boots
  | shields
  | quivers
  | amulets
  | rings
  | belts
  | jewel
  | abyssJewel
  | clusterJewel
  | flasks
  | bows
  | claws
  | daggers
  | runeDaggers
  | oneHandAxes
  | oneHandMaces
  | oneHandSwords
  | thrustingSwords
  | sceptres
  | staves
  | warstaves
  | twoHandAxes
  | twoHandMaces
  | twoHandSwords
  | wands
  | fishingRods
  deriving DecidableEq, Repr

namespace Category

/-- The name on display. -/
def name : Category → String
  | currency => "Currency"
  | oil => "Oil"
  | fossil => "Fossil"
  | resonator => "Resonator"
  | essence => "Essence"
  | deliriumOrb => "Delirium Orb"
  | catalyst => "Catalyst"
  | vial => "Vial"
  | incubator => "Incubator"
  | harvestSeed => "Harvest Seed"
  | watchstone => "Watchstone"
  | mapFragments => "Map Fragments"
  | maps => "Maps"
  | divinationCard => "Divination Card"
  | prophecy => "Prophecy"
  | questItems => "Quest Items"
  | activeGems => "Active Skill Gems"
  | supportGems => "Support Skill Gems"
  | pantheonSoul => "Pantheon Soul"
  | trinkets => "Trinkets"
  | capturedBeast => "Captured Beast"
  | metamorphSample => "Metamorph Sample"
  | harbingerPiece => "Harbinger Item Piece"
  | contract => "Contract"
  | blueprint => "Blueprint"
  | helmets => "Helmets"
  | bodyArmours => "Body Armours"
  | gloves => "Gloves"
  | boots => "Boots"
  | shields => "Shields"
  | quivers => "Quivers"
  | amulets => "Amulets"
  | rings => "Rings"
  | belts => "Belts"
  | jewel => "Jewel"
  | abyssJewel => "Abyss Jewel"
  | clusterJewel => "Cluster Jewel"
  | flasks => "Flasks"
  | bows => "Bows"
  | claws => "Claws"
  | daggers => "Daggers"
  | runeDaggers => "Rune Daggers"
  | oneHandAxes => "One Hand Axes"
  | oneHandMaces => "One Hand Maces"
  | oneHandSwords => "One Hand Swords"
  | thrustingSwords => "Thrusting One Hand Swords"
  | sceptres => "Sceptres"
  | staves => "Staves"
  | warstaves => "Warstaves"
  | twoHandAxes => "Two Hand Axes"
  | twoHandMaces => "Two Hand Maces"
  | twoHandSwords => "Two Hand Swords"
  | wands => "Wands"
  | fishingRods => "Fishing Rods"

/-- Armour and quivers. -/
def armours : List Category :=
  [helmets, bodyArmours, gloves, boots, shields, quivers]

/-- Amulets, rings and belts. -/
def accessories : List Category :=
  [amulets, rings, belts]

/-- The kinds of jewels. -/
def jewels : List Category :=
  [jewel, abyssJewel, clusterJewel]

/-- The kinds of weapons. -/
def weapons : List Category :=
  [bows, claws, daggers, runeDaggers, oneHandAxes, oneHandMaces, oneHandSwords, thrustingSwords,
    sceptres, staves, warstaves, twoHandAxes, twoHandMaces, twoHandSwords, wands, fishingRods]

end Category

/-- The category of an item, and the subcategory where it has one. -/
structure Classification where
  category : Category
  subcategory : Option String := none
  deriving DecidableEq, Repr

namespace Classification

/-- The name of the subcategory if it is asked for and there is one, else of the category. -/
def resolve (c : Classification) (wantSubcategory : Bool) : String :=
  if wantSubcategory then c.subcategory.getD c.category.name else c.category.name

/-- Armour, accessories and weapons, which are priced by their base types. -/
def isEquipment (c : Classification) : Bool :=
  Category.armours.contains c.category || Category.accessories.contains c.category ||
    Category.weapons.contains c.category

/-- A jewel of any kind. -/
def isJewel (c : Classification) : Bool :=
  Category.jewels.contains c.category

/-- A skill gem, active or support. -/
def isGem (c : Classification) : Bool :=
  c.category = .activeGems || c.category = .supportGems

end Classification

end LootLedger
