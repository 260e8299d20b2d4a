import LootLedger.Category.Basic

/-!
# Sections of a price table

A market snapshot lists its values in sections, each under a key of its own. The category of an
item tells the section in which it is listed.

## Main definitions

* `MarketSection`, `MarketSection.key`, `MarketSection.all`
* `MarketSection.ofUnique?`, `MarketSection.ofCurrency`
-/

namespace LootLedger

/-- A section of a price table. -/
inductive MarketSection
  | currency
  | fragment
  | scarab
  | oil
  | incubator
  | fossil
  | resonator
  | essence
  | deliriumOrb
  | vial
  | seed
  | watchstone
  | divinationCard
  | prophecy
  | skillGem
  | baseType
  | helmetEnchant
  | map
  | uniqueMap
  | uniqueJewel
  | uniqueFlask
  | uniqueWeapon
  | uniqueArmour
  | uniqueAccessory
  deriving DecidableEq, Repr

namespace MarketSection

/-- All sections, in display order. -/
def all : List MarketSection :=
  [currency, fragment, scarab, oil, incubator, fossil, resonator, essence, deliriumOrb, vial,
    seed, watchstone, divinationCard, prophecy, skillGem, baseType, helmetEnchant, map, uniqueMap,
    uniqueJewel, uniqueFlask, uniqueWeapon, uniqueArmour, uniqueAccessory]

/-- The key of the section in a price table. -/
def key : MarketSection → String
  | currency => "Currency"
  | fragment => "Fragment"
  | scarab => "Scarab"
  | oil => "Oil"
  | incubator => "Incubator"
  | fossil => "Fossil"
  | resonator => "Resonator"
  | essence => "Essence"
  | deliriumOrb => "DeliriumOrb"
  | vial => "Vial"
  | seed => "Seed"
  | watchstone => "Watchstone"
  | divinationCard => "DivinationCard"
  | prophecy => "Prophecy"
  | skillGem => "SkillGem"
  | baseType => "BaseType"
  | helmetEnchant => "HelmetEnchant"
  | map => "Map"
  | uniqueMap => "UniqueMap"
  | uniqueJewel => "UniqueJewel"
  | uniqueFlask => "UniqueFlask"
  | uniqueWeapon => "UniqueWeapon"
  | uniqueArmour => "UniqueArmour"
  | uniqueAccessory => "UniqueAccessory"

/-- The section of a unique item. -/
def ofUnique? (c : Classification) : Option MarketSection :=
  if c.isJewel then some uniqueJewel
  else if c.category = .flasks then some uniqueFlask
  else if c.category = .maps then some uniqueMap
  else if Category.weapons.contains c.category then some uniqueWeapon
  else if Category.armours.contains c.category then some uniqueArmour
  else if Category.accessories.contains c.category then some uniqueAccessory
  else none

/-- The section of a stackable item. Catalysts, and all else without a section of its own, are
listed with plain currency. -/
def ofCurrency : Option Category → MarketSection
  | some .oil => oil
  | some .fossil => fossil
  | some .resonator => resonator
  | some .essence => essence
  | some .deliriumOrb => deliriumOrb
  | some .vial => vial
  | some .incubator => incubator
  | some .harvestSeed => seed
  | _ => currency

end MarketSection

end LootLedger
