import LootLedger.Category.Basic

/-!
# Names of base types

The tables from which categories are read: names that decide by themselves, markers in names, and
the base types of equipment. The order of a table matters where several entries can apply to one
name.

## Main definitions

* `typeMarkers`, `qualityPrefixes`, `otherBases`, `gemBases`
* `currencySuffixes`, `currencyPrefixes`, `seedTiers`, `seedKinds`
* `equipmentBases`: every base type of equipment with its category
-/

namespace LootLedger.BaseName

/-- Base types of one category. -/
def entries (category : Category) (names : List String) : List (String × Category) :=
  names.map (·, category)

/-- Base types of one category and subcategory. -/
def classes (category : Category) (subcategory : Option String) (names : List String) :
    List (String × Classification) :=
  names.map fun name => (name, { category, subcategory })

/-- Marks in type lines that come before all else. -/
def typeMarkers : List (String × Category) :=
  [("Contract: ", .contract), ("Blueprint: ", .blueprint)]

/-- Words in front of a base type that do not change what it is. -/
def qualityPrefixes : List String :=
  ["Superior ", "Synthesised ", "Anomalous ", "Divergent ", "Phantasmal "]

/-- Base types that neither rarity nor shape of the name tells. -/
def otherBases : List (String × Classification) :=
  classes .mapFragments (some "Labyrinth")
    ["Offering to the Goddess"] ++
  classes .mapFragments (some "Misc")
    ["Divine Vessel"] ++
  classes .mapFragments (some "Sacrifice")
    ["Sacrifice at Dawn", "Sacrifice at Dusk", "Sacrifice at Midnight", "Sacrifice at Noon"] ++
  classes .mapFragments (some "Mortal")
    ["Mortal Grief", "Mortal Hope", "Mortal Ignorance", "Mortal Rage"] ++
  classes .mapFragments (some "Shaper")
    ["Fragment of the Chimera", "Fragment of the Hydra", "Fragment of the Minotaur",
      "Fragment of the Phoenix"] ++
  classes .mapFragments (some "Elder")
    ["Fragment of Constriction", "Fragment of Enslavement", "Fragment of Eradication",
      "Fragment of Purification"] ++
  classes .mapFragments (some "Uber Elder")
    ["Fragment of Emptiness", "Fragment of Knowledge", "Fragment of Shape", "Fragment of Terror"] ++
  classes .mapFragments (some "Breach")
    ["Splinter of Chayula", "Splinter of Esh", "Splinter of Tul", "Splinter of Uul-Netol",
      "Splinter of Xoph", "Chayula's Breachstone", "Esh's Breachstone", "Tul's Breachstone",
      "Uul-Netol's Breachstone", "Xoph's Breachstone"] ++
  classes .mapFragments (some "Timeless Splinter")
    ["Timeless Eternal Empire Splinter", "Timeless Karui Splinter", "Timeless Maraketh Splinter",
      "Timeless Templar Splinter", "Timeless Vaal Splinter"] ++
  classes .mapFragments (some "Timeless Emblem")
    ["Timeless Eternal Emblem", "Timeless Karui Emblem", "Timeless Maraketh Emblem",
      "Timeless Templar Emblem", "Timeless Vaal Emblem"] ++
  classes .mapFragments (some "Delirium")
    ["Simulacrum", "Simulacrum Splinter"] ++
  classes .watchstone none
    ["Ivory Watchstone", "Crimson Watchstone", "Cobalt Watchstone", "Viridian Watchstone",
      "Golden Watchstone"] ++
  classes .currency none
    ["Rogue's Marker", "Stacked Deck"]

/-- Gems that the shape of the name would misplace, or that have a subcategory. -/
def gemBases : List (String × Classification) :=
  classes .supportGems (some "Exceptional")
    ["Empower Support", "Enlighten Support", "Enhance Support", "Awakened Empower Support",
      "Awakened Enlighten Support", "Awakened Enhance Support"] ++
  classes .supportGems (some "Brand")
    ["Arcanist Brand"] ++
  classes .activeGems (some "Utility")
    ["Portal", "Detonate Mines", "Brand Recall"]

/-- Ends of currency names, in the order in which they are tried. -/
def currencySuffixes : List (String × Category) :=
  [(" Oil", .oil), (" Fossil", .fossil), (" Resonator", .resonator),
    (" Delirium Orb", .deliriumOrb), (" Catalyst", .catalyst)]

/-- Starts of currency names, in the order in which they are tried. -/
def currencyPrefixes : List (String × Category) :=
  [("Essence of ", .essence), ("Remnant of Corruption", .essence), ("Vial of ", .vial)]

/-- The mark of an essence with a word in front of it. -/
def essenceMarker : String :=
  " Essence of "

/-- The words that begin the names of seeds, and name their subcategories. -/
def seedTiers : List String :=
  ["Wild", "Vivid", "Primal"]

/-- The ends of the names of seeds. -/
def seedKinds : List String :=
  [" Seed", " Grain", " Bulb"]

/-! ### Equipment -/

/-- Base types of helmets. -/
def helmetBases : List (String × Category) :=
  entries .helmets
    ["Hubris Circlet", "Royal Burgonet", "Eternal Burgonet", "Lion Pelt", "Bone Helmet",
      "Pig-Faced Bascinet", "Nightmare Bascinet", "Deicide Mask", "Praetor Crown",
      "Sinner Tricorne", "Iron Hat", "Leather Cap", "Iron Circlet", "Great Crown"]

/-- Base types of body armours. -/
def bodyArmourBases : List (String × Category) :=
  entries .bodyArmours
    ["Vaal Regalia", "Astral Plate", "Glorious Plate", "Assassin's Garb", "Zodiac Leather",
      "Sadist Garb", "Carnal Armour", "Sacrificial Garb", "Simple Robe", "Plate Vest",
      "Shabby Jerkin", "Occultist's Vestment", "Silken Vest"]

/-- Base types of gloves. -/
def gloveBases : List (String × Category) :=
  entries .gloves
    ["Sorcerer Gloves", "Titan Gauntlets", "Slink Gloves", "Fingerless Silk Gloves",
      "Spiked Gloves", "Gripped Gloves", "Zealot Gloves", "Murder Mitts", "Iron Gauntlets",
      "Rawhide Gloves"]

/-- Base types of boots. -/
def bootBases : List (String × Category) :=
  entries .boots
    ["Sorcerer Boots", "Titan Greaves", "Slink Boots", "Two-Toned Boots", "Dragonscale Boots",
      "Murder Boots", "Iron Greaves", "Rawhide Boots", "Wool Shoes"]

/-- Base types of shields. -/
def shieldBases : List (String × Category) :=
  entries .shields
    ["Titanium Spirit Shield", "Harmonic Spirit Shield", "Fossilised Spirit Shield",
      "Archon Kite Shield", "Pinnacle Tower Shield", "Imperial Buckler", "Colossal Tower Shield",
      "Splintered Tower Shield", "Goathide Buckler"]

/-- Base types of quivers. -/
def quiverBases : List (String × Category) :=
  entries .quivers
    ["Spike-Point Arrow Quiver", "Broadhead Arrow Quiver", "Penetrating Arrow Quiver",
      "Blunt Arrow Quiver"]

/-- Base types of amulets. -/
def amuletBases : List (String × Category) :=
  entries .amulets
    ["Onyx Amulet", "Agate Amulet", "Amber Amulet", "Citrine Amulet", "Jade Amulet",
      "Lapis Amulet", "Turquoise Amulet", "Marble Amulet", "Paua Amulet", "Coral Amulet"]

/-- Base types of rings. -/
def ringBases : List (String × Category) :=
  entries .rings
    ["Two-Stone Ring", "Diamond Ring", "Ruby Ring", "Sapphire Ring", "Topaz Ring",
      "Amethyst Ring", "Prismatic Ring", "Vermillion Ring", "Steel Ring", "Opal Ring",
      "Unset Ring", "Coral Ring", "Iron Ring", "Gold Ring", "Moonstone Ring"]

/-- Base types of belts. -/
def beltBases : List (String × Category) :=
  entries .belts
    ["Stygian Vise", "Leather Belt", "Heavy Belt", "Rustic Sash", "Chain Belt", "Cloth Belt",
      "Studded Belt", "Crystal Belt", "Vanguard Belt"]

/-- Base types of jewels. -/
def jewelBases : List (String × Category) :=
  entries .jewel
    ["Cobalt Jewel", "Crimson Jewel", "Viridian Jewel", "Prismatic Jewel", "Timeless Jewel"] ++
  entries .abyssJewel
    ["Murderous Eye Jewel", "Searching Eye Jewel", "Hypnotic Eye Jewel", "Ghastly Eye Jewel"] ++
  entries .clusterJewel
    ["Large Cluster Jewel", "Medium Cluster Jewel", "Small Cluster Jewel"]

/-- Base types of flasks. -/
def flaskBases : List (String × Category) :=
  entries .flasks
    ["Divine Life Flask", "Eternal Life Flask", "Divine Mana Flask", "Eternal Mana Flask",
      "Hallowed Hybrid Flask", "Quicksilver Flask", "Granite Flask", "Jade Flask",
      "Diamond Flask", "Silver Flask", "Basalt Flask", "Quartz Flask", "Sulphur Flask",
      "Bismuth Flask", "Stibnite Flask", "Amethyst Flask", "Ruby Flask", "Sapphire Flask",
      "Topaz Flask", "Aquamarine Flask", "Corundum Flask", "Gold Flask"]

/-- Base types of weapons. -/
def weaponBases : List (String × Category) :=
  entries .bows
    ["Imperial Bow", "Thicket Bow", "Harbinger Bow", "Spine Bow", "Crude Bow"] ++
  entries .claws
    ["Imperial Claw", "Gemini Claw", "Vaal Claw"] ++
  entries .daggers
    ["Ambusher", "Imperial Skean"] ++
  entries .runeDaggers
    ["Platinum Kris", "Fiend Dagger"] ++
  entries .oneHandAxes
    ["Runic Hatchet", "Vaal Hatchet"] ++
  entries .oneHandMaces
    ["Behemoth Mace", "Gavel"] ++
  entries .thrustingSwords
    ["Jewelled Foil", "Vaal Rapier"] ++
  entries .oneHandSwords
    ["Corsair Sword", "Eternal Sword", "Tiger Hook"] ++
  entries .sceptres
    ["Void Sceptre", "Opal Sceptre"] ++
  entries .staves
    ["Eclipse Staff", "Judgement Staff"] ++
  entries .warstaves
    ["Maelström Staff"] ++
  entries .twoHandAxes
    ["Vaal Axe", "Despot Axe"] ++
  entries .twoHandMaces
    ["Coronal Maul", "Terror Maul"] ++
  entries .twoHandSwords
    ["Reaver Sword", "Exquisite Blade"] ++
  entries .wands
    ["Prophecy Wand", "Imbued Wand", "Profane Wand", "Driftwood Wand"] ++
  entries .fishingRods
    ["Fishing Rod"]

/-- Every base type of equipment with its category. -/
def equipmentBases : List (String × Category) :=
  helmetBases ++ bodyArmourBases ++ gloveBases ++ bootBases ++ shieldBases ++
    quiverBases ++ amuletBases ++ ringBases ++ beltBases ++ jewelBases ++ flaskBases ++
    weaponBases

end LootLedger.BaseName
