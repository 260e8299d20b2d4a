/-!
# Names in price tables

Fixed names that the identifiers of a price table depend on.

## Main definitions

* `PriceName.mapSeries`: marks in map icons with the series they stand for
* `PriceName.dualBases`, `PriceName.abyssals`, `PriceName.iconVariants`: uniques with variants
* `PriceName.unidentifiedVariants`: uniques that cannot be told apart before identification
-/

namespace LootLedger.PriceName

/-- Marks in map icons with the series they stand for, in the order in which they are looked for.
Two-digit numbers come before one-digit numbers, so that `mn=1` does not claim `mn=12`. -/
def mapSeries : List (String × String) :=
  [("mn=18", "Ancestor"), ("mn=17", "Crucible"), ("mn=16", "Sanctum"), ("mn=15", "Kalandra"),
    ("mn=14", "Sentinel"), ("mn=13", "Archnemesis"), ("mn=12", "Scourge"),
    ("mn=11", "Expedition"), ("mn=10", "Ritual"), ("mn=9", "Heist"), ("mn=8", "Harvest"),
    ("mn=7", "Delirium"), ("mn=6", "Metamorph"), ("mn=5", "Blight"), ("mn=4", "Legion"),
    ("mn=3", "Synthesis"), ("mn=2", "Betrayal"), ("mn=1", "War for the Atlas"),
    ("Atlas2Maps", "War for the Atlas"), ("AtlasMaps", "Atlas of Worlds"),
    ("act4maps", "Pre 2.4")]

/-- Names of uniques on more than one base. -/
def dualBases : List String :=
  ["Grand Spectrum", "Combat Focus", "Doryani's Invitation", "Lioneye's Vision",
    "Precursor's Emblem", "Atziri's Splendour"]

/-- Uniques whose variant shows in the icon, with the marks of the icon and the variants. -/
def iconVariants : List (String × List (String × String)) :=
  [("Impresence",
      [("ImpresenceChaos", "Chaos"), ("ImpresenceCold", "Cold"), ("ImpresenceFire", "Fire"),
        ("ImpresenceLightning", "Lightning"), ("ImpresencePhysical", "Physical")]),
    ("Vessel of Vinktar",
      [("VinktarAttacks", "Added Attacks"), ("VinktarSpells", "Added Spells"),
        ("VinktarPenetration", "Penetration"), ("VinktarConversion", "Conversion")]),
    ("Yriel's Fostering",
      [("YrielsFosteringBleed", "Bleeding"), ("YrielsFosteringPoison", "Poison"),
        ("YrielsFosteringMaim", "Maim")])]

/-- Uniques with a varying number of abyssal sockets. -/
def abyssals : List String :=
  ["Bubonic Trail", "Command of the Pit", "Darkness Enthroned", "Hale Negator", "Lightpoacher",
    "Shroud of the Lightless", "Tombfist"]

/-- Uniques that cannot be told apart before identification, with all they can turn out to be. -/
def unidentifiedVariants : List (String × List String) :=
  [("Vessel of Vinktar",
      ["Vessel of Vinktar (Added Attacks)", "Vessel of Vinktar (Added Spells)",
        "Vessel of Vinktar (Penetration)", "Vessel of Vinktar (Conversion)"]),
    ("Yriel's Fostering",
      ["Yriel's Fostering (Bleeding)", "Yriel's Fostering (Poison)", "Yriel's Fostering (Maim)"]),
    ("Volkuur's Guidance",
      ["Volkuur's Guidance (Fire)", "Volkuur's Guidance (Cold)",
        "Volkuur's Guidance (Lightning)"]),
    ("Impresence",
      ["Impresence (Chaos)", "Impresence (Cold)", "Impresence (Fire)", "Impresence (Lightning)",
        "Impresence (Physical)"])]

/-- Supports that are priced by level alone, from level 3. -/
def exceptionalSupports : List String :=
  ["Empower Support", "Enlighten Support", "Enhance Support"]

/-- The gem that is priced by level from level 5 and by quality from 20. -/
def awakenedExceptional : String :=
  "Awakened Empower Support"

/-- The lowest item level at which base types are priced. -/
def minBaseLevel : Nat := 82

/-- The highest item level that is told apart. -/
def maxBaseLevel : Nat := 86

/-- The mark of the line that says how often a watchstone can be used. -/
def usesRemaining : String :=
  "uses remaining"

end LootLedger.PriceName
