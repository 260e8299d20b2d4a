import LootLedger.Category.Equipment
import LootLedger.Category.MapName
import LootLedger.Item.Basic
import LootLedger.Price.Names
import LootLedger.Text.Number

/-!
# Identifiers in price tables

The names under which a price table lists items. Two items that the market tells apart have
different identifiers, and items that it does not tell apart have the same.

## Main definitions

* `Item.uniqueMapId`, `Item.uniqueId`, `Item.candidateIds?`: uniques
* `Item.mapSeries?`, `Item.mapBase`, `Item.mapId?`: maps
* `Item.watchstoneId`, `Item.gemId`, `Item.baseId?`
-/

namespace LootLedger

open Text (Chars)

/-- A number as it stands in an identifier. -/
def numeral (n : Nat) : String :=
  String.ofList (Text.digits n)

namespace Item

/-! ### Uniques -/

/-- The identifier of a unique map: its name, tier and type line. -/
def uniqueMapId (item : Item) : String :=
  item.uniqueName ++ " T" ++ numeral item.mapTier.toNat ++ " " ++ item.typeLine

/-- The variant of a unique that shows in its icon. -/
def iconVariant? (name icon : String) : Option String := do
  let variants ← PriceName.iconVariants.lookup name
  (variants.find? fun entry => Text.contains icon entry.1).map (·.2)

/-- The identifier of a unique other than a map: its name, then the base type if the name is
found on several, the variant that the icon shows, the links from five up, and the number of
abyssal sockets where it varies. -/
def uniqueId (item : Item) : String :=
  let name := item.uniqueName
  let base := if PriceName.dualBases.contains name then " " ++ item.baseType else ""
  let variant := match iconVariant? name item.icon with
    | some tag => " (" ++ tag ++ ")"
    | none => ""
  let links := if 5 ≤ item.largestLink then " " ++ numeral item.largestLink ++ "L" else ""
  let abyssal :=
    if PriceName.abyssals.contains name then " " ++ numeral item.abyssSocketCount ++ " Abyssal"
    else ""
  name ++ base ++ variant ++ links ++ abyssal

/-- The identifiers of all that an unidentified unique can turn out to be, if it cannot be told
apart before. -/
def candidateIds? (item : Item) : Option (List String) :=
  if item.identified then none else PriceName.unidentifiedVariants.lookup item.uniqueName

/-! ### Watchstones -/

/-- The number of uses left: the first number in a line that says so. -/
def usesRemaining? (item : Item) : Option Nat :=
  let lines := (item.explicitMods ++ item.implicitMods).filter
    fun m => Text.contains m PriceName.usesRemaining
  lines.findSome? fun m => (Text.words m.toList).findSome? (Text.readNat? Text.max32)

/-- The identifier of a watchstone: its type line, and how often it can be used. -/
def watchstoneId (item : Item) : String :=
  match item.usesRemaining? with
  | some n => item.typeLine ++ " " ++ numeral n ++ " uses"
  | none => item.typeLine

/-! ### Maps -/

/-- The map series that an icon belongs to. -/
def seriesOfIcon? (icon : String) : Option String :=
  (PriceName.mapSeries.find? fun entry => Text.contains icon entry.1).map (·.2)

/-- The words after the affix words in front of them. The last word is never an affix. -/
def dropAffixWords : List Chars → List Chars
  | w :: w' :: ws =>
    if (MapName.affixWords.map String.toList).contains w then dropAffixWords (w' :: ws)
    else w :: w' :: ws
  | ws => ws

/-- A type line of a map that is in no table, up to the word for maps and without affix words in
front. -/
def withoutMapAffixes (typeLine : String) : String :=
  let upToMap := match Text.splitOnce? " Map".toList typeLine.toList with
    | some (before, _) => before ++ " Map".toList
    | none => typeLine.toList
  String.ofList (Text.joinWith ' ' (dropAffixWords (Text.splitAtChar ' ' upToMap)))

/-- The base name of a map under magic affixes: the base type where one is given, else the
longest known base name in the type line, else what is left of it. -/
def unaffixedMap (item : Item) : String :=
  if item.givenBase ≠ "" && item.givenBase ≠ item.typeLine then item.givenBase
  else
    (lastGreatest String.utf8ByteSize (MapName.bases.filter (Text.contains item.typeLine))).getD
      (withoutMapAffixes item.typeLine)

/-- The mark of blighted maps. -/
def blightedMark : String :=
  "Blighted "

/-- The name without the given text in front. -/
def dropFront (front name : String) : String :=
  match Text.dropPrefix? front.toList name.toList with
  | some rest => String.ofList rest
  | none => name

/-- The base name of a map. Blighted maps have one mark in front, others none. -/
def mapBase (item : Item) : String :=
  let raw :=
    if item.rarity = .magic && item.identified then item.unaffixedMap else item.baseType
  let base := dropFront blightedMark raw
  if item.blightedMap then blightedMark ++ base else base

/-- The identifier of a map that is not unique: base name, tier and series. -/
def mapId? (item : Item) : Option String :=
  (seriesOfIcon? item.icon).map fun series =>
    item.mapBase ++ " T" ++ numeral item.mapTier.toNat ++ " " ++ series

/-! ### Gems -/

/-- The identifier of a skill gem: its name, its level and quality from where they count, and
whether it is corrupted. -/
def gemId (item : Item) : String :=
  let name := dropFront "Superior " item.baseType
  let atLevel (least : Nat) :=
    if least ≤ item.gemLevel.toNat then " L" ++ numeral item.gemLevel.toNat else ""
  let quality := if 20 ≤ item.quality.toNat then " Q" ++ numeral item.quality.toNat else ""
  let grade :=
    if PriceName.exceptionalSupports.contains name then atLevel 3
    else if name = PriceName.awakenedExceptional then atLevel 5 ++ quality
    else atLevel 20 ++ quality
  name ++ grade ++ (if item.corrupted then " corrupted" else "")

/-! ### Base types -/

/-- The base type by which equipment is priced. -/
def equipmentBase (item : Item) : String :=
  if item.givenBase ≠ "" then BaseName.withoutQuality item.givenBase
  else
    let typeLine := BaseName.withoutQuality item.typeLine
    if item.rarity = .magic && item.identified then
      ((BaseName.longestIn? typeLine).map (·.1)).getD typeLine
    else typeLine

/-- The influence that counts for the price of a base type. -/
def influenceMark (item : Item) : String :=
  if item.influenced .shaper then " Shaper"
  else if item.influenced .elder then " Elder"
  else ""

/-- The identifier of a base type: its name, the item level and the influence; none below the
priced levels. -/
def baseId? (item : Item) : Option String :=
  let level := item.itemLevel.toNat
  if level < PriceName.minBaseLevel then none
  else
    some (item.equipmentBase ++ " " ++ numeral (min level PriceName.maxBaseLevel) ++
      item.influenceMark)

end Item

end LootLedger
