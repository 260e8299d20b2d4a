import LootLedger.Filter.Condition
import LootLedger.Item.Basic
import LootLedger.Text.Number

/-!
# Conditions on items

When an item meets a condition. Texts match when one of the sought texts occurs in the field, or
equals it where the condition is exact. The area level belongs to the surroundings and not to the
item.

## Main definitions

* `Filter.Condition.matches`
-/

namespace LootLedger.Filter

open Text (Chars)

/-- The quality type of a gem without an alternate quality. -/
def ordinaryQuality : String := "Superior"

/-- The number in an enchant that adds passive skills. -/
def passiveCount? (enchant : String) : Option Nat := do
  let rest ← Text.dropPrefix? "Adds ".toList enchant.toList
  let (number, tail) ← Text.splitOnce? [' '] rest
  if tail = "Passive Skills".toList then Text.readNat? Text.max32 number else none

/-- The value of a numeric field. -/
def NumericField.value (field : NumericField) (item : Item) : Nat :=
  match field with
  | .itemLevel => item.itemLevel.toNat
  | .dropLevel => item.dropLevel.toNat
  | .quality => item.quality.toNat
  | .linkedSockets => item.largestLink
  | .width => item.width.toNat
  | .height => item.height.toNat
  | .mapTier => item.mapTier.toNat
  | .gemLevel => item.gemLevel.toNat
  | .stackSize => item.stackSize.toNat
  | .corruptedMods => item.implicitMods.length
  | .enchantmentPassiveNum => (item.enchantMods.findSome? passiveCount?).getD 0

/-- The values of a text field. -/
def TextField.values (field : TextField) (item : Item) : List String :=
  match field with
  | .itemClass => [item.itemClass]
  | .baseType => [item.baseType]
  | .hasEnchantment => item.enchantMods
  | .gemQualityType => [item.alternateQuality?.getD ordinaryQuality]

/-- The value of a flag. -/
def FlagField.value (field : FlagField) (item : Item) : Bool :=
  match field with
  | .identified => item.identified
  | .corrupted => item.corrupted
  | .elderItem => item.influenced .elder
  | .shaperItem => item.influenced .shaper
  | .shapedMap => item.shapedMap
  | .elderMap => item.elderMap
  | .fracturedItem => item.fractured
  | .synthesisedItem => item.synthesised
  | .anyEnchantment => !item.enchantMods.isEmpty
  | .blightedMap => item.blightedMap
  | .mirrored => item.mirrored
  | .alternateQuality => item.alternateQuality?.isSome
  | .replica => item.replica

/-- One of the sought texts occurs in the value, or is the value if `exact`. -/
def holdsAny (exact : Bool) (sought : List String) (value : String) : Bool :=
  sought.any fun s => if exact then value = s else Text.contains value s

/-- The item has the mod. The word for veiled mods stands for any of them. -/
def hasMod (item : Item) (sought : String) : Bool :=
  (sought = "Veil" && item.veiled) || item.explicitMods.any fun m => Text.contains m sought

/-- The item's sockets fit one of the sought groups. -/
def socketsFit (mode : SocketMode) (op : Comparison) (specs : List SocketSpec) (item : Item) :
    Bool :=
  match mode with
  | .linked => item.linkedGroups.any fun g => specs.any fun spec => spec.fits op g.toList
  | .unlinked => specs.any fun spec => spec.fits op (item.linkedGroups.flatMap String.toList)

/-- The item meets the condition in an area of the given level. -/
def Condition.matches (c : Condition) (areaLevel : Nat) (item : Item) : Bool :=
  match c with
  | .numeric field op value => op.holds (field.value item) value.toNat
  | .areaLevel op value => op.holds areaLevel value.toNat
  | .rarity op value => op.holds item.rarity.frame value.frame
  | .rarityIn values => values.contains item.rarity
  | .text field exact values => (field.values item).any (holdsAny exact values)
  | .prophecy exact values => item.baseType = "Prophecy" && holdsAny exact values item.typeLine
  | .sockets mode op specs => socketsFit mode op specs item
  | .flag field value => field.value item = value
  | .explicitMods op threshold mods => op.holds (mods.countP (hasMod item)) threshold.toNat
  | .influence .none _ => item.influences.isEmpty
  | .influence .any is => is.any item.influenced
  | .influence .all is => is.all item.influenced

end LootLedger.Filter
