import LootLedger.Filter.Sockets
import LootLedger.Item.Rarity

/-!
# Conditions

What a rule of a filter asks of an item. Most conditions name a field of the item, and fields
fall into three families by the kind of their values: numbers, texts and flags. Each field and
each condition has the keyword under which it is written.

## Main definitions

* `Filter.NumericField`, `Filter.TextField`, `Filter.FlagField`
* `Filter.Condition`, `Filter.Condition.keyword`
* `Filter.conditionKeywords`: the keywords of all conditions
-/

namespace LootLedger.Filter

open Text (Chars)

/-- Fields compared as numbers. -/
inductive NumericField
  | itemLevel
  | dropLevel
  | quality
  | linkedSockets
  | width
  | height
  | mapTier
  | gemLevel
  | stackSize
  /-- The number of implicit mods stands in for it. -/
  | corruptedMods
  /-- The number in an enchant that adds passive skills. -/
  | enchantmentPassiveNum
  deriving DecidableEq, Repr

namespace NumericField

/-- All numeric fields. -/
def all : List NumericField :=
  [itemLevel, dropLevel, quality, linkedSockets, width, height, mapTier, gemLevel, stackSize,
    corruptedMods, enchantmentPassiveNum]

/-- The keyword of the field. -/
def keyword : NumericField → String
  | itemLevel => "ItemLevel"
  | dropLevel => "DropLevel"
  | quality => "Quality"
  | linkedSockets => "LinkedSockets"
  | width => "Width"
  | height => "Height"
  | mapTier => "MapTier"
  | gemLevel => "GemLevel"
  | stackSize => "StackSize"
  | corruptedMods => "CorruptedMods"
  | enchantmentPassiveNum => "EnchantmentPassiveNum"

end NumericField

/-- Fields compared with a list of texts. -/
inductive TextField
  | itemClass
  | baseType
  /-- Any of the enchants. -/
  | hasEnchantment
  /-- The alternate quality of a gem. -/
  | gemQualityType
  deriving DecidableEq, Repr

namespace TextField

/-- All text fields. -/
def all : List TextField :=
  [itemClass, baseType, hasEnchantment, gemQualityType]

/-- The keyword of the field. -/
def keyword : TextField → String
  | itemClass => "Class"
  | baseType => "BaseType"
  | hasEnchantment => "HasEnchantment"
  | gemQualityType => "GemQualityType"

end TextField

/-- Fields that are true or false. -/
inductive FlagField
  | identified
  | corrupted
  | elderItem
  | shaperItem
  | shapedMap
  | elderMap
  | fracturedItem
  | synthesisedItem
  | anyEnchantment
  | blightedMap
  | mirrored
  | alternateQuality
  | replica
  deriving DecidableEq, Repr

namespace FlagField

/-- All flags. -/
def all : List FlagField :=
  [identified, corrupted, elderItem, shaperItem, shapedMap, elderMap, fracturedItem,
    synthesisedItem, anyEnchantment, blightedMap, mirrored, alternateQuality, replica]

/-- The keyword of the flag. -/
def keyword : FlagField → String
  | identified => "Identified"
  | corrupted => "Corrupted"
  | elderItem => "ElderItem"
  | shaperItem => "ShaperItem"
  | shapedMap => "ShapedMap"
  | elderMap => "ElderMap"
  | fracturedItem => "FracturedItem"
  | synthesisedItem => "SynthesisedItem"
  | anyEnchantment => "AnyEnchantment"
  | blightedMap => "BlightedMap"
  | mirrored => "Mirrored"
  | alternateQuality => "AlternateQuality"
  | replica => "Replica"

end FlagField

/-- Which of the listed influences an item has to carry. -/
inductive InfluenceMode
  /-- None at all, listed or not. -/
  | none
  | any
  | all
  deriving DecidableEq, Repr

/-- A condition of a rule. -/
inductive Condition
  | numeric (field : NumericField) (op : Comparison) (value : UInt32)
  /-- A comparison with the level of the area the item dropped in. -/
  | areaLevel (op : Comparison) (value : UInt32)
  | rarity (op : Comparison) (value : Rarity)
  | rarityIn (values : List Rarity)
  /-- One of the texts occurs in the field, or is the field if `exact`. -/
  | text (field : TextField) (exact : Bool) (values : List String)
  /-- A prophecy with one of the names. -/
  | prophecy (exact : Bool) (values : List String)
  | sockets (mode : SocketMode) (op : Comparison) (specs : List SocketSpec)
  | flag (field : FlagField) (value : Bool)
  /-- The number of listed mods found among the explicit mods. -/
  | explicitMods (op : Comparison) (threshold : UInt32) (mods : List String)
  | influence (mode : InfluenceMode) (influences : List Influence)
  deriving DecidableEq, Repr

/-- The families of conditions, by the keyword that introduces them. -/
inductive ConditionKind
  | numeric (field : NumericField)
  | text (field : TextField)
  | flag (field : FlagField)
  | areaLevel
  | rarity
  | prophecy
  | sockets (mode : SocketMode)
  | explicitMods
  | influence
  deriving DecidableEq, Repr

namespace ConditionKind

/-- The keyword of the family. -/
def keyword : ConditionKind → String
  | numeric field => field.keyword
  | text field => field.keyword
  | flag field => field.keyword
  | areaLevel => "AreaLevel"
  | rarity => "Rarity"
  | prophecy => "Prophecy"
  | sockets .unlinked => "Sockets"
  | sockets .linked => "SocketGroup"
  | explicitMods => "HasExplicitMod"
  | influence => "HasInfluence"

/-- All families, in the order in which their keywords are listed. -/
def all : List ConditionKind :=
  NumericField.all.map numeric ++ TextField.all.map text ++ FlagField.all.map flag ++
    [areaLevel, rarity, prophecy, sockets .unlinked, sockets .linked, explicitMods, influence]

/-- The family with the given keyword. -/
def ofKeyword? (word : Chars) : Option ConditionKind :=
  all.find? fun kind => kind.keyword.toList = word

end ConditionKind

/-- The family of a condition. -/
def Condition.kind : Condition → ConditionKind
  | .numeric field _ _ => .numeric field
  | .areaLevel _ _ => .areaLevel
  | .rarity _ _ => .rarity
  | .rarityIn _ => .rarity
  | .text field _ _ => .text field
  | .prophecy _ _ => .prophecy
  | .sockets mode _ _ => .sockets mode
  | .flag field _ => .flag field
  | .explicitMods _ _ _ => .explicitMods
  | .influence _ _ => .influence

/-- The keyword under which a condition is written. -/
def Condition.keyword (c : Condition) : String :=
  c.kind.keyword

/-- The keywords of all conditions. -/
def conditionKeywords : List String :=
  ConditionKind.all.map ConditionKind.keyword

end LootLedger.Filter
