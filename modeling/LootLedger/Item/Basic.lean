import LootLedger.Item.Rarity
import LootLedger.Text.Split

/-!
# Items

An item as filters, categories and prices see it. Items come in several written shapes, all of
which are brought into this one form on reading, so nothing downstream asks where an item came
from.

## Main definitions

* `Item`: the fields and their defaults
* `Item.baseType`, `Item.uniqueName`: names with their fall-backs
* `Item.linkedGroups` and the socket counts
* `ReportedSocket`, `socketGroups`: linked groups from single sockets
-/

namespace LootLedger

open Text (Chars)

/-- The group in which the sockets of a delve resonator are collected. -/
def delveGroup : String := "DV"

/-- The prefixes of alternate-quality base types. -/
def alternateQualities : List String :=
  ["Anomalous", "Divergent", "Phantasmal"]

/-- A game item. The defaults are those of an item document that does not give the field. -/
structure Item where
  /-- Display name, empty where the item has none. -/
  name : String := ""
  /-- The name of an unidentified unique, where known. -/
  secretName : Option String := none
  /-- The full type line, which may have magic affixes. -/
  typeLine : String := ""
  /-- The base type without affixes, empty where it is not given. -/
  givenBase : String := ""
  itemClass : String := ""
  icon : String := ""
  rarity : Rarity := .normal
  itemLevel : UInt32 := 0
  dropLevel : UInt32 := 0
  quality : UInt32 := 0
  width : UInt32 := 1
  height : UInt32 := 1
  identified : Bool := true
  corrupted : Bool := false
  mirrored : Bool := false
  replica : Bool := false
  fractured : Bool := false
  synthesised : Bool := false
  veiled : Bool := false
  /-- Which influences are present. -/
  influenced : Influence → Bool := fun _ => false
  shapedMap : Bool := false
  elderMap : Bool := false
  blightedMap : Bool := false
  /-- The tier of a map, zero for other items. -/
  mapTier : UInt32 := 0
  /-- The level of a gem, zero for other items. -/
  gemLevel : UInt32 := 0
  stackSize : UInt32 := 1
  /-- Linked socket groups, each a text of colour letters. -/
  sockets : List String := []
  explicitMods : List String := []
  enchantMods : List String := []
  implicitMods : List String := []

namespace Item

instance : Inhabited Item := ⟨{}⟩

/-- An item of which only type line and rarity are known. -/
def ofTypeLine (typeLine : String) (rarity : Rarity) : Item :=
  { typeLine, rarity }

/-- The base type, or the type line if no base type is given. -/
def baseType (item : Item) : String :=
  if item.givenBase = "" then item.typeLine else item.givenBase

theorem baseType_eq_typeLine {item : Item} (h : item.givenBase = "") :
    item.baseType = item.typeLine :=
  if_pos h

/-- The name by which a unique is known: its display name, else the secret name of an
unidentified one, else the type line. -/
def uniqueName (item : Item) : String :=
  if item.name ≠ "" then item.name
  else
    match item.secretName with
    | some s => if s ≠ "" then s else item.typeLine
    | none => item.typeLine

/-- The influences present, in display order. -/
def influences (item : Item) : List Influence :=
  Influence.setOf item.influenced

/-! ### Sockets -/

/-- The socket groups other than delve sockets. -/
def linkedGroups (item : Item) : List String :=
  item.sockets.filter (· ≠ delveGroup)

/-- The number of sockets in the largest linked group. -/
def largestLink (item : Item) : Nat :=
  (item.linkedGroups.map fun g => g.toList.length).foldl max 0

/-- The number of sockets other than delve sockets. -/
def socketCount (item : Item) : Nat :=
  (item.linkedGroups.flatMap String.toList).length

/-- The number of abyssal sockets. -/
def abyssSocketCount (item : Item) : Nat :=
  (item.linkedGroups.flatMap String.toList).count 'A'

/-- The alternate-quality prefix of the base type. -/
def alternateQuality? (item : Item) : Option String :=
  alternateQualities.find? fun p => Text.startsWith p.toList item.baseType.toList

end Item

/-! ### Single sockets

The game reports sockets one by one, each with the number of its link group. -/

/-- A socket as the game reports it. -/
structure ReportedSocket where
  group : UInt32
  colour : String
  deriving DecidableEq

/-- Puts a colour at the end of its group. Groups are kept in ascending order. -/
def addToGroup (group : UInt32) (colour : String) :
    List (UInt32 × String) → List (UInt32 × String)
  | [] => [(group, colour)]
  | (g, colours) :: gs =>
    if group = g then (g, colours ++ colour) :: gs
    else if group < g then (group, colour) :: (g, colours) :: gs
    else (g, colours) :: addToGroup group colour gs

/-- The linked groups that single sockets form, in ascending order of their numbers. Delve
sockets are collected in one group at the end, whatever number they report. -/
def socketGroups (sockets : List ReportedSocket) : List String :=
  let linked := sockets.filter (·.colour ≠ delveGroup)
  let groups := linked.foldl (fun gs s => addToGroup s.group s.colour gs) []
  let delve := if sockets.any (·.colour = delveGroup) then [delveGroup] else []
  groups.map (·.2) ++ delve

end LootLedger
