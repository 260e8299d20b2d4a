import LootLedger.Item.Basic
import LootLedger.Json.Decode

/-!
# Item documents

How items are written in JSON. Every field has the name of stored rows in snake case, and most
have further names in use by other sources; all are read, and the first is written. Sockets come
as linked groups or one by one, influences as a list or as flags.

## Main definitions

* `Item.Field`, `Item.schema`: fields and names
* `Item.ofJson?`, `Item.toJson`: reading and writing an item
-/

namespace LootLedger

namespace Item

/-- The fields of an item document. -/
inductive Field
  | name | secretName | typeLine | baseType | itemClass | icon | rarity | itemLevel | dropLevel
  | quality | width | height | identified | corrupted | mirrored | replica | fractured
  | synthesised | veiled | influences | shapedMap | elderMap | blightedMap | mapTier | gemLevel
  | stackSize | sockets | explicitMods | enchantMods | implicitMods
  deriving DecidableEq, Repr

/-- The names of a field. The first is the one that is written. -/
def Field.names : Field → List String
  | .name => ["name"]
  | .secretName => ["secret_name", "secretName"]
  | .typeLine => ["type_line", "typeLine", "typeline"]
  | .baseType => ["base_type", "baseType", "basetype"]
  | .itemClass => ["item_class", "itemClass", "class"]
  | .icon => ["icon"]
  | .rarity => ["rarity", "frameType", "frametype"]
  | .itemLevel => ["item_level", "ilvl", "itemLevel"]
  | .dropLevel => ["drop_level", "dropLevel"]
  | .quality => ["quality"]
  | .width => ["width", "w"]
  | .height => ["height", "h"]
  | .identified => ["identified"]
  | .corrupted => ["corrupted"]
  | .mirrored => ["mirrored"]
  | .replica => ["replica"]
  | .fractured => ["fractured"]
  | .synthesised => ["synthesised"]
  | .veiled => ["veiled"]
  | .influences => ["influences"]
  | .shapedMap => ["shaped_map", "shapedMap"]
  | .elderMap => ["elder_map", "elderMap"]
  | .blightedMap => ["blighted_map", "blightedMap"]
  | .mapTier => ["map_tier", "mapTier"]
  | .gemLevel => ["gem_level", "gemLevel"]
  | .stackSize => ["stack_size", "stackSize"]
  | .sockets => ["sockets"]
  | .explicitMods => ["explicit_mods", "explicitMods"]
  | .enchantMods => ["enchant_mods", "enchantMods"]
  | .implicitMods => ["implicit_mods", "implicitMods"]

/-- The name under which a field is written. -/
def Field.key (f : Field) : String :=
  f.names.headD ""

/-- The fields in document order, which is also their order in a document that lists values
without names. -/
def Field.all : List Field :=
  [.name, .secretName, .typeLine, .baseType, .itemClass, .icon, .rarity, .itemLevel, .dropLevel,
    .quality, .width, .height, .identified, .corrupted, .mirrored, .replica, .fractured,
    .synthesised, .veiled, .influences, .shapedMap, .elderMap, .blightedMap, .mapTier, .gemLevel,
    .stackSize, .sockets, .explicitMods, .enchantMods, .implicitMods]

/-- Items as records. -/
def schema : Json.Schema Field :=
  { order := Field.all, ofName := fun s => Field.all.find? fun f => f.names.contains s }

/-! ### Sockets -/

/-- The fields of a single socket. -/
inductive SocketField
  | group
  | colour
  deriving DecidableEq, Repr

/-- Single sockets as records. -/
def socketSchema : Json.Schema SocketField :=
  { order := [.group, .colour]
    ofName := fun s =>
      if s = "group" then some .group
      else if s = "sColour" ∨ s = "colour" then some .colour
      else none }

/-- A single socket. -/
def reportedSocket? (j : Json) : Option ReportedSocket := do
  let fields ← socketSchema.fields? j
  return {
    group := ← Json.required? fields .group Json.uint32?
    colour := ← Json.required? fields .colour Json.text? }

/-- How deeply the parts of an item document with several shapes may be nested. Such a part is
read as a whole before its shape is known, and has to stand for a value throughout. -/
def shapeDepth : Nat := 126

/-- The socket groups: nothing, linked groups, or single sockets. -/
def sockets? (depth : Nat) (j : Json) : Option (List String) :=
  if !j.representable depth then none
  else
    match j with
    | .null => some []
    | j => (Json.list? Json.text? j).or ((Json.list? reportedSocket? j).map socketGroups)

/-! ### Influences -/

/-- An influence in a list: its key, or an object whose only member has it as name and null as
value. -/
def influence? : Json → Option Influence
  | .text s => Influence.ofKey? s
  | .object [(s, .null)] => Influence.ofKey? s
  | _ => none

/-- Flags by influence; of several for one influence the last counts. -/
def influenceFlags? (j : Json) : Option (Influence → Bool) := do
  let entries ← j.entries? Json.bool?
  let flags ← entries.mapM fun (key, set) => (Influence.ofKey? key).map (·, set)
  return fun i => (flags.reverse.lookup i).getD false

/-- The influences: nothing, a list, or flags. -/
def influences? (depth : Nat) (j : Json) : Option (Influence → Bool) :=
  if !j.representable depth then none
  else
    match j with
    | .null => some fun _ => false
    | j => ((Json.list? influence? j).map fun is i => is.contains i).or (influenceFlags? j)

/-! ### Items -/

/-- A rarity, by its frame number. -/
def rarity? (j : Json) : Option Rarity := do
  Rarity.ofFrame? (← j.nat? 255)

/-- The item that a document describes, where parts of several shapes may be nested as deeply as
`depth` says. -/
def ofJsonWithin? (depth : Nat) (j : Json) : Option Item := do
  let fields ← schema.fields? j
  let text (f : Field) := Json.defaulted? fields f Json.text? ""
  let number (f : Field) (default : UInt32) := Json.defaulted? fields f Json.uint32? default
  let flag (f : Field) := Json.defaulted? fields f Json.bool? false
  let texts (f : Field) := Json.defaulted? fields f (Json.list? Json.text?) []
  return {
    name := ← text .name
    secretName := ← Json.defaulted? fields .secretName (Json.optional? Json.text?) none
    typeLine := ← text .typeLine
    givenBase := ← text .baseType
    itemClass := ← text .itemClass
    icon := ← text .icon
    rarity := ← Json.defaulted? fields .rarity rarity? .normal
    itemLevel := ← number .itemLevel 0
    dropLevel := ← number .dropLevel 0
    quality := ← number .quality 0
    width := ← number .width 1
    height := ← number .height 1
    identified := ← Json.defaulted? fields .identified Json.bool? true
    corrupted := ← flag .corrupted
    mirrored := ← flag .mirrored
    replica := ← flag .replica
    fractured := ← flag .fractured
    synthesised := ← flag .synthesised
    veiled := ← flag .veiled
    influenced := ← Json.defaulted? fields .influences (influences? depth) fun _ => false
    shapedMap := ← flag .shapedMap
    elderMap := ← flag .elderMap
    blightedMap := ← flag .blightedMap
    mapTier := ← number .mapTier 0
    gemLevel := ← number .gemLevel 0
    stackSize := ← number .stackSize 1
    sockets := ← Json.defaulted? fields .sockets (sockets? depth) []
    explicitMods := ← texts .explicitMods
    enchantMods := ← texts .enchantMods
    implicitMods := ← texts .implicitMods }

/-- The item that a document describes. -/
def ofJson? (j : Json) : Option Item :=
  ofJsonWithin? shapeDepth j

/-- A 32-bit number as a document. -/
def numberJson (n : UInt32) : Json :=
  .int n.toNat

/-- A list of texts as a document. -/
def textsJson (xs : List String) : Json :=
  .array (xs.map .text)

/-- The document of one field; a secret name that is absent is not written. -/
def fieldJson? (item : Item) : Field → Option Json
  | .name => some (.text item.name)
  | .secretName => item.secretName.map .text
  | .typeLine => some (.text item.typeLine)
  | .baseType => some (.text item.givenBase)
  | .itemClass => some (.text item.itemClass)
  | .icon => some (.text item.icon)
  | .rarity => some (.int item.rarity.frame)
  | .itemLevel => some (numberJson item.itemLevel)
  | .dropLevel => some (numberJson item.dropLevel)
  | .quality => some (numberJson item.quality)
  | .width => some (numberJson item.width)
  | .height => some (numberJson item.height)
  | .identified => some (.bool item.identified)
  | .corrupted => some (.bool item.corrupted)
  | .mirrored => some (.bool item.mirrored)
  | .replica => some (.bool item.replica)
  | .fractured => some (.bool item.fractured)
  | .synthesised => some (.bool item.synthesised)
  | .veiled => some (.bool item.veiled)
  | .influences => some (.array (item.influences.map fun i => .text i.key))
  | .shapedMap => some (.bool item.shapedMap)
  | .elderMap => some (.bool item.elderMap)
  | .blightedMap => some (.bool item.blightedMap)
  | .mapTier => some (numberJson item.mapTier)
  | .gemLevel => some (numberJson item.gemLevel)
  | .stackSize => some (numberJson item.stackSize)
  | .sockets => some (textsJson item.sockets)
  | .explicitMods => some (textsJson item.explicitMods)
  | .enchantMods => some (textsJson item.enchantMods)
  | .implicitMods => some (textsJson item.implicitMods)

/-- The document of an item, in document order. -/
def toJson (item : Item) : Json :=
  .object (Field.all.filterMap fun f => (item.fieldJson? f).map (f.key, ·))

end Item

end LootLedger
