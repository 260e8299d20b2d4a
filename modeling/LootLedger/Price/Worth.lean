import LootLedger.Category.Classify
import LootLedger.Price.Identifier
import LootLedger.Price.Table

/-!
# The worth of items

What an item is worth is decided before any table is opened: the item says under which identifier
it is listed, or that it counts as so many units, or that it is worth the better of its base and
its enchants. The table then only supplies numbers. So whether an item can be valued never
depends on a table.

The one failure is a map whose icon names no known series. It means that the names are out of
date, not that the map is worthless.

## Main definitions

* `Worth`: the worth of an item in terms of a table
* `Item.worth?`: the worth of an item
* `Worth.eval`: its value in a table
* `priceOf?`, `appraise`: values of items, one by one and in all
-/

namespace LootLedger

/-- The unit in which values are expressed. -/
def priceUnit : String :=
  "Chaos Orb"

/-- The worth of an item in terms of a table. -/
inductive Worth
  /-- Worth nothing. -/
  | nothing
  /-- Worth nothing because no rule says how to value the item. -/
  | unvalued
  /-- So many units of account. -/
  | units (count : Nat)
  | listed (place : MarketSection) (id : String)
  /-- A stack of a listed item. -/
  | stack (place : MarketSection) (id : String) (count : Nat)
  /-- Half way between the least and the greatest of several listed values. -/
  | midpoint (place : MarketSection) (ids : List String)
  /-- The better of a base and the best of some enchants. -/
  | enchanted (base : Worth) (enchants : List String)
  deriving DecidableEq, Repr

/-- A map whose icon names no known series. -/
structure UnknownMapSeries where
  icon : String
  deriving DecidableEq, Repr

/-- The failure in words. -/
def UnknownMapSeries.message (e : UnknownMapSeries) : String :=
  "unrecognized map series in icon: " ++ e.icon

namespace Item

/-- The worth of a unique item of a class, if uniques of that class are listed. -/
def uniqueWorth? (item : Item) (c : Classification) : Option Worth :=
  (MarketSection.ofUnique? c).map fun place =>
    match item.candidateIds? with
    | some ids => .midpoint place ids
    | none => .listed place item.uniqueId

/-- The worth of classic equipment by its base type. -/
def baseWorth (item : Item) : Worth :=
  match item.baseId? with
  | some id => .listed .baseType id
  | none => .nothing

/-- The base worth, bettered by enchants if the item is a helmet. -/
def withEnchants (item : Item) (c : Classification) (base : Worth) : Worth :=
  if c.category = .helmets then .enchanted base item.enchantMods else base

/-- The worth of an item other than a unique that has a class. -/
def classifiedWorth? (item : Item) (c : Classification) : Except UnknownMapSeries Worth :=
  let stack := item.stackSize.toNat
  if c.category = .mapFragments then
    let place : MarketSection := if c.subcategory = some "Scarab" then .scarab else .fragment
    .ok (.stack place item.typeLine stack)
  else if item.rarity = .currency || c.category = .incubator || c.category = .harvestSeed then
    .ok (.stack (.ofCurrency c.category) item.typeLine stack)
  else if c.category = .maps then
    match item.mapId? with
    | some id => .ok (.listed .map id)
    | none => .error ⟨item.icon⟩
  else if item.rarity = .divinationCard then .ok (.stack .divinationCard item.typeLine stack)
  else if item.rarity = .prophecy then .ok (.listed .prophecy item.typeLine)
  else if c.isGem then .ok (.listed .skillGem item.gemId)
  else if item.rarity.isClassic && c.isEquipment then .ok (item.withEnchants c item.baseWorth)
  else if item.rarity.isClassic && (c.category = .flasks || c.isJewel) then .ok .nothing
  else .ok .unvalued

/-- The worth of an item other than a unique. Every currency, card and prophecy has a class. -/
def ordinaryWorth? (item : Item) : Option Classification → Except UnknownMapSeries Worth
  | some c => item.classifiedWorth? c
  | none => .ok .unvalued

/-- The worth of a unique item, and of a relic alike. -/
def exaltedWorth (item : Item) : Option Classification → Worth
  | none => .unvalued
  | some c =>
    if c.category = .maps then .listed .uniqueMap item.uniqueMapId
    else
      match item.uniqueWorth? c with
      | some w => item.withEnchants c w
      | none => .unvalued

/-- The worth of an item that has the given class. -/
def worthAs? (item : Item) (c : Option Classification) : Except UnknownMapSeries Worth :=
  if item.rarity = .quest || c.map (·.category) = some .capturedBeast then .ok .nothing
  else if item.typeLine = priceUnit then .ok (.units item.stackSize.toNat)
  else if item.rarity = .unique || item.rarity = .relic then .ok (item.exaltedWorth c)
  else if item.typeLine = "Ivory Watchstone" then .ok (.listed .watchstone item.watchstoneId)
  else item.ordinaryWorth? c

/-- The worth of an item. -/
def worth? (item : Item) : Except UnknownMapSeries Worth :=
  item.worthAs? item.classify?

end Item

/-! ### Values -/

/-- The least and the greatest of some values, if there are any. -/
def extremes [Money V] : List V → Option (V × V)
  | [] => none
  | v :: vs => some (vs.foldl Money.lesser v, vs.foldl Money.larger v)

/-- The value of a worth in a table. -/
def Worth.eval [Money V] (table : PriceTable V) : Worth → V
  | nothing | unvalued => Money.units 0
  | units count => Money.units count
  | listed place id => table.value place.key id
  | stack place id count => Money.mul (table.value place.key id) (Money.units count)
  | midpoint place ids =>
    match extremes (ids.map (table.value place.key)) with
    | some (least, greatest) => Money.half (Money.add least greatest)
    | none => Money.units 0
  | enchanted base enchants =>
    let values := enchants.map (table.value MarketSection.helmetEnchant.key)
    Money.larger (base.eval table) (values.foldl Money.larger (Money.units 0))

/-- The value of an item in a table. -/
def priceOf? [Money V] (table : PriceTable V) (item : Item) : Except UnknownMapSeries V :=
  item.worth?.map fun w => w.eval table

/-- The values of some items in input order, their sum, and how many could not be valued. -/
structure Appraisal (V : Type) where
  values : List V
  total : V
  failures : Nat

/-- Values several items. One that cannot be valued counts as nothing, so it does not hide the
rest. -/
def appraise [Money V] (table : PriceTable V) (items : List Item) : Appraisal V :=
  let prices := items.map (priceOf? table)
  let values := prices.map fun p => p.toOption.getD (Money.units 0)
  { values
    total := values.foldl Money.add (Money.units 0)
    failures := prices.countP fun p => p.toOption.isNone }

end LootLedger
