import LootLedger.Cli.Paint
import LootLedger.Item.Listing
import LootLedger.Json.Value
import LootLedger.Price.Worth

/-!
# Prices of items

One row per item with its value, and the sum.

## Main definitions

* `Cli.Prices.text`, `Cli.Prices.json`
-/

namespace LootLedger.Cli.Prices

/-- The line of an item. -/
def rowText (usesColour : Bool) (item : Item) (value : Float) : String :=
  String.join [
    nameCell 40 item.displayName, " ",
    rightCell 6 (toString item.stackSize.toNat), " ",
    valueCell usesColour 10 value, "\n"]

/-- A table of items with their values. -/
def text (usesColour : Bool) (items : List Item) (a : Appraisal Float) : String :=
  if items.isEmpty then "No items.\n"
  else
    let header := String.join [
      leftCell 40 "Item", " ", rightCell 6 "Stack", " ", rightCell 10 "Chaos"]
    let rows := List.zipWith (rowText usesColour) items a.values
    let total := leftCell 47 "Total" ++ " " ++ valueCell false 10 a.total
    let note :=
      if a.failures = 0 then ""
      else painted usesColour .red s!"{a.failures} item(s) could not be priced" ++ "\n"
    headerLine usesColour header ++ String.join rows ++
      painted usesColour .bold total ++ "\n" ++ note

/-- An item with its value. -/
def rowJson (item : Item) (value : Float) : Json :=
  .object [
    ("name", .text item.displayName),
    ("stack_size", .int item.stackSize.toNat),
    ("value", .float value)]

/-- Some items with their values. -/
def json (snapshot : Date) (items : List Item) (a : Appraisal Float) : Json :=
  .object [
    ("snapshot", .text (String.ofList snapshot.text)),
    ("unit", .text priceUnit),
    ("items", .array (List.zipWith rowJson items a.values)),
    ("total", .float a.total),
    ("failures", .int a.failures)]

end LootLedger.Cli.Prices
