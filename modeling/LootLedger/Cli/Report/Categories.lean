import LootLedger.Category.Classify
import LootLedger.Cli.Paint
import LootLedger.Item.Listing
import LootLedger.Json.Value

/-!
# Categories of items

One row per item with its category.

## Main definitions

* `Cli.Categories.text`, `Cli.Categories.json`
-/

namespace LootLedger.Cli.Categories

/-- The line of an item. -/
def rowText (usesColour wantsSubcategory : Bool) (item : Item) : String :=
  let category := (item.category? wantsSubcategory).getD (painted usesColour .red "unknown")
  nameCell 40 item.displayName ++ " " ++ category ++ "\n"

/-- A table of items. -/
def text (usesColour wantsSubcategory : Bool) (items : List Item) : String :=
  if items.isEmpty then "No items.\n"
  else
    headerLine usesColour (leftCell 40 "Item" ++ " Category") ++
      String.join (items.map (rowText usesColour wantsSubcategory))

/-- An item. -/
def rowJson (wantsSubcategory : Bool) (item : Item) : Json :=
  let category := match item.category? wantsSubcategory with
    | some c => .text c
    | none => .null
  .object [("name", .text item.displayName), ("category", category)]

/-- Some items. -/
def json (wantsSubcategory : Bool) (items : List Item) : Json :=
  .object [("items", .array (items.map (rowJson wantsSubcategory)))]

end LootLedger.Cli.Categories
