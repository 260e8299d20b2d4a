import LootLedger.Item.Document
import LootLedger.Json.Reader

/-!
# Lists of items

Items come as a plain array, or as an object that has the array among other things, the way
inventories are reported.

## Main definitions

* `Item.listOfJson?`, `Item.listOfText?`
-/

namespace LootLedger

/-- Why a text is no list of items. -/
inductive ItemsError
  | notJson
  /-- The document is well formed, and no list of items. -/
  | notItems
  deriving DecidableEq, Repr

/-- The wording of an items error. -/
def ItemsError.message : ItemsError → String
  | .notJson => "malformed document"
  | .notItems => "data did not match any variant of untagged enum ItemsDocument"

namespace Item

/-- How deep a document of items may nest arrays and objects. -/
def listingDepth : Nat := 127

/-- The items of an array. -/
def arrayOfJson? (j : Json) : Option (List Item) :=
  j.list? (ofJsonWithin? listingDepth)

/-- The items of an inventory, which is an object that names them exactly once. -/
def inventoryOfJson? : Json → Option (List Item)
  | .object members =>
    match members.filter (·.1 = "items") with
    | [(_, items)] => arrayOfJson? items
    | _ => none
  | _ => none

/-- The items that a document lists. -/
def listOfJson? (j : Json) : Option (List Item) :=
  (arrayOfJson? j).or (inventoryOfJson? j)

/-- The items that a text lists. -/
def listOfText? (text : String) : Except ItemsError (List Item) :=
  match (Json.parse? text.toList).filter (Json.representable listingDepth) with
  | none => .error .notJson
  | some j =>
    match listOfJson? j with
    | some items => .ok items
    | none => .error .notItems

/-- What an item is called: its own name, if it has one, and its type. -/
def displayName (item : Item) : String :=
  if item.name = "" then item.typeLine else item.name ++ " " ++ item.typeLine

end Item

end LootLedger
