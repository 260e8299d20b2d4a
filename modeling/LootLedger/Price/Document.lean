import LootLedger.Json.Decode
import LootLedger.Price.Table

/-!
# Price tables as documents

How snapshots and histories are written in JSON. A table has its date and its values by section;
a history has its tables by date. The date that a history is searched by is the name of the
entry, whatever date the table in it carries.

## Main definitions

* `PriceTable.sections?`, `PriceTable.ofJson?`, `PriceTable.toJson`
* `PriceHistory.ofJson?`, `PriceHistory.toJson`
-/

namespace LootLedger

/-- A date, as its text. -/
def Json.date? (j : Json) : Option Date := do
  Date.parse? (← j.text?).toList

namespace PriceTable

/-- The fields of a price table. -/
inductive Field
  | date
  | sections
  deriving DecidableEq, Repr

/-- Price tables as records. -/
def schema : Json.Schema Field :=
  { order := [.date, .sections]
    ofName := fun s =>
      if s = "date" then some .date else if s = "categories" then some .sections else none }

/-- Values by section and identifier, the last of equal names winning. -/
def sections? (j : Json) : Option (List (String × List (String × Float))) := do
  let sections ← j.entries? fun section_ => (section_.entries? Json.float?).map ofEntries
  return ofEntries sections

/-- The table that a document holds. -/
def ofJson? (j : Json) : Option (PriceTable Float) := do
  let fields ← schema.fields? j
  return {
    date := ← Json.required? fields .date Json.date?
    sections := ← Json.defaulted? fields .sections sections? [] }

/-- Values by section as a document. -/
def sectionsJson (sections : List (String × List (String × Float))) : Json :=
  .object <| sections.map fun (key, entries) =>
    (key, .object (entries.map fun (id, value) => (id, .float value)))

/-- The written form of a table. -/
def toJson (table : PriceTable Float) : Json :=
  .object [
    ("date", .text (String.ofList table.date.text)),
    ("categories", sectionsJson table.sections)]

end PriceTable

namespace PriceHistory

/-- Histories as records with a single field. -/
def schema : Json.Schema Unit :=
  { order := [()], ofName := fun s => if s = "tables" then some () else none }

/-- The snapshots of a history by date. -/
def tables? (j : Json) : Option (PriceHistory Float) := do
  let entries ← j.entries? PriceTable.ofJson?
  let dated ← entries.mapM fun (name, table) => (Date.parse? name.toList).map (·, table)
  return .ofEntries dated

/-- The history that a document holds. -/
def ofJson? (j : Json) : Option (PriceHistory Float) := do
  let fields ← schema.fields? j
  Json.defaulted? fields () tables? {}

/-- The written form of a history. -/
def toJson (history : PriceHistory Float) : Json :=
  let tables := history.tables.map fun (date, table) =>
    (String.ofList date.text, table.toJson)
  .object [("tables", .object tables)]

end PriceHistory

end LootLedger
