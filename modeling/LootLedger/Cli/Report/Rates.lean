import LootLedger.Cli.Paint
import LootLedger.Json.Value
import LootLedger.Price.Table

/-!
# Snapshots

The stored snapshots, and what came of fetching one.

## Main definitions

* `Cli.Rates.text`, `Cli.Rates.json`
* `Cli.Fetched`, `Cli.Fetched.text`, `Cli.Fetched.json`
-/

namespace LootLedger.Cli

namespace Rates

/-- The line of a snapshot. -/
def rowText (table : PriceTable Float) : String :=
  String.join [
    leftCell 12 (String.ofList table.date.text), " ",
    rightCell 10 (toString table.sections.length), " ",
    rightCell 8 (toString table.size), "\n"]

/-- A table of snapshots. -/
def text (usesColour : Bool) (tables : List (PriceTable Float)) : String :=
  if tables.isEmpty then "No snapshots stored.\n"
  else
    let header := String.join [
      leftCell 12 "Date", " ", rightCell 10 "Categories", " ", rightCell 8 "Entries"]
    headerLine usesColour header ++ String.join (tables.map rowText)

/-- A snapshot. -/
def rowJson (table : PriceTable Float) : Json :=
  .object [
    ("date", .text (String.ofList table.date.text)),
    ("categories", .int table.sections.length),
    ("entries", .int table.size)]

/-- Some snapshots. -/
def json (tables : List (PriceTable Float)) : Json :=
  .object [("snapshots", .array (tables.map rowJson))]

end Rates

/-- A snapshot that was fetched and stored. -/
structure Fetched where
  league : String
  table : PriceTable Float
  /-- There was a snapshot of that date before. -/
  replaced : Bool

namespace Fetched

/-- What was fetched, on one line. -/
def text (usesColour : Bool) (f : Fetched) : String :=
  let verb := painted usesColour .green (if f.replaced then "Replaced" else "Stored")
  s!"{verb} {f.league} snapshot for {String.ofList f.table.date.text} " ++
    s!"({f.table.size} entries in {f.table.sections.length} categories)\n"

/-- What was fetched. -/
def json (f : Fetched) : Json :=
  .object [
    ("categories", .int f.table.sections.length),
    ("date", .text (String.ofList f.table.date.text)),
    ("entries", .int f.table.size),
    ("league", .text f.league),
    ("status", .text (if f.replaced then "replaced" else "added"))]

end Fetched

end LootLedger.Cli
