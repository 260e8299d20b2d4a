import LootLedger.Archive.Basic
import LootLedger.Cli.Paint
import LootLedger.Filter.Document
import LootLedger.Json.Value

/-!
# Saved filters

The saved documents by profile and time, and what came of saving one.

## Main definitions

* `Cli.Filters.selected`, `Cli.Filters.text`, `Cli.Filters.json`
* `Cli.Saved`, `Cli.Saved.text`, `Cli.Saved.json`
-/

namespace LootLedger.Cli

namespace Filters

/-- A document is listed before another one, or at the same place. -/
def isBefore (a b : SavedFilter) : Bool :=
  a.profile < b.profile || (a.profile == b.profile && a.savedAt ≤ b.savedAt)

/-- The documents of a profile, or all of them, by profile and time. Documents of one profile
and time stay in the order in which they were saved. -/
def selected (archive : FilterArchive) (profile : Option String) : List SavedFilter :=
  (archive.saved.filter fun s => profile.all (s.profile == ·)).mergeSort isBefore

/-- The number of lines of a document. -/
def lineCount (s : SavedFilter) : Nat :=
  (Text.lines s.text.toList).length

/-- The line of a document. -/
def rowText (s : SavedFilter) : String :=
  String.join [
    nameCell 16 s.profile, " ",
    leftCell 15 s.version, " ",
    leftCell 17 (String.ofList s.savedAt.minuteText), " ",
    rightCell 6 (toString (lineCount s)), "\n"]

/-- A table of documents. -/
def text (usesColour : Bool) (saved : List SavedFilter) : String :=
  if saved.isEmpty then "No saved filters.\n"
  else
    let header := String.join [
      leftCell 16 "Profile", " ", leftCell 15 "Version", " ", leftCell 17 "Saved", " ",
      rightCell 6 "Lines"]
    headerLine usesColour header ++ String.join (saved.map rowText)

/-- A document. -/
def rowJson (s : SavedFilter) : Json :=
  .object [
    ("profile", .text s.profile),
    ("version", .text s.version),
    ("saved_at", .text (String.ofList s.savedAt.text)),
    ("lines", .int (lineCount s))]

/-- Some documents. -/
def json (saved : List SavedFilter) : Json :=
  .object [("filters", .array (saved.map rowJson))]

end Filters

/-- A document that was saved. -/
structure Saved where
  /-- The path that it was read from. -/
  file : String
  entry : SavedFilter
  document : Filter.Document

namespace Saved

/-- What was saved, on one line. -/
def text (s : Saved) : String :=
  s!"Saved {s.file} as version {s.entry.version} of '{s.entry.profile}' " ++
    s!"({s.document.rules.length} rules)\n"

/-- What was saved. -/
def json (s : Saved) : Json :=
  .object [
    ("errors", .int s.document.problems.length),
    ("profile", .text s.entry.profile),
    ("rules", .int s.document.rules.length),
    ("saved_at", .text (String.ofList s.entry.savedAt.text)),
    ("status", .text "saved"),
    ("version", .text s.entry.version)]

end Saved

end LootLedger.Cli
