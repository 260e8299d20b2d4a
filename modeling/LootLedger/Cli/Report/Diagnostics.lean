import LootLedger.Cli.Paint
import LootLedger.Filter.Document
import LootLedger.Json.Value

/-!
# Diagnostics of a filter

What is wrong with a filter document and what is odd about it, with line numbers from one.

## Main definitions

* `Cli.Diagnostics.text`, `Cli.Diagnostics.json`
-/

namespace LootLedger.Cli.Diagnostics

open LootLedger.Filter (AtLine Document)

/-- One diagnostic on a line of its own. -/
def line (file label : String) (message : α → String) (d : AtLine α) : String :=
  s!"{file}:{d.line + 1}: {label}: {message d.what}\n"

/-- The numbers of rules, problems and oddities. -/
def summary (file : String) (d : Document) : String :=
  s!"{file}: {d.rules.length} rule(s), {d.problems.length} error(s), " ++
    s!"{d.oddities.length} warning(s)"

/-- The diagnostics of a document, problems before oddities. -/
def text (usesColour : Bool) (file : String) (d : Document) : String :=
  let error := painted usesColour .bold (painted usesColour .red "error")
  let warning := painted usesColour .yellow "warning"
  let stopped := if d.aborted then "Stopped after too many errors.\n" else ""
  String.join (d.problems.map (line file error Filter.Problem.message)) ++
    String.join (d.oddities.map (line file warning Filter.Oddity.message)) ++ stopped ++
    painted (usesColour && d.isClean) .green (summary file d) ++ "\n"

/-- One diagnostic. -/
def entryJson (message : α → String) (d : AtLine α) : Json :=
  .object [("line", .int (d.line + 1 : Nat)), ("message", .text (message d.what))]

/-- The diagnostics of a document. -/
def json (file : String) (d : Document) : Json :=
  .object [
    ("file", .text file),
    ("rules", .int d.rules.length),
    ("errors", .array (d.problems.map (entryJson Filter.Problem.message))),
    ("warnings", .array (d.oddities.map (entryJson Filter.Oddity.message))),
    ("aborted", .bool d.aborted)]

end LootLedger.Cli.Diagnostics
