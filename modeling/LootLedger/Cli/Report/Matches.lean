import LootLedger.Archive.Cache
import LootLedger.Cli.Paint
import LootLedger.Item.Listing
import LootLedger.Json.Value

/-!
# What a filter does with items

One row per item, with the rule that decides about it. Items that no rule decides about are not
shown.

## Main definitions

* `Cli.MatchRow`, `Cli.matchRows`
* `Cli.Matches.text`, `Cli.Matches.json`
-/

namespace LootLedger.Cli

open LootLedger.Filter (Style Verdict)

/-- What a filter decides about an item. -/
structure MatchRow where
  /-- The position of the item, counted from zero. -/
  position : Nat
  item : Item
  verdict : Option Verdict

/-- The item is shown. -/
def MatchRow.isShown (row : MatchRow) : Bool :=
  row.verdict.any Verdict.isShown

/-- The line on which a rule starts, counted from one. -/
def startLine (v : Verdict) : Nat :=
  match v.rule.lines with
  | first :: _ => first + 1
  | [] => 0

/-- The rows of all items, or of those that are shown. -/
def matchRows (f : CompiledFilter) (items : List Item) (shownOnly : Bool) :
    Except Filter.Problem (List MatchRow) := do
  let rows ← items.zipIdx.mapM fun (item, position) => do
    return { position, item, verdict := ← f.judge item : MatchRow }
  return rows.filter fun row => !shownOnly || row.isShown

namespace Matches

/-! ### Text -/

/-- A colour as its four parts. -/
def colourText (c : Filter.Colour) : String :=
  s!"{c.red.toNat},{c.green.toNat},{c.blue.toNat},{c.alpha.toNat}"

/-- The parts of a style that are set. -/
def styleText (s : Style) : String :=
  " ".intercalate <| List.flatten [
    s.fontSize.toList.map fun n => s!"font={n}",
    s.text.toList.map fun c => s!"text={colourText c}",
    s.border.toList.map fun c => s!"border={colourText c}",
    s.background.toList.map fun c => s!"bg={colourText c}"]

/-- The line of a row. -/
def rowText (usesColour : Bool) (row : MatchRow) : String :=
  let (result, line, style) := match row.verdict with
    | some v => (if v.isShown then "show" else "hide", toString (startLine v), styleText v.style)
    | none => ("-", "-", "")
  let paint := if row.isShown then Paint.green else .dim
  String.join [
    leftCell 4 (toString (row.position + 1)), " ",
    painted usesColour paint (leftCell 6 result), " ",
    leftCell 6 line, " ",
    nameCell 36 row.item.displayName, " ",
    style, "\n"]

/-- A table of rows. -/
def text (usesColour : Bool) (rows : List MatchRow) : String :=
  if rows.isEmpty then "No items.\n"
  else
    let header := String.join [
      leftCell 4 "#", " ", leftCell 6 "Result", " ", leftCell 6 "Line", " ",
      leftCell 36 "Item", " Style"]
    headerLine usesColour header ++ String.join (rows.map (rowText usesColour))

/-! ### JSON -/

/-- A colour by its parts. -/
def colourJson (c : Filter.Colour) : Json :=
  .object [("r", .int c.red.toNat), ("g", .int c.green.toNat), ("b", .int c.blue.toNat),
    ("a", .int c.alpha.toNat)]

/-- A value, null if there is none. -/
def orNull (f : α → Json) : Option α → Json
  | some a => f a
  | none => .null

/-- A style by its parts. -/
def styleJson (s : Style) : Json :=
  .object [
    ("background", orNull colourJson s.background),
    ("border", orNull colourJson s.border),
    ("text", orNull colourJson s.text),
    ("font_size", orNull (fun n : Nat => .int n) s.fontSize)]

/-- A row. What belongs to a rule is left out if there is none. -/
def rowJson (row : MatchRow) : Json :=
  let decision : List (String × Json) := match row.verdict with
    | some v =>
      [("rule", .int v.index), ("line", .int (startLine v)), ("style", styleJson v.style)]
    | none => []
  .object ([
    ("position", .int row.position),
    ("name", .text row.item.displayName),
    ("shown", .bool row.isShown)] ++ decision)

/-- The rows of a run. -/
def json (version : String) (areaLevel : Nat) (rows : List MatchRow) : Json :=
  .object [
    ("filter_version", .text version),
    ("area_level", .int areaLevel),
    ("items", .array (rows.map rowJson))]

end Matches

end LootLedger.Cli
