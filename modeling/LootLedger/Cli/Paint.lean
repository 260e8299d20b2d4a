import LootLedger.Decimal.Shortest
import LootLedger.Text.Columns

/-!
# Styles and cells

How output is styled on a terminal and how values are written in tables. A style is put around a
finished text, padding included, so columns stay aligned.

## Main definitions

* `Cli.Paint`, `Cli.painted`: a text in a style, if styles are used
* `Cli.chaosText`, `Cli.valueCell`: amounts
-/

namespace LootLedger.Cli

open Text (Chars)

/-- A style of output. -/
inductive Paint
  | bold
  | dim
  | italic
  | red
  | green
  | yellow
  | blue
  deriving DecidableEq, Repr

/-- The code that sets a style. -/
def Paint.code : Paint → String
  | .bold => "1"
  | .dim => "2"
  | .italic => "3"
  | .red => "31"
  | .green => "32"
  | .yellow => "33"
  | .blue => "34"

/-- The code that ends a style. Colours give way to the usual colour, the others to plain
text. -/
def Paint.endCode : Paint → String
  | .bold | .dim | .italic => "0"
  | .red | .green | .yellow | .blue => "39"

/-- The sequence that a terminal takes as a code. -/
def escapeSequence (code : String) : String :=
  "\x1b[" ++ code ++ "m"

/-- A text in a style, if styles are used. -/
def painted (usesColour : Bool) (paint : Paint) (s : String) : String :=
  if usesColour then escapeSequence paint.code ++ s ++ escapeSequence paint.endCode else s

/-- The header of a table. -/
def headerLine (usesColour : Bool) (header : String) : String :=
  painted usesColour .dim header ++ "\n"

/-- A cell that is filled up on the right. -/
def leftCell (width : Nat) (s : String) : String :=
  String.ofList (Text.padRight width s.toList)

/-- A cell that is filled up on the left. -/
def rightCell (width : Nat) (s : String) : String :=
  String.ofList (Text.padLeft width s.toList)

/-- A cell with a text that is cut to the width of its column. -/
def nameCell (width : Nat) (s : String) : String :=
  String.ofList (Text.padRight width (Text.shortened width s.toList))

/-- An amount with at most two decimal places. -/
def chaosText (x : Float) : String :=
  let digits := (Decimal.fixed 2 x).reverse.dropWhile (· == '0')
  String.ofList (digits.dropWhile (· == '.')).reverse

/-- The cell of an amount, dimmed if it is nothing. -/
def valueCell (usesColour : Bool) (width : Nat) (x : Float) : String :=
  painted usesColour (if x == 0 then .dim else .yellow) (rightCell width (chaosText x))

end LootLedger.Cli
