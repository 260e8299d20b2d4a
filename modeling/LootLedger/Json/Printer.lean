import LootLedger.Decimal.Shortest
import LootLedger.Json.Text
import LootLedger.Json.Value

/-!
# Writing JSON

Two layouts of one document: on one line without any space, and with each element on a line of
its own, indented by two spaces per level. Both write scalars the same way.

## Main definitions

* `Json.numberLayout`: how doubles are written
* `Json.compact`: the document on one line
* `Json.pretty`: the indented document
-/

namespace LootLedger.Json

open Text (Chars)

/-- Doubles are written with the fewest digits that round to them, positionally from `0.00001` up to
sixteen digits before the point, and whole numbers keep a decimal place. -/
def numberLayout : Decimal.Layout :=
  { leastPoint := -5, greatestPoint := 16, wholeMark := ".0".toList, plusMark := ['+'] }

/-- The numeral of an integer. -/
def intText (n : Int) : Chars :=
  if n < 0 then '-' :: Text.digits n.natAbs else Text.digits n.natAbs

/-- The text of a double. The format has no infinities and no NaN; they are written as null. -/
def floatText (x : Float) : Chars :=
  (numberLayout.text? x).getD "null".toList

/-- A name and a value with what stands between them. -/
def memberText (gap : Chars) (name : String) (value : Chars) : Chars :=
  quote name.toList ++ ':' :: (gap ++ value)

mutual

/-- The document on one line. -/
def compact : Json → Chars
  | .null | .unrepresentable => "null".toList
  | .bool b => if b then "true".toList else "false".toList
  | .int n => intText n
  | .float x => floatText x
  | .text s => quote s.toList
  | .array xs => '[' :: (compactElements xs ++ [']'])
  | .object ms => '{' :: (compactMembers ms ++ ['}'])

/-- The elements with commas between them. -/
def compactElements : List Json → Chars
  | [] => []
  | [x] => compact x
  | x :: y :: xs => compact x ++ ',' :: compactElements (y :: xs)

/-- The members with commas between them. -/
def compactMembers : List (String × Json) → Chars
  | [] => []
  | [(name, x)] => memberText [] name (compact x)
  | (name, x) :: m :: ms => memberText [] name (compact x) ++ ',' :: compactMembers (m :: ms)

end

/-- A new line at the given level. -/
def newLine (level : Nat) : Chars :=
  '\n' :: List.replicate (2 * level) ' '

mutual

/-- The document as it stands at a level of nesting. -/
def prettyAt : Nat → Json → Chars
  | _, .null | _, .unrepresentable => "null".toList
  | _, .bool b => if b then "true".toList else "false".toList
  | _, .int n => intText n
  | _, .float x => floatText x
  | _, .text s => quote s.toList
  | _, .array [] => "[]".toList
  | _, .object [] => "{}".toList
  | level, .array (x :: xs) =>
    '[' :: (prettyElements (level + 1) (x :: xs) ++ newLine level ++ [']'])
  | level, .object (m :: ms) =>
    '{' :: (prettyMembers (level + 1) (m :: ms) ++ newLine level ++ ['}'])

/-- The elements, each on a new line. -/
def prettyElements : Nat → List Json → Chars
  | _, [] => []
  | level, [x] => newLine level ++ prettyAt level x
  | level, x :: y :: xs =>
    newLine level ++ prettyAt level x ++ ',' :: prettyElements level (y :: xs)

/-- The members, each on a new line. -/
def prettyMembers : Nat → List (String × Json) → Chars
  | _, [] => []
  | level, [(name, x)] => newLine level ++ memberText [' '] name (prettyAt level x)
  | level, (name, x) :: m :: ms =>
    newLine level ++ memberText [' '] name (prettyAt level x) ++
      ',' :: prettyMembers level (m :: ms)

end

/-- The indented document. -/
def pretty (j : Json) : Chars :=
  prettyAt 0 j

end LootLedger.Json
