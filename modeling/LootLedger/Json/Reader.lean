import LootLedger.Decimal.Stepwise
import LootLedger.Json.Text
import LootLedger.Json.Value
import LootLedger.Text.Split
import LootLedger.Text.Number

/-!
# Reading JSON

A strict reader: no trailing commas, no comments, no leading zeros, nothing after the document.
Each scanner takes the characters that are left and gives back those after what it has read. The
reader of nested values counts its steps down from a bound that every text meets, because each
bracket it opens costs two steps and must be closed by a character of its own.

## Main definitions

* `Json.parse?`: the document that a text holds
-/

namespace LootLedger.Json

open Text (Chars)

/-- The four characters that may stand between tokens. -/
def isSpace (c : Char) : Bool :=
  c = ' ' || c = '\n' || c = '\t' || c = '\r'

/-- The text after the space at its start. -/
def skipSpace (s : Chars) : Chars :=
  s.dropWhile isSpace

/-! ### Numbers -/

/-- The longest run of digits at the start, and what follows it. -/
def spanDigits (s : Chars) : Chars × Chars :=
  (s.takeWhile Text.isDigit, s.dropWhile Text.isDigit)

/-- The digits before the point: a lone zero, or a run that starts with another digit. -/
def readWhole? (s : Chars) : Option (Chars × Chars) :=
  match spanDigits s with
  | ([], _) => none
  | (['0'], rest) => some (['0'], rest)
  | ('0' :: _, _) => none
  | (ds, rest) => some (ds, rest)

/-- The digits after the point, none if there is no point. -/
def readFraction? : Chars → Option (Option Chars × Chars)
  | '.' :: s =>
    match spanDigits s with
    | ([], _) => none
    | (ds, rest) => some (some ds, rest)
  | s => some (none, s)

/-- A signed run of digits, as an exponent has it. -/
def readSigned? (s : Chars) : Option (Int × Chars) :=
  let (negative, unsigned) := match s with
    | '-' :: rest => (true, rest)
    | '+' :: rest => (false, rest)
    | _ => (false, s)
  match spanDigits unsigned with
  | ([], _) => none
  | (ds, rest) =>
    let n : Int := Text.ofDigits ds
    some (if negative then -n else n, rest)

/-- The exponent, none if there is no exponent mark. -/
def readExponent? : Chars → Option (Option Int × Chars)
  | c :: s =>
    if c = 'e' ∨ c = 'E' then (readSigned? s).map fun (n, rest) => (some n, rest)
    else some (none, c :: s)
  | [] => some (none, [])

/-- Takes digits into a number for as long as it fits 64 bits. The digits from the first one that it
cannot take are left over. -/
def takeDigits (word : Nat) : Chars → Nat × Chars
  | [] => (word, [])
  | c :: s =>
    let longer := 10 * word + Text.digitValue c
    if longer ≤ Text.max64 then takeDigits longer s else (word, c :: s)

/-- A double as a value; `none` stands for a numeral beyond the doubles. -/
def floatValue : Option Float → Json
  | some x => .float x
  | none => .unrepresentable

/-- The value of a numeral. A numeral without fraction and exponent is a whole number as long as it
fits 64 bits; all others, minus zero among them, are doubles. Of a long numeral only as many digits
count as fit 64 bits. -/
def number (negative : Bool) (whole : Chars) (fraction : Option Chars) (exponent : Option Int) :
    Json :=
  let (word, left) := takeDigits 0 whole
  let asFloat :=
    let places := fraction.getD []
    let (word, unread) := takeDigits word places
    let taken := places.length - unread.length
    floatValue (Decimal.ofWord? negative word (exponent.getD 0 + left.length - taken))
  if left = [] ∧ fraction = none ∧ exponent = none then
    if negative then (if 0 < word ∧ word ≤ Nat.pow 2 63 then .int (-word) else asFloat)
    else .int word
  else asFloat

/-- A number, and what follows it. -/
def readNumber? (s : Chars) : Option (Json × Chars) := do
  let (negative, unsigned) := match s with
    | '-' :: rest => (true, rest)
    | _ => (false, s)
  let (whole, s) ← readWhole? unsigned
  let (fraction, s) ← readFraction? s
  let (exponent, s) ← readExponent? s
  return (number negative whole fraction exponent, s)

/-! ### Values -/

/-- An object from its members; `none` as a name stands for a text that spells nothing. -/
def objectOf (members : List (Option String × Json)) : Json :=
  match members.mapM fun (name, value) => name.map (·, value) with
  | some members => .object members
  | none => .unrepresentable

/-- A string, after its opening quote, as a value. -/
def textValue : Option Chars → Json
  | some s => .text (String.ofList s)
  | none => .unrepresentable

mutual

/-- A value, and what follows it. -/
def readValue? : Nat → Chars → Option (Json × Chars)
  | 0, _ => none
  | steps + 1, s =>
    match skipSpace s with
    | [] => none
    | '"' :: s => (readQuoted? s).map fun (t, rest) => (textValue t, rest)
    | '[' :: s =>
      match skipSpace s with
      | ']' :: rest => some (.array [], rest)
      | s => (readElements? steps s).map fun (xs, rest) => (.array xs, rest)
    | '{' :: s =>
      match skipSpace s with
      | '}' :: rest => some (.object [], rest)
      | s => (readMembers? steps s).map fun (ms, rest) => (objectOf ms, rest)
    | 'n' :: s => (Text.dropPrefix? "ull".toList s).map fun rest => (.null, rest)
    | 't' :: s => (Text.dropPrefix? "rue".toList s).map fun rest => (.bool true, rest)
    | 'f' :: s => (Text.dropPrefix? "alse".toList s).map fun rest => (.bool false, rest)
    | s => readNumber? s

/-- The elements of an array up to its closing bracket. -/
def readElements? : Nat → Chars → Option (List Json × Chars)
  | 0, _ => none
  | steps + 1, s => do
    let (x, s) ← readValue? steps s
    match skipSpace s with
    | ',' :: s =>
      let (xs, rest) ← readElements? steps s
      return (x :: xs, rest)
    | ']' :: rest => return ([x], rest)
    | _ => none

/-- The members of an object up to its closing brace. -/
def readMembers? : Nat → Chars → Option (List (Option String × Json) × Chars)
  | 0, _ => none
  | steps + 1, s =>
    match skipSpace s with
    | '"' :: s => do
      let (name, s) ← readQuoted? s
      match skipSpace s with
      | ':' :: s =>
        let (x, s) ← readValue? steps s
        let member := (name.map String.ofList, x)
        match skipSpace s with
        | ',' :: s =>
          let (ms, rest) ← readMembers? steps s
          return (member :: ms, rest)
        | '}' :: rest => return ([member], rest)
        | _ => none
      | _ => none
    | _ => none

end

/-- The document that a text holds. -/
def parse? (s : Chars) : Option Json := do
  let (value, rest) ← readValue? (2 * s.length + 2) s
  if skipSpace rest = [] then some value else none

end LootLedger.Json
