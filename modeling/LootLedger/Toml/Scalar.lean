import LootLedger.Calendar.Date
import LootLedger.Decimal.Binary64
import LootLedger.Text.Split
import LootLedger.Toml.Value

/-!
# TOML numbers, truth values and times

Values that are written without quotes. Each is one word, except that a date and a time may have
a blank between them, so a reader takes the word and looks for the kind of value that it spells.

## Main definitions

* `Toml.readWord?`: the value of the word at the start, and what follows it
-/

namespace LootLedger.Toml

open Text (Chars)

/-! ### Digits -/

/-- The digits of a numeral in which single underscores may stand between digits. -/
def plainDigits? (isDigit : Char → Bool) (s : Chars) : Option Chars :=
  let pieces := Text.splitAtChar '_' s
  if pieces.all fun piece => piece ≠ [] ∧ piece.all isDigit then some pieces.flatten else none

/-- The digits of a decimal numeral without superfluous zeros. -/
def decimalDigits? (s : Chars) : Option Chars :=
  (plainDigits? Text.isDigit s).filter fun digits => digits.head? ≠ some '0' ∨ digits = ['0']

/-- The number that digits of a base denote. -/
def ofBase? (base : Nat) (s : Chars) : Option Nat :=
  let value (c : Char) : Nat :=
    if Text.isDigit c then c.toNat - '0'.toNat else c.toLower.toNat - 'a'.toNat + 10
  let isDigit (c : Char) : Bool :=
    (Text.isDigit c || ('a' ≤ c.toLower && c.toLower ≤ 'f')) && value c < base
  (plainDigits? isDigit s).map fun digits => digits.foldl (fun n c => base * n + value c) 0

/-- The sign of a word and the word without it. -/
def splitSign : Chars → Option Bool × Chars
  | '-' :: s => (some true, s)
  | '+' :: s => (some false, s)
  | s => (none, s)

/-! ### Numbers -/

/-- The whole number that a word spells, if it fits 64 bits. -/
def int? (s : Chars) : Option Int :=
  let limit : Nat := Nat.pow 2 63
  match s with
  | '0' :: 'x' :: digits => ((ofBase? 16 digits).filter (· < limit)).map Int.ofNat
  | '0' :: 'o' :: digits => ((ofBase? 8 digits).filter (· < limit)).map Int.ofNat
  | '0' :: 'b' :: digits => ((ofBase? 2 digits).filter (· < limit)).map Int.ofNat
  | _ =>
    let (sign, digits) := splitSign s
    match (decimalDigits? digits).map Text.ofDigits, sign with
    | some n, some true => if n ≤ limit then some (-(n : Int)) else none
    | some n, _ => if n < limit then some n else none
    | none, _ => none

/-- The parts of a word before and after the first character that meets a condition. -/
def cutAt (isCut : Char → Bool) (s : Chars) : Chars × Option Chars :=
  match s.dropWhile fun c => !isCut c with
  | [] => (s, none)
  | _ :: rest => (s.takeWhile fun c => !isCut c, some rest)

/-- The word spells a number with a fraction or an exponent that is not too large. -/
def isFloat (s : Chars) : Bool :=
  let (sign, unsigned) := splitSign s
  if unsigned = "inf".toList ∨ unsigned = "nan".toList then true
  else
    let (mantissa, exponent) := cutAt (fun c => c == 'e' || c == 'E') unsigned
    let (whole, fraction) := cutAt (· == '.') mantissa
    let power : Option Int := match exponent with
      | none => some 0
      | some e =>
        let (sign, digits) := splitSign e
        (plainDigits? Text.isDigit digits).map fun ds =>
          if sign = some true then -(Text.ofDigits ds : Int) else Text.ofDigits ds
    let places : Option Chars := match fraction with
      | none => some []
      | some f => plainDigits? Text.isDigit f
    match decimalDigits? whole, places, power with
    | some ds, some places, some power =>
      (exponent.isSome || fraction.isSome) && (sign = some true ||
        (Decimal.ofDecimal? false (Text.ofDigits (ds ++ places))
          (power - (places.length : Int))).isSome)
    | _, _, _ => false

/-! ### Times -/

/-- The number that exactly two digits denote, if it is at most `limit`. -/
def pair? (limit : Nat) (s : Chars) : Option Nat :=
  if s.length = 2 then (Text.readDigits? s).filter (· ≤ limit) else none

/-- The word spells a date. -/
def isDate (s : Chars) : Bool :=
  match Text.splitAtChar '-' s with
  | [year, month, day] =>
    match Text.readDigits? year, pair? 12 month, pair? 31 day with
    | some y, some m, some d => year.length = 4 && (Date.of? y m d).isSome
    | _, _, _ => false
  | _ => false

/-- The word spells a time of day, with a leap second and a fraction of a second allowed. -/
def isTime (s : Chars) : Bool :=
  match Text.splitAtChar ':' s with
  | [hour, minute, second] =>
    let (whole, fraction) := cutAt (· == '.') second
    (pair? 23 hour).isSome && (pair? 59 minute).isSome && (pair? 60 whole).isSome &&
      (fraction.all fun f => (Text.readDigits? f).isSome)
  | _ => false

/-- The word spells a time of day with an offset. -/
def isOffsetTime (s : Chars) : Bool :=
  let isMark := fun c : Char => c == 'Z' || c == 'z' || c == '+' || c == '-'
  match s.dropWhile fun c => !isMark c with
  | [] => false
  | c :: offset =>
    isTime (s.takeWhile fun c => !isMark c) &&
      (if c = 'Z' ∨ c = 'z' then offset = []
      else match Text.splitAtChar ':' offset with
        | [hour, minute] => (pair? 23 hour).isSome && (pair? 59 minute).isSome
        | _ => false)

/-- The word spells a date, a time of day, or both with a letter between them. -/
def isMoment (s : Chars) : Bool :=
  let (date, time) := (s.take 10, s.drop 10)
  isTime s || (isDate date && match time with
    | [] => true
    | c :: time => (c == 'T' || c == 't') && (isTime time || isOffsetTime time))

/-! ### Words -/

/-- A character of a word. -/
def isWordChar (c : Char) : Bool :=
  c.isAlphanum || c == '_' || c == '+' || c == '-' || c == '.' || c == ':'

/-- The value that a word spells. -/
def ofWord? (s : Chars) : Option Toml :=
  if s = "true".toList then some (.bool true)
  else if s = "false".toList then some (.bool false)
  else if isMoment s then some (.moment s)
  else if isFloat s then some (.float s)
  else (int? s).map .int

/-- The value of the word at the start, and what follows it. -/
def readWord? (s : Chars) : Option (Toml × Chars) :=
  let word := s.takeWhile isWordChar
  let rest := s.dropWhile isWordChar
  let next := (rest.drop 1).takeWhile isWordChar
  if isDate word ∧ rest.head? = some ' ' ∧ next ≠ [] then
    if isTime next ∨ isOffsetTime next then
      some (.moment (word ++ 'T' :: next), (rest.drop 1).dropWhile isWordChar)
    else none
  else (ofWord? word).map (·, rest)

end LootLedger.Toml
