import LootLedger.Decimal.Binary64
import LootLedger.Text.Number

/-!
# Shortest decimal text of a double

The shortest decimal that rounds to a given double, and the layout in which it is written.
The reals that round to a double form an interval around it, whose ends belong to it exactly
when the mantissa is even. On the grid of `n`-digit decimals only the two neighbours of the
double can be nearest, so the first grid one of whose neighbours lies in the interval gives the
digits.

## Main definitions

* `Decimal.Shortest`: digits and a power of ten
* `Decimal.shortest`: the shortest decimal that rounds to a double
* `Decimal.Layout`: when the text is positional, and how an exponent is written
* `Decimal.fixed`: the text with a fixed number of places
-/

namespace LootLedger.Decimal

open Text (Chars)

/-- The decimal `digits * 10 ^ exponent`. -/
structure Shortest where
  digits : Nat
  exponent : Int
  deriving DecidableEq, Repr

/-- `a / b < c / d`, for positive denominators. -/
def fractionLt (x y : Nat × Nat) : Bool :=
  x.1 * y.2 < y.1 * x.2

/-- The reals that round to `mantissa * 2 ^ (scale - 1074)`, by their ends. The interval reaches
half a unit up, and half of the smaller unit down where the doubles below are twice as dense. -/
def roundingInterval (mantissa scale : Nat) : (Nat × Nat) × (Nat × Nat) :=
  let denser := mantissa = fractionCount ∧ 0 < scale
  let (num, den) := binaryFraction (if denser then 4 * mantissa - 1 else 4 * mantissa - 2) scale
  let (num', den') := binaryFraction (4 * mantissa + 2) scale
  ((num, 4 * den), (num', 4 * den'))

/-- `digits * 10 ^ exponent` rounds to the double with the given interval. -/
def inInterval (interval : (Nat × Nat) × (Nat × Nat)) (closed : Bool) (x : Nat × Nat) : Bool :=
  if closed then !fractionLt x interval.1 && !fractionLt interval.2 x
  else fractionLt interval.1 x && fractionLt x interval.2

/-- `digits * 10 ^ exponent` as a fraction. -/
def Shortest.fraction (d : Shortest) : Nat × Nat :=
  if 0 ≤ d.exponent then (d.digits * Nat.pow 10 d.exponent.toNat, 1)
  else (d.digits, Nat.pow 10 (-d.exponent).toNat)

/-- The nearest `n`-digit decimal that rounds to the double, if there is one. -/
def onGrid (mantissa scale n : Nat) : Option Shortest :=
  let interval := roundingInterval mantissa scale
  let closed := mantissa % 2 = 0
  let (num, den) := binaryFraction mantissa scale
  let exponent := magnitude num den - (n : Int) + 1
  let (unum, uden) := unscale num den exponent
  let nearer := roundDiv unum uden
  let lower := unum / uden
  let other := if nearer = lower then lower + 1 else lower
  [nearer, other].map (fun digits => Shortest.mk digits exponent)
    |>.find? fun d => inInterval interval closed d.fraction

/-- Zeros at the end of the digits go into the exponent. -/
def Shortest.normalize (d : Shortest) : Shortest :=
  if 0 < d.digits ∧ d.digits % 10 = 0 then
    normalize { digits := d.digits / 10, exponent := d.exponent + 1 }
  else d
termination_by d.digits
decreasing_by omega

/-- The shortest decimal that rounds to `mantissa * 2 ^ (scale - 1074)`; of several, the
nearest. Seventeen digits always suffice. -/
def shortest (mantissa scale : Nat) : Shortest :=
  ((List.range 17).findSome? fun n => onGrid mantissa scale (n + 1)).getD ⟨0, 0⟩ |>.normalize

/-! ### Layout -/

/-- How a number is written: positionally when the position of its decimal point, counted from
before its first digit, is above `leastPoint` and at most `greatestPoint`, else with an exponent;
`wholeMark` follows a whole number; `plusMark` stands before an exponent that is not negative. -/
structure Layout where
  leastPoint : Int
  greatestPoint : Int
  wholeMark : Chars
  plusMark : Chars

/-- The digits of a positive number with a decimal point after the first `point` of them. -/
def Layout.positional (layout : Layout) (digits : Chars) (point : Int) : Chars :=
  if point ≤ 0 then '0' :: '.' :: (List.replicate (-point).toNat '0' ++ digits)
  else if (digits.length : Int) ≤ point then
    digits ++ List.replicate (point.toNat - digits.length) '0' ++ layout.wholeMark
  else digits.take point.toNat ++ '.' :: digits.drop point.toNat

/-- The digits of a positive number with a point after the first and an exponent. -/
def Layout.scientific (layout : Layout) (digits : Chars) (point : Int) : Chars :=
  let exponent := point - 1
  let fraction := if digits.length ≤ 1 then [] else '.' :: digits.drop 1
  let sign := if exponent < 0 then ['-'] else layout.plusMark
  digits.take 1 ++ fraction ++ 'e' :: (sign ++ Text.digits exponent.natAbs)

/-- The text of `mantissa * 2 ^ (scale - 1074)`. -/
def Layout.magnitude (layout : Layout) (mantissa scale : Nat) : Chars :=
  if mantissa = 0 then '0' :: layout.wholeMark
  else
    let d := shortest mantissa scale
    let digits := Text.digits d.digits
    let point := d.exponent + digits.length
    if layout.leastPoint < point ∧ point ≤ layout.greatestPoint then
      layout.positional digits point
    else layout.scientific digits point

/-- The shortest text of a finite double; `none` for the others. -/
def Layout.text? (layout : Layout) (x : Float) : Option Chars :=
  match magnitudeOf x with
  | .finite mantissa scale =>
    let body := layout.magnitude mantissa scale
    some (if isNegative x then '-' :: body else body)
  | _ => none

/-! ### Fixed places -/

/-- The text of `n / 10 ^ places`. -/
def pointed (places n : Nat) : Chars :=
  let digits := Text.paddedDigits (places + 1) n
  digits.take (digits.length - places) ++ '.' :: digits.drop (digits.length - places)

/-- The exact value rounded to `places` decimals, ties to even. The sign of a negative zero is
kept. -/
def fixed (places : Nat) (x : Float) : Chars :=
  match magnitudeOf x with
  | .notANumber => "NaN".toList
  | .infinite => if isNegative x then "-inf".toList else "inf".toList
  | .finite mantissa scale =>
    let (num, den) := binaryFraction mantissa scale
    let body := pointed places (roundDiv (num * Nat.pow 10 places) den)
    if isNegative x then '-' :: body else body

end LootLedger.Decimal
