import LootLedger.Filter.Comparison
import LootLedger.Text.Frequency
import LootLedger.Text.Number

/-!
# Sought sockets

A sought socket group is written as an optional size and colour letters, such as `5GGG`, `RGB` or
`6`. A size with a single letter is short for that many sockets of the colour. Groups are
compared as multisets of colours; the operator decides whether the sought counts are a lower
bound, an upper bound or exact.

## Main definitions

* `Filter.SocketSpec`, `Filter.SocketSpec.parse?`: sought groups, and the tokens they are read from
* `Filter.SocketSpec.fits`: a group compared with a sought one
* `Filter.SocketMode`: whether groups are looked at one by one or pooled
-/

namespace LootLedger.Filter

open Text (Chars)

/-- A sought socket group. -/
structure SocketSpec where
  /-- The size the group is compared with. -/
  count : Option Nat
  /-- One letter per sought socket. -/
  colours : String
  deriving DecidableEq, Repr

/-- How the groups of an item are read. -/
inductive SocketMode
  /-- Each linked group for itself. -/
  | linked
  /-- All sockets other than delve sockets as one group. -/
  | unlinked
  deriving DecidableEq, Repr

/-- The mode with the given name. -/
def SocketMode.ofName? (s : Chars) : Option SocketMode :=
  if s = "linked".toList then some .linked
  else if s = "unlinked".toList then some .unlinked
  else none

/-- The letters of socket colours. -/
def socketColours : Chars :=
  ['R', 'G', 'B', 'W', 'D', 'A']

/-- The digits of socket counts. -/
def socketDigits : Chars :=
  ['0', '1', '2', '3', '4', '5', '6']

/-- The most sockets that an item can have. -/
def maxSockets : Nat := 6

namespace SocketSpec

/-- The size that the digits in front of a token denote, which is a 32-bit number and no more than
an item can have. Without digits there is no size, and that is fine, too. -/
def readSize? (digits : Chars) : Option (Option Nat) :=
  if digits = [] then some none
  else ((Text.readNat? Text.max32 digits).filter (· ≤ maxSockets)).map some

/-- The sought group with a size and colours. A size with a single letter is short for that many
sockets of the colour. -/
def ofParts (count : Option Nat) (colours : Chars) : SocketSpec :=
  match count, colours with
  | some n, [c] => { count := none, colours := String.ofList (List.replicate n c) }
  | _, _ => { count, colours := String.ofList colours }

/-- The sought group that a token stands for: digits of a size, if there are any, then letters of
colours without a digit among them. -/
def parse? (token : Chars) : Option SocketSpec :=
  let digits := token.takeWhile Text.isDigit
  let colours := token.dropWhile Text.isDigit
  if token = [] ∨ ¬ token.all (socketDigits ++ socketColours).contains then none
  else if colours.any Text.isDigit then none
  else (readSize? digits).map (ofParts · colours)

/-- The group compares with the sought one as the operator says. A sought size is compared with
the size of the group. Of the colours, `=` and `>=` want at least the sought counts, `>` wants
more of each, `<` and `<=` no more of each, and `==` wants equal counts, of every colour if no
size is given and of the sought ones otherwise. -/
def fits (spec : SocketSpec) (op : Comparison) (group : Chars) : Bool :=
  let counts := Text.frequencies group
  let sought := Text.frequencies spec.colours.toList
  let size := spec.count.all fun n => op.holds group.length n
  let colours :=
    match op with
    | .exactEqual =>
      if spec.count = none then counts == sought
      else sought.all fun (c, n) => Text.frequencyOf counts c = n
    | .equal | .greaterEqual => Text.isWithin sought counts
    | .greater => sought.all fun (c, n) => n < Text.frequencyOf counts c
    | .less | .lessEqual => sought.all fun (c, n) => Text.frequencyOf counts c ≤ n
  size && (spec.colours = "" || colours)

end SocketSpec

end LootLedger.Filter
