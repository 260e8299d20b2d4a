import LootLedger.HostName.Mapping
import LootLedger.HostName.Punycode
import LootLedger.Text.Direction
import LootLedger.Text.Joining
import LootLedger.Text.Mark

/-!
# Labels

The parts of a host name between its dots. Programs that know ASCII alone can handle a label with
other letters too, if it is written in Punycode after `xn--`. A label in this form must be the one
that its letters are written as, and the letters must be fit to be shown: no mark without a
letter, no joiner that does not join, and no mix of directions that changes the order on screen.

## Main definitions

* `HostName.Label`, `HostName.Label.ofChars?`: a label in letters and in ASCII
* `HostName.isForbidden`: the characters that would end a host name in an address
* `HostName.joinersFit`, `HostName.directionFits`: the rules about what may stand together
-/

namespace LootLedger.HostName

open Text (Chars)

/-- May not occur in a host name: controls, the space, and characters that mean something else in
an address. -/
def isForbidden (c : Char) : Bool :=
  c.toNat ≤ 0x20 || c.toNat == 0x7F || "%#/:<>?@[\\]^|".toList.contains c

/-- The character is one of ASCII. -/
def isAscii (c : Char) : Bool :=
  c.toNat < 0x80

/-- How the ASCII form of a label starts that has other letters. -/
def foreignSign : Chars := "xn--".toList

/-! ### Joiners -/

/-- The sign that keeps letters apart which would be joined. -/
def nonJoiner : Char := Char.ofNat 0x200C

/-- The sign that joins letters which would stand apart. -/
def joiner : Char := Char.ofNat 0x200D

/-- All joiners of a label make a difference, given what comes before it, last one first. Each
follows a virama, or keeps letters apart that would be joined. -/
def joinersFit (before : Chars) : Chars → Bool
  | [] => true
  | c :: s =>
    let followsVirama := before.head?.any Text.isVirama
    let parts := Text.joinsAcross .left before && Text.joinsAcross .right s
    let fits :=
      if c = nonJoiner then followsVirama || parts
      else if c = joiner then followsVirama
      else true
    fits && joinersFit (c :: before) s

/-! ### Directions -/

/-- A label without marks at its end keeps its order in a text of either direction. It has the
direction of its first character, which must be a letter, and ends in a letter of its direction or
a digit. Letters of the other direction may not occur, nor digits of both kinds from right to
left. -/
def directionsFit : List Text.Direction → Bool
  | [] => true
  | .leftToRight :: rest =>
    rest.getLast?.all (fun d => d == .leftToRight || d == .europeanDigit) &&
      rest.all (fun d => d != .rightToLeft && d != .arabicDigit)
  | .rightToLeft :: rest =>
    rest.getLast?.all (fun d => d == .rightToLeft || d == .europeanDigit || d == .arabicDigit) &&
      rest.all (· != .leftToRight) &&
      !(rest.contains .europeanDigit && rest.contains .arabicDigit)
  | _ => false

/-- The directions of a label's characters, without the marks at its end. Its first character
counts, even if it is a mark. -/
def directionsOf : Chars → List Text.Direction
  | [] => []
  | c :: s =>
    Text.direction c :: ((s.map Text.direction).reverse.dropWhile (· == .mark)).reverse

/-- A label that keeps its order beside others of either direction. -/
def directionFits (s : Chars) : Bool :=
  directionsFit (directionsOf s)

/-- A character from right to left occurs. -/
def hasRightToLeft (s : Chars) : Bool :=
  s.any fun c => Text.direction c == .rightToLeft || Text.direction c == .arabicDigit

/-! ### Labels -/

/-- A label in both its forms. -/
structure Label where
  letters : Chars
  ascii : Chars
  deriving DecidableEq, Repr

namespace Label

/-- The greatest number of letters that are written in Punycode. -/
def lettersLimit : Nat := 1000

/-- The greatest number of characters in Punycode that are read. -/
def asciiLimit : Nat := 2000

/-- Letters that may stand together, if not all of them are ASCII. -/
def isWellFormed (s : Chars) : Bool :=
  !s.head?.any Text.isMark && joinersFit [] s && s.length ≤ lettersLimit

/-- The letters of a label in Punycode. Only what these letters are written as is a label. -/
def lettersOf? (code : Chars) : Option Chars := do
  if code.all isAscii ∧ code ≠ [] ∧ code.getLast? ≠ some '-' ∧ code.length ≤ asciiLimit then
    let letters ← Punycode.decode? code
    let isPlain := letters.all fun c => isKept c && !isForbidden c && c != '.'
    if isPlain && Text.composed letters == letters && isWellFormed letters then
      some letters
    else none
  else none

/-- The label that characters in their one spelling stand for. -/
def ofChars? (s : Chars) : Option Label :=
  if s.any isForbidden then none
  else
    match Text.dropPrefix? foreignSign s with
    | some code => (lettersOf? code).map fun letters => { letters, ascii := s }
    | none =>
      if s.all isAscii then some { letters := s, ascii := s }
      else if isWellFormed s then
        some { letters := s, ascii := foreignSign ++ Punycode.encode s }
      else none

end Label

end LootLedger.HostName
