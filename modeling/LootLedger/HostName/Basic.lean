import LootLedger.HostName.Label

/-!
# Host names

The name of a host in the form that the network knows, which is ASCII in lower case. Names in
other letters have such a form too (IDNA, without its exceptions for old software).

## Main definitions

* `HostName.toAscii?`: the form of a name that the network knows
* `HostName.plain?`: the same for names which need no look at other letters
-/

namespace LootLedger.HostName

open Text (Chars)

/-- The labels of a name. -/
def labelsOf (s : Chars) : List Chars :=
  Text.splitAtChar '.' s

/-- The name is written in ASCII and means nothing else. -/
def isPlain (s : Chars) : Bool :=
  s.all isAscii && (labelsOf (Text.lowerAscii s)).all fun l => !Text.startsWith foreignSign l

/-- The form of a plain name. -/
def plain? (s : Chars) : Option Chars :=
  if s.any isForbidden then none else some (Text.lowerAscii s)

/-- The form of a name whose letters have to be looked at. The rule on directions holds for all
labels once any of them has a character from right to left. -/
def international? (s : Chars) : Option Chars := do
  let labels ← (labelsOf (← mapped? s)).mapM Label.ofChars?
  if labels.any (hasRightToLeft ·.letters) && !labels.all (directionFits ·.letters) then none
  else some (Text.joinWith '.' (labels.map Label.ascii))

/-- The form of a name that the network knows. -/
def toAscii? (s : Chars) : Option Chars :=
  if isPlain s then plain? s else international? s

end LootLedger.HostName
