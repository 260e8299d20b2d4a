import LootLedger.Text.Blank

/-!
# Letters beyond ASCII, written in ASCII

The Punycode form of a text. The ASCII characters come first. After a hyphen follows
how the other characters are inserted among them, the smallest first: as gaps between the places
of the insertions, where the places count the code points as well as the positions. A gap is a
number in digits of base 36, the lowest first. Which digits can end a number depends on a bias,
which adapts to the size of the gaps, so that texts in one script stay short.

## Main definitions

* `Punycode.encode`, `Punycode.decode?`
* `Punycode.insertions`, `Punycode.gaps`, `Punycode.inserted?`: the gaps of a text and back
* `Punycode.writeGaps`, `Punycode.readGaps?`: gaps as digits and back

## Main statements

* `Punycode.digitValue?_digit`: a digit that was written is read as its value
-/

namespace LootLedger.HostName.Punycode

open Text (Chars)

/-! ### Digits -/

/-- The digit for a value below 36. -/
def digit (d : Nat) : Char :=
  if d < 26 then Char.ofNat ('a'.toNat + d) else Char.ofNat ('0'.toNat + (d - 26))

/-- The value of a digit of either case. -/
def digitValue? (c : Char) : Option Nat :=
  if 'a' ≤ c ∧ c ≤ 'z' then some (c.toNat - 'a'.toNat)
  else if 'A' ≤ c ∧ c ≤ 'Z' then some (c.toNat - 'A'.toNat)
  else if '0' ≤ c ∧ c ≤ '9' then some (c.toNat - '0'.toNat + 26)
  else none

/-- A digit that was written is read as its value. -/
theorem digitValue?_digit {d : Nat} (h : d < 36) : digitValue? (digit d) = some d := by
  have all : ∀ d < 36, digitValue? (digit d) = some d := by decide
  exact all d h

/-- The least value of a digit that does not end a number, at a place and a bias. Places are
counted in steps of 36. -/
def threshold (place bias : Nat) : Nat :=
  if place ≤ bias then 1 else min 26 (place - bias)

theorem threshold_pos (place bias : Nat) : 0 < threshold place bias := by
  unfold threshold
  split <;> omega

/-- The bias of the first gap. -/
def firstBias : Nat := 72

/-- Divides a scaled gap until it is small, and counts the places that this takes. -/
def placesOf (gap places : Nat) : Nat :=
  if 455 < gap then placesOf (gap / 35) (places + 36) else places + 36 * gap / (gap + 38)
termination_by gap
decreasing_by exact Nat.div_lt_self (by omega) (by omega)

/-- The bias after a gap, given how many characters there are then. The first gap is the way from
ASCII to the script of the text, and says little about the ones to come. -/
def adapted (gap count : Nat) (isFirst : Bool) : Nat :=
  let scaled := if isFirst then gap / 700 else gap / 2
  placesOf (scaled + scaled / count) 0

/-! ### Gaps as digits -/

/-- The digits of a gap from a place on. -/
def writeGap (bias place gap : Nat) : Chars :=
  let t := threshold place bias
  if gap < t then [digit gap]
  else digit (t + (gap - t) % (36 - t)) :: writeGap bias (place + 36) ((gap - t) / (36 - t))
termination_by gap
decreasing_by
  have := threshold_pos place bias
  exact Nat.lt_of_le_of_lt (Nat.div_le_self _ _) (by omega)

/-- The digits of gaps, given how many characters there are before the first of them. -/
def writeGaps (bias count : Nat) (isFirst : Bool) : List Nat → Chars
  | [] => []
  | gap :: gaps =>
    writeGap bias 36 gap ++ writeGaps (adapted gap (count + 1) isFirst) (count + 1) false gaps

/-- Where numbers of the format end. -/
def numberLimit : Nat := Nat.pow 2 32

/-- The gaps that digits spell. The value so far belongs to the gap that is being read, and the
weight to its next digit. -/
def readGaps? (bias count : Nat) (isFirst : Bool) (place weight value : Nat) :
    Chars → Option (List Nat)
  | [] => if place = 36 then some [] else none
  | c :: s =>
    match digitValue? c with
    | none => none
    | some d =>
      let t := threshold place bias
      let gap := value + d * weight
      if d < t then
        (readGaps? (adapted gap (count + 1) isFirst) (count + 1) false 36 1 0 s).map (gap :: ·)
      else if weight * (36 - t) < numberLimit then
        readGaps? bias count isFirst (place + 36) (weight * (36 - t)) gap s
      else none

/-! ### Gaps as insertions -/

/-- The code point and the position of each insertion that makes a text from its ASCII characters,
the smallest code point first. -/
def insertions (s : Chars) : List (Nat × Nat) :=
  let foreign := s.zipIdx.filter fun (c, _) => 0x80 ≤ c.toNat
  (foreign.mergeSort fun a b => a.1.toNat ≤ b.1.toNat).map fun (c, position) =>
    (c.toNat, (s.take position).countP fun d => d.toNat ≤ c.toNat)

/-- The gaps between insertions. A place is a code point and a position; of `count` characters,
one more positions come before the next code point. -/
def gaps (code position count : Nat) : List (Nat × Nat) → List Nat
  | [] => []
  | (c, p) :: rest =>
    ((c - code) * (count + 1) + p - position) :: gaps c (p + 1) (count + 1) rest

/-- The text that a text becomes by the insertions after gaps. -/
def inserted? (code position : Nat) (s : Chars) : List Nat → Option Chars
  | [] => some s
  | gap :: rest =>
    let total := position + gap
    let code := code + total / (s.length + 1)
    let position := total % (s.length + 1)
    if total < numberLimit ∧ code.isValidChar then
      inserted? code (position + 1) (s.insertIdx position (Char.ofNat code)) rest
    else none

/-! ### Texts -/

/-- The form of a text in ASCII. -/
def encode (s : Chars) : Chars :=
  let basic := s.filter fun c => c.toNat < 0x80
  let hyphen := if basic = [] then [] else ['-']
  basic ++ hyphen ++
    writeGaps firstBias basic.length true (gaps 0x80 0 basic.length (insertions s))

/-- The text that an ASCII text is the form of. A hyphen at its start ends nothing. -/
def decode? (s : Chars) : Option Chars := do
  let tail := (s.reverse.takeWhile (· != '-')).reverse
  let basic := s.take (s.length - tail.length - 1)
  let digits := if basic = [] then s else tail
  let found ← readGaps? firstBias basic.length true 36 1 0 digits
  inserted? 0x80 0 basic found

end LootLedger.HostName.Punycode
