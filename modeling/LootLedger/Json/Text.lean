import LootLedger.Text.Hexadecimal

/-!
# JSON strings

The quoted form of a text in a JSON document. Writing escapes the quote, the backslash and the
controls below the space, and nothing else. Reading accepts every escape of the format; the
four-digit escapes name 16-bit units, of which a high and a low surrogate make one character
only when they stand side by side.

## Main definitions

* `Json.quote`: a text between quotes
* `Json.readQuoted?`: the text up to the closing quote, and what follows it
-/

namespace LootLedger.Json

open Text (Chars)

/-! ### Writing -/

/-- How one character is written inside quotes. -/
def escape (c : Char) : Chars :=
  if c = '"' then ['\\', '"']
  else if c = '\\' then ['\\', '\\']
  else if c = '\n' then ['\\', 'n']
  else if c = '\r' then ['\\', 'r']
  else if c = '\t' then ['\\', 't']
  else if c = '\x08' then ['\\', 'b']
  else if c = '\x0c' then ['\\', 'f']
  else if c.toNat < 0x20 then ['\\', 'u', '0', '0', Text.lowerHex (c.toNat / 16),
    Text.lowerHex c.toNat]
  else [c]

/-- The text between quotes. -/
def quote (s : Chars) : Chars :=
  '"' :: (s.flatMap escape ++ ['"'])

/-! ### Reading -/

/-- A piece of a quoted text: a character as such, or a 16-bit unit given by its number. -/
inductive Piece
  | char (c : Char)
  | unit (n : Nat)
  deriving DecidableEq, Repr

/-- The number that four hexadecimal digits denote. -/
def hexUnit? (a b c d : Char) : Option Nat := do
  return 4096 * (← Text.hexValue? a) + 256 * (← Text.hexValue? b) + 16 * (← Text.hexValue? c) +
    (← Text.hexValue? d)

/-- The character that a one-letter escape names. -/
def namedEscape? : Char → Option Char
  | '"' => some '"'
  | '\\' => some '\\'
  | '/' => some '/'
  | 'b' => some '\x08'
  | 'f' => some '\x0c'
  | 'n' => some '\n'
  | 'r' => some '\r'
  | 't' => some '\t'
  | _ => none

/-- The pieces up to the closing quote, and what follows it; `none` if the text is not closed, or
has a bare control character or a malformed escape. -/
def readPieces? : Chars → Option (List Piece × Chars)
  | [] => none
  | '"' :: s => some ([], s)
  | '\\' :: 'u' :: a :: b :: c :: d :: s => do
    let unit ← hexUnit? a b c d
    let (pieces, rest) ← readPieces? s
    return (.unit unit :: pieces, rest)
  | '\\' :: e :: s => do
    let c ← namedEscape? e
    let (pieces, rest) ← readPieces? s
    return (.char c :: pieces, rest)
  | c :: s =>
    if c.toNat < 0x20 ∨ c = '\\' then none
    else do
      let (pieces, rest) ← readPieces? s
      return (.char c :: pieces, rest)

/-- A 16-bit unit that begins a surrogate pair. -/
def isHighSurrogate (n : Nat) : Bool :=
  0xD800 ≤ n && n < 0xDC00

/-- A 16-bit unit that ends a surrogate pair. -/
def isLowSurrogate (n : Nat) : Bool :=
  0xDC00 ≤ n && n < 0xE000

/-- The text that the pieces spell; `none` if a surrogate stands alone. -/
def spell? : List Piece → Option Chars
  | [] => some []
  | .char c :: ps => (spell? ps).map (c :: ·)
  | .unit high :: .unit low :: ps =>
    if isHighSurrogate high then
      if isLowSurrogate low then
        (spell? ps).map (Char.ofNat (0x10000 + (high - 0xD800) * 0x400 + (low - 0xDC00)) :: ·)
      else none
    else if isLowSurrogate high then none
    else (spell? (.unit low :: ps)).map (Char.ofNat high :: ·)
  | .unit n :: ps =>
    if isHighSurrogate n || isLowSurrogate n then none
    else (spell? ps).map (Char.ofNat n :: ·)

/-- The text after an opening quote, and what follows its closing quote. The outer `none` stands
for malformed input, the inner one for a text with a lone surrogate. -/
def readQuoted? (s : Chars) : Option (Option Chars × Chars) :=
  (readPieces? s).map fun (pieces, rest) => (spell? pieces, rest)

end LootLedger.Json
