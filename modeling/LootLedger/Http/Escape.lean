import LootLedger.Text.Hexadecimal

/-!
# Percent escapes

An address is plain ASCII. A character that may not stand for itself is written as its UTF-8
bytes, each as a percent sign and two hexadecimal digits. Which characters may stand for
themselves differs from part to part; form fields keep the fewest, and write a space as a plus.

## Main definitions

* `Http.escapeWhere`: a text with some of its characters escaped
* `Http.formField`: a name or value of a form field
* `Http.unescape?`: the text that an escaped one stands for
-/

namespace LootLedger.Http

open Text (Chars)

/-! ### Writing -/

/-- An escaped byte. -/
def percentByte (b : UInt8) : Chars :=
  ['%', Text.upperHex (b.toNat / 16), Text.upperHex b.toNat]

/-- A character as its escaped bytes. -/
def percentChar (c : Char) : Chars :=
  (String.utf8EncodeChar c).flatMap percentByte

/-- The text with the characters that meet a condition escaped. -/
def escapeWhere (isEscaped : Char → Bool) (s : Chars) : Chars :=
  s.flatMap fun c => if isEscaped c then percentChar c else [c]

/-- A control character, or one beyond ASCII. These are escaped in every part of an address. -/
def isForeign (c : Char) : Bool :=
  c.toNat < 0x20 || 0x7F ≤ c.toNat

/-- A character of a form field that stands for itself. -/
def isFormLiteral (c : Char) : Bool :=
  c.isAlphanum || c == '*' || c == '-' || c == '.' || c == '_'

/-- The written form of a name or value of a form field. -/
def formField (s : Chars) : Chars :=
  s.flatMap fun c =>
    if c = ' ' then ['+'] else if isFormLiteral c then [c] else percentChar c

/-- Form fields as they stand in a query. -/
def formPairs : List (Chars × Chars) → Chars
  | [] => []
  | [(name, value)] => formField name ++ '=' :: formField value
  | (name, value) :: rest => formField name ++ '=' :: formField value ++ '&' :: formPairs rest

/-! ### Reading -/

/-- The bytes of an escaped text. A percent sign that is not followed by two digits stands for
itself. -/
def unescapedBytes : Chars → List UInt8
  | [] => []
  | '%' :: a :: b :: s =>
    match Text.hexValue? a, Text.hexValue? b with
    | some x, some y => (16 * x + y).toUInt8 :: unescapedBytes s
    | _, _ => String.utf8EncodeChar '%' ++ unescapedBytes (a :: b :: s)
  | c :: s => String.utf8EncodeChar c ++ unescapedBytes s

/-- The text that an escaped one stands for, if its bytes are the bytes of a text. -/
def unescape? (s : Chars) : Option Chars :=
  (String.fromUTF8? ⟨(unescapedBytes s).toArray⟩).map String.toList

end LootLedger.Http
