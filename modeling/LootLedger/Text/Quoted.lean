import LootLedger.Text.Hexadecimal
import LootLedger.Text.Unseen

/-!
# Quoted texts in log lines

A text between double quotes on one line. Quotes and backslashes are escaped, and so is every
character that cannot be seen by itself, by its number.

## Main definitions

* `Text.quoted`: the text between quotes
-/

namespace LootLedger.Text

/-- How a character is written between quotes. -/
def quotedChar (c : Char) : Chars :=
  if c = '"' then ['\\', '"']
  else if c = '\\' then ['\\', '\\']
  else if c = '\n' then ['\\', 'n']
  else if c = '\r' then ['\\', 'r']
  else if c = '\t' then ['\\', 't']
  else if c = '\x00' then ['\\', '0']
  else if isUnseen c then ['\\', 'u', '{'] ++ hexNumeral c.toNat ++ ['}']
  else [c]

/-- The text between quotes. -/
def quoted (s : Chars) : Chars :=
  '"' :: (s.flatMap quotedChar ++ ['"'])

end LootLedger.Text
