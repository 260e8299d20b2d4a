import LootLedger.Toml.Text
import LootLedger.Toml.Value
import LootLedger.Text.Number

/-!
# Writing TOML

A settings file is written as values of its own, followed by sections of values, in the order in
which they are given. Every section has its header, even if nothing stands under it, and a blank
line before it. Keys are written without quotes, so they are names of letters, digits,
underscores and dashes.

## Main definitions

* `Toml.document`: values and sections in written form
-/

namespace LootLedger.Toml

open Text (Chars)

/-- A value that fits on the line of its key. -/
inductive Scalar
  | text (s : String)
  | nat (n : Nat)
  | bool (b : Bool)
  deriving DecidableEq, Repr

/-- The written form of a value. -/
def Scalar.written : Scalar → Chars
  | .text s => quote s.toList
  | .nat n => Text.digits n
  | .bool b => (if b then "true" else "false").toList

/-- A key with its value, on a line of its own. -/
def entryLine (entry : String × Scalar) : Chars :=
  entry.1.toList ++ " = ".toList ++ entry.2.written ++ ['\n']

/-- A header and the entries under it. -/
def section_ (name : String) (entries : List (String × Scalar)) : Chars :=
  "\n[".toList ++ name.toList ++ "]\n".toList ++ entries.flatMap entryLine

/-- Values followed by sections. -/
def document (entries : List (String × Scalar))
    (sections : List (String × List (String × Scalar))) : Chars :=
  entries.flatMap entryLine ++ sections.flatMap fun (name, entries) => section_ name entries

end LootLedger.Toml
