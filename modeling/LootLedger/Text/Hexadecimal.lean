import LootLedger.Text.Blank

/-!
# Hexadecimal digits

Digits of either case are read; which case is written is a matter of the format.

## Main definitions

* `Text.hexValue?`, `Text.lowerHex`, `Text.upperHex`, `Text.hexNumeral`
-/

namespace LootLedger.Text

/-- The value of a hexadecimal digit of either case. -/
def hexValue? (c : Char) : Option Nat :=
  if '0' ≤ c ∧ c ≤ '9' then some (c.toNat - '0'.toNat)
  else if 'a' ≤ c ∧ c ≤ 'f' then some (c.toNat - 'a'.toNat + 10)
  else if 'A' ≤ c ∧ c ≤ 'F' then some (c.toNat - 'A'.toNat + 10)
  else none

/-- The digit of `n % 16` whose letters start at `a`. -/
def hexDigitFrom (a : Char) (n : Nat) : Char :=
  let d := n % 16
  if d < 10 then Char.ofNat ('0'.toNat + d) else Char.ofNat (a.toNat + (d - 10))

/-- The hexadecimal digit of `n % 16`, in lower case. -/
def lowerHex (n : Nat) : Char :=
  hexDigitFrom 'a' n

/-- The hexadecimal digit of `n % 16`, in upper case. -/
def upperHex (n : Nat) : Char :=
  hexDigitFrom 'A' n

/-- The hexadecimal numeral of a number, without leading zeros. -/
def hexNumeral (n : Nat) : Chars :=
  if n < 16 then [lowerHex n] else hexNumeral (n / 16) ++ [lowerHex n]

/-- The number that hexadecimal digits denote, most significant first. -/
def ofHexDigits? (s : Chars) : Option Nat :=
  s.foldlM (fun n c => (hexValue? c).map (16 * n + ·)) 0

/-- A digit that was written is read as its value. -/
theorem hexValue?_hexDigitFrom {a : Char} (h : a = 'a' ∨ a = 'A') (n : Nat) :
    hexValue? (hexDigitFrom a n) = some (n % 16) := by
  have lower : ∀ d < 16, hexValue? (hexDigitFrom 'a' d) = some d := by decide
  have upper : ∀ d < 16, hexValue? (hexDigitFrom 'A' d) = some d := by decide
  have hn : n % 16 < 16 := Nat.mod_lt _ (by decide)
  have hm : hexDigitFrom a n = hexDigitFrom a (n % 16) := by simp [hexDigitFrom]
  rw [hm]
  rcases h with rfl | rfl
  · exact lower _ hn
  · exact upper _ hn

end LootLedger.Text
