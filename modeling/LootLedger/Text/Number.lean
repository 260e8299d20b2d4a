import LootLedger.Text.Blank

/-!
# Unsigned numerals

Whole numbers in filters, headers and options are decimal numerals with an optional plus sign.
They may have leading zeros, and a numeral above the stated limit is no number at all: nothing
wraps.

## Main definitions

* `Text.digits`: the numeral of a number, without leading zeros
* `Text.readDigits?`: the number that a non-empty run of digits denotes
* `Text.readNat?`: an optionally signed numeral of at most `limit`
-/

namespace LootLedger.Text

/-- One of the ten ASCII digits. -/
def isDigit (c : Char) : Bool :=
  '0' ≤ c && c ≤ '9'

/-- The value of a digit. -/
def digitValue (c : Char) : Nat :=
  c.toNat - '0'.toNat

/-- The digit for `n % 10`. -/
def digitChar (n : Nat) : Char :=
  Char.ofNat ('0'.toNat + n % 10)

/-- The numeral of `n`, without leading zeros. -/
def digits (n : Nat) : Chars :=
  if n < 10 then [digitChar n] else digits (n / 10) ++ [digitChar n]
termination_by n
decreasing_by omega

/-- The numeral of `n`, filled up with zeros on the left to at least `width` digits. -/
def paddedDigits (width n : Nat) : Chars :=
  List.replicate (width - (digits n).length) '0' ++ digits n

/-- The number denoted by digits, most significant first. -/
def ofDigits (s : Chars) : Nat :=
  s.foldl (fun n c => 10 * n + digitValue c) 0

/-- The number that a non-empty run of digits denotes. -/
def readDigits? (s : Chars) : Option Nat :=
  if s ≠ [] ∧ s.all isDigit then some (ofDigits s) else none

/-- The number that a numeral with an optional plus sign denotes, if it is at most `limit`. -/
def readNat? (limit : Nat) (s : Chars) : Option Nat :=
  let unsigned := match s with
    | '+' :: rest => rest
    | _ => s
  (readDigits? unsigned).filter (· ≤ limit)

/-- The largest 32-bit number. -/
def max32 : Nat := Nat.pow 2 32 - 1

/-- The largest 64-bit number. -/
def max64 : Nat := Nat.pow 2 64 - 1

/-- The text with its ASCII letters in lower case and everything else unchanged. -/
def lowerAscii (s : Chars) : Chars :=
  s.map Char.toLower

/-- Two texts agree but for the case of ASCII letters. -/
def equalIgnoringCase (s t : Chars) : Bool :=
  lowerAscii s == lowerAscii t

theorem ofDigits_append_singleton (s : Chars) (c : Char) :
    ofDigits (s ++ [c]) = 10 * ofDigits s + digitValue c := by
  simp [ofDigits, List.foldl_append]

theorem digitValue_digitChar (n : Nat) : digitValue (digitChar n) = n % 10 := by
  have h : n % 10 < 10 := Nat.mod_lt _ (by decide)
  simp only [digitChar]
  generalize n % 10 = d at h
  match d, h with
  | 0, _ | 1, _ | 2, _ | 3, _ | 4, _ | 5, _ | 6, _ | 7, _ | 8, _ | 9, _ => rfl

/-- Writing a number and reading the numeral gives the number back. -/
@[simp] theorem ofDigits_digits (n : Nat) : ofDigits (digits n) = n := by
  induction n using Nat.strongRecOn with
  | _ n ih =>
    rw [digits]
    split
    · next h => simp [ofDigits, digitValue_digitChar, Nat.mod_eq_of_lt h]
    · next h =>
      rw [ofDigits_append_singleton, ih (n / 10) (by omega), digitValue_digitChar]
      omega

end LootLedger.Text
