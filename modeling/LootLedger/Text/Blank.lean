/-!
# Blank characters

The characters that separate words. The set is the Unicode property `White_Space`: the five
ASCII controls from tab to carriage return, the space, and eighteen characters further up. A
loot filter saved by an editor on any platform may hold any of them, so ASCII alone will not do.

## Main definitions

* `Text.isBlank`: the character separates words
* `Text.trim`, `Text.trimLeft`, `Text.trimRight`: a text without the blanks at its ends
-/

namespace LootLedger.Text

/-- A text as the list of its characters. All readers of the library work on this view. -/
abbrev Chars := List Char

/-- The character has the Unicode property `White_Space`. -/
def isBlank (c : Char) : Bool :=
  let n := c.toNat
  (9 ≤ n && n ≤ 13) || n == 0x20 || n == 0x85 || n == 0xA0 || n == 0x1680 ||
    (0x2000 ≤ n && n ≤ 0x200A) || n == 0x2028 || n == 0x2029 || n == 0x202F ||
    n == 0x205F || n == 0x3000

/-- The text without the blanks at its start. -/
def trimLeft (s : Chars) : Chars :=
  s.dropWhile isBlank

/-- The text without the blanks at its end. -/
def trimRight (s : Chars) : Chars :=
  (s.reverse.dropWhile isBlank).reverse

/-- The text without the blanks at either end. -/
def trim (s : Chars) : Chars :=
  trimRight (trimLeft s)

@[simp] theorem trimLeft_nil : trimLeft [] = [] := rfl

@[simp] theorem trimRight_nil : trimRight [] = [] := rfl

@[simp] theorem trim_nil : trim [] = [] := rfl

theorem trimLeft_cons_of_not_isBlank {c : Char} {s : Chars} (h : isBlank c = false) :
    trimLeft (c :: s) = c :: s := by
  simp [trimLeft, h]

/-- Trimming on the left leaves a suffix, and what it takes off is blank. -/
theorem takeWhile_append_trimLeft (s : Chars) : s.takeWhile isBlank ++ trimLeft s = s :=
  List.takeWhile_append_dropWhile

end LootLedger.Text
