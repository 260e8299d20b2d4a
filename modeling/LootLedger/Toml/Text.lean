import LootLedger.Text.Hexadecimal
import LootLedger.Text.Split

/-!
# TOML strings

A text has four written forms: between one or three double quotes, where a backslash escapes, and
between one or three single quotes, where nothing does. Three quotes allow line breaks; a line
break right after them is not part of the text.

A text is written in the first form that shows it as it is: in double quotes, in single quotes,
in three double quotes, in three single quotes. Only a text that none of these can show is
escaped.

## Main definitions

* `Toml.quote`: the written form of a text
* `Toml.readString?`: the text of a written form, and what follows it
-/

namespace LootLedger.Toml

open Text (Chars)

/-! ### Characters -/

/-- A control character other than the tab. -/
def isControl (c : Char) : Bool :=
  (c.toNat < 0x20 && c != '\t') || c.toNat == 0x7F

/-- A control character other than the tab and the line feed. -/
def isHidden (c : Char) : Bool :=
  isControl c && c != '\n'

/-! ### Writing -/

/-- The length of the longest run of a character, given the length of the run so far. -/
def longestRunFrom (mark : Char) (run : Nat) : Chars → Nat
  | [] => run
  | c :: s =>
    if c = mark then longestRunFrom mark (run + 1) s
    else max run (longestRunFrom mark 0 s)

/-- The length of the longest run of a character in a text. -/
def longestRun (mark : Char) (s : Chars) : Nat :=
  longestRunFrom mark 0 s

/-- How a character other than the double quote is written between double quotes. -/
def escape (long : Bool) (c : Char) : Chars :=
  if c = '\\' then ['\\', '\\']
  else if c = '\t' then ['\\', 't']
  else if c = '\n' then (if long then ['\n'] else ['\\', 'n'])
  else if c = '\r' then ['\\', 'r']
  else if c = '\x08' then ['\\', 'b']
  else if c = '\x0c' then ['\\', 'f']
  else if isControl c then ['\\', 'u', '0', '0', Text.upperHex (c.toNat / 16),
    Text.upperHex c.toNat]
  else [c]

/-- A text between double quotes: all quotes in it are escaped, or, between three quotes, every
one that follows two others. -/
def escapeFrom (long : Bool) (run : Nat) : Chars → Chars
  | [] => []
  | '"' :: s =>
    if long ∧ run < 2 then '"' :: escapeFrom long (run + 1) s
    else '\\' :: '"' :: escapeFrom long 0 s
  | c :: s => escape long c ++ escapeFrom long 0 s

/-- A text between marks. -/
def enclose (mark body : Chars) : Chars :=
  mark ++ body ++ mark

/-- Three quotes and, if the text has several lines, a line break. -/
def longMark (mark : Char) (s : Chars) : Chars :=
  [mark, mark, mark] ++ (if s.contains '\n' then ['\n'] else [])

/-- The written form of a text. -/
def quote (s : Chars) : Chars :=
  let isOneLine := !s.contains '\n'
  let isVisible := !s.any isHidden
  let hasBackslash := s.contains '\\'
  let short := enclose ['"'] (escapeFrom false 0 s)
  let long := longMark '"' s ++ escapeFrom true 0 s ++ ['"', '"', '"']
  if isVisible ∧ isOneLine ∧ ¬hasBackslash ∧ ¬s.contains '"' then short
  else if isVisible ∧ isOneLine ∧ ¬s.contains '\'' then enclose ['\''] s
  else if isVisible ∧ ¬hasBackslash ∧ longestRun '"' s ≤ 2 then long
  else if isVisible ∧ longestRun '\'' s ≤ 2 then longMark '\'' s ++ s ++ ['\'', '\'', '\'']
  else if isOneLine then short
  else long

/-! ### Reading -/

/-- The character whose number the hexadecimal digits denote. -/
def hexChar? (digits : Chars) : Option Char := do
  let n ← Text.ofHexDigits? digits
  if n.isValidChar then some (Char.ofNat n) else none

/-- The character that a one-letter escape names. -/
def namedEscape? : Char → Option Char
  | 'b' => some '\x08'
  | 't' => some '\t'
  | 'n' => some '\n'
  | 'f' => some '\x0c'
  | 'r' => some '\r'
  | '"' => some '"'
  | '\\' => some '\\'
  | _ => none

/-- The text and the rest, with one more character in front of the text. -/
def before (c : Char) (read : Chars × Chars) : Chars × Chars :=
  (c :: read.1, read.2)

/-- The text up to a closing double quote. -/
def readBasic? : Chars → Option (Chars × Chars)
  | [] => none
  | '"' :: s => some ([], s)
  | '\\' :: 'u' :: a :: b :: c :: d :: s => do
    let x ← hexChar? [a, b, c, d]
    (readBasic? s).map (before x)
  | '\\' :: 'U' :: a :: b :: c :: d :: e :: f :: g :: h :: s => do
    let x ← hexChar? [a, b, c, d, e, f, g, h]
    (readBasic? s).map (before x)
  | '\\' :: e :: s => do
    let x ← namedEscape? e
    (readBasic? s).map (before x)
  | c :: s => if isControl c ∨ c = '\\' then none else (readBasic? s).map (before c)

/-- The text up to a closing single quote. -/
def readLiteral? : Chars → Option (Chars × Chars)
  | [] => none
  | '\'' :: s => some ([], s)
  | c :: s => if isControl c then none else (readLiteral? s).map (before c)

/-- What follows the backslash ends a line, blanks aside. -/
def endsLine (s : Chars) : Bool :=
  match s.dropWhile fun c => c == ' ' || c == '\t' with
  | '\n' :: _ => true
  | '\r' :: '\n' :: _ => true
  | _ => false

/-- The text up to three closing double quotes. A backslash at the end of a line hides the line
break and all blanks and line breaks after it; `skipping` says that the reader is
among those. -/
def readLongBasic? (skipping : Bool) : Chars → Option (Chars × Chars)
  | '"' :: '"' :: '"' :: '"' :: '"' :: s => some (['"', '"'], s)
  | '"' :: '"' :: '"' :: '"' :: s => some (['"'], s)
  | '"' :: '"' :: '"' :: s => some ([], s)
  | '\\' :: 'u' :: a :: b :: c :: d :: s => do
    let x ← hexChar? [a, b, c, d]
    (readLongBasic? false s).map (before x)
  | '\\' :: 'U' :: a :: b :: c :: d :: e :: f :: g :: h :: s => do
    let x ← hexChar? [a, b, c, d, e, f, g, h]
    (readLongBasic? false s).map (before x)
  | '\\' :: e :: s =>
    if endsLine (e :: s) then readLongBasic? true (e :: s)
    else do
      let x ← namedEscape? e
      (readLongBasic? false s).map (before x)
  | '\r' :: '\n' :: s =>
    if skipping then readLongBasic? true s else (readLongBasic? false s).map (before '\n')
  | c :: s =>
    if skipping ∧ (c = ' ' ∨ c = '\t' ∨ c = '\n') then readLongBasic? true s
    else if isHidden c ∨ c = '\\' then none
    else (readLongBasic? false s).map (before c)
  | [] => none

/-- The text up to three closing single quotes. -/
def readLongLiteral? : Chars → Option (Chars × Chars)
  | '\'' :: '\'' :: '\'' :: '\'' :: '\'' :: s => some (['\'', '\''], s)
  | '\'' :: '\'' :: '\'' :: '\'' :: s => some (['\''], s)
  | '\'' :: '\'' :: '\'' :: s => some ([], s)
  | '\r' :: '\n' :: s => (readLongLiteral? s).map (before '\n')
  | c :: s => if isHidden c then none else (readLongLiteral? s).map (before c)
  | [] => none

/-- The text without a line break at its start. -/
def dropNewline : Chars → Chars
  | '\n' :: s => s
  | '\r' :: '\n' :: s => s
  | s => s

/-- The text of a written form at the start, and what follows it. -/
def readString? : Chars → Option (Chars × Chars)
  | '"' :: '"' :: '"' :: s => readLongBasic? false (dropNewline s)
  | '\'' :: '\'' :: '\'' :: s => readLongLiteral? (dropNewline s)
  | '"' :: s => readBasic? s
  | '\'' :: s => readLiteral? s
  | _ => none

end LootLedger.Toml
