import LootLedger.Toml.Scalar
import LootLedger.Toml.Text

/-!
# Reading TOML

A document is read line by line: a header opens a table, and every other line adds an entry to
the table that is open. Values may run over several lines, so a line is what the reader of an
entry leaves over. Each reader takes the characters that are left and gives back those after
what it has read. The readers of nested values count their steps down from a bound that every
text meets. Values are nested, and keys composed, up to a fixed depth.

## Main definitions

* `Toml.parse?`: the entries of a document
-/

namespace LootLedger.Toml

open Text (Chars)

/-! ### Blanks and comments -/

/-- A space or a tab. -/
def isSpace (c : Char) : Bool :=
  c == ' ' || c == '\t'

/-- The text after the spaces at its start. -/
def skipSpace (s : Chars) : Chars :=
  s.dropWhile isSpace

/-- The text after a comment, which ends before the end of its line; `none` if the comment has a
control character in it. -/
def skipComment? : Chars → Option Chars
  | '#' :: s =>
    let isEnd := fun c : Char => c == '\n' || c == '\r'
    if (s.takeWhile fun c => !isEnd c).any isControl then none
    else some (s.dropWhile fun c => !isEnd c)
  | s => some s

/-- The text after the line break at its start, which the end of the document stands in for. -/
def skipLineEnd? : Chars → Option Chars
  | [] => some []
  | '\n' :: s => some s
  | '\r' :: '\n' :: s => some s
  | _ => none

/-- The text of the next line, after what may follow a complete statement. -/
def nextLine? (s : Chars) : Option Chars := do
  skipLineEnd? (← skipComment? (skipSpace s))

/-- The text after spaces, comments and line breaks. -/
def skipBlankLines? : Nat → Chars → Option Chars
  | 0, _ => none
  | steps + 1, s =>
    match skipSpace s with
    | '#' :: s => do
      let s ← skipComment? ('#' :: s)
      skipBlankLines? steps s
    | '\n' :: s => skipBlankLines? steps s
    | '\r' :: '\n' :: s => skipBlankLines? steps s
    | s => some s

/-! ### Keys -/

/-- A character of a key without quotes. -/
def isKeyChar (c : Char) : Bool :=
  c.isAlphanum || c == '_' || c == '-'

/-- A key at the start, and what follows it. Keys have no quotes or those of a single line. -/
def readSimpleKey? : Chars → Option (String × Chars)
  | '"' :: s => (readBasic? s).map fun (key, rest) => (String.ofList key, rest)
  | '\'' :: s => (readLiteral? s).map fun (key, rest) => (String.ofList key, rest)
  | s =>
    match s.takeWhile isKeyChar with
    | [] => none
    | key => some (String.ofList key, s.dropWhile isKeyChar)

/-- The greatest number of pieces that a key may have, and of brackets that a value may stand in. -/
def depthLimit : Nat := 79

/-- A key of one or more pieces with dots between them: the pieces before the last one, the last
one, and what follows. -/
def readPieces? : Nat → Chars → Option ((List String × String) × Chars)
  | 0, _ => none
  | steps + 1, s => do
    let (key, s) ← readSimpleKey? (skipSpace s)
    match skipSpace s with
    | '.' :: s =>
      let ((path, last), rest) ← readPieces? steps s
      return ((key :: path, last), rest)
    | s => return (([], key), s)

/-- A key that has not too many pieces, and what follows it. -/
def readKey? (s : Chars) : Option ((List String × String) × Chars) :=
  (readPieces? (s.length + 1) s).filter fun ((path, _), _) => path.length + 1 ≤ depthLimit

/-! ### Values -/

mutual

/-- A value, and what follows it. Only so many brackets may be opened for it as the depth says. -/
def readValue? (depth : Nat) : Nat → Chars → Option (Toml × Chars)
  | 0, _ => none
  | steps + 1, s =>
    match s, depth with
    | '[' :: s, depth + 1 =>
      (readElements? depth steps s).map fun (xs, rest) => (.array xs, rest)
    | '{' :: s, depth + 1 =>
      match skipSpace s with
      | '}' :: rest => some (.table .whole [], rest)
      | s => (readMembers? depth steps [] s).map fun (es, rest) => (.table .whole es, rest)
    | '"' :: _, _ => (readString? s).map fun (t, rest) => (.text (String.ofList t), rest)
    | '\'' :: _, _ => (readString? s).map fun (t, rest) => (.text (String.ofList t), rest)
    | s, _ => readWord? s

/-- The elements of an array up to its closing bracket. -/
def readElements? (depth : Nat) : Nat → Chars → Option (List Toml × Chars)
  | 0, _ => none
  | steps + 1, s => do
    match ← skipBlankLines? (s.length + 1) s with
    | ']' :: rest => return ([], rest)
    | s =>
      let (x, s) ← readValue? depth steps s
      match ← skipBlankLines? (s.length + 1) s with
      | ',' :: s =>
        let (xs, rest) ← readElements? depth steps s
        return (x :: xs, rest)
      | ']' :: rest => return ([x], rest)
      | _ => none

/-- The entries between braces up to the closing one, after those read so far. -/
def readMembers? (depth : Nat) : Nat → Entries → Chars → Option (Entries × Chars)
  | 0, _, _ => none
  | steps + 1, entries, s => do
    let ((path, key), s) ← readKey? s
    match s with
    | '=' :: s =>
      let (x, s) ← readValue? depth steps (skipSpace s)
      let entries ← insert path key x entries
      match skipSpace s with
      | ',' :: s => readMembers? depth steps entries s
      | '}' :: rest => return (entries, rest)
      | _ => none
    | _ => none

end

/-! ### Documents -/

/-- What is known after some lines: all entries, and the path to the table that is open. -/
structure Draft where
  entries : Entries := []
  current : List String := []

/-- Adds an entry to the table that is open. -/
def Draft.add? (draft : Draft) (path : List String) (key : String) (value : Toml) :
    Option Draft := do
  let entries ← within false draft.current
    (fun _ entries => insert path key value entries) .whole draft.entries
  return { draft with entries }

/-- One statement, and the text of the next line. -/
def readStatement? (draft : Draft) (s : Chars) : Option (Draft × Chars) :=
  match skipSpace s with
  | '[' :: '[' :: s => do
    let ((path, key), s) ← readKey? s
    let rest ← Text.dropPrefix? "]]".toList s
    let entries ← openElement path key draft.entries
    return ({ entries, current := path ++ [key] }, ← nextLine? rest)
  | '[' :: s => do
    let ((path, key), s) ← readKey? s
    let rest ← Text.dropPrefix? "]".toList s
    let entries ← openTable path key draft.entries
    return ({ entries, current := path ++ [key] }, ← nextLine? rest)
  | s => do
    let ((path, key), s) ← readKey? s
    let rest ← Text.dropPrefix? "=".toList s
    let (value, rest) ← readValue? depthLimit (2 * s.length + 2) (skipSpace rest)
    return (← draft.add? path key value, ← nextLine? rest)

/-- Reads statements up to the end of the document. -/
def readStatements? : Nat → Draft → Chars → Option Entries
  | 0, _, _ => none
  | steps + 1, draft, s => do
    match ← skipBlankLines? (s.length + 1) s with
    | [] => return draft.entries
    | s =>
      let (draft, rest) ← readStatement? draft s
      readStatements? steps draft rest

/-- The entries of a document. A mark of the byte order at its start is not part of it. -/
def parse? (s : Chars) : Option Entries :=
  let body := match s with
    | '\uFEFF' :: rest => rest
    | _ => s
  readStatements? (body.length + 1) {} body

end LootLedger.Toml
