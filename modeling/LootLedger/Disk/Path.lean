import LootLedger.Text.Split

/-!
# Paths

A path is a text whose pieces are separated by slashes. Empty pieces and pieces that are a single
dot mean nothing, except that a leading dot is kept. The functions here look at the text alone:
where a path leads is a matter of the disk.

## Main definitions

* `Path.pieces`, `Path.isAbsolute`, `Path.endsInSlash`
* `Path.join`: one path below another
* `Path.parent?`: the path without its last piece
* `Path.withExtension`: the sibling with another extension
-/

namespace LootLedger.Path

open Text (Chars)

/-- The path starts at the root. -/
def isAbsolute (path : String) : Bool :=
  Text.begins path "/"

/-- The path asks for a directory. -/
def endsInSlash (path : String) : Bool :=
  Text.ends path "/"

/-- The non-empty pieces of a path. -/
def pieces (path : String) : List String :=
  ((Text.splitAtChar '/' path.toList).filter (· ≠ [])).map String.ofList

/-- The path `path` as seen from `base`. -/
def join (base path : String) : String :=
  if isAbsolute path ∨ base = "" then path
  else if endsInSlash base then base ++ path
  else base ++ "/" ++ path

/-! ### The last piece

Both functions work on the pieces in reverse, last one first, with the empty pieces that record
where slashes stand. -/

/-- The pieces in reverse without those at the end that mean nothing. A dot is kept if a path
that does not start at the root starts with it. -/
def dropTrivial (absolute : Bool) : List Chars → List Chars
  | [] => []
  | piece :: before =>
    if piece = [] ∨ (piece = ['.'] ∧ (absolute ∨ before ≠ [])) then dropTrivial absolute before
    else piece :: before

/-- The pieces of a path after the slash of the root, in reverse. -/
def reversedPieces (path : String) : List Chars :=
  let s := path.toList
  let pieces := Text.splitAtChar '/' (if isAbsolute path then s.drop 1 else s)
  dropTrivial (isAbsolute path) pieces.reverse

/-- The path with the given pieces in reverse, below the root if `absolute`. -/
def ofReversedPieces (absolute : Bool) (pieces : List Chars) : String :=
  String.ofList ((if absolute then ['/'] else []) ++ Text.joinWith '/' pieces.reverse)

/-- The path without its last piece, none if there is no piece. -/
def parent? (path : String) : Option String :=
  match reversedPieces path with
  | [] => none
  | _ :: before =>
    some (ofReversedPieces (isAbsolute path) (dropTrivial (isAbsolute path) before))

/-- A file name up to its last dot. A dot at the start belongs to the name. -/
def stem (name : Chars) : Chars :=
  match (name.reverse.dropWhile (· != '.')) with
  | _ :: c :: before => (c :: before).reverse
  | _ => name

/-- The path with another extension in its last piece. A path that ends in no name stays as it
is. -/
def withExtension (path extension : String) : String :=
  match reversedPieces path with
  | [] => path
  | name :: before =>
    if name = "..".toList ∨ name = ".".toList then path
    else
      let name := stem name ++ '.' :: extension.toList
      ofReversedPieces (isAbsolute path) (name :: before)

end LootLedger.Path
