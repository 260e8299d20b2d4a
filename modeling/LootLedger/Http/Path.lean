import LootLedger.Http.Escape
import LootLedger.Http.Scheme
import LootLedger.Text.Split

/-!
# Paths

The path of an address is a way from the root, in segments. Steps to here and above are taken at
once, so a path has one written form. The segment that names a drive, a letter with a colon or a
bar, is never left by a step above.

## Main definitions

* `Http.walk`: the segments of a path without steps to here and above
* `Http.SchemeKind.pathText`: the written form of a path
* `Http.filePath`: the path of a file, and whether it starts at a drive

## Main statements

* `Http.walk_plain`: a way without steps to here and above is taken as it is
-/

namespace LootLedger.Http

open Text (Chars)

/-- Escaped in paths. -/
def isEscapedInPath (c : Char) : Bool :=
  isForeign c || " \"#<>?`{}".toList.contains c

/-- The segment stands for the place it is in. -/
def isHere (segment : Chars) : Bool :=
  [".", "%2e"].any fun s => Text.lowerAscii segment == s.toList

/-- The segment stands for the place above. -/
def isAbove (segment : Chars) : Bool :=
  ["..", ".%2e", "%2e.", "%2e%2e"].any fun s => Text.lowerAscii segment == s.toList

/-- The segment names a drive. -/
def isDrive : Chars → Bool
  | [letter, mark] => letter.isAlpha && (mark == ':' || mark == '|')
  | _ => false

/-- The place above the one that a way led to, last segment first. There is none above the root
or above a drive. -/
def above : List Chars → List Chars
  | [] => []
  | s :: taken => if isDrive s then s :: taken else taken

/-- Takes the steps of a path, given those already taken, last one first. A path that ends on a
step to here or above ends in a slash. -/
def walk (taken : List Chars) : List Chars → List Chars
  | [] => taken.reverse
  | s :: rest =>
    if isAbove s then
      if rest = [] then ([] :: above taken).reverse else walk (above taken) rest
    else if isHere s then
      if rest = [] then ([] :: taken).reverse else walk taken rest
    else walk (s :: taken) rest

/-- A way without steps to here and above is taken as it is. -/
theorem walk_plain {segments : List Chars} (taken : List Chars)
    (h : ∀ s ∈ segments, isAbove s = false ∧ isHere s = false) :
    walk taken segments = taken.reverse ++ segments := by
  induction segments generalizing taken with
  | nil => simp [walk]
  | cons s rest ih =>
    have hs := h s List.mem_cons_self
    rw [walk, hs.1, hs.2]
    simp [ih (s :: taken) fun t ht => h t (List.mem_cons_of_mem s ht)]

/-- The segments of a path, escaped, from the slash on that it starts with. -/
def SchemeKind.segments (kind : SchemeKind) (s : Chars) : List Chars :=
  let isFirstSlash := s.head?.any kind.isSlash
  let way := (if isFirstSlash then s.drop 1 else s).map fun c => if kind.isSlash c then '/' else c
  (Text.splitAtChar '/' way).map (escapeWhere isEscapedInPath)

/-- Segments with a slash before each. -/
def slashed (segments : List Chars) : Chars :=
  '/' :: Text.joinWith '/' segments

/-- The written form of a path. -/
def SchemeKind.pathText (kind : SchemeKind) (s : Chars) : Chars :=
  slashed (walk [] (kind.segments s))

/-- A path that starts at a drive with the drive in its usual form, which has a colon. -/
def withDrive : List Chars → List Chars
  | [] => []
  | s :: rest => if isDrive s then (s.take 1 ++ [':']) :: rest else s :: rest

/-- The path to a file, and whether it starts at a drive. It has one slash at its start, however
many are written. -/
def filePath (segments : List Chars) : Chars × Bool :=
  let way := withDrive (walk [] segments)
  ('/' :: (slashed way).dropWhile (· == '/'), way.head?.any isDrive)

end LootLedger.Http
