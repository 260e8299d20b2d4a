import LootLedger.Text.Blank

/-!
# Cutting texts into lines and words

Documents are cut at line feeds, lines into words at blanks, and names at a marker. Everything
is stated on lists of characters, by recursion on the text, so that a law about a line or a word
is one induction.

## Main definitions

* `Text.lines`: the lines of a document, without their terminators
* `Text.words`: the non-empty runs between blanks
* `Text.splitOnce?`: the parts before and after the first occurrence of a marker
* `Text.hasInfix`: the marker occurs somewhere in the text
-/

namespace LootLedger.Text

/-! ### Lines

A line ends with a line feed, and a carriage return just before it belongs to the ending. The
last line need not be ended; then a carriage return in it is part of the line. -/

/-- Cuts at every line feed. There is one piece more than there are line feeds. -/
def splitLines : Chars → List Chars
  | [] => [[]]
  | c :: s =>
    if c = '\n' then [] :: splitLines s
    else
      match splitLines s with
      | [] => [[c]]
      | l :: ls => (c :: l) :: ls

/-- An ended line without the carriage return before its line feed. -/
def dropReturn (l : Chars) : Chars :=
  if l.getLast? = some '\r' then l.dropLast else l

/-- The lines among the pieces between line feeds: the last piece is a line only if it holds
something, and keeps a carriage return. -/
def endLines : List Chars → List Chars
  | [] => []
  | [last] => if last = [] then [] else [last]
  | l :: ls => dropReturn l :: endLines ls

/-- The lines of a document, without their terminators. -/
def lines (s : Chars) : List Chars :=
  endLines (splitLines s)

/-! ### Words -/

/-- The words of a text whose pending word is `w`, last character first. -/
def wordsFrom : Chars → Chars → List Chars
  | w, [] => if w = [] then [] else [w.reverse]
  | w, c :: s =>
    if isBlank c then
      if w = [] then wordsFrom [] s else w.reverse :: wordsFrom [] s
    else wordsFrom (c :: w) s

/-- The non-empty runs between blanks, in order. -/
def words (s : Chars) : List Chars :=
  wordsFrom [] s

/-! ### Markers -/

/-- The text after the marker, if it starts with it. -/
def dropPrefix? : Chars → Chars → Option Chars
  | [], s => some s
  | _ :: _, [] => none
  | p :: ps, c :: s => if p = c then dropPrefix? ps s else none

/-- The text starts with the marker. -/
def startsWith (marker s : Chars) : Bool :=
  marker.isPrefixOf s

/-- The text ends with the marker. -/
def endsWith (marker s : Chars) : Bool :=
  marker.isSuffixOf s

/-- The parts before and after the first occurrence of the marker. -/
def splitOnce? (marker : Chars) : Chars → Option (Chars × Chars)
  | [] => if marker = [] then some ([], []) else none
  | c :: s =>
    match dropPrefix? marker (c :: s) with
    | some rest => some ([], rest)
    | none => (splitOnce? marker s).map fun (before, rest) => (c :: before, rest)

/-- The marker occurs somewhere in the text. -/
def hasInfix (marker : Chars) : Chars → Bool
  | [] => marker.isEmpty
  | c :: s => startsWith marker (c :: s) || hasInfix marker s

/-- `s` starts with `x`. -/
def begins (s x : String) : Bool :=
  startsWith x.toList s.toList

/-- `s` ends with `x`. -/
def ends (s x : String) : Bool :=
  endsWith x.toList s.toList

/-- `x` occurs in `s` as a substring. -/
def contains (s x : String) : Bool :=
  hasInfix x.toList s.toList

/-- The text cut at every occurrence of the character `sep`, which is in none of the pieces. -/
def splitAtChar (sep : Char) : Chars → List Chars
  | [] => [[]]
  | c :: s =>
    if c = sep then [] :: splitAtChar sep s
    else
      match splitAtChar sep s with
      | [] => [[c]]
      | l :: ls => (c :: l) :: ls

/-- The texts with the character `sep` between them. -/
def joinWith (sep : Char) : List Chars → Chars
  | [] => []
  | [s] => s
  | s :: t :: ss => s ++ sep :: joinWith sep (t :: ss)

/-! ### Small laws -/

@[simp] theorem lines_nil : lines [] = [] := rfl

@[simp] theorem words_nil : words [] = [] := rfl

@[simp] theorem dropPrefix?_append (p s : Chars) : dropPrefix? p (p ++ s) = some s := by
  induction p with
  | nil => rfl
  | cons c p ih => simpa [dropPrefix?] using ih

/-- A text from which a marker can be dropped is that marker followed by the rest. -/
theorem eq_append_of_dropPrefix? {p s r : Chars} (h : dropPrefix? p s = some r) :
    s = p ++ r := by
  induction p generalizing s with
  | nil => simpa [dropPrefix?] using h
  | cons c p ih =>
    cases s with
    | nil => simp [dropPrefix?] at h
    | cons d s =>
      simp only [dropPrefix?] at h
      split at h
      · next hcd => rw [hcd, ih h, List.cons_append]
      · cases h

theorem hasInfix_iff {marker s : Chars} : hasInfix marker s = true ↔ marker <:+: s := by
  induction s with
  | nil => simp [hasInfix]
  | cons c s ih =>
    rw [hasInfix, Bool.or_eq_true, startsWith, List.isPrefixOf_iff_prefix, ih,
      List.infix_cons_iff]

theorem contains_iff {s x : String} : contains s x = true ↔ x.toList <:+: s.toList :=
  hasInfix_iff

theorem contains_eq_false_iff {s x : String} : contains s x = false ↔ ¬ x.toList <:+: s.toList := by
  rw [← contains_iff, Bool.not_eq_true]

theorem begins_iff {s x : String} : begins s x = true ↔ x.toList <+: s.toList :=
  List.isPrefixOf_iff_prefix

theorem begins_eq_false_iff {s x : String} : begins s x = false ↔ ¬ x.toList <+: s.toList := by
  rw [← begins_iff, Bool.not_eq_true]

theorem splitLines_ne_nil (s : Chars) : splitLines s ≠ [] := by
  cases s with
  | nil => simp [splitLines]
  | cons c s =>
    simp only [splitLines]
    split
    · simp
    · split <;> simp

/-- A document's first line feed ends its first piece. -/
theorem splitLines_append_newline (l s : Chars) (h : '\n' ∉ l) :
    splitLines (l ++ '\n' :: s) = l :: splitLines s := by
  induction l with
  | nil => simp [splitLines]
  | cons c l ih =>
    have hc : c ≠ '\n' := fun e => h (by simp [e])
    have hl : '\n' ∉ l := fun e => h (List.mem_cons_of_mem _ e)
    simp [splitLines, hc, ih hl]

end LootLedger.Text
