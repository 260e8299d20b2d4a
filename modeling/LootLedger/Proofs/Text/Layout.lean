import LootLedger.Text.Split

/-!
# The layout of a document

Cutting a document into lines forgets how each line was ended. The layout remembers it: every line
with its ending, from which the document is put together again. So an edit that is made to some
lines, whatever it does to their contents, is an edit of the layout, and the lines of the edited
document can be read off it.

Not every list of lines with endings is the layout of a document. A content holds no line feed, one
that a lone line feed ends does not end in a carriage return, and only a last line that holds
something can go without an ending. These are all the conditions: `IsLayout` has a case for each
ending, and `layout` and `unlayout` are inverse to each other on it.

## Main definitions

* `Text.LineEnd`, `Text.TextLine`: a line with its ending
* `Text.layout`, `Text.unlayout`: from a document to its lines with their endings, and back
* `Text.IsLayout`: the lines with endings that a document can have
* `Text.firstLines`: a document cut off after some of its lines
* `Text.IsEnded`: every line of a document is ended by a line feed

## Main results

* `Text.unlayout_layout`, `Text.IsLayout.layout_unlayout`: the two are inverse to each other
* `Text.lines_eq_map_layout`: the lines of a document are the contents of its layout
* `Text.lines_append`: the lines of two documents, the first of which is ended
-/

namespace LootLedger.Text

/-- What ends a line. -/
inductive LineEnd
  | feed
  | returnFeed
  /-- The document ends with the line. -/
  | nothing
  deriving DecidableEq, Repr

/-- The ending as written. -/
def LineEnd.chars : LineEnd → Chars
  | feed => ['\n']
  | returnFeed => ['\r', '\n']
  | nothing => []

/-- A line with its ending. -/
structure TextLine where
  content : Chars
  ending : LineEnd
  deriving DecidableEq, Repr

/-- The line as written. -/
def TextLine.chars (l : TextLine) : Chars :=
  l.content ++ l.ending.chars

/-- The line that a line feed cuts off. -/
def TextLine.ended (l : Chars) : TextLine :=
  if l.getLast? = some '\r' then ⟨l.dropLast, .returnFeed⟩ else ⟨l, .feed⟩

/-- The document that some lines make up. -/
def unlayout (ls : List TextLine) : Chars :=
  ls.flatMap TextLine.chars

/-- The lines among the pieces between line feeds, with their endings. -/
def layoutPieces : List Chars → List TextLine
  | [] => []
  | [last] => if last = [] then [] else [⟨last, .nothing⟩]
  | l :: ls => .ended l :: layoutPieces ls

/-- The lines of a document with their endings. -/
def layout (s : Chars) : List TextLine :=
  layoutPieces (splitLines s)

/-- The first `n` lines of a document. -/
def firstLines (n : Nat) (s : Chars) : Chars :=
  unlayout ((layout s).take n)

/-- The lines with endings that a document can have. -/
inductive IsLayout : List TextLine → Prop
  | nil : IsLayout []
  | nothing {l} : '\n' ∉ l → l ≠ [] → IsLayout [⟨l, .nothing⟩]
  | feed {l ls} : '\n' ∉ l → l.getLast? ≠ some '\r' → IsLayout ls → IsLayout (⟨l, .feed⟩ :: ls)
  | returnFeed {l ls} : '\n' ∉ l → IsLayout ls → IsLayout (⟨l, .returnFeed⟩ :: ls)

/-! ### One line after the other -/

/-- Induction on a document along its lines: one line feed and the line before it at a time. -/
theorem line_induction {P : Chars → Prop} (last : ∀ l, '\n' ∉ l → P l)
    (feed : ∀ l s, '\n' ∉ l → P s → P (l ++ '\n' :: s)) (s : Chars) : P s := by
  suffices h : ∀ s l, '\n' ∉ l → P (l ++ s) by simpa using h s [] (by simp)
  intro s
  induction s with
  | nil => intro l hl; simpa using last l hl
  | cons c s ih =>
    intro l hl
    by_cases hc : c = '\n'
    · subst hc
      exact feed l s hl (by simpa using ih [] (by simp))
    · simpa using ih (l ++ [c]) (by simp [hl, Ne.symm hc])

theorem splitLines_of_notMem {l : Chars} (h : '\n' ∉ l) : splitLines l = [l] := by
  induction l with
  | nil => rfl
  | cons c l ih =>
    rw [List.mem_cons, not_or] at h
    rw [splitLines, if_neg (Ne.symm h.1), ih h.2]

@[simp] theorem layout_nil : layout [] = [] := rfl

theorem layout_of_notMem {l : Chars} (h : '\n' ∉ l) (hne : l ≠ []) :
    layout l = [⟨l, .nothing⟩] := by
  rw [layout, splitLines_of_notMem h, layoutPieces, if_neg hne]

/-- A document's first line feed ends its first line. -/
theorem layout_append_newline {l : Chars} (h : '\n' ∉ l) (s : Chars) :
    layout (l ++ '\n' :: s) = .ended l :: layout s := by
  rw [layout, splitLines_append_newline l s h, layout]
  obtain ⟨p, ps, hs⟩ := List.exists_cons_of_ne_nil (splitLines_ne_nil s)
  rw [hs, layoutPieces]
  exact List.cons_ne_nil p ps

theorem lines_of_notMem {l : Chars} (h : '\n' ∉ l) (hne : l ≠ []) : lines l = [l] := by
  rw [lines, splitLines_of_notMem h, endLines, if_neg hne]

theorem lines_append_newline {l : Chars} (h : '\n' ∉ l) (s : Chars) :
    lines (l ++ '\n' :: s) = dropReturn l :: lines s := by
  rw [lines, splitLines_append_newline l s h, lines]
  obtain ⟨p, ps, hs⟩ := List.exists_cons_of_ne_nil (splitLines_ne_nil s)
  rw [hs, endLines]
  exact List.cons_ne_nil p ps

/-- Every line of the document is ended by a line feed. -/
def IsEnded (s : Chars) : Prop :=
  s = [] ∨ s.getLast? = some '\n'

instance (s : Chars) : Decidable (IsEnded s) :=
  inferInstanceAs (Decidable (_ ∨ _))

/-- The lines of two documents, the first of which is ended. -/
theorem lines_append {s : Chars} (h : IsEnded s) (t : Chars) :
    lines (s ++ t) = lines s ++ lines t := by
  induction s using line_induction with
  | last l hl =>
    rcases h with rfl | hlast
    · rfl
    · exact absurd (List.mem_of_getLast? hlast) hl
  | feed l s hl ih =>
    have hs : IsEnded s := by
      by_cases hnil : s = []
      · exact .inl hnil
      · have hlast := h.resolve_left (by simp)
        have hs := List.getLast?_eq_some_getLast hnil
        rw [List.append_cons, List.getLast?_append, hs, Option.some_or] at hlast
        exact .inr (hs.trans hlast)
    rw [List.append_assoc, List.cons_append, lines_append_newline hl, lines_append_newline hl,
      ih hs, List.cons_append]

/-- The lines of a document all of whose lines are ended by a lone line feed. -/
theorem lines_flatMap_feed {ls : List Chars} (h : ∀ l ∈ ls, '\n' ∉ l ∧ '\r' ∉ l) :
    lines (ls.flatMap (· ++ ['\n'])) = ls := by
  induction ls with
  | nil => rfl
  | cons l ls ih =>
    obtain ⟨hfeed, hreturn⟩ := h l List.mem_cons_self
    have hdrop : dropReturn l = l := if_neg fun hl => hreturn (List.mem_of_getLast? hl)
    rw [List.flatMap_cons, List.append_assoc, List.singleton_append, lines_append_newline hfeed,
      hdrop, ih fun l' hl' => h l' (List.mem_cons_of_mem _ hl')]

/-! ### The line before a line feed -/

@[simp] theorem TextLine.content_ended (l : Chars) : (ended l).content = dropReturn l := by
  rw [ended, dropReturn]
  split <;> rfl

@[simp] theorem TextLine.chars_ended (l : Chars) : (ended l).chars = l ++ ['\n'] := by
  rw [ended]
  split
  · next h =>
    obtain ⟨l', rfl⟩ := List.getLast?_eq_some_iff.mp h
    simp [chars, LineEnd.chars]
  · rfl

theorem TextLine.ended_of_getLast?_ne {l : Chars} (h : l.getLast? ≠ some '\r') :
    ended l = ⟨l, .feed⟩ := by
  rw [ended, if_neg h]

@[simp] theorem TextLine.ended_append_return (l : Chars) :
    ended (l ++ ['\r']) = ⟨l, .returnFeed⟩ := by
  rw [ended, if_pos List.getLast?_concat, List.dropLast_concat]

theorem IsLayout.ended {l : Chars} {ls : List TextLine} (hl : '\n' ∉ l) (hls : IsLayout ls) :
    IsLayout (.ended l :: ls) := by
  rw [TextLine.ended]
  split
  · exact .returnFeed (fun h => hl (List.dropLast_subset l h)) hls
  · next h => exact .feed hl h hls

/-! ### Documents and layouts -/

@[simp] theorem unlayout_nil : unlayout [] = [] := rfl

@[simp] theorem unlayout_cons (l : TextLine) (ls : List TextLine) :
    unlayout (l :: ls) = l.chars ++ unlayout ls :=
  List.flatMap_cons

theorem isLayout_layout (s : Chars) : IsLayout (layout s) := by
  induction s using line_induction with
  | last l hl =>
    by_cases hne : l = []
    · rw [hne]
      exact .nil
    · rw [layout_of_notMem hl hne]
      exact .nothing hl hne
  | feed l s hl ih =>
    rw [layout_append_newline hl]
    exact .ended hl ih

/-- **A document is made up of the lines of its layout.** -/
@[simp] theorem unlayout_layout (s : Chars) : unlayout (layout s) = s := by
  induction s using line_induction with
  | last l hl =>
    by_cases hne : l = []
    · rw [hne]
      rfl
    · rw [layout_of_notMem hl hne]
      simp [TextLine.chars, LineEnd.chars]
  | feed l s hl ih =>
    rw [layout_append_newline hl, unlayout_cons, TextLine.chars_ended, ih, List.append_assoc]
    rfl

/-- **Lines with endings that a document can have are the layout of what they make up.** -/
theorem IsLayout.layout_unlayout {ls : List TextLine} (h : IsLayout ls) :
    layout (unlayout ls) = ls := by
  induction h with
  | nil => rfl
  | @nothing l hl hne => simpa [TextLine.chars, LineEnd.chars] using layout_of_notMem hl hne
  | @feed l ls hl hreturn _ ih =>
    have hchars : TextLine.chars ⟨l, .feed⟩ ++ unlayout ls = l ++ '\n' :: unlayout ls := by
      simp [TextLine.chars, LineEnd.chars]
    rw [unlayout_cons, hchars, layout_append_newline hl, TextLine.ended_of_getLast?_ne hreturn, ih]
  | @returnFeed l ls hl _ ih =>
    have hchars : TextLine.chars ⟨l, .returnFeed⟩ ++ unlayout ls =
        (l ++ ['\r']) ++ '\n' :: unlayout ls := by
      simp [TextLine.chars, LineEnd.chars]
    rw [unlayout_cons, hchars, layout_append_newline (by simp [hl]), TextLine.ended_append_return,
      ih]

/-- **The lines of a document are the contents of its layout.** -/
theorem lines_eq_map_layout (s : Chars) : lines s = (layout s).map TextLine.content := by
  induction s using line_induction with
  | last l hl =>
    by_cases hne : l = []
    · rw [hne]
      rfl
    · rw [layout_of_notMem hl hne, lines_of_notMem hl hne, List.map_singleton]
  | feed l s hl ih =>
    rw [layout_append_newline hl, lines_append_newline hl, ih, List.map_cons,
      TextLine.content_ended]

/-! ### Parts of a layout -/

theorem IsLayout.take {ls : List TextLine} (h : IsLayout ls) (n : Nat) : IsLayout (ls.take n) := by
  induction h generalizing n with
  | nil => simpa using .nil
  | nothing hl hne =>
    cases n with
    | zero => exact .nil
    | succ n => simpa using .nothing hl hne
  | feed hl hreturn _ ih =>
    cases n with
    | zero => exact .nil
    | succ n => exact .feed hl hreturn (ih n)
  | returnFeed hl _ ih =>
    cases n with
    | zero => exact .nil
    | succ n => exact .returnFeed hl (ih n)

theorem layout_firstLines (n : Nat) (s : Chars) : layout (firstLines n s) = (layout s).take n :=
  ((isLayout_layout s).take n).layout_unlayout

/-- The lines of a document that is cut off are the first of its lines. -/
theorem lines_firstLines (n : Nat) (s : Chars) : lines (firstLines n s) = (lines s).take n := by
  rw [lines_eq_map_layout, layout_firstLines, List.map_take, ← lines_eq_map_layout]

end LootLedger.Text
