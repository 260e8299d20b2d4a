import LootLedger.Proofs.Filter.Run
import LootLedger.Proofs.Text.Layout

/-!
# A bad line has no effect but its problem

If every line of a document that is refused is made a comment, in its place, the document compiles
to the same rules with the same oddities, and only its problems are gone. A document that is not
read to its end has to be cut off where reading stopped, since the lines behind that were never
looked at.

## The simulation

Muting goes for drafts as it does for documents: the problems are dropped, and the error kinds are
comment kinds. A muted draft reads a muted line just as the draft reads the line itself
(`Draft.readLine_muted`), so a run over the muted lines is the muted run (`Draft.readAll_muted`).
The muted run has no problem at all, so it is never stopped.

## Main definitions

* `Filter.muted`: a document whose refused lines are comments
* `Filter.Draft.muted`, `Filter.Document.muted`: what becomes of a draft and of the outcome

## Main results

* `Filter.parse_muted`: the muted document compiles to the muted outcome
-/

namespace LootLedger.Filter

open Text (Chars TextLine)

/-! ### Muting -/

/-- The kind of a line after muting. -/
def LineKind.muted : LineKind → LineKind
  | .error => .comment
  | kind => kind

/-- The content of a line of the given kind after muting: a bare number sign if it is refused. -/
def mutedContent (kind : LineKind) (content : Chars) : Chars :=
  if kind = .error then ['#'] else content

/-- A line after muting. Its ending stays. -/
def mutedLine (kind : LineKind) (line : TextLine) : TextLine :=
  { line with content := mutedContent kind line.content }

/-- A document after muting, the kinds of whose lines are given. -/
def muted (kinds : List LineKind) (text : Chars) : Chars :=
  Text.unlayout (List.zipWith mutedLine kinds (Text.layout text))

/-- A draft after muting. -/
def Draft.muted (d : Draft) : Draft :=
  { d with problems := [], lineKinds := d.lineKinds.map LineKind.muted }

/-- A compiled document after muting: it has no problem and is read to its end. -/
def Document.muted (d : Document) : Document :=
  { d with problems := [], lineKinds := d.lineKinds.map LineKind.muted, aborted := false }

@[simp] theorem mutedContent_error (content : Chars) : mutedContent .error content = ['#'] := rfl

theorem mutedContent_of_ne {kind : LineKind} (h : kind ≠ .error) (content : Chars) :
    mutedContent kind content = content :=
  if_neg h

@[simp] theorem Statement.muted_kind (s : Statement) : s.kind.muted = s.kind := by
  cases s <;> rfl

/-! ### Muted texts -/

theorem isLayout_zipWith_mutedLine {ls : List TextLine} (h : Text.IsLayout ls)
    (kinds : List LineKind) : Text.IsLayout (List.zipWith mutedLine kinds ls) := by
  have hfeed : ∀ kind l, '\n' ∉ l → '\n' ∉ mutedContent kind l := by
    intro kind l hl
    unfold mutedContent
    split
    · decide
    · exact hl
  induction h generalizing kinds with
  | nil => rw [List.zipWith_nil_right]; exact .nil
  | @nothing l hl hne =>
    cases kinds with
    | nil => exact .nil
    | cons kind kinds =>
      rw [List.zipWith_cons_cons, List.zipWith_nil_right]
      refine .nothing (hfeed kind l hl) ?_
      dsimp only [mutedContent]
      split
      · decide
      · exact hne
  | @feed l ls hl hreturn _ ih =>
    cases kinds with
    | nil => exact .nil
    | cons kind kinds =>
      refine .feed (hfeed kind l hl) ?_ (ih kinds)
      dsimp only [mutedContent]
      split
      · decide
      · exact hreturn
  | @returnFeed l ls hl _ ih =>
    cases kinds with
    | nil => exact .nil
    | cons kind kinds => exact .returnFeed (hfeed kind l hl) (ih kinds)

/-- The lines of a muted document are the muted lines. -/
theorem lines_muted (kinds : List LineKind) (text : Chars) :
    Text.lines (muted kinds text) = List.zipWith mutedContent kinds (Text.lines text) := by
  rw [Text.lines_eq_map_layout, muted,
    (isLayout_zipWith_mutedLine (Text.isLayout_layout text) kinds).layout_unlayout,
    List.map_zipWith, Text.lines_eq_map_layout, List.zipWith_map_right]
  rfl

example : muted [.visibility, .error, .empty] "Show\r\nShow me\r\n\n".toList =
    "Show\r\n#\r\n\n".toList := by
  decide

/-! ### The simulation -/

namespace Draft

@[simp] theorem muted_apply (d : Draft) (s : Statement) : (d.apply s).muted = d.muted.apply s := by
  cases s <;> simp [apply, muted, rules, nextLine, Statement.kind, LineKind.muted]

/-- A refused line mutes to a comment. -/
theorem muted_refuse (d : Draft) (problem : Problem) :
    (d.refuse problem).muted = d.muted.apply .comment := by
  simp [refuse, apply, muted, Statement.kind, LineKind.muted]

/-- **The step of the simulation**: a muted draft reads the muted line. -/
theorem readLine_muted (d : Draft) (line : Chars) :
    d.muted.readLine (mutedContent (d.kindOf line) line) = (d.readLine line).muted := by
  cases h : readStatement d.current.isSome line with
  | ok s =>
    rw [kindOf_of_ok h, mutedContent_of_ne s.kind_ne_error, readLine_of_ok h, muted_apply]
    exact readLine_of_ok h
  | error problem =>
    rw [kindOf_of_error h, mutedContent_error, readLine_of_error h, muted_refuse]
    exact readLine_of_ok (by cases d.muted.current.isSome <;> decide)

/-- **The run over the muted lines is the muted run.** -/
theorem readAll_muted (lines : List Chars) :
    Draft.readAll {} (List.zipWith mutedContent (Draft.readAll {} lines).lineKinds lines) =
      (Draft.readAll {} lines).muted := by
  induction lines using List.reverseRecOn with
  | nil => rfl
  | append_singleton lines line ih =>
    have hlength : (Draft.readAll {} lines).lineKinds.length = lines.length :=
      (length_lineKinds_readAll {} lines).trans (Nat.zero_add _)
    rw [readAll_concat, lineKinds_readLine, List.zipWith_append hlength, List.zipWith_cons_cons,
      List.zipWith_nil_left, readAll_concat, ih, readLine_muted]

end Draft

/-- A document that all lines of a text are read to mutes with the text. -/
theorem parse_muted_of_eq_finish {text : Chars} {d : Document} {aborted : Bool}
    (h : d = (Draft.readAll {} (Text.lines text)).finish aborted) :
    parse (muted d.lineKinds text) = d.muted := by
  subst h
  have hrun : Draft.readAll {} (Text.lines (muted
      ((Draft.readAll {} (Text.lines text)).finish aborted).lineKinds text)) =
      (Draft.readAll {} (Text.lines text)).muted := by
    rw [lines_muted]
    exact Draft.readAll_muted _
  rw [parse_of_length_problems_le, hrun]
  · rfl
  · rw [hrun]
    exact Nat.zero_le _

/-- **A bad line has no effect but its problem.** A document that is read to its end compiles, with
its refused lines made comments in place, to the same rules, oddities and kinds of lines, but for
its problems, which are gone, and the kinds of those lines. So does a document that is not, if it
is cut off behind the last line that was read. -/
theorem parse_muted (text : Chars) :
    ((parse text).aborted = false →
      parse (muted (parse text).lineKinds text) = (parse text).muted) ∧
    ((parse text).aborted = true →
      parse (muted (parse text).lineKinds
        (Text.firstLines (parse text).lineKinds.length text)) = (parse text).muted) := by
  refine ⟨fun hfull => ?_, fun _ => ?_⟩
  · have hread := parse_eq_finish text
    rw [length_lineKinds_of_not_aborted hfull, List.take_length] at hread
    exact parse_muted_of_eq_finish hread
  · refine @parse_muted_of_eq_finish _ _ (parse text).aborted ?_
    rw [Text.lines_firstLines]
    exact parse_eq_finish text

end LootLedger.Filter
