import LootLedger.Proofs.Filter.Run
import LootLedger.Proofs.Filter.Statement
import LootLedger.Proofs.Text.Layout

/-!
# Blocks compile on their own

A document that begins with a block can be written behind another one without either of them
noticing: both compile to what they compile to alone, the second with its line numbers moved up. So
a filter can be put together from parts, and a block means the same wherever it stands.

## The seam

The run over both documents goes into the second with the last rule of the first still open, and
the run over the second alone goes into it with none. `Draft.closed` ends the open rule. From a
draft without an open rule the two runs agree step by step (`Draft.readLine_followedBy`), for any
lines at all. That the open rule makes no difference needs the second document to begin with a
block: blank lines and comments leave the rule open, and the first other line ends it in any case
(`Draft.closed_readAll_closed`).

## Main definitions

* `Filter.Document.shiftLines`: a document whose line numbers are moved up
* `Filter.BeginsWithBlock`: the first line with code, if there is one, opens a block
* `Filter.Draft.closed`, `Filter.Draft.followedBy`: a draft with its open rule ended, and one behind
  another

## Main results

* `Filter.Draft.readAll_followedBy`: a run behind another draft
* `Filter.parse_append`: a document behind another one
-/

namespace LootLedger.Filter

open Text (Chars)

/-! ### Line numbers -/

/-- The rule with `n` added to the numbers of its lines. -/
def Rule.shiftLines (n : Nat) (rule : Rule) : Rule :=
  { rule with lines := rule.lines.map (· + n) }

@[simp] theorem Rule.actions_shiftLines (n : Nat) (rule : Rule) :
    (rule.shiftLines n).actions = rule.actions := rfl

@[simp] theorem Rule.shiftLines_opened (n m : Nat) (v : Visibility) :
    (Rule.opened v m).shiftLines n = .opened v (m + n) := rfl

@[simp] theorem Rule.shiftLines_continued (n m : Nat) (rule : Rule) :
    (rule.continued m).shiftLines n = (rule.shiftLines n).continued (m + n) := by
  simp [shiftLines, continued]

@[simp] theorem Rule.shiftLines_addCondition (n m : Nat) (rule : Rule) (c : Condition) :
    (rule.addCondition c m).shiftLines n = (rule.shiftLines n).addCondition c (m + n) := by
  simp [shiftLines, addCondition]

@[simp] theorem Rule.shiftLines_addAction (n m : Nat) (rule : Rule) (a : Action) :
    (rule.addAction a m).shiftLines n = (rule.shiftLines n).addAction a (m + n) := by
  simp [shiftLines, addAction]

/-- The diagnostic `n` lines further down. -/
def AtLine.shiftLine (n : Nat) (d : AtLine α) : AtLine α :=
  { d with line := d.line + n }

@[simp] theorem AtLine.map_shiftLine_map_mk (n m : Nat) (o : Option α) :
    (o.map (AtLine.mk m)).toList.map (AtLine.shiftLine n) =
      (o.map (AtLine.mk (m + n))).toList := by
  cases o <;> rfl

/-- The document with `n` added to all line numbers. -/
def Document.shiftLines (n : Nat) (d : Document) : Document :=
  { d with
    rules := d.rules.map (Rule.shiftLines n)
    problems := d.problems.map (AtLine.shiftLine n)
    oddities := d.oddities.map (AtLine.shiftLine n) }

/-- What two documents say, one after the other. -/
instance : Append Document where
  append d d' :=
    { rules := d.rules ++ d'.rules
      problems := d.problems ++ d'.problems
      oddities := d.oddities ++ d'.oddities
      lineKinds := d.lineKinds ++ d'.lineKinds
      aborted := d.aborted || d'.aborted }

theorem Document.length_problems_append_shiftLines (d d' : Document) (n : Nat) :
    (d ++ d'.shiftLines n).problems.length = d.problems.length + d'.problems.length :=
  List.length_append.trans (congrArg (d.problems.length + ·) (List.length_map _))

/-! ### Where a document begins -/

/-- The line is neither blank nor a comment. -/
def hasCode (line : Chars) : Bool :=
  match shapeOf line with
  | .code _ _ => true
  | .blank | .comment => false

/-- The first line that is neither blank nor a comment opens a block, if there is such a line. -/
def BeginsWithBlock (lines : List Chars) : Prop :=
  ∀ line ∈ lines.find? hasCode, (opening? line).isSome = true

instance (lines : List Chars) : Decidable (BeginsWithBlock lines) :=
  inferInstanceAs (Decidable (∀ line ∈ lines.find? hasCode, _))

theorem BeginsWithBlock.of_cons {line : Chars} {lines : List Chars}
    (h : BeginsWithBlock (line :: lines)) (hline : hasCode line = false) :
    BeginsWithBlock lines := by
  rwa [BeginsWithBlock, List.find?_cons_of_neg (by simp [hline])] at h

theorem BeginsWithBlock.opening?_head {line : Chars} {lines : List Chars}
    (h : BeginsWithBlock (line :: lines)) (hline : hasCode line = true) :
    ∃ v, opening? line = some v :=
  Option.isSome_iff_exists.mp (h line (by rw [List.find?_cons_of_pos hline]; rfl))

namespace Draft

/-! ### Drafts one behind the other -/

/-- The draft with its open rule ended. -/
def closed (d : Draft) : Draft :=
  { d with ended := d.rules, current := none }

/-- The draft with `n` added to all line numbers. -/
def shiftLines (n : Nat) (d : Draft) : Draft :=
  { d with
    ended := d.ended.map (Rule.shiftLines n)
    current := d.current.map (Rule.shiftLines n)
    problems := d.problems.map (AtLine.shiftLine n)
    oddities := d.oddities.map (AtLine.shiftLine n) }

/-- A draft behind one whose open rule ends there. -/
def followedBy (d e : Draft) : Draft :=
  { ended := d.rules ++ e.ended
    current := e.current
    problems := d.problems ++ e.problems
    oddities := d.oddities ++ e.oddities
    lineKinds := d.lineKinds ++ e.lineKinds }

@[simp] theorem rules_closed (d : Draft) : d.closed.rules = d.rules :=
  List.append_nil _

@[simp] theorem rules_shiftLines (n : Nat) (d : Draft) :
    (d.shiftLines n).rules = d.rules.map (Rule.shiftLines n) := by
  rw [rules, rules, List.map_append, ← Option.toList_map]
  rfl

@[simp] theorem rules_followedBy (d e : Draft) : (d.followedBy e).rules = d.rules ++ e.rules :=
  List.append_assoc ..

@[simp] theorem nextLine_followedBy_shiftLines (d e : Draft) (n : Nat) :
    (d.followedBy (e.shiftLines n)).nextLine = e.nextLine + d.nextLine := by
  rw [nextLine, followedBy, List.length_append, Nat.add_comm]
  rfl

@[simp] theorem isSome_current_followedBy_shiftLines (d e : Draft) (n : Nat) :
    (d.followedBy (e.shiftLines n)).current.isSome = e.current.isSome :=
  Option.isSome_map

theorem followedBy_empty (d : Draft) : d.followedBy {} = d.closed := by
  simp [followedBy, closed]

theorem finish_closed (d : Draft) (aborted : Bool) : d.closed.finish aborted = d.finish aborted := by
  rw [finish, rules_closed]
  rfl

theorem finish_followedBy (d e : Draft) (n : Nat) :
    (d.followedBy (e.shiftLines n)).finish false =
      d.finish false ++ (e.finish false).shiftLines n := by
  rw [finish, rules_followedBy, rules_shiftLines]
  rfl

/-! ### The simulation -/

theorem apply_followedBy (d e : Draft) (s : Statement) :
    (d.followedBy (e.shiftLines d.nextLine)).apply s =
      d.followedBy ((e.apply s).shiftLines d.nextLine) := by
  cases s with
  | blank => simp [apply, followedBy, shiftLines]
  | comment => simp [apply, followedBy, shiftLines]
  | block v =>
    simp only [apply, nextLine_followedBy_shiftLines, rules_followedBy, rules_shiftLines]
    simp [followedBy, shiftLines]
  | «continue» =>
    simp only [apply, nextLine_followedBy_shiftLines]
    cases h : e.current <;> simp [followedBy, shiftLines, h]
  | condition c =>
    simp only [apply, nextLine_followedBy_shiftLines]
    cases h : e.current <;> simp [followedBy, shiftLines, h]
  | action a =>
    simp only [apply, nextLine_followedBy_shiftLines]
    cases h : e.current <;> simp [followedBy, shiftLines, h]

theorem refuse_followedBy (d e : Draft) (problem : Problem) :
    (d.followedBy (e.shiftLines d.nextLine)).refuse problem =
      d.followedBy ((e.refuse problem).shiftLines d.nextLine) := by
  simp only [refuse, nextLine_followedBy_shiftLines]
  simp [followedBy, shiftLines, AtLine.shiftLine]

/-- **The step of the simulation**: behind another draft, a line does what it does alone. -/
theorem readLine_followedBy (d e : Draft) (line : Chars) :
    (d.followedBy (e.shiftLines d.nextLine)).readLine line =
      d.followedBy ((e.readLine line).shiftLines d.nextLine) := by
  have hcurrent := isSome_current_followedBy_shiftLines d e d.nextLine
  cases h : readStatement e.current.isSome line with
  | ok s => rw [readLine_of_ok h, readLine_of_ok (hcurrent ▸ h), apply_followedBy]
  | error problem => rw [readLine_of_error h, readLine_of_error (hcurrent ▸ h), refuse_followedBy]

/-- **A run behind another draft.** -/
theorem readAll_followedBy (d : Draft) (lines : List Chars) :
    d.closed.readAll lines = d.followedBy ((Draft.readAll {} lines).shiftLines d.nextLine) := by
  induction lines using List.reverseRecOn with
  | nil => exact d.followedBy_empty.symm
  | append_singleton lines line ih => rw [readAll_concat, ih, readLine_followedBy, readAll_concat]

/-! ### The seam -/

/-- A line without code leaves an open rule as it is. -/
theorem closed_readLine {line : Chars} (h : hasCode line = false) (d : Draft) :
    (d.readLine line).closed = d.closed.readLine line := by
  cases hshape : shapeOf line with
  | blank =>
    have hread : ∀ inBlock, readStatement inBlock line = .ok .blank := fun _ => by
      rw [readStatement, hshape]
    rw [readLine_of_ok (hread _), readLine_of_ok (hread _)]
    rfl
  | comment =>
    have hread : ∀ inBlock, readStatement inBlock line = .ok .comment := fun _ => by
      rw [readStatement, hshape]
    rw [readLine_of_ok (hread _), readLine_of_ok (hread _)]
    rfl
  | code keyword arguments =>
    rw [hasCode, hshape] at h
    cases h

/-- A line that opens a block ends an open rule. -/
theorem readLine_closed {line : Chars} {v : Visibility} (h : opening? line = some v) (d : Draft) :
    d.closed.readLine line = d.readLine line := by
  rw [readLine_of_ok (readStatement_eq_block_iff.mpr h),
    readLine_of_ok (readStatement_eq_block_iff.mpr h), apply, rules_closed]
  rfl

/-- **The seam.** An open rule makes no difference to lines that begin with a block. -/
theorem closed_readAll_closed {lines : List Chars} (h : BeginsWithBlock lines) (d : Draft) :
    (d.closed.readAll lines).closed = (d.readAll lines).closed := by
  induction lines generalizing d with
  | nil =>
    rw [readAll_nil, readAll_nil, closed, rules_closed]
    rfl
  | cons line lines ih =>
    rw [readAll_cons, readAll_cons]
    cases hline : hasCode line with
    | false => rw [← closed_readLine hline, ih (h.of_cons hline)]
    | true =>
      obtain ⟨v, hv⟩ := h.opening?_head hline
      rw [readLine_closed hv]

/-- A run over lines that begin with a block, behind a run over other lines. -/
theorem finish_readAll_append (lines : List Chars) {lines' : List Chars}
    (h : BeginsWithBlock lines') :
    (Draft.readAll {} (lines ++ lines')).finish false =
      (Draft.readAll {} lines).finish false ++
        ((Draft.readAll {} lines').finish false).shiftLines lines.length := by
  rw [readAll_append, ← finish_closed, ← closed_readAll_closed h, finish_closed,
    readAll_followedBy, finish_followedBy, nextLine_readAll]

end Draft

/-- **A document behind another one.** Two documents of which the first ends with a line feed, or is
empty, and the second begins with a block compile to what they compile to alone, one after the
other, if they do not have too many problems between them. The lines of the second are counted from
the end of the first. -/
theorem parse_append {text text' : Chars} (hended : Text.IsEnded text)
    (hblock : BeginsWithBlock (Text.lines text'))
    (hfew : (parse text).problems.length + (parse text').problems.length ≤ maxProblems) :
    parse (text ++ text') =
      parse text ++ (parse text').shiftLines (Text.lines text).length := by
  have htext := parse_of_length_problems_parse_le (Nat.le_of_add_right_le hfew)
  have htext' := parse_of_length_problems_parse_le (Nat.le_of_add_left_le hfew)
  have hrun := Draft.finish_readAll_append (Text.lines text) hblock
  rw [← htext, ← htext', ← Text.lines_append hended] at hrun
  have hproblems : (Draft.readAll {} (Text.lines (text ++ text'))).problems.length =
      (parse text).problems.length + (parse text').problems.length :=
    (congrArg (List.length ∘ Document.problems) hrun).trans
      (Document.length_problems_append_shiftLines ..)
  rw [parse_of_length_problems_le (by rw [hproblems]; exact hfew), hrun]

/-- A part that leaves its rule open, and a part with an oddity and a problem behind it. -/
theorem parse_append_shown_hidden :
    Text.IsEnded "Show\nRarity Unique\n".toList ∧
    BeginsWithBlock
      (Text.lines "# more\n\nHide\nSetFontSize 30\nSetFontSize 32\nClass\n".toList) ∧
    parse ("Show\nRarity Unique\n".toList ++
        "# more\n\nHide\nSetFontSize 30\nSetFontSize 32\nClass\n".toList) =
      parse "Show\nRarity Unique\n".toList ++
        (parse "# more\n\nHide\nSetFontSize 30\nSetFontSize 32\nClass\n".toList).shiftLines 2 :=
  ⟨by decide, by decide, parse_append (by decide) (by decide) (by decide +kernel)⟩

end LootLedger.Filter
