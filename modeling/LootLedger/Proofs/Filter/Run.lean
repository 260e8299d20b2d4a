import LootLedger.Filter.Document
import Mathlib.Data.List.Induction

/-!
# Reading a document to its end

Reading stops after the line that is refused too often. Apart from that a document is a run of the
draft over its lines, `Draft.readAll`, and what holds of a run is proved by induction on the lines
from the end: what one more line does to a draft is all there is to know. `parse_cases` says how
the compiled document comes out of a run, either way.

## Main definitions

* `Filter.Draft.readAll`: the draft after some more lines
* `Filter.Draft.kindOf`, `Filter.Draft.problem?`: what one more line adds

## Main results

* `Filter.parse_cases`: all lines are read, or those up to the line that is refused too often
* `Filter.parse_eq_finish`: the compiled document is a run over as many lines as have a kind
* `Filter.parse_of_length_problems_le`: a run without too many problems is read to its end
-/

namespace LootLedger.Filter

open Text (Chars)

theorem Statement.kind_ne_error (s : Statement) : s.kind ≠ .error := by
  cases s <;> simp [kind]

namespace Draft

/-- The draft after some more lines, however many of them are refused. -/
def readAll (d : Draft) (lines : List Chars) : Draft :=
  lines.foldl readLine d

/-- The kind of the next line. -/
def kindOf (d : Draft) (line : Chars) : LineKind :=
  match readStatement d.current.isSome line with
  | .ok statement => statement.kind
  | .error _ => .error

/-- The problem with the next line. -/
def problem? (d : Draft) (line : Chars) : Option Problem :=
  match readStatement d.current.isSome line with
  | .ok _ => none
  | .error problem => some problem

@[simp] theorem readAll_nil (d : Draft) : d.readAll [] = d := rfl

@[simp] theorem readAll_cons (d : Draft) (line : Chars) (lines : List Chars) :
    d.readAll (line :: lines) = (d.readLine line).readAll lines := rfl

theorem readAll_append (d : Draft) (lines lines' : List Chars) :
    d.readAll (lines ++ lines') = (d.readAll lines).readAll lines' :=
  List.foldl_append

theorem readAll_concat (d : Draft) (lines : List Chars) (line : Chars) :
    d.readAll (lines ++ [line]) = (d.readAll lines).readLine line :=
  d.readAll_append lines [line]

/-! ### One more line -/

theorem readLine_of_ok {d : Draft} {line : Chars} {statement : Statement}
    (h : readStatement d.current.isSome line = .ok statement) :
    d.readLine line = d.apply statement := by
  rw [readLine, h]

theorem readLine_of_error {d : Draft} {line : Chars} {problem : Problem}
    (h : readStatement d.current.isSome line = .error problem) :
    d.readLine line = d.refuse problem := by
  rw [readLine, h]

theorem kindOf_of_ok {d : Draft} {line : Chars} {statement : Statement}
    (h : readStatement d.current.isSome line = .ok statement) :
    d.kindOf line = statement.kind := by
  rw [kindOf, h]

theorem kindOf_of_error {d : Draft} {line : Chars} {problem : Problem}
    (h : readStatement d.current.isSome line = .error problem) : d.kindOf line = .error := by
  rw [kindOf, h]

@[simp] theorem lineKinds_apply (d : Draft) (statement : Statement) :
    (d.apply statement).lineKinds = d.lineKinds ++ [statement.kind] := by
  cases statement <;> rfl

@[simp] theorem problems_apply (d : Draft) (statement : Statement) :
    (d.apply statement).problems = d.problems := by
  cases statement <;> rfl

theorem lineKinds_readLine (d : Draft) (line : Chars) :
    (d.readLine line).lineKinds = d.lineKinds ++ [d.kindOf line] := by
  cases h : readStatement d.current.isSome line with
  | ok statement => rw [readLine_of_ok h, kindOf_of_ok h, lineKinds_apply]
  | error problem => rw [readLine_of_error h, kindOf_of_error h, refuse]

theorem problems_readLine (d : Draft) (line : Chars) :
    (d.readLine line).problems =
      d.problems ++ ((d.problem? line).map (AtLine.mk d.nextLine)).toList := by
  cases h : readStatement d.current.isSome line with
  | ok statement => simp [readLine_of_ok h, problem?, h]
  | error problem => simp [readLine_of_error h, problem?, h, refuse]

/-! ### The rules after one more line

A line opens a rule, or changes the open one, or leaves the rules as they are. -/

@[simp] theorem rules_apply_blank (d : Draft) : (d.apply .blank).rules = d.rules := rfl

@[simp] theorem rules_apply_comment (d : Draft) : (d.apply .comment).rules = d.rules := rfl

@[simp] theorem rules_apply_block (d : Draft) (v : Visibility) :
    (d.apply (.block v)).rules = d.rules ++ [.opened v d.nextLine] := rfl

@[simp] theorem rules_apply_continue (d : Draft) : (d.apply .continue).rules =
    d.ended ++ (d.current.map (·.continued d.nextLine)).toList :=
  List.append_nil _

@[simp] theorem rules_apply_condition (d : Draft) (c : Condition) :
    (d.apply (.condition c)).rules =
      d.ended ++ (d.current.map (·.addCondition c d.nextLine)).toList := rfl

@[simp] theorem rules_apply_action (d : Draft) (a : Action) :
    (d.apply (.action a)).rules =
      d.ended ++ (d.current.map (·.addAction a d.nextLine)).toList := rfl

/-- What holds of all rules holds of them after the open one has changed. -/
theorem forall_mem_ended_append_map {P : Rule → Prop} {d : Draft} (hd : ∀ r ∈ d.rules, P r)
    {f : Rule → Rule} (hf : ∀ r, P r → P (f r)) :
    ∀ r ∈ d.ended ++ (d.current.map f).toList, P r := by
  intro r hr
  rcases List.mem_append.mp hr with h | h
  · exact hd r (List.mem_append_left _ h)
  · obtain ⟨open_, hopen, rfl⟩ := Option.map_eq_some_iff.mp (Option.mem_toList.mp h)
    exact hf open_ (hd open_ (List.mem_append_right _ (Option.mem_toList.mpr hopen)))

/-! ### A run -/

theorem length_lineKinds_readAll (d : Draft) (lines : List Chars) :
    (d.readAll lines).lineKinds.length = d.lineKinds.length + lines.length := by
  induction lines using List.reverseRecOn with
  | nil => rfl
  | append_singleton lines line ih =>
    rw [readAll_concat, lineKinds_readLine, List.length_append, ih, List.length_append,
      List.length_singleton, List.length_singleton, Nat.add_assoc]

/-- The next line of a run is numbered by the lines before it. -/
theorem nextLine_readAll (lines : List Chars) :
    (Draft.readAll {} lines).nextLine = lines.length :=
  (length_lineKinds_readAll {} lines).trans (Nat.zero_add _)

theorem problems_prefix_readAll (d : Draft) (lines : List Chars) :
    d.problems <+: (d.readAll lines).problems := by
  induction lines using List.reverseRecOn with
  | nil => exact List.prefix_refl _
  | append_singleton lines line ih =>
    rw [readAll_concat, problems_readLine]
    exact ih.trans (List.prefix_append _ _)

end Draft

/-! ### The compiled document -/

/-- All lines are read, or those up to the line that is refused too often. -/
theorem readLines_cases (d : Draft) (lines : List Chars)
    (hd : d.problems.length ≤ maxProblems) :
    ((d.readAll lines).problems.length ≤ maxProblems ∧
      readLines d lines = (d.readAll lines).finish false) ∨
    ∃ read line rest, lines = read ++ line :: rest ∧
      (d.readAll read).problems.length ≤ maxProblems ∧
      maxProblems < (d.readAll (read ++ [line])).problems.length ∧
      readLines d lines = (d.readAll (read ++ [line])).finish true := by
  induction lines generalizing d with
  | nil => exact .inl ⟨hd, rfl⟩
  | cons line lines ih =>
    by_cases hmany : maxProblems < (d.readLine line).problems.length
    · exact .inr ⟨[], line, lines, rfl, hd, hmany, by rw [readLines, if_pos hmany]; rfl⟩
    · have hstep : readLines d (line :: lines) = readLines (d.readLine line) lines := by
        rw [readLines, if_neg hmany]
      rw [hstep]
      rcases ih (d.readLine line) (Nat.le_of_not_lt hmany) with h | ⟨read, l, rest, rfl, h⟩
      · exact .inl h
      · exact .inr ⟨line :: read, l, rest, rfl, h⟩

/-- **How a document is compiled.** All its lines are read, or those up to the line that is refused
too often. -/
theorem parse_cases (text : Chars) :
    ((Draft.readAll {} (Text.lines text)).problems.length ≤ maxProblems ∧
      parse text = (Draft.readAll {} (Text.lines text)).finish false) ∨
    ∃ read line rest, Text.lines text = read ++ line :: rest ∧
      (Draft.readAll {} read).problems.length ≤ maxProblems ∧
      maxProblems < (Draft.readAll {} (read ++ [line])).problems.length ∧
      parse text = (Draft.readAll {} (read ++ [line])).finish true :=
  readLines_cases {} (Text.lines text) (Nat.zero_le _)

theorem parse_of_length_problems_le {text : Chars}
    (h : (Draft.readAll {} (Text.lines text)).problems.length ≤ maxProblems) :
    parse text = (Draft.readAll {} (Text.lines text)).finish false := by
  rcases parse_cases text with ⟨-, htext⟩ | ⟨read, line, rest, hlines, -, hmany, -⟩
  · exact htext
  · have hle := (Draft.problems_prefix_readAll (Draft.readAll {} (read ++ [line])) rest).length_le
    rw [← Draft.readAll_append, List.append_assoc, List.singleton_append, ← hlines] at hle
    omega

/-- A document that does not have too many problems is read to its end. -/
theorem parse_of_length_problems_parse_le {text : Chars}
    (h : (parse text).problems.length ≤ maxProblems) :
    parse text = (Draft.readAll {} (Text.lines text)).finish false := by
  rcases parse_cases text with ⟨-, htext⟩ | ⟨read, line, rest, -, -, hmany, htext⟩
  · exact htext
  · rw [htext] at h
    exact absurd hmany (Nat.not_lt_of_le h)

/-- **The compiled document is a run** over as many lines as have a kind. -/
theorem parse_eq_finish (text : Chars) :
    parse text = (Draft.readAll {} ((Text.lines text).take (parse text).lineKinds.length)).finish
      (parse text).aborted := by
  rcases parse_cases text with ⟨-, htext⟩ | ⟨read, line, rest, hlines, -, -, htext⟩
  · have hlength : (parse text).lineKinds.length = (Text.lines text).length := by
      rw [htext]
      exact Draft.nextLine_readAll _
    rw [hlength, List.take_length, htext]
    rfl
  · have hlength : (parse text).lineKinds.length = (read ++ [line]).length := by
      rw [htext]
      exact Draft.nextLine_readAll _
    have htake : (Text.lines text).take (read ++ [line]).length = read ++ [line] := by
      rw [hlines, List.append_cons read line rest, List.take_left]
    rw [hlength, htake, htext]
    rfl

/-- Every line of a document that is read to its end has a kind. -/
theorem length_lineKinds_of_not_aborted {text : Chars} (h : (parse text).aborted = false) :
    (parse text).lineKinds.length = (Text.lines text).length := by
  rcases parse_cases text with ⟨-, htext⟩ | ⟨read, line, rest, -, -, -, htext⟩
  · rw [htext]
    exact Draft.nextLine_readAll _
  · rw [htext] at h
    cases h

end LootLedger.Filter
