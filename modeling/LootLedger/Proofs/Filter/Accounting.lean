import LootLedger.Proofs.Filter.Run
import Mathlib.Data.List.Basic

/-!
# Every line is accounted for

A compiled document has a kind for each line that was read, and one problem for each line that was
refused. Reading stops behind the first line too many that is refused, and nowhere else, so the
number of problems says whether it did.

That each line has the kind of what it says in its place (`Draft.getElem?_lineKinds_readAll`) is
what ties the list of kinds to the text. The rest is bookkeeping along a run: a line adds a problem
exactly if it adds the kind of an error, and both are numbered alike.

## Main definitions

* `Filter.Document.AccountsFor`: the kinds and problems of a document belong to some lines

## Main results

* `Filter.Draft.map_line_problems_readAll`: the problems of a run stand at its refused lines
* `Filter.parse_accountsFor`: a compiled document accounts for the lines of its text
-/

namespace LootLedger.Filter

open Text (Chars)

/-- The kinds and problems of a document belong to some lines, all of which were read unless too
many were refused. -/
structure Document.AccountsFor (d : Document) (lines : List Chars) : Prop where
  length_le : d.lineKinds.length ≤ lines.length
  /-- A line has the kind of what it says behind the lines before it. -/
  lineKinds_eq : ∀ n < d.lineKinds.length,
    d.lineKinds[n]? = lines[n]?.map (Draft.readAll {} (lines.take n)).kindOf
  /-- There is one problem for each refused line, in order. -/
  problems_eq : d.problems.map AtLine.line = d.lineKinds.findIdxs (· = .error)
  pairwise_lt : (d.problems.map AtLine.line).Pairwise (· < ·)
  length_problems_le : d.problems.length ≤ maxProblems + 1
  aborted_iff : d.aborted = true ↔ d.problems.length = maxProblems + 1
  /-- Reading stops at the line that is refused too often. -/
  last_of_aborted : d.aborted = true →
    ∃ p, d.problems.getLast? = some p ∧ p.line + 1 = d.lineKinds.length
  length_of_not_aborted : d.aborted = false → d.lineKinds.length = lines.length

namespace Draft

/-! ### One more line -/

theorem problem?_eq_none_iff {d : Draft} {line : Chars} :
    d.problem? line = none ↔ d.kindOf line ≠ .error := by
  cases h : readStatement d.current.isSome line with
  | ok s =>
    rw [kindOf_of_ok h, problem?, h]
    exact ⟨fun _ => s.kind_ne_error, fun _ => rfl⟩
  | error problem =>
    rw [kindOf_of_error h, problem?, h]
    exact ⟨fun hnone => absurd hnone (Option.some_ne_none problem), fun hne => absurd rfl hne⟩

/-- A line adds its number to those of the problems exactly if it adds the kind of an error. -/
theorem map_line_problems_readLine (d : Draft) (line : Chars) :
    (d.readLine line).problems.map AtLine.line =
      d.problems.map AtLine.line ++ [d.kindOf line].findIdxs (· = .error) d.nextLine := by
  rw [problems_readLine, List.map_append, List.findIdxs_singleton]
  cases hproblem : d.problem? line with
  | none =>
    have hkind : d.kindOf line ≠ .error := problem?_eq_none_iff.mp hproblem
    rw [if_neg (by simpa using hkind)]
    rfl
  | some problem =>
    have hkind : d.kindOf line = .error := by
      by_contra hne
      rw [problem?_eq_none_iff.mpr hne] at hproblem
      cases hproblem
    rw [if_pos (by simpa using hkind)]
    rfl

/-- The line that is refused once too often. -/
theorem exists_problem_of_lt_length {d : Draft} {line : Chars}
    (hfew : d.problems.length ≤ maxProblems)
    (hmany : maxProblems < (d.readLine line).problems.length) :
    ∃ problem, (d.readLine line).problems = d.problems ++ [⟨d.nextLine, problem⟩] ∧
      (d.readLine line).problems.length = maxProblems + 1 := by
  rw [problems_readLine] at hmany ⊢
  cases hproblem : d.problem? line with
  | none =>
    rw [hproblem, Option.map_none, Option.toList_none, List.append_nil] at hmany
    omega
  | some problem =>
    refine ⟨problem, rfl, ?_⟩
    rw [hproblem, Option.map_some, Option.toList_some, List.length_append,
      List.length_singleton] at hmany
    rw [Option.map_some, Option.toList_some, List.length_append, List.length_singleton]
    omega

/-! ### A run -/

/-- **The problems of a run** stand at its refused lines. -/
theorem map_line_problems_readAll (lines : List Chars) :
    (Draft.readAll {} lines).problems.map AtLine.line =
      (Draft.readAll {} lines).lineKinds.findIdxs (· = .error) := by
  induction lines using List.reverseRecOn with
  | nil => rfl
  | append_singleton lines line ih =>
    rw [readAll_concat, map_line_problems_readLine, ih, lineKinds_readLine, List.findIdxs_append,
      nextLine, Nat.zero_add]

/-- **The kind of a line** is that of what it says behind the lines before it. -/
theorem getElem?_lineKinds_readAll (lines : List Chars) (n : Nat) :
    (Draft.readAll {} lines).lineKinds[n]? =
      lines[n]?.map (Draft.readAll {} (lines.take n)).kindOf := by
  induction lines using List.reverseRecOn with
  | nil => rfl
  | append_singleton lines line ih =>
    have hlength : (Draft.readAll {} lines).lineKinds.length = lines.length :=
      nextLine_readAll lines
    rw [readAll_concat, lineKinds_readLine]
    rcases Nat.lt_trichotomy n lines.length with h | rfl | h
    · rw [List.getElem?_append_left (hlength ▸ h), List.getElem?_append_left h,
        List.take_append_of_le_length (Nat.le_of_lt h), ih]
    · rw [← hlength, List.getElem?_concat_length, hlength, List.getElem?_concat_length,
        List.take_left, Option.map_some]
    · rw [List.getElem?_eq_none (by simp [hlength]; omega), List.getElem?_eq_none (by simp; omega),
        Option.map_none]

end Draft

/-! ### The compiled document -/

theorem length_lineKinds_le (text : Chars) :
    (parse text).lineKinds.length ≤ (Text.lines text).length := by
  have hmin : (parse text).lineKinds.length =
      min (parse text).lineKinds.length (Text.lines text).length :=
    (congrArg (·.lineKinds.length) (parse_eq_finish text)).trans
      ((Draft.nextLine_readAll _).trans List.length_take)
  omega

theorem getElem?_lineKinds_parse {text : Chars} {n : Nat} (h : n < (parse text).lineKinds.length) :
    (parse text).lineKinds[n]? =
      (Text.lines text)[n]?.map (Draft.readAll {} ((Text.lines text).take n)).kindOf := by
  have hkinds := congrArg (·.lineKinds[n]?) (parse_eq_finish text)
  dsimp only [Draft.finish] at hkinds
  rw [hkinds, Draft.getElem?_lineKinds_readAll, List.getElem?_take_of_lt h, List.take_take,
    Nat.min_eq_left (Nat.le_of_lt h)]

/-- The problems of a compiled document stand at its refused lines. -/
theorem map_line_problems_parse (text : Chars) :
    (parse text).problems.map AtLine.line = (parse text).lineKinds.findIdxs (· = .error) := by
  rw [parse_eq_finish]
  exact Draft.map_line_problems_readAll _

/-- Reading goes on to the end, or stops at the line with the last of too many problems. -/
theorem parse_aborted_cases (text : Chars) :
    (parse text).aborted = false ∧ (parse text).problems.length ≤ maxProblems ∨
    (parse text).aborted = true ∧ (parse text).problems.length = maxProblems + 1 ∧
      ∃ p, (parse text).problems.getLast? = some p ∧
        p.line + 1 = (parse text).lineKinds.length := by
  rcases parse_cases text with ⟨hfew, htext⟩ | ⟨read, line, rest, -, hfew, hmany, htext⟩
  · rw [htext]
    exact .inl ⟨rfl, hfew⟩
  · rw [Draft.readAll_concat] at hmany htext
    obtain ⟨problem, hproblems, hlength⟩ := Draft.exists_problem_of_lt_length hfew hmany
    rw [htext]
    refine .inr ⟨rfl, hlength, ⟨(Draft.readAll {} read).nextLine, problem⟩, ?_, ?_⟩
    · exact (congrArg List.getLast? hproblems).trans List.getLast?_concat
    · rw [Draft.finish, Draft.lineKinds_readLine, List.length_append]
      rfl

/-- **A compiled document accounts for the lines of its text.** -/
theorem parse_accountsFor (text : Chars) : (parse text).AccountsFor (Text.lines text) where
  length_le := length_lineKinds_le text
  lineKinds_eq := fun _ hn => getElem?_lineKinds_parse hn
  problems_eq := map_line_problems_parse text
  pairwise_lt := by
    rw [map_line_problems_parse]
    exact List.pairwise_findIdxs
  length_problems_le := by
    rcases parse_aborted_cases text with ⟨-, hfew⟩ | ⟨-, hmany, -⟩ <;> omega
  aborted_iff := by
    rcases parse_aborted_cases text with ⟨haborted, hfew⟩ | ⟨haborted, hmany, -⟩
    · rw [haborted]
      exact ⟨nofun, fun hmany => by omega⟩
    · exact ⟨fun _ => hmany, fun _ => haborted⟩
  last_of_aborted := by
    intro haborted
    rcases parse_aborted_cases text with ⟨hfull, -⟩ | ⟨-, -, hlast⟩
    · rw [hfull] at haborted
      cases haborted
    · exact hlast
  length_of_not_aborted := length_lineKinds_of_not_aborted

end LootLedger.Filter
