import LootLedger.Proofs.Filter.Run
import LootLedger.Proofs.Filter.Statement
import Mathlib.Data.List.Basic

/-!
# The lines of the rules

A rule remembers the lines it was read from. Put one after the other, the lines of all rules are
the lines of the document that say something about a rule: none of them is lost, none belongs to
two rules, and no other line belongs to any.

## One step

Three things can become of the rules when a line is read. They stay as they are, a rule is opened
behind them, or the open rule grows by the line. `Draft.Step` says which lines do which, and every
law below is one case analysis on it, carried along a run. The open rule has to be known not to let
evaluation go on: only the line that ends a rule makes it do so, and a rule that did already would
have one line too many.

## Main definitions

* `Filter.Rule.Grows`, `Filter.Draft.Step`: what a line does to a rule, and to all of them
* `Filter.Rule.ReadFrom`, `Filter.Document.CreditsLines`: what the lines of rules are

## Main results

* `Filter.Draft.step`: what one more line does
* `Filter.parse_creditsLines`: the lines of the rules of a compiled document
-/

namespace LootLedger.Filter

open Text (Chars)

/-- A line of this kind belongs to a rule. -/
def LineKind.isOfRule : LineKind → Bool
  | .visibility | .condition | .action => true
  | .empty | .comment | .error => false

/-- What the line of the given number makes of the rule it stands in. -/
inductive Rule.Grows (rule : Rule) (n : Nat) : Rule → Prop
  | continued : rule.Grows n (rule.continued n)
  | condition (c : Condition) : rule.Grows n (rule.addCondition c n)
  | action (a : Action) : rule.Grows n (rule.addAction a n)

/-- What a line does to the rules of a draft. -/
inductive Draft.Step (d : Draft) (line : Chars) (d' : Draft) : Prop
  /-- It is blank, a comment or refused. -/
  | quiet (hopening : opening? line = none) (hkind : (d.kindOf line).isOfRule = false)
      (hrules : d'.rules = d.rules) (hcurrent : d'.current = d.current)
  /-- It opens a rule, which ends the open one. -/
  | opening (v : Visibility) (hopening : opening? line = some v)
      (hkind : (d.kindOf line).isOfRule = true)
      (hrules : d'.rules = d.rules ++ [.opened v d.nextLine])
      (hcurrent : d'.current = some (.opened v d.nextLine))
  /-- It belongs to the open rule, and may end it. -/
  | growing (rule rule' : Rule) (hopening : opening? line = none)
      (hkind : (d.kindOf line).isOfRule = true) (hopen : d.current = some rule)
      (hgrows : rule.Grows d.nextLine rule') (hrules : d'.rules = d.ended ++ [rule'])
      (hcurrent : ∀ r ∈ d'.current, r.continues = rule.continues)

/-- The rule was read from some lines. -/
structure Rule.ReadFrom (lines : List Chars) (rule : Rule) : Prop where
  length_lines : rule.lines.length =
    1 + rule.conditions.length + rule.actions.length + (if rule.continues then 1 else 0)
  /-- The first of its lines opens a block of its visibility. -/
  opening : ∃ n line, rule.lines.head? = some n ∧ lines[n]? = some line ∧
    opening? line = some rule.visibility

/-- The lines of a document that say something about a rule are the lines of its rules. -/
structure Document.CreditsLines (d : Document) (lines : List Chars) : Prop where
  flatMap_lines : d.rules.flatMap Rule.lines = d.lineKinds.findIdxs LineKind.isOfRule
  pairwise_lt : (d.rules.flatMap Rule.lines).Pairwise (· < ·)
  readFrom : ∀ rule ∈ d.rules, rule.ReadFrom lines
  /-- The rules are opened, in order, by the lines that open a block. -/
  map_visibility : d.rules.map Rule.visibility =
    (lines.take d.lineKinds.length).filterMap opening?
  length_rules : d.rules.length =
    (lines.take d.lineKinds.length).countP fun line => (opening? line).isSome

namespace Rule.Grows

variable {rule rule' : Rule} {n : Nat}

theorem lines_eq (h : rule.Grows n rule') : rule'.lines = rule.lines ++ [n] := by
  cases h <;> rfl

theorem visibility_eq (h : rule.Grows n rule') : rule'.visibility = rule.visibility := by
  cases h <;> rfl

/-- A rule that does not let evaluation go on yet is read from one line more. -/
theorem readFrom (h : rule.Grows n rule') {lines : List Chars} (hrule : rule.ReadFrom lines)
    (hcontinues : rule.continues = false) : rule'.ReadFrom lines where
  length_lines := by
    have hlength := hrule.length_lines
    rw [hcontinues, if_neg Bool.false_ne_true] at hlength
    cases h with
    | continued => simp [Rule.continued, hlength]
    | condition c => simp [Rule.addCondition, hlength, hcontinues]; omega
    | action a => simp [Rule.addAction, hlength, hcontinues]; omega
  opening := by
    obtain ⟨first, line, hfirst, hline, hopening⟩ := hrule.opening
    refine ⟨first, line, ?_, hline, by rw [h.visibility_eq, hopening]⟩
    rw [h.lines_eq, List.head?_append, hfirst, Option.some_or]

end Rule.Grows

theorem Rule.ReadFrom.append {lines : List Chars} {rule : Rule} (h : rule.ReadFrom lines)
    (lines' : List Chars) : rule.ReadFrom (lines ++ lines') where
  length_lines := h.length_lines
  opening := by
    obtain ⟨n, line, hn, hline, hopening⟩ := h.opening
    have hlt : n < lines.length := (List.getElem?_eq_some_iff.mp hline).1
    exact ⟨n, line, hn, by rw [List.getElem?_append_left hlt, hline], hopening⟩

/-- A rule that has just been opened. -/
theorem Rule.ReadFrom.opened {lines : List Chars} {line : Chars} {v : Visibility}
    (h : opening? line = some v) : (Rule.opened v lines.length).ReadFrom (lines ++ [line]) where
  length_lines := rfl
  opening := ⟨lines.length, line, rfl, List.getElem?_concat_length, h⟩

namespace Draft

/-! ### One more line -/

theorem rules_of_current {d : Draft} {rule : Rule} (h : d.current = some rule) :
    d.rules = d.ended ++ [rule] := by
  rw [rules, h, Option.toList_some]

/-- **What one more line does to the rules.** -/
theorem step (d : Draft) (line : Chars) : d.Step line (d.readLine line) := by
  cases h : readStatement d.current.isSome line with
  | error problem =>
    have hopening : opening? line = none := opening?_eq_none fun v hv => by
      rw [h] at hv
      cases hv
    rw [readLine_of_error h]
    exact .quiet hopening (congrArg LineKind.isOfRule (kindOf_of_error h)) rfl rfl
  | ok s =>
    have hkind := congrArg LineKind.isOfRule (kindOf_of_ok h)
    have hopening : (∀ v, s ≠ .block v) → opening? line = none := fun hs =>
      opening?_eq_none fun v hv => hs v (Except.ok.inj (h.symm.trans hv))
    have hopen : s.needsBlock = true → ∃ rule, d.current = some rule := fun hs =>
      Option.isSome_iff_exists.mp (inBlock_of_needsBlock h hs)
    rw [readLine_of_ok h]
    cases s with
    | blank => exact .quiet (hopening nofun) hkind rfl rfl
    | comment => exact .quiet (hopening nofun) hkind rfl rfl
    | block v => exact .opening v (readStatement_eq_block_iff.mp h) hkind rfl rfl
    | «continue» =>
      obtain ⟨rule, hrule⟩ := hopen rfl
      refine .growing rule _ (hopening nofun) hkind hrule .continued ?_ nofun
      rw [rules_apply_continue, hrule, Option.map_some, Option.toList_some]
    | condition c =>
      obtain ⟨rule, hrule⟩ := hopen rfl
      refine .growing rule _ (hopening nofun) hkind hrule (.condition c) ?_ ?_
      · rw [rules_apply_condition, hrule, Option.map_some, Option.toList_some]
      · simp [apply, hrule, Rule.addCondition]
    | action a =>
      obtain ⟨rule, hrule⟩ := hopen rfl
      refine .growing rule _ (hopening nofun) hkind hrule (.action a) ?_ ?_
      · rw [rules_apply_action, hrule, Option.map_some, Option.toList_some]
      · simp [apply, hrule, Rule.addAction]

/-- A line is added to the lines of the rules exactly if its kind says that it belongs to one. -/
theorem flatMap_lines_readLine (d : Draft) (line : Chars) :
    (d.readLine line).rules.flatMap Rule.lines =
      d.rules.flatMap Rule.lines ++ [d.kindOf line].findIdxs LineKind.isOfRule d.nextLine := by
  cases d.step line with
  | quiet _ hkind hrules _ =>
    rw [hrules, List.findIdxs_singleton, hkind, if_neg Bool.false_ne_true, List.append_nil]
  | opening v _ hkind hrules _ =>
    rw [hrules, List.findIdxs_singleton, hkind, if_pos rfl, List.flatMap_append,
      List.flatMap_singleton, Rule.opened]
  | growing rule rule' _ hkind hopen hgrows hrules _ =>
    rw [hrules, List.findIdxs_singleton, hkind, if_pos rfl, rules_of_current hopen,
      List.flatMap_append, List.flatMap_append, List.flatMap_singleton, List.flatMap_singleton,
      hgrows.lines_eq, List.append_assoc]

/-- A line that opens a block adds a rule of its visibility, and no other line adds any. -/
theorem map_visibility_readLine (d : Draft) (line : Chars) :
    (d.readLine line).rules.map Rule.visibility =
      d.rules.map Rule.visibility ++ (opening? line).toList := by
  cases d.step line with
  | quiet hopening _ hrules _ => rw [hrules, hopening, Option.toList_none, List.append_nil]
  | opening v hopening _ hrules _ => rw [hrules, hopening, List.map_append]; rfl
  | growing rule rule' hopening _ hopen hgrows hrules _ =>
    rw [hrules, hopening, rules_of_current hopen, Option.toList_none, List.append_nil,
      List.map_append, List.map_append, List.map_singleton, List.map_singleton,
      hgrows.visibility_eq]

/-- The rules of the draft were read from some lines, and the open one can still grow. -/
structure ReadFrom (lines : List Chars) (d : Draft) : Prop where
  rules : ∀ rule ∈ d.rules, rule.ReadFrom lines
  current : ∀ rule ∈ d.current, rule.continues = false

/-- **The step**: the rules are read from one line more. -/
theorem ReadFrom.readLine {lines : List Chars} {d : Draft} (h : d.ReadFrom lines)
    (hlength : d.nextLine = lines.length) (line : Chars) :
    (d.readLine line).ReadFrom (lines ++ [line]) := by
  have hrules : ∀ rule ∈ d.rules, rule.ReadFrom (lines ++ [line]) := fun rule hrule =>
    (h.rules rule hrule).append [line]
  cases d.step line with
  | quiet _ _ hrules' hcurrent => exact ⟨by rwa [hrules'], by rw [hcurrent]; exact h.current⟩
  | opening v hopening _ hrules' hcurrent =>
    refine ⟨?_, ?_⟩
    · rw [hrules', hlength]
      exact List.forall_mem_append.mpr ⟨hrules, List.forall_mem_singleton.mpr (.opened hopening)⟩
    · rw [hcurrent]
      rintro rule ⟨⟩
      rfl
  | growing rule rule' _ _ hopen hgrows hrules' hcurrent =>
    rw [rules_of_current hopen, List.forall_mem_append, List.forall_mem_singleton] at hrules
    have hcontinues := h.current rule hopen
    refine ⟨?_, fun r hr => (hcurrent r hr).trans hcontinues⟩
    rw [hrules']
    exact List.forall_mem_append.mpr
      ⟨hrules.1, List.forall_mem_singleton.mpr (hgrows.readFrom hrules.2 hcontinues)⟩

/-! ### A run -/

/-- **The lines of the rules of a run** are the lines that belong to a rule by their kind. -/
theorem flatMap_lines_readAll (lines : List Chars) :
    (Draft.readAll {} lines).rules.flatMap Rule.lines =
      (Draft.readAll {} lines).lineKinds.findIdxs LineKind.isOfRule := by
  induction lines using List.reverseRecOn with
  | nil => rfl
  | append_singleton lines line ih =>
    rw [readAll_concat, flatMap_lines_readLine, ih, lineKinds_readLine, List.findIdxs_append,
      nextLine, Nat.zero_add]

theorem map_visibility_readAll (lines : List Chars) :
    (Draft.readAll {} lines).rules.map Rule.visibility = lines.filterMap opening? := by
  induction lines using List.reverseRecOn with
  | nil => rfl
  | append_singleton lines line ih =>
    rw [readAll_concat, map_visibility_readLine, ih, List.filterMap_append]
    cases hopening : opening? line <;> simp [hopening]

theorem readFrom_readAll (lines : List Chars) : (Draft.readAll {} lines).ReadFrom lines := by
  induction lines using List.reverseRecOn with
  | nil => exact ⟨nofun, nofun⟩
  | append_singleton lines line ih =>
    rw [readAll_concat]
    exact ih.readLine (nextLine_readAll lines) line

end Draft

/-! ### The compiled document -/

/-- The rules of a compiled document are those of the run over the lines that were read. -/
theorem rules_parse (text : Chars) : (parse text).rules =
    (Draft.readAll {} ((Text.lines text).take (parse text).lineKinds.length)).rules :=
  congrArg Document.rules (parse_eq_finish text)

theorem flatMap_lines_parse (text : Chars) :
    (parse text).rules.flatMap Rule.lines =
      (parse text).lineKinds.findIdxs LineKind.isOfRule := by
  rw [parse_eq_finish]
  exact Draft.flatMap_lines_readAll _

theorem map_visibility_parse (text : Chars) : (parse text).rules.map Rule.visibility =
    ((Text.lines text).take (parse text).lineKinds.length).filterMap opening? := by
  rw [rules_parse, Draft.map_visibility_readAll]

/-- **The lines of a compiled document that say something about a rule are those of its rules**,
each of them once. Every rule has one line for its opening, one for each condition and action, and
one to let evaluation go on if it does, and there is a rule for every line that opens a block. -/
theorem parse_creditsLines (text : Chars) : (parse text).CreditsLines (Text.lines text) where
  flatMap_lines := flatMap_lines_parse text
  pairwise_lt := by
    rw [flatMap_lines_parse]
    exact List.pairwise_findIdxs
  readFrom := by
    intro rule hrule
    rw [rules_parse] at hrule
    have hread := (Draft.readFrom_readAll _).rules rule hrule
    have hlines := hread.append ((Text.lines text).drop (parse text).lineKinds.length)
    rwa [List.take_append_drop] at hlines
  map_visibility := map_visibility_parse text
  length_rules := by
    rw [← List.length_map Rule.visibility, map_visibility_parse, List.length_filterMap_eq_countP]

example : (parse "# top\nShow\nClass\nRarity Rare\nContinue\nHide\n".toList).rules.map Rule.lines =
    [[1, 3, 4], [5]] := by
  decide +kernel

end LootLedger.Filter
