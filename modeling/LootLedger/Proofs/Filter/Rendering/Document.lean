import LootLedger.Proofs.Filter.Oddity
import LootLedger.Proofs.Filter.Rendering.Action
import LootLedger.Proofs.Filter.Rendering.Condition
import LootLedger.Proofs.Text.Layout

/-!
# Compiled documents written out

Compiled rules are all that matters of a document, and they can be written out as a new one: for
each rule its opening line, its conditions, its actions, and the line that lets evaluation go on if
it does. What is written compiles without a problem, and to the same rules but for the lines that
they were read from. Whatever the old document held besides (comments, refused lines, the order in
which conditions and actions were mixed) is gone.

## Reading a block

`Draft.Holds` says what a draft holds, apart from line numbers. Each line of a block has its step,
and a whole block, read after others, adds its rule to them (`Draft.Holds.rule_lines`): the rule ends
up either among the ended ones or open, which makes no difference to the next opening line or to the
end of the document.

Nothing of this needs the rules to be compiled ones, only to be well formed. So to be well formed is
all that can be said of a compiled rule by itself: every list of well-formed rules is what some
document compiles to.

## Main definitions

* `Filter.Rule.AreLines`, `Filter.IsWritten`: some rules written out as a document
* `Filter.Rule.withoutLines`: a rule but for the lines it was read from

## Main results

* `Filter.parse_isWritten`: compiled rules can be written, and what is written compiles to them
* `Filter.wellFormed_parse`: the compiled rules are the well-formed ones
-/

namespace LootLedger.Filter

open Text (Chars OnlySpaces)

/-- Lines of a rule: its opening line, its conditions and its actions, and the line that lets
evaluation go on if it does. -/
def Rule.AreLines (rule : Rule) (lines : List Chars) : Prop :=
  ∃ actionLines, List.Forall₂ Action.IsLine rule.actions actionLines ∧
    lines = rule.visibility.keyword.toList :: (rule.conditions.map Condition.line ++
      (actionLines ++ if rule.continues then ["Continue".toList] else []))

/-- Some rules written out, one line after the other, each ended by a line feed. -/
def IsWritten (rules : List Rule) (text : Chars) : Prop :=
  ∃ blocks, List.Forall₂ Rule.AreLines rules blocks ∧
    text = blocks.flatten.flatMap (· ++ ['\n'])

/-- The rule but for the lines it was read from. -/
def Rule.withoutLines (rule : Rule) : Rule :=
  { rule with lines := [] }

/-! ### Rules can be written -/

theorem exists_forall₂ {R : α → β → Prop} {xs : List α} (h : ∀ x ∈ xs, ∃ y, R x y) :
    ∃ ys, List.Forall₂ R xs ys := by
  induction xs with
  | nil => exact ⟨[], .nil⟩
  | cons x xs ih =>
    obtain ⟨y, hy⟩ := h x List.mem_cons_self
    obtain ⟨ys, hys⟩ := ih fun z hz => h z (List.mem_cons_of_mem _ hz)
    exact ⟨y :: ys, .cons hy hys⟩

/-- Well-formed rules can be written. -/
theorem exists_isWritten {rules : List Rule} (h : ∀ rule ∈ rules, rule.WellFormed) :
    ∃ text, IsWritten rules text := by
  have hrule : ∀ rule ∈ rules, ∃ lines, rule.AreLines lines := by
    intro rule hmem
    obtain ⟨actionLines, hlines⟩ :=
      exists_forall₂ fun a ha => Action.exists_isLine ((h rule hmem).actions a ha)
    exact ⟨_, actionLines, hlines, rfl⟩
  obtain ⟨blocks, hblocks⟩ := exists_forall₂ hrule
  exact ⟨_, blocks, hblocks, rfl⟩

theorem forall_mem_of_forall₂ {R : α → β → Prop} (P : α → Prop) (Q : β → Prop)
    (hR : ∀ x y, R x y → P x → Q y) {xs : List α} {ys : List β} (h : List.Forall₂ R xs ys)
    (hxs : ∀ x ∈ xs, P x) : ∀ y ∈ ys, Q y := by
  induction h with
  | nil => exact List.forall_mem_nil _
  | cons hxy _ ih =>
    rw [List.forall_mem_cons] at hxs ⊢
    exact ⟨hR _ _ hxy hxs.1, ih hxs.2⟩

/-- The lines of a well-formed rule have no blanks but spaces. -/
theorem Rule.AreLines.onlySpaces {rule : Rule} {lines : List Chars} (hlines : rule.AreLines lines)
    (h : rule.WellFormed) : ∀ l ∈ lines, OnlySpaces l := by
  obtain ⟨actionLines, hactions, rfl⟩ := hlines
  have hword : IsKeyword "Continue".toList := by decide
  have hcontinue : ∀ l ∈ (if rule.continues then ["Continue".toList] else []), OnlySpaces l := by
    split
    · exact List.forall_mem_singleton.mpr hword.isWord.onlySpaces
    · exact List.forall_mem_nil _
  refine List.forall_mem_cons.mpr ⟨rule.visibility.isKeyword.isWord.onlySpaces, ?_⟩
  refine List.forall_mem_append.mpr ⟨List.forall_mem_map.mpr fun c hc => ?_, ?_⟩
  · exact Condition.onlySpaces_line (h.conditions c hc)
  · have hactionLines : ∀ l ∈ actionLines, OnlySpaces l :=
      forall_mem_of_forall₂ Action.WellFormed OnlySpaces
        (fun _ _ hl ha => Action.onlySpaces_of_isLine ha hl) hactions h.actions
    exact List.forall_mem_append.mpr ⟨hactionLines, hcontinue⟩

/-! ### Reading a block -/

/-- What a draft holds, apart from line numbers: ended rules, the open one, and no problem. -/
structure Draft.Holds (d : Draft) (ended : List Rule) (current : Option Rule) : Prop where
  ended_eq : d.ended.map Rule.withoutLines = ended
  current_eq : d.current.map Rule.withoutLines = current
  problems_eq : d.problems = []

namespace Draft.Holds

variable {d : Draft} {ended : List Rule} {current : Option Rule} {rule : Rule}

theorem rules_eq (h : d.Holds ended current) :
    d.rules.map Rule.withoutLines = ended ++ current.toList := by
  rw [rules, List.map_append, h.ended_eq, ← Option.toList_map, h.current_eq]

theorem isSome_current (h : d.Holds ended (some rule)) : d.current.isSome = true := by
  rw [← Option.isSome_map, h.current_eq]
  rfl

/-- An opening line ends the open rule. -/
theorem block (h : d.Holds ended current) (v : Visibility) :
    (d.readLine v.keyword.toList).Holds (ended ++ current.toList)
      (some { visibility := v, lines := [] }) := by
  rw [readLine_of_ok (readStatement_visibility _ v)]
  exact ⟨h.rules_eq, rfl, h.problems_eq⟩

theorem condition (h : d.Holds ended (some rule)) {c : Condition} (hc : c.WellFormed) :
    (d.readLine c.line).Holds ended
      (some { rule with conditions := rule.conditions ++ [c] }) := by
  have hread : readStatement d.current.isSome c.line = .ok (.condition c) := by
    rw [h.isSome_current]
    exact c.readStatement_line hc
  rw [readLine_of_ok hread]
  obtain ⟨r, hr, rfl⟩ := Option.map_eq_some_iff.mp h.current_eq
  exact ⟨h.ended_eq, by simp [apply, hr, Rule.addCondition, Rule.withoutLines], h.problems_eq⟩

theorem action (h : d.Holds ended (some rule)) {a : Action} (ha : a.WellFormed) {line : Chars}
    (hline : a.IsLine line) :
    (d.readLine line).Holds ended (some { rule with actions := rule.actions ++ [a] }) := by
  have hread : readStatement d.current.isSome line = .ok (.action a) := by
    rw [h.isSome_current]
    exact a.readStatement_of_isLine ha hline
  rw [readLine_of_ok hread]
  obtain ⟨r, hr, rfl⟩ := Option.map_eq_some_iff.mp h.current_eq
  exact ⟨h.ended_eq, by simp [apply, hr, Rule.addAction, Rule.withoutLines], h.problems_eq⟩

/-- A line that lets evaluation go on ends its rule. -/
theorem continued (h : d.Holds ended (some rule)) :
    (d.readLine "Continue".toList).Holds (ended ++ [{ rule with continues := true }]) none := by
  have hread : readStatement d.current.isSome "Continue".toList = .ok .continue := by
    rw [h.isSome_current]
    exact readStatement_continue
  rw [readLine_of_ok hread]
  obtain ⟨r, hr, rfl⟩ := Option.map_eq_some_iff.mp h.current_eq
  refine ⟨?_, rfl, h.problems_eq⟩
  simp [apply, hr, h.ended_eq, Rule.continued, Rule.withoutLines]

theorem conditions (h : d.Holds ended (some rule)) {cs : List Condition}
    (hcs : ∀ c ∈ cs, c.WellFormed) :
    (d.readAll (cs.map Condition.line)).Holds ended
      (some { rule with conditions := rule.conditions ++ cs }) := by
  induction cs generalizing d rule with
  | nil => simpa using h
  | cons c cs ih =>
    rw [List.forall_mem_cons] at hcs
    simpa using ih (h.condition hcs.1) hcs.2

theorem actions (h : d.Holds ended (some rule)) {as : List Action} {lines : List Chars}
    (hlines : List.Forall₂ Action.IsLine as lines) (has : ∀ a ∈ as, a.WellFormed) :
    (d.readAll lines).Holds ended (some { rule with actions := rule.actions ++ as }) := by
  induction hlines generalizing d rule with
  | nil => simpa using h
  | cons hline _ ih =>
    rw [List.forall_mem_cons] at has
    simpa using ih (h.action has.1 hline) has.2

/-- **A block adds its rule.** -/
theorem rule_lines (h : d.Holds ended current) (hrule : rule.WellFormed) {lines : List Chars}
    (hlines : rule.AreLines lines) : ∃ ended' current', (d.readAll lines).Holds ended' current' ∧
      ended' ++ current'.toList = ended ++ current.toList ++ [rule.withoutLines] := by
  obtain ⟨actionLines, hactions, rfl⟩ := hlines
  have hbody := ((h.block rule.visibility).conditions hrule.conditions).actions hactions
    hrule.actions
  rw [List.nil_append] at hbody
  rw [readAll_cons, readAll_append, readAll_append]
  cases hc : rule.continues with
  | false => exact ⟨_, _, hbody, by simp [Rule.withoutLines, hc]⟩
  | true => exact ⟨_, _, hbody.continued, by simp [Rule.withoutLines, hc]⟩

theorem rules_lines (h : d.Holds ended current) {rs : List Rule} {blocks : List (List Chars)}
    (hblocks : List.Forall₂ Rule.AreLines rs blocks) (hrs : ∀ r ∈ rs, r.WellFormed) :
    ∃ ended' current', (d.readAll blocks.flatten).Holds ended' current' ∧
      ended' ++ current'.toList = ended ++ current.toList ++ rs.map Rule.withoutLines := by
  induction hblocks generalizing d ended current with
  | nil => exact ⟨ended, current, h, by simp⟩
  | cons hlines _ ih =>
    rw [List.forall_mem_cons] at hrs
    obtain ⟨ended', current', h', heq⟩ := h.rule_lines hrs.1 hlines
    obtain ⟨ended'', current'', h'', heq'⟩ := ih h' hrs.2
    refine ⟨ended'', current'', ?_, ?_⟩
    · rwa [List.flatten_cons, readAll_append]
    · rw [heq', heq, List.map_cons, List.append_assoc, List.singleton_append]

end Draft.Holds

/-! ### The document -/

/-- Well-formed rules that are written out compile to themselves, but for their lines. -/
theorem parse_of_isWritten {rules : List Rule} (hrules : ∀ r ∈ rules, r.WellFormed)
    {text : Chars} (h : IsWritten rules text) :
    (parse text).problems = [] ∧ (parse text).aborted = false ∧
      (parse text).rules.map Rule.withoutLines = rules.map Rule.withoutLines := by
  obtain ⟨blocks, hblocks, rfl⟩ := h
  have hblock : ∀ lines ∈ blocks, ∀ l ∈ lines, OnlySpaces l :=
    forall_mem_of_forall₂ Rule.WellFormed (fun lines => ∀ l ∈ lines, OnlySpaces l)
      (fun _ _ => Rule.AreLines.onlySpaces) hblocks hrules
  have hspaces : ∀ l ∈ blocks.flatten, OnlySpaces l := by
    intro l hl
    obtain ⟨lines, hmem, hl⟩ := List.mem_flatten.mp hl
    exact hblock lines hmem l hl
  have hlines := Text.lines_flatMap_feed fun l hl =>
    ⟨(hspaces l hl).newline_notMem, (hspaces l hl).return_notMem⟩
  have hstart : Draft.Holds {} [] none := ⟨rfl, rfl, rfl⟩
  obtain ⟨ended, current, hholds, heq⟩ := hstart.rules_lines hblocks hrules
  have hparse := @parse_of_length_problems_le (blocks.flatten.flatMap (· ++ ['\n']))
    (by rw [hlines, hholds.problems_eq]; exact Nat.zero_le _)
  rw [hparse, hlines]
  exact ⟨hholds.problems_eq, rfl, hholds.rules_eq.trans (by simpa using heq)⟩

/-- **Compiled rules can be written out, and what is written compiles to them.** However the rules
of a document are written, the new document has no problem, is read to its end, and has the same
rules but for the lines that they were read from, and the same oddities but for theirs. -/
theorem parse_isWritten (text : Chars) :
    (∃ text', IsWritten (parse text).rules text') ∧
    ∀ text', IsWritten (parse text).rules text' →
      (parse text').problems = [] ∧ (parse text').aborted = false ∧
      (parse text').rules.map Rule.withoutLines = (parse text).rules.map Rule.withoutLines ∧
      (parse text').oddities.map AtLine.what = (parse text).oddities.map AtLine.what := by
  have hrules : ∀ r ∈ (parse text).rules, r.WellFormed := fun r => wellFormed_of_mem_parse
  refine ⟨exists_isWritten hrules, fun text' h => ?_⟩
  obtain ⟨hproblems, haborted, hsame⟩ := parse_of_isWritten hrules h
  refine ⟨hproblems, haborted, hsame, ?_⟩
  have hactions : ∀ rules : List Rule, (rules.flatMap fun rule => oddities rule.actions) =
      (rules.map Rule.withoutLines).flatMap fun rule => oddities rule.actions := by
    intro rules
    rw [List.flatMap_map]
    rfl
  rw [map_what_oddities_parse, map_what_oddities_parse, hactions, hsame, ← hactions]

/-! ### Which rules are compiled -/

/-- **The compiled rules are the well-formed ones.** Every rule of a compiled document is well
formed, and any list of well-formed rules is compiled from some document, but for the lines that
they were read from. A font size is well formed if it is one from 25 to 50. -/
theorem wellFormed_parse :
    (∀ text, ∀ rule ∈ (parse text).rules, rule.WellFormed) ∧
    (∀ size, Action.WellFormed (.fontSize size) ↔ 25 ≤ size ∧ size ≤ 50) ∧
    ∀ rules : List Rule, (∀ rule ∈ rules, rule.WellFormed) →
      ∃ text, (parse text).rules.map Rule.withoutLines = rules.map Rule.withoutLines := by
  refine ⟨fun text rule => wellFormed_of_mem_parse, fun size => Action.wellFormed_fontSize_iff,
    fun rules hrules => ?_⟩
  obtain ⟨text, htext⟩ := exists_isWritten hrules
  exact ⟨text, (parse_of_isWritten hrules htext).2.2⟩

end LootLedger.Filter
