import LootLedger.Cli.Report.Matches
import LootLedger.Proofs.Filter.Decision
import LootLedger.Proofs.Filter.Opening

/-!
# The rows of a match

A row shows what the filter decides about one item, and names the line that opened the deciding
rule. Reading, deciding and reporting are three walks: over the lines of a document, over its rules,
and over the items. The numbers that they count by meet here. The verdict carries the rule that
stands at its index; the rule carries the line that opened it; and the opening lines and the rules
of a document go together one by one.

## Main definitions

* `Cli.decidedRows`: the rows of all items
* `Cli.ReportsOpening`: a verdict is reported by the line that opened its rule

## Main results

* `Cli.matchRows_withAreaLevel`: the rows for areas of a level, which are never refused
* `Cli.matchRows_reportsOpening`: what the rows say, and which of them are left when only shown
  items are wanted
-/

namespace LootLedger.Cli

open Text (Chars)
open LootLedger.Filter (Rule Verdict)

/-! ### The rows of all items -/

/-- The row of an item at its position. -/
def decidedRow (rules : List Rule) (areaLevel : Nat) (item : Item) (position : Nat) : MatchRow :=
  { position, item, verdict := Filter.verdict? rules areaLevel item }

/-- The rows of all items, in order. -/
def decidedRows (rules : List Rule) (areaLevel : Nat) (items : List Item) : List MatchRow :=
  items.zipIdx.map fun (item, position) => decidedRow rules areaLevel item position

section

variable (rules : List Rule) (areaLevel : Nat) (items : List Item)

/-- **A filter that knows the area level judges every item.** -/
theorem matchRows_withAreaLevel (f : CompiledFilter) (shownOnly : Bool) :
    matchRows (f.withAreaLevel areaLevel) items shownOnly =
      .ok ((decidedRows f.document.rules areaLevel items).filter
        fun row => !shownOnly || row.isShown) := by
  have hrows : (items.zipIdx.mapM fun (item, position) => do
      return { position, item, verdict := ← (f.withAreaLevel areaLevel).judge item : MatchRow }) =
      (pure (decidedRows f.document.rules areaLevel items) : Except Filter.Problem _) :=
    List.mapM_pure
  rw [matchRows, hrows]
  rfl

@[simp]
theorem map_item_decidedRows : (decidedRows rules areaLevel items).map MatchRow.item = items := by
  rw [decidedRows, List.map_map]
  exact List.zipIdx_map_fst 0 items

@[simp]
theorem map_position_decidedRows :
    (decidedRows rules areaLevel items).map MatchRow.position = List.range items.length := by
  rw [decidedRows, List.map_map, List.range_eq_range']
  exact List.zipIdx_map_snd 0 items

variable {rules areaLevel items}

theorem verdict_of_mem_decidedRows {row : MatchRow} (h : row ∈ decidedRows rules areaLevel items) :
    row.verdict = Filter.verdict? rules areaLevel row.item := by
  obtain ⟨⟨item, position⟩, -, rfl⟩ := List.mem_map.mp h
  rfl

/-- The items of the rows that are shown are those that the rules show. -/
theorem map_item_filter_isShown :
    ((decidedRows rules areaLevel items).filter MatchRow.isShown).map MatchRow.item =
      Filter.shownItems rules areaLevel items := by
  have hshown : ∀ row ∈ decidedRows rules areaLevel items, row.isShown =
      (Filter.verdict? rules areaLevel row.item).any Verdict.isShown := fun row hrow => by
    rw [MatchRow.isShown, verdict_of_mem_decidedRows hrow]
  rw [List.filter_congr hshown, Filter.shownItems]
  conv_rhs => rw [← map_item_decidedRows rules areaLevel items, List.filter_map]
  rfl

end

/-! ### The line of a row -/

/-- A verdict is reported by the line that opened its rule: the rule is the one of the document at
the index of the verdict, the line is the opening line of that number and the first line of the
rule, and without blanks and comment it says what the verdict is. -/
structure ReportsOpening (text : Chars) (v : Verdict) : Prop where
  rule : (Filter.parse text).rules[v.index]? = some v.rule
  startLine_pos : 1 ≤ startLine v
  head?_lines : v.rule.lines.head? = some (startLine v - 1)
  opening : (Filter.openingLines (Text.lines text))[v.index]? = some (startLine v - 1)
  /-- The line itself, which is one of the document. -/
  line : ∃ line, (Text.lines text)[startLine v - 1]? = some line ∧
    Text.trim (Filter.withoutComment (Filter.spaced line)) =
      (if v.isShown then "Show" else "Hide").toList

theorem startLine_of_head? {v : Verdict} {n : Nat} (h : v.rule.lines.head? = some n) :
    startLine v = n + 1 := by
  obtain ⟨rest, hlines⟩ := List.head?_eq_some_iff.mp h
  rw [startLine, hlines]

/-- The keyword of a visibility is the word for what the verdict is. -/
theorem keyword_visibility (v : Verdict) :
    v.rule.visibility.keyword = if v.isShown then "Show" else "Hide" := by
  rw [Verdict.isShown, Filter.Rule.isShown]
  cases v.rule.visibility <;> rfl

/-- **A decision is reported by the line that opened the deciding rule.** -/
theorem reportsOpening_of_verdict?_eq_some {text : Chars} {areaLevel : Nat} {item : Item}
    {v : Verdict} (h : Filter.verdict? (Filter.parse text).rules areaLevel item = some v) :
    ReportsOpening text v := by
  have hrule := (Filter.isVerdict_iff.mp h).rule
  have hread : v.rule.ReadFrom (Text.lines text) := by
    rw [← List.take_append_drop (Filter.parse text).lineKinds.length (Text.lines text)]
    refine ((Filter.Draft.readFrom_readAll _).rules v.rule ?_).append _
    rw [← Filter.rules_parse]
    exact List.mem_of_getElem? hrule
  obtain ⟨n, line, hn, hline, hopening⟩ := hread.opening
  have hstart : startLine v - 1 = n := by rw [startLine_of_head? hn, Nat.add_sub_cancel]
  refine ⟨hrule, ?_, hstart ▸ hn, ?_, line, ?_, ?_⟩
  · rw [startLine_of_head? hn]
    exact Nat.le_add_left 1 n
  · rw [hstart, Filter.getElem?_openingLines hrule, hn]
  · rw [hstart]
    exact hline
  · rw [← keyword_visibility]
    exact Filter.opening?_eq_some_iff_trim_codeOf.mp hopening

/-- **What the rows say.** There is a row for each item, in order and numbered from zero, with the
verdict of the document's rules; a row with a verdict names the line of the document that opened the
deciding rule. Asked for the shown items only, the command keeps exactly the rows that are shown as
they are, and their items are the ones that the rules show. -/
theorem matchRows_reportsOpening (version text : String) (areaLevel : Nat) (items : List Item) :
    let f := (CompiledFilter.ofText version text).withAreaLevel areaLevel
    ∃ rows, matchRows f items false = .ok rows ∧
      rows.map MatchRow.item = items ∧
      rows.map MatchRow.position = List.range items.length ∧
      (∀ row ∈ rows, row.verdict = Filter.verdict? f.document.rules areaLevel row.item) ∧
      (∀ row ∈ rows, ∀ v ∈ row.verdict, ReportsOpening text.toList v) ∧
      matchRows f items true = .ok (rows.filter MatchRow.isShown) ∧
      (rows.filter MatchRow.isShown).map MatchRow.item =
        Filter.shownItems f.document.rules areaLevel items := by
  intro f
  have hall := matchRows_withAreaLevel areaLevel items (CompiledFilter.ofText version text) false
  have hshown := matchRows_withAreaLevel areaLevel items (CompiledFilter.ofText version text) true
  simp only [Bool.not_false, Bool.true_or, List.filter_true] at hall
  simp only [Bool.not_true, Bool.false_or] at hshown
  refine ⟨_, hall, map_item_decidedRows _ _ _, map_position_decidedRows _ _ _,
    fun row hrow => verdict_of_mem_decidedRows hrow, fun row hrow v hv => ?_, hshown,
    map_item_filter_isShown⟩
  rw [verdict_of_mem_decidedRows hrow] at hv
  exact reportsOpening_of_verdict?_eq_some hv

end LootLedger.Cli
