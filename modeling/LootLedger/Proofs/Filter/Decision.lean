import LootLedger.Archive.Cache
import LootLedger.Filter.Verdict
import Mathlib.Data.List.Induction
import Mathlib.Order.Bounds.Basic

/-!
# What a rule list decides

The evaluator walks through the rules once, with the style so far and the last continuing match
in its hands. Here the same decision is declared by the set of matching positions alone: the least
position whose rule does not continue, or else the greatest position of all, and in each part of
the style the last value that the matching rules up to there have set.

## The step

The declaration is compared with the evaluator one rule at a time, from the front: `verdictAfter`
says what one more rule at the end of the list makes of a verdict. The loop has that step
(`verdict?_concat`), and so has the declaration (`IsVerdict.concat`), so the two agree by
induction on the list from its end.

## Main definitions

* `Filter.matching`, `Filter.ending`: the positions that match, and those that end evaluation
* `Filter.lastSet`, `Filter.declaredStyle`: the style declared by some actions
* `Filter.IsVerdict`: the declared meaning of a verdict

## Main results

* `Filter.isVerdict_iff`: a verdict is returned exactly if it is the declared one
* `Filter.verdict?_iff_declared`: the decision on an item, and what has no influence on it
-/

namespace LootLedger.Filter

variable {areaLevel : Nat} {item : Item} {rules : List Rule}

/-! ### Declared styles

Each part of a style is set by one kind of action, and a later value takes the place of an
earlier one. -/

/-- The last value that some actions set, where `value?` is the value that one action sets. -/
def lastSet (value? : Action → Option α) (actions : List Action) : Option α :=
  (actions.filterMap value?).getLast?

/-- The background that an action sets. -/
def Action.background? : Action → Option Colour
  | .backgroundColor c => some c
  | _ => none

/-- The border that an action sets. -/
def Action.border? : Action → Option Colour
  | .borderColor c => some c
  | _ => none

/-- The colour of the text that an action sets. -/
def Action.text? : Action → Option Colour
  | .textColor c => some c
  | _ => none

/-- The font size that an action sets. -/
def Action.fontSize? : Action → Option Nat
  | .fontSize n => some n
  | _ => none

/-- The style in which every part has the last value that some actions set. -/
def declaredStyle (actions : List Action) : Style where
  background := lastSet Action.background? actions
  border := lastSet Action.border? actions
  text := lastSet Action.text? actions
  fontSize := lastSet Action.fontSize? actions

theorem lastSet_cons (value? : Action → Option α) (a : Action) (actions : List Action) :
    lastSet value? (a :: actions) = (lastSet value? actions).or (value? a) := by
  cases h : value? a with
  | none => simp [lastSet, List.filterMap_cons_none h]
  | some x =>
    rw [lastSet, List.filterMap_cons_some h, List.getLast?_cons, lastSet]
    cases (actions.filterMap value?).getLast? <;> rfl

/-- A part of a style that each action sets or leaves alone holds, after some actions, the last
value set by them, or what it held before. -/
theorem Style.apply_part (part : Style → Option α) (value? : Action → Option α)
    (h : ∀ s a, part (Style.applyOne s a) = (value? a).or (part s)) (s : Style)
    (actions : List Action) : part (s.apply actions) = (lastSet value? actions).or (part s) := by
  induction actions generalizing s with
  | nil => rfl
  | cons a actions ih =>
    rw [show s.apply (a :: actions) = (s.applyOne a).apply actions from rfl, ih, h, lastSet_cons,
      Option.or_assoc]

/-- Actions applied to the blank style give the declared one. -/
theorem Style.apply_blank (actions : List Action) :
    Style.apply {} actions = declaredStyle actions := by
  have hb := Style.apply_part Style.background Action.background?
    (fun s a => by cases a <;> rfl) {} actions
  have ho := Style.apply_part Style.border Action.border?
    (fun s a => by cases a <;> rfl) {} actions
  have ht := Style.apply_part Style.text Action.text?
    (fun s a => by cases a <;> rfl) {} actions
  have hf := Style.apply_part Style.fontSize Action.fontSize?
    (fun s a => by cases a <;> rfl) {} actions
  simp only [Option.or_none] at hb ho ht hf
  rw [declaredStyle, ← hb, ← ho, ← ht, ← hf]

/-! ### Matching positions -/

/-- The positions of the rules all of whose conditions the item meets. -/
def matching (rules : List Rule) (areaLevel : Nat) (item : Item) : Set Nat :=
  {i | ∃ rule, rules[i]? = some rule ∧ ∀ c ∈ rule.conditions, c.matches areaLevel item = true}

/-- The matching positions whose rule does not continue. -/
def ending (rules : List Rule) (areaLevel : Nat) (item : Item) : Set Nat :=
  {i ∈ matching rules areaLevel item | ∃ rule, rules[i]? = some rule ∧ rule.continues = false}

/-- The actions of the matching rules up to position `i`, in the order of the rules. -/
def actionsThrough (rules : List Rule) (areaLevel : Nat) (item : Item) (i : Nat) : List Action :=
  ((rules.take (i + 1)).filter (·.matches areaLevel item)).flatMap Rule.actions

theorem mem_matching {i : Nat} : i ∈ matching rules areaLevel item ↔
    ∃ rule, rules[i]? = some rule ∧ rule.matches areaLevel item = true := by
  simp [matching, Rule.matches, List.all_eq_true]

theorem lt_length_of_mem_matching {i : Nat} (h : i ∈ matching rules areaLevel item) :
    i < rules.length := by
  obtain ⟨rule, hi, -⟩ := mem_matching.mp h
  exact (List.getElem?_eq_some_iff.mp hi).1

theorem mem_ending {i : Nat} : i ∈ ending rules areaLevel item ↔ ∃ rule, rules[i]? = some rule ∧
    rule.matches areaLevel item = true ∧ rule.continues = false := by
  change (i ∈ matching rules areaLevel item ∧ ∃ rule, rules[i]? = some rule ∧ _) ↔ _
  rw [mem_matching]
  constructor
  · rintro ⟨⟨rule, hi, hm⟩, rule', hi', hc⟩
    obtain rfl : rule = rule' := Option.some.inj (hi.symm.trans hi')
    exact ⟨rule, hi, hm, hc⟩
  · rintro ⟨rule, hi, hm, hc⟩
    exact ⟨⟨rule, hi, hm⟩, rule, hi, hc⟩

theorem getElem?_concat_eq_some_iff {xs : List α} {x y : α} {i : Nat} :
    (xs ++ [x])[i]? = some y ↔ xs[i]? = some y ∨ (i = xs.length ∧ x = y) := by
  rcases Nat.lt_trichotomy i xs.length with h | rfl | h
  · rw [List.getElem?_append_left h]
    exact ⟨.inl, fun h' => h'.resolve_right (by omega)⟩
  · simp
  · rw [List.getElem?_eq_none (by simp; omega), List.getElem?_eq_none (by omega)]
    exact ⟨.inl, fun h' => h'.resolve_right (by omega)⟩

/-- A rule at the end of a list adds its position if it matches. -/
theorem mem_matching_concat {rule : Rule} {i : Nat} :
    i ∈ matching (rules ++ [rule]) areaLevel item ↔
      i ∈ matching rules areaLevel item ∨
        (i = rules.length ∧ rule.matches areaLevel item = true) := by
  simp only [mem_matching, getElem?_concat_eq_some_iff, or_and_right, exists_or, and_assoc,
    exists_and_left, exists_eq_left']

/-- A rule at the end of a list ends evaluation there if it matches and does not continue. -/
theorem mem_ending_concat {rule : Rule} {i : Nat} :
    i ∈ ending (rules ++ [rule]) areaLevel item ↔
      i ∈ ending rules areaLevel item ∨
        (i = rules.length ∧ rule.matches areaLevel item = true ∧ rule.continues = false) := by
  simp only [mem_ending, getElem?_concat_eq_some_iff, or_and_right, exists_or, and_assoc,
    exists_and_left, exists_eq_left']

/-- Up to a position inside a list, a rule at its end adds no action. -/
theorem actionsThrough_concat_of_lt {rule : Rule} {i : Nat} (h : i < rules.length) :
    actionsThrough (rules ++ [rule]) areaLevel item i =
      actionsThrough rules areaLevel item i := by
  rw [actionsThrough, List.take_append_of_le_length h, actionsThrough]

/-- Beyond the last matching position there is no further action. -/
theorem actionsThrough_eq_of_le {i n : Nat} (hi : ∀ j ∈ matching rules areaLevel item, j ≤ i)
    (hn : i ≤ n) : actionsThrough rules areaLevel item n =
      actionsThrough rules areaLevel item i := by
  have hrest : ((rules.take (n + 1)).drop (i + 1)).filter (·.matches areaLevel item) = [] := by
    rw [List.filter_eq_nil_iff]
    intro rule hrule hm
    obtain ⟨j, hj⟩ := List.mem_iff_getElem?.mp hrule
    rw [List.getElem?_drop] at hj
    have hmem : i + 1 + j ∈ matching rules areaLevel item := by
      refine mem_matching.mpr ⟨rule, ?_, hm⟩
      rw [List.getElem?_take] at hj
      split at hj
      · exact hj
      · cases hj
    have := hi _ hmem
    omega
  rw [actionsThrough, ← List.take_append_drop (i + 1) (rules.take (n + 1)), List.take_take,
    Nat.min_eq_left (by omega), List.filter_append, hrest, List.append_nil, actionsThrough]

/-! ### The declared verdict -/

/-- The declared meaning of a verdict. Its position is the least one that ends evaluation, or the
greatest matching one if all matching rules continue; its rule is the one that stands there; its
style is declared by the actions of the matching rules up to there. -/
structure IsVerdict (rules : List Rule) (areaLevel : Nat) (item : Item) (v : Verdict) : Prop where
  /-- Where evaluation ends. -/
  index : IsLeast (ending rules areaLevel item) v.index ∨
    ending rules areaLevel item = ∅ ∧ IsGreatest (matching rules areaLevel item) v.index
  /-- The rule at that position. -/
  rule : rules[v.index]? = some v.rule
  /-- The last values that were set. -/
  style : v.style = declaredStyle (actionsThrough rules areaLevel item v.index)

theorem IsVerdict.index_mem {v : Verdict} (h : IsVerdict rules areaLevel item v) :
    v.index ∈ matching rules areaLevel item := by
  rcases h.index with hl | ⟨-, hg⟩
  · exact hl.1.1
  · exact hg.1

/-- A declared verdict of a continuing rule comes from a list without an ending position. -/
theorem IsVerdict.isGreatest {v : Verdict} (h : IsVerdict rules areaLevel item v)
    (hc : v.rule.continues = true) : ending rules areaLevel item = ∅ ∧
      IsGreatest (matching rules areaLevel item) v.index := by
  refine h.index.resolve_left fun hl => ?_
  obtain ⟨rule, hi, -, hnot⟩ := mem_ending.mp hl.1
  obtain rfl : rule = v.rule := Option.some.inj (hi.symm.trans h.rule)
  rw [hc] at hnot
  cases hnot

/-- A declared verdict of a rule that does not continue is the least ending one. -/
theorem IsVerdict.isLeast {v : Verdict} (h : IsVerdict rules areaLevel item v)
    (hc : v.rule.continues = false) : IsLeast (ending rules areaLevel item) v.index := by
  refine h.index.resolve_right fun ⟨hnone, hg⟩ => ?_
  obtain ⟨rule, hi, hm⟩ := mem_matching.mp hg.1
  obtain rfl : rule = v.rule := Option.some.inj (hi.symm.trans h.rule)
  have : v.index ∈ ending rules areaLevel item := mem_ending.mpr ⟨_, hi, hm, hc⟩
  rw [hnone] at this
  exact this

/-- **At most one verdict is the declared one.** -/
theorem IsVerdict.unique {v w : Verdict} (hv : IsVerdict rules areaLevel item v)
    (hw : IsVerdict rules areaLevel item w) : v = w := by
  have hindex : v.index = w.index := by
    rcases hv.index with hl | ⟨hnone, hg⟩ <;> rcases hw.index with hl' | ⟨hnone', hg'⟩
    · exact hl.unique hl'
    · exact absurd hl.1 (by rw [hnone']; exact Set.notMem_empty _)
    · exact absurd hl'.1 (by rw [hnone]; exact Set.notMem_empty _)
    · exact hg.unique hg'
  obtain ⟨i, r, s⟩ := v
  obtain ⟨i', r', s'⟩ := w
  obtain rfl : i = i' := hindex
  obtain rfl : r = r' := Option.some.inj (hv.rule.symm.trans hw.rule)
  obtain rfl : s = s' := hv.style.trans hw.style.symm
  rfl

/-! ### One more rule

The evaluator carries the style apart from the last continuing match. It need not: before the
first match the style is blank, and afterwards it is the style of that match. -/

/-- The style that a walk has reached with a verdict in hand. -/
def styleSoFar (verdict : Option Verdict) : Style :=
  (verdict.map Verdict.style).getD {}

/-- The verdict after one more rule, which stands at position `index`. -/
def verdictAfter (areaLevel : Nat) (item : Item) (verdict : Option Verdict) (index : Nat)
    (rule : Rule) : Option Verdict :=
  if verdict.any fun v => !v.rule.continues then verdict
  else if rule.matches areaLevel item then
    some { index, rule, style := (styleSoFar verdict).apply rule.actions }
  else verdict

theorem verdictFrom?_concat (rules : List Rule) (rule : Rule) (i : Nat) (last : Option Verdict)
    (hlast : ∀ v ∈ last, v.rule.continues = true) :
    verdictFrom? areaLevel item i (styleSoFar last) last (rules ++ [rule]) =
      verdictAfter areaLevel item (verdictFrom? areaLevel item i (styleSoFar last) last rules)
        (i + rules.length) rule := by
  induction rules generalizing i last with
  | nil =>
    have hany : (last.any fun v => !v.rule.continues) = false := by
      rw [Option.any_eq_false]
      intro v hv
      simp [hlast v hv]
    simp only [List.nil_append, verdictFrom?, verdictAfter, hany, List.length_nil, Nat.add_zero]
    split
    · simp
    · rfl
  | cons first rules ih =>
    have hindex : i + (rules.length + 1) = i + 1 + rules.length := by omega
    simp only [List.cons_append, verdictFrom?, List.length_cons, hindex]
    split
    · split
      · next hc =>
        -- the new match carries the style, so the walk goes on with it in hand
        exact ih (i + 1) (some ⟨i, first, (styleSoFar last).apply first.actions⟩)
          (by simpa using hc)
      · next hc => simp [verdictAfter, hc]
    · exact ih (i + 1) last hlast

/-- **The step of the evaluator**, seen from the end of the list. -/
theorem verdict?_concat (rules : List Rule) (rule : Rule) :
    verdict? (rules ++ [rule]) areaLevel item =
      verdictAfter areaLevel item (verdict? rules areaLevel item) rules.length rule := by
  have h := @verdictFrom?_concat areaLevel item rules rule 0 none (fun v hv => by cases hv)
  rwa [Nat.zero_add] at h

/-- A verdict stands when a rule that cannot change it follows: evaluation has ended, or the rule
does not match. -/
theorem IsVerdict.concat {v : Verdict} (h : IsVerdict rules areaLevel item v) {rule : Rule}
    (hrule : v.rule.continues = false ∨ rule.matches areaLevel item = false) :
    IsVerdict (rules ++ [rule]) areaLevel item v := by
  have hlt := lt_length_of_mem_matching h.index_mem
  refine ⟨?_, ?_, ?_⟩
  · by_cases hc : v.rule.continues
    · have hm : rule.matches areaLevel item = false := hrule.resolve_left (by simp [hc])
      have hsame : matching (rules ++ [rule]) areaLevel item = matching rules areaLevel item := by
        ext i
        simp [mem_matching_concat, hm]
      have hsame' : ending (rules ++ [rule]) areaLevel item = ending rules areaLevel item := by
        ext i
        simp [mem_ending_concat, hm]
      rw [hsame, hsame']
      exact h.index
    · refine .inl ⟨mem_ending_concat.mpr (.inl (h.isLeast (by simpa using hc)).1), ?_⟩
      intro j hj
      rcases mem_ending_concat.mp hj with hj | ⟨rfl, -⟩
      · exact (h.isLeast (by simpa using hc)).2 hj
      · omega
  · rw [List.getElem?_append_left hlt, h.rule]
  · rw [h.style, actionsThrough_concat_of_lt hlt]

/-- The actions of all matching rules, when a continuing rule is the declared verdict or no rule
matches. -/
theorem declaredStyle_eq_styleSoFar {verdict : Option Verdict}
    (hnone : verdict = none → matching rules areaLevel item = ∅)
    (hsome : ∀ v ∈ verdict, IsVerdict rules areaLevel item v ∧ v.rule.continues = true) :
    styleSoFar verdict =
      declaredStyle ((rules.filter (·.matches areaLevel item)).flatMap Rule.actions) := by
  have hall : actionsThrough rules areaLevel item rules.length =
      (rules.filter (·.matches areaLevel item)).flatMap Rule.actions := by
    rw [actionsThrough, List.take_of_length_le (by omega)]
  cases verdict with
  | none =>
    have hno : rules.filter (·.matches areaLevel item) = [] := by
      rw [List.filter_eq_nil_iff]
      intro rule hrule hm
      obtain ⟨i, hi⟩ := List.mem_iff_getElem?.mp hrule
      have : i ∈ matching rules areaLevel item := mem_matching.mpr ⟨rule, hi, hm⟩
      rw [hnone rfl] at this
      exact this
    rw [hno]
    rfl
  | some v =>
    obtain ⟨hv, hc⟩ := hsome v rfl
    have hg := (hv.isGreatest hc).2
    rw [← hall, actionsThrough_eq_of_le hg.2 (Nat.le_of_lt (lt_length_of_mem_matching hg.1)),
      ← hv.style]
    rfl

/-- The verdict in hand is the declared one of the rules so far. -/
structure Declared (rules : List Rule) (areaLevel : Nat) (item : Item) (verdict : Option Verdict) :
    Prop where
  /-- Without a verdict no rule has matched. -/
  of_none : verdict = none → matching rules areaLevel item = ∅
  /-- A verdict is the declared one. -/
  of_some : ∀ v ∈ verdict, IsVerdict rules areaLevel item v

/-- A matching rule decides if nothing has ended evaluation before it. -/
theorem Declared.isVerdict_concat {verdict : Option Verdict}
    (h : Declared rules areaLevel item verdict)
    (hcont : ∀ v ∈ verdict, v.rule.continues = true) {rule : Rule}
    (hm : rule.matches areaLevel item = true) :
    IsVerdict (rules ++ [rule]) areaLevel item
      ⟨rules.length, rule, (styleSoFar verdict).apply rule.actions⟩ := by
  have hending : ending rules areaLevel item = ∅ := by
    cases verdict with
    | none =>
      refine Set.subset_empty_iff.mp fun i hi => ?_
      rw [← h.of_none rfl]
      exact hi.1
    | some v => exact ((h.of_some v rfl).isGreatest (hcont v rfl)).1
  have hnone {i : Nat} : i ∉ ending rules areaLevel item := by
    rw [hending]
    exact Set.notMem_empty i
  refine ⟨?_, List.getElem?_concat_length, ?_⟩
  · cases hc : rule.continues with
    | false =>
      refine .inl ⟨mem_ending_concat.mpr (.inr ⟨rfl, hm, hc⟩), fun j hj => ?_⟩
      rcases mem_ending_concat.mp hj with hj | ⟨rfl, -⟩
      · exact absurd hj hnone
      · exact Nat.le_refl _
    | true =>
      refine .inr ⟨Set.subset_empty_iff.mp fun j hj => ?_,
        mem_matching_concat.mpr (.inr ⟨rfl, hm⟩), fun j hj => ?_⟩
      · rcases mem_ending_concat.mp hj with hj | ⟨-, -, hnot⟩
        · exact absurd hj hnone
        · rw [hc] at hnot
          cases hnot
      · rcases mem_matching_concat.mp hj with hj | ⟨rfl, -⟩
        · exact Nat.le_of_lt (lt_length_of_mem_matching hj)
        · exact Nat.le_refl _
  · have hactions : actionsThrough (rules ++ [rule]) areaLevel item rules.length =
        (rules.filter (·.matches areaLevel item)).flatMap Rule.actions ++ rule.actions := by
      rw [actionsThrough, List.take_of_length_le (by simp), List.filter_append,
        List.flatMap_append]
      simp [hm]
    rw [hactions, ← Style.apply_blank, Style.apply_append, Style.apply_blank,
      ← declaredStyle_eq_styleSoFar h.of_none fun v hv => ⟨h.of_some v hv, hcont v hv⟩]

theorem Declared.after {verdict : Option Verdict} (h : Declared rules areaLevel item verdict)
    (rule : Rule) : Declared (rules ++ [rule]) areaLevel item
      (verdictAfter areaLevel item verdict rules.length rule) := by
  rw [verdictAfter]
  split
  · next hended =>
    obtain ⟨v, rfl, hv⟩ : ∃ v, verdict = some v ∧ v.rule.continues = false := by
      cases verdict with
      | none => cases hended
      | some v => exact ⟨v, rfl, by simpa using hended⟩
    refine ⟨nofun, fun w hw => ?_⟩
    obtain rfl : v = w := Option.some.inj hw
    exact (h.of_some v rfl).concat (.inl hv)
  · next hopen =>
    have hcont : ∀ v ∈ verdict, v.rule.continues = true := by
      rintro v rfl
      simpa using hopen
    split
    · next hm =>
      refine ⟨nofun, fun w hw => ?_⟩
      obtain rfl := Option.some.inj hw
      exact h.isVerdict_concat hcont hm
    · next hm =>
      refine ⟨fun hnone => ?_, fun v hv => (h.of_some v hv).concat (.inr (by simpa using hm))⟩
      ext i
      simp [mem_matching_concat, h.of_none hnone, hm]

/-- **The walk through the rules ends with the declared verdict.** -/
theorem declared_verdict? (rules : List Rule) (areaLevel : Nat) (item : Item) :
    Declared rules areaLevel item (verdict? rules areaLevel item) := by
  induction rules using List.reverseRecOn with
  | nil =>
    refine ⟨fun _ => ?_, nofun⟩
    ext i
    simp [mem_matching]
  | append_singleton rules rule ih =>
    rw [verdict?_concat]
    exact ih.after rule

theorem verdict?_eq_none_iff :
    verdict? rules areaLevel item = none ↔ matching rules areaLevel item = ∅ := by
  refine ⟨(declared_verdict? rules areaLevel item).of_none, fun hnone => ?_⟩
  cases h : verdict? rules areaLevel item with
  | none => rfl
  | some v =>
    have := ((declared_verdict? rules areaLevel item).of_some v h).index_mem
    rw [hnone] at this
    exact this.elim

/-- **A verdict is returned exactly if it is the declared one.** -/
theorem isVerdict_iff {v : Verdict} :
    verdict? rules areaLevel item = some v ↔ IsVerdict rules areaLevel item v := by
  refine ⟨(declared_verdict? rules areaLevel item).of_some v, fun h => ?_⟩
  cases hw : verdict? rules areaLevel item with
  | none =>
    have := h.index_mem
    rw [verdict?_eq_none_iff.mp hw] at this
    exact this.elim
  | some w => rw [((declared_verdict? rules areaLevel item).of_some w hw).unique h]

/-! ### What has no influence

Rules that do not match may be replaced by others that do not, and what follows the deciding rule
may be cut off or replaced: by anything if evaluation ended there, by rules that do not match if
the deciding rule continues. -/

/-- Two rule lists that differ only where neither rule matches. -/
def SameMatches (areaLevel : Nat) (item : Item) : List Rule → List Rule → Prop :=
  List.Forall₂ fun r r' => r = r' ∨
    r.matches areaLevel item = false ∧ r'.matches areaLevel item = false

theorem SameMatches.verdictFrom? {rules rules' : List Rule}
    (h : SameMatches areaLevel item rules rules') (i : Nat) (style : Style)
    (last : Option Verdict) : verdictFrom? areaLevel item i style last rules' =
      verdictFrom? areaLevel item i style last rules := by
  induction h generalizing i style last with
  | nil => rfl
  | cons hr _ ih =>
    rcases hr with rfl | ⟨hm, hm'⟩
    · simp only [Filter.verdictFrom?, ih]
    · simp only [Filter.verdictFrom?, hm, hm', ih, Bool.false_eq_true, ite_false]

theorem mem_matching_take {n i : Nat} : i ∈ matching (rules.take n) areaLevel item ↔
    i < n ∧ i ∈ matching rules areaLevel item := by
  simp only [mem_matching, List.getElem?_take]
  split <;> simp_all

theorem mem_ending_take {n i : Nat} : i ∈ ending (rules.take n) areaLevel item ↔
    i < n ∧ i ∈ ending rules areaLevel item := by
  simp only [mem_ending, List.getElem?_take]
  split <;> simp_all

/-- The rules up to the deciding one have the same verdict. -/
theorem IsVerdict.take {v : Verdict} (h : IsVerdict rules areaLevel item v) :
    IsVerdict (rules.take (v.index + 1)) areaLevel item v := by
  refine ⟨?_, ?_, ?_⟩
  · rcases h.index with hl | ⟨hnone, hg⟩
    · exact .inl ⟨mem_ending_take.mpr ⟨Nat.lt_succ_self _, hl.1⟩,
        fun j hj => hl.2 (mem_ending_take.mp hj).2⟩
    · refine .inr ⟨Set.subset_empty_iff.mp fun j hj => ?_,
        mem_matching_take.mpr ⟨Nat.lt_succ_self _, hg.1⟩,
        fun j hj => hg.2 (mem_matching_take.mp hj).2⟩
      rw [← hnone]
      exact (mem_ending_take.mp hj).2
  · rw [List.getElem?_take_of_lt (Nat.lt_succ_self _), h.rule]
  · rw [h.style, actionsThrough, actionsThrough, List.take_take, Nat.min_self]

theorem IsVerdict.append {v : Verdict} (h : IsVerdict rules areaLevel item v)
    {others : List Rule}
    (hothers : v.rule.continues = true → ∀ r ∈ others, r.matches areaLevel item = false) :
    IsVerdict (rules ++ others) areaLevel item v := by
  induction others using List.reverseRecOn with
  | nil => rwa [List.append_nil]
  | append_singleton others rule ih =>
    rw [← List.append_assoc]
    refine (ih fun hc r hr => hothers hc r (by simp [hr])).concat ?_
    cases hc : v.rule.continues with
    | false => exact .inl rfl
    | true => exact .inr (hothers hc rule (by simp))

/-- **The decision on an item, as it is declared.** There is no verdict exactly if no rule matches,
and otherwise the verdict is the declared one; a compiled filter that has been told the area level
gives it. Rules that do not match have no influence on it, nor has what follows the deciding
rule. -/
theorem verdict?_iff_declared (rules : List Rule) (areaLevel : Nat) (item : Item) :
    (verdict? rules areaLevel item = none ↔ matching rules areaLevel item = ∅) ∧
    (∀ v, verdict? rules areaLevel item = some v ↔ IsVerdict rules areaLevel item v) ∧
    (∀ f : CompiledFilter, f.document.rules = rules →
      (f.withAreaLevel areaLevel).judge item = .ok (verdict? rules areaLevel item)) ∧
    (∀ rules', SameMatches areaLevel item rules rules' →
      verdict? rules' areaLevel item = verdict? rules areaLevel item) ∧
    (∀ v, verdict? rules areaLevel item = some v → ∀ others : List Rule,
      (v.rule.continues = true → ∀ r ∈ others, r.matches areaLevel item = false) →
      verdict? (rules.take (v.index + 1) ++ others) areaLevel item = some v) := by
  refine ⟨verdict?_eq_none_iff, fun v => isVerdict_iff, ?_, ?_, ?_⟩
  · rintro f rfl
    rfl
  · intro rules' h
    exact h.verdictFrom? 0 {} none
  · intro v hv others hothers
    exact isVerdict_iff.mpr ((isVerdict_iff.mp hv).take.append hothers)

end LootLedger.Filter
