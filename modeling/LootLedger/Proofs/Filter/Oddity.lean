import LootLedger.Proofs.Filter.Accounting
import LootLedger.Proofs.Filter.Provenance
import Mathlib.Data.Finset.Card
import Mathlib.Data.List.Flatten
import Mathlib.Data.List.Pairwise

/-!
# Oddities are overridden actions

An action is odd if it clashes with an earlier one of its block, which it overrides. Whether it does
is decided when its line is read, on the state of the open rule at that moment. It can be seen
afterwards as well: a rule remembers its lines, the lines that say an action are its actions in
order, and so the oddities of a compiled document are told by its rules, one rule after the other.

## Numbered actions

What carries the argument is the list of the actions of a rule with the numbers of their lines. A
line adds to it what it says, if it says an action, and nothing otherwise; the lines before it keep
what they say. So the oddities of a draft are those of the numbered actions of its rules, and
each law about a document is one about such a list: which of its actions are odd, in which order
they stand, and how many they are.

Clashing is an equivalence. The actions that override none are the first of their classes, so a rule
has as many oddities as actions beyond one for each class.

## Main definitions

* `Filter.Action.Clash`, `Filter.Action.clashSetoid`: what it is for two actions to clash
* `Filter.Document.actionAt?`: the action that a line of a document says
* `Filter.Document.ClashAt`: two lines of one rule say actions that clash
* `Filter.Document.ReportsOverridden`: the oddities of a document are its overridden actions
* `Filter.odditiesAt`: the oddities of numbered actions, each looked at after the ones before it
* `Filter.Draft.Explains`: what the lines say makes up the actions and the oddities of a draft

## Main results

* `Filter.mem_odditiesAt_iff`, `Filter.length_odditiesAt_add_card`: which actions are odd, how many
* `Filter.Draft.Explains.apply`, `Filter.Draft.explains_readAll`: one more line, and a run
* `Filter.explains_parse`: the actions and the oddities of a compiled document
* `Filter.parse_reportsOverridden`: a compiled document reports what is overridden
-/

namespace LootLedger.Filter

open Text (Chars)

/-! ### Clashes -/

/-- The keywords of the actions that play a sound. -/
def soundKeywords : List String :=
  ["PlayAlertSound", "PlayAlertSoundPositional", "CustomAlertSound"]

namespace Action

/-- The two actions clash: both are sounds, or neither is and they have one keyword. -/
def Clash (a b : Action) : Prop :=
  a.keyword ∈ soundKeywords ∧ b.keyword ∈ soundKeywords ∨
    a.keyword ∉ soundKeywords ∧ b.keyword ∉ soundKeywords ∧ a.keyword = b.keyword

instance : DecidableRel Clash := fun _ _ => inferInstanceAs (Decidable (_ ∨ _))

/-- What is reported of an action that overrides an earlier one. -/
def oddity (a : Action) : Oddity :=
  if a.keyword ∈ soundKeywords then .multipleSounds a.keyword else .duplicateAction a.keyword

theorem isSound_iff {a : Action} : a.isSound = true ↔ a.keyword ∈ soundKeywords := by
  cases a with
  | alertSound sound volume positional =>
    cases positional <;> simp [isSound, keyword, kind, ActionKind.keyword, soundKeywords]
  | _ => simp [isSound, keyword, kind, ActionKind.keyword, soundKeywords]

theorem kind_eq_iff {a b : Action} : a.kind = b.kind ↔ a.keyword = b.keyword := by
  refine ⟨congrArg ActionKind.keyword, fun h => ?_⟩
  have hkind := ActionKind.ofKeyword?_keyword b.kind
  rw [show b.kind.keyword = a.kind.keyword from h.symm, ActionKind.ofKeyword?_keyword] at hkind
  exact Option.some.inj hkind

theorem clashes_iff {a b : Action} : a.clashes b = true ↔ a.Clash b := by
  rw [clashes, Clash, ← isSound_iff, ← isSound_iff, ← kind_eq_iff]
  cases a.isSound <;> cases b.isSound <;> simp

/-- **Clashing is an equivalence.** -/
def clashSetoid : Setoid Action where
  r := Clash
  iseqv := {
    refl a := by
      by_cases h : a.keyword ∈ soundKeywords
      · exact .inl ⟨h, h⟩
      · exact .inr ⟨h, h, rfl⟩
    symm := Or.imp And.symm fun ⟨ha, hb, hab⟩ => ⟨hb, ha, hab.symm⟩
    trans := by
      rintro a b c (⟨ha, hb⟩ | ⟨ha, hb, hab⟩) (⟨hb', hc⟩ | ⟨hb', hc, hbc⟩)
      · exact .inl ⟨ha, hc⟩
      · exact absurd hb hb'
      · exact absurd hb' hb
      · exact .inr ⟨ha, hc, hab.trans hbc⟩ }

instance : DecidableEq (Quotient clashSetoid) :=
  fun x y => Quotient.recOnSubsingleton₂ x y fun a b =>
    decidable_of_iff (a.Clash b) (Quotient.eq (r := clashSetoid)).symm

end Action

/-- An action is odd if it clashes with some earlier one. -/
theorem Draft.oddity?_eq (earlier : List Action) (a : Action) :
    oddity? earlier a = if ∃ b ∈ earlier, a.Clash b then some a.oddity else none := by
  simp only [oddity?, List.any_eq_true, Action.clashes_iff, Action.isSound_iff, Action.oddity]

/-- The oddities of some actions that follow earlier ones. -/
def odditiesFrom (earlier : List Action) : List Action → List Oddity
  | [] => []
  | a :: actions => (Draft.oddity? earlier a).toList ++ odditiesFrom (earlier ++ [a]) actions

/-- The oddities of some actions. -/
def oddities (actions : List Action) : List Oddity :=
  odditiesFrom [] actions

/-! ### Numbered actions -/

/-- The oddities of numbered actions that follow earlier ones. -/
def odditiesAtFrom (earlier : List Action) : List (AtLine Action) → List (AtLine Oddity)
  | [] => []
  | x :: xs => ((Draft.oddity? earlier x.what).map (AtLine.mk x.line)).toList ++
      odditiesAtFrom (earlier ++ [x.what]) xs

/-- The oddities of numbered actions. -/
def odditiesAt (xs : List (AtLine Action)) : List (AtLine Oddity) :=
  odditiesAtFrom [] xs

theorem odditiesAtFrom_concat (earlier : List Action) (xs : List (AtLine Action))
    (x : AtLine Action) : odditiesAtFrom earlier (xs ++ [x]) = odditiesAtFrom earlier xs ++
      ((Draft.oddity? (earlier ++ xs.map AtLine.what) x.what).map (AtLine.mk x.line)).toList := by
  induction xs generalizing earlier with
  | nil => simp [odditiesAtFrom]
  | cons y xs ih => simp [odditiesAtFrom, ih, List.append_assoc]

theorem odditiesAt_concat (xs : List (AtLine Action)) (x : AtLine Action) :
    odditiesAt (xs ++ [x]) = odditiesAt xs ++
      ((Draft.oddity? (xs.map AtLine.what) x.what).map (AtLine.mk x.line)).toList :=
  odditiesAtFrom_concat [] xs x

/-- Apart from the numbers the oddities are those of the actions. -/
theorem map_what_odditiesAtFrom (earlier : List Action) (xs : List (AtLine Action)) :
    (odditiesAtFrom earlier xs).map AtLine.what = odditiesFrom earlier (xs.map AtLine.what) := by
  induction xs generalizing earlier with
  | nil => rfl
  | cons x xs ih =>
    rw [odditiesAtFrom, List.map_append, ih, List.map_cons, odditiesFrom]
    cases Draft.oddity? earlier x.what <;> rfl

/-- Oddities stand in the order of their actions. -/
theorem map_line_odditiesAt_sublist (xs : List (AtLine Action)) :
    ((odditiesAt xs).map AtLine.line).Sublist (xs.map AtLine.line) := by
  induction xs using List.reverseRecOn with
  | nil => exact .slnil
  | append_singleton xs x ih =>
    rw [odditiesAt_concat, List.map_append, List.map_append]
    refine ih.append ?_
    cases Draft.oddity? (xs.map AtLine.what) x.what with
    | none => exact List.nil_sublist _
    | some odd => exact List.Sublist.refl _

/-- **Which actions are odd**: those that clash with one whose number is smaller. -/
theorem mem_odditiesAt_iff {xs : List (AtLine Action)}
    (hsorted : (xs.map AtLine.line).Pairwise (· < ·)) {w : AtLine Oddity} :
    w ∈ odditiesAt xs ↔ ∃ a, ⟨w.line, a⟩ ∈ xs ∧
      (∃ y ∈ xs, y.line < w.line ∧ a.Clash y.what) ∧ w.what = a.oddity := by
  induction xs using List.reverseRecOn with
  | nil => simp [odditiesAt, odditiesAtFrom]
  | append_singleton xs x ih =>
    obtain ⟨odd_line, odd⟩ := w
    rw [List.map_append, List.pairwise_append] at hsorted
    have hless : ∀ y ∈ xs, y.line < x.line := fun y hy =>
      hsorted.2.2 y.line (List.mem_map_of_mem hy) x.line List.mem_cons_self
    have hlast : (⟨odd_line, odd⟩ : AtLine Oddity) ∈
        ((Draft.oddity? (xs.map AtLine.what) x.what).map (AtLine.mk x.line)).toList ↔
        odd_line = x.line ∧ (∃ y ∈ xs, x.what.Clash y.what) ∧ odd = x.what.oddity := by
      rw [Draft.oddity?_eq]
      simp only [List.mem_map, exists_exists_and_eq_and]
      split <;> simp_all
    rw [odditiesAt_concat, List.mem_append, ih hsorted.1, hlast]
    constructor
    · rintro (⟨a, ha, ⟨y, hy, hlt, hclash⟩, hwhat⟩ | ⟨hline, ⟨y, hy, hclash⟩, hwhat⟩)
      · exact ⟨a, List.mem_append_left _ ha, ⟨y, List.mem_append_left _ hy, hlt, hclash⟩, hwhat⟩
      · refine ⟨x.what, List.mem_append_right _ (by simp [hline]), ?_, hwhat⟩
        exact ⟨y, List.mem_append_left _ hy, hline ▸ hless y hy, hclash⟩
    · rintro ⟨a, ha, ⟨y, hy, hlt, hclash⟩, hwhat⟩
      rcases List.mem_append.mp ha with hbefore | hlast
      · -- the last action has a greater number, so it is not the earlier one
        rcases List.mem_append.mp hy with hy | hy
        · exact .inl ⟨a, hbefore, ⟨y, hy, hlt, hclash⟩, hwhat⟩
        · obtain rfl := List.mem_singleton.mp hy
          have hgt : odd_line < y.line := hless ⟨odd_line, a⟩ hbefore
          exact absurd hlt (Nat.lt_asymm hgt)
      · obtain rfl := List.mem_singleton.mp hlast
        rcases List.mem_append.mp hy with hy | hy
        · exact .inr ⟨rfl, ⟨y, hy, hclash⟩, hwhat⟩
        · obtain rfl := List.mem_singleton.mp hy
          exact absurd hlt (Nat.lt_irrefl _)

/-- The classes of clashing actions among some actions. -/
def clashClasses (actions : List Action) : Finset (Quotient Action.clashSetoid) :=
  (actions.map (Quotient.mk Action.clashSetoid)).toFinset

theorem mk_mem_clashClasses_iff {actions : List Action} {a : Action} :
    Quotient.mk Action.clashSetoid a ∈ clashClasses actions ↔ ∃ b ∈ actions, a.Clash b := by
  simp only [clashClasses, List.mem_toFinset, List.mem_map]
  refine exists_congr fun b => and_congr_right fun _ => ?_
  exact eq_comm.trans (Quotient.eq (r := Action.clashSetoid))

/-- **How many actions are odd**: all but one of each class. -/
theorem length_odditiesAt_add_card (xs : List (AtLine Action)) :
    (odditiesAt xs).length + (clashClasses (xs.map AtLine.what)).card = xs.length := by
  induction xs using List.reverseRecOn with
  | nil => rfl
  | append_singleton xs x ih =>
    have hclasses : clashClasses ((xs ++ [x]).map AtLine.what) =
        insert (Quotient.mk Action.clashSetoid x.what) (clashClasses (xs.map AtLine.what)) := by
      ext c
      simp [clashClasses]
    rw [odditiesAt_concat, hclasses, List.length_append, List.length_append, Draft.oddity?_eq]
    by_cases hclash : ∃ b ∈ xs.map AtLine.what, x.what.Clash b
    · rw [if_pos hclash, Finset.insert_eq_of_mem (mk_mem_clashClasses_iff.mpr hclash)]
      simp only [Option.map_some, Option.toList_some, List.length_singleton]
      omega
    · rw [if_neg hclash, Finset.card_insert_of_notMem (mt mk_mem_clashClasses_iff.mp hclash)]
      simp only [Option.map_none, Option.toList_none, List.length_nil, List.length_singleton]
      omega

/-! ### The lines of a rule -/

/-- What an accepted line says, if it is an action. -/
def Statement.action? : Statement → Option Action
  | .action a => some a
  | _ => none

/-- The actions of a rule with the numbers of their lines, by what each line says. -/
def Rule.actionsAt (said : Nat → Option Action) (rule : Rule) : List (AtLine Action) :=
  rule.lines.filterMap fun n => (said n).map (AtLine.mk n)

theorem Rule.mem_actionsAt_iff {said : Nat → Option Action} {rule : Rule} {x : AtLine Action} :
    x ∈ rule.actionsAt said ↔ x.line ∈ rule.lines ∧ said x.line = some x.what := by
  obtain ⟨n, a⟩ := x
  rw [actionsAt, List.mem_filterMap]
  constructor
  · rintro ⟨m, hm, h⟩
    obtain ⟨b, hb, hx⟩ := Option.map_eq_some_iff.mp h
    obtain ⟨rfl, rfl⟩ := AtLine.mk.inj hx
    exact ⟨hm, hb⟩
  · rintro ⟨hn, ha⟩
    exact ⟨n, hn, by rw [ha, Option.map_some]⟩

theorem Rule.map_line_actionsAt_sublist (said : Nat → Option Action) (rule : Rule) :
    ((rule.actionsAt said).map AtLine.line).Sublist rule.lines := by
  have hfilter : (rule.actionsAt said).map AtLine.line =
      rule.lines.filter fun n => (said n).isSome := by
    rw [actionsAt, List.map_filterMap, ← List.filterMap_eq_filter]
    congr 1
    funext n
    cases h : said n <;> simp [Option.guard, h]
  rw [hfilter]
  exact List.filter_sublist

/-- A rule with one line more. -/
theorem Rule.actionsAt_of_lines_eq (said : Nat → Option Action) {rule rule' : Rule} {n : Nat}
    (h : rule'.lines = rule.lines ++ [n]) : rule'.actionsAt said =
      rule.actionsAt said ++ ((said n).map (AtLine.mk n)).toList := by
  rw [actionsAt, actionsAt, h, List.filterMap_append]
  cases hn : said n <;> simp [hn]

namespace Draft

/-- What the lines say makes up the actions and the oddities of a draft. -/
structure Explains (said : Nat → Option Action) (d : Draft) : Prop where
  actions : ∀ rule ∈ d.rules, (rule.actionsAt said).map AtLine.what = rule.actions
  oddities : d.oddities = d.rules.flatMap fun rule => odditiesAt (rule.actionsAt said)

namespace Explains

variable {said : Nat → Option Action} {d d' : Draft}

theorem of_eq (h : d.Explains said) (hrules : d'.rules = d.rules)
    (hoddities : d'.oddities = d.oddities) : d'.Explains said where
  actions := by rw [hrules]; exact h.actions
  oddities := by rw [hrules, hoddities]; exact h.oddities

/-- The open rule grows by the next line. -/
theorem grow (h : d.Explains said) {rule : Rule} (rule' : Rule) (hopen : d.current = some rule)
    (hrules : d'.rules = d.ended ++ [rule']) (hlines : rule'.lines = rule.lines ++ [d.nextLine])
    (hactions : rule'.actions = rule.actions ++ (said d.nextLine).toList)
    (hoddities : d'.oddities = d.oddities ++ ((said d.nextLine).bind fun a =>
      (oddity? rule.actions a).map (AtLine.mk d.nextLine)).toList) : d'.Explains said := by
  obtain ⟨hacts, hodds⟩ := h
  rw [rules_of_current hopen] at hacts hodds
  rw [List.forall_mem_append, List.forall_mem_singleton] at hacts
  have hat := Rule.actionsAt_of_lines_eq said hlines
  refine ⟨?_, ?_⟩
  · rw [hrules, List.forall_mem_append, List.forall_mem_singleton]
    refine ⟨hacts.1, ?_⟩
    rw [hat, List.map_append, hacts.2, hactions]
    cases said d.nextLine <;> rfl
  · have hrule : odditiesAt (rule'.actionsAt said) = odditiesAt (rule.actionsAt said) ++
        ((said d.nextLine).bind fun a =>
          (oddity? rule.actions a).map (AtLine.mk d.nextLine)).toList := by
      rw [hat]
      cases said d.nextLine with
      | none => simp
      | some a => rw [Option.map_some, Option.toList_some, odditiesAt_concat, hacts.2]; rfl
    rw [hrules, hoddities, hodds]
    simp only [List.flatMap_append, List.flatMap_singleton, hrule, List.append_assoc]

/-- The open rule grows by a line that says no action. -/
theorem grow_of_eq_none (h : d.Explains said) {rule : Rule} (rule' : Rule)
    (hopen : d.current = some rule) (hsaid : said d.nextLine = none)
    (hrules : d'.rules = d.ended ++ [rule']) (hlines : rule'.lines = rule.lines ++ [d.nextLine])
    (hactions : rule'.actions = rule.actions) (hoddities : d'.oddities = d.oddities) :
    d'.Explains said := by
  refine h.grow rule' hopen hrules hlines ?_ ?_
  · rw [hsaid, Option.toList_none, List.append_nil, hactions]
  · rw [hsaid, Option.bind_none, Option.toList_none, List.append_nil, hoddities]

/-- **The step**: an accepted line adds what it says to the open rule. -/
theorem apply (h : d.Explains said) {s : Statement} (hsaid : said d.nextLine = s.action?)
    (hopen : s.needsBlock = true → d.current.isSome = true) : (d.apply s).Explains said := by
  have hcurrent : s.needsBlock = true → ∃ rule, d.current = some rule := fun hs =>
    Option.isSome_iff_exists.mp (hopen hs)
  cases s with
  | blank => exact h.of_eq rfl rfl
  | comment => exact h.of_eq rfl rfl
  | block v =>
    have hopened : (Rule.opened v d.nextLine).actionsAt said = [] := by
      rw [Rule.actionsAt, Rule.opened, List.filterMap_cons, hsaid]
      rfl
    refine ⟨?_, ?_⟩
    · rw [rules_apply_block, List.forall_mem_append, List.forall_mem_singleton, hopened]
      exact ⟨h.actions, rfl⟩
    · rw [rules_apply_block, List.flatMap_append, List.flatMap_singleton, hopened]
      exact h.oddities.trans (List.append_nil _).symm
  | «continue» =>
    obtain ⟨rule, hrule⟩ := hcurrent rfl
    refine h.grow_of_eq_none (rule.continued d.nextLine) hrule hsaid ?_ rfl rfl rfl
    rw [rules_apply_continue, hrule, Option.map_some, Option.toList_some]
  | condition c =>
    obtain ⟨rule, hrule⟩ := hcurrent rfl
    refine h.grow_of_eq_none (rule.addCondition c d.nextLine) hrule hsaid ?_ rfl rfl rfl
    rw [rules_apply_condition, hrule, Option.map_some, Option.toList_some]
  | action a =>
    obtain ⟨rule, hrule⟩ := hcurrent rfl
    refine h.grow (rule.addAction a d.nextLine) hrule ?_ rfl ?_ ?_
    · rw [rules_apply_action, hrule, Option.map_some, Option.toList_some]
    · rw [hsaid]
      rfl
    · rw [hsaid, Draft.apply, hrule]
      rfl

end Explains

/-- The action that the next line says. -/
def action? (d : Draft) (line : Chars) : Option Action :=
  match readStatement d.current.isSome line with
  | .ok s => s.action?
  | .error _ => none

/-- **The rules of a run** have the actions that their lines say, and the oddities of the run are
those of these actions. -/
theorem explains_readAll {said : Nat → Option Action} {lines : List Chars}
    (h : ∀ n line, lines[n]? = some line →
      said n = (Draft.readAll {} (lines.take n)).action? line) :
    (Draft.readAll {} lines).Explains said := by
  induction lines using List.reverseRecOn with
  | nil => exact ⟨nofun, rfl⟩
  | append_singleton lines line ih =>
    have hbefore : (Draft.readAll {} lines).Explains said := by
      refine ih fun n l hl => ?_
      have hn : n < lines.length := (List.getElem?_eq_some_iff.mp hl).1
      rw [h n l (by rw [List.getElem?_append_left hn, hl]),
        List.take_append_of_le_length (Nat.le_of_lt hn)]
    have hlast : said (Draft.readAll {} lines).nextLine =
        (Draft.readAll {} lines).action? line := by
      rw [nextLine_readAll, h lines.length line List.getElem?_concat_length, List.take_left]
    rw [readAll_concat]
    cases hline : readStatement (Draft.readAll {} lines).current.isSome line with
    | ok s =>
      rw [action?, hline] at hlast
      rw [readLine_of_ok hline]
      exact hbefore.apply hlast (inBlock_of_needsBlock hline)
    | error problem =>
      rw [readLine_of_error hline]
      exact hbefore.of_eq rfl rfl

end Draft

/-! ### The compiled document -/

/-- The action that a line says in an open block. -/
def actionOf? (line : Chars) : Option Action :=
  match readStatement true line with
  | .ok s => s.action?
  | .error _ => none

theorem Draft.action?_eq (d : Draft) (line : Chars) :
    d.action? line = if d.kindOf line = .action then actionOf? line else none := by
  cases h : readStatement d.current.isSome line with
  | error problem => simp [action?, h, kindOf_of_error h]
  | ok s =>
    have hopen : s.needsBlock = true → readStatement true line = .ok s := fun hs =>
      inBlock_of_needsBlock h hs ▸ h
    cases s with
    | action a => simp [action?, h, kindOf_of_ok h, actionOf?, hopen rfl, Statement.kind]
    | _ => simp [action?, h, kindOf_of_ok h, Statement.kind, Statement.action?]

namespace Document

/-- The action that the line of the given number of a document says. -/
def actionAt? (d : Document) (lines : List Chars) (n : Nat) : Option Action :=
  if d.lineKinds[n]? = some .action then lines[n]?.bind actionOf? else none

/-- Both lines belong to one rule, and they say actions that clash. -/
def ClashAt (d : Document) (lines : List Chars) (m n : Nat) : Prop :=
  ∃ rule ∈ d.rules, m ∈ rule.lines ∧ n ∈ rule.lines ∧
    ∃ a b, d.actionAt? lines m = some a ∧ d.actionAt? lines n = some b ∧ a.Clash b

/-- **The oddities of a document are its overridden actions.** -/
structure ReportsOverridden (d : Document) (lines : List Chars) : Prop where
  pairwise_lt : (d.oddities.map AtLine.line).Pairwise (· < ·)
  /-- There is one for each line whose action clashes with an earlier one of its rule. -/
  mem_iff : ∀ w, w ∈ d.oddities ↔ ∃ a, d.actionAt? lines w.line = some a ∧
    (∃ m < w.line, d.ClashAt lines w.line m) ∧ w.what = a.oddity
  actions_eq : ∀ rule ∈ d.rules, rule.actions = rule.lines.filterMap (d.actionAt? lines)
  /-- A rule has as many as it has actions beyond one of each class. -/
  length_add_card : ∀ rule ∈ d.rules,
    (d.oddities.filter (·.line ∈ rule.lines)).length + (clashClasses rule.actions).card =
      rule.actions.length
  existsUnique_rule : ∀ n, d.lineKinds[n]? = some .action →
    ∃! i : Fin d.rules.length, n ∈ d.rules[i].lines
  /-- Actions of different rules never clash. -/
  not_clashAt : ∀ i j : Fin d.rules.length, i ≠ j →
    ∀ m ∈ d.rules[i].lines, ∀ n ∈ d.rules[j].lines, ¬ d.ClashAt lines m n

end Document

theorem explains_parse (text : Chars) :
    (∀ rule ∈ (parse text).rules,
      (rule.actionsAt ((parse text).actionAt? (Text.lines text))).map AtLine.what =
        rule.actions) ∧
    (parse text).oddities = (parse text).rules.flatMap fun rule =>
      odditiesAt (rule.actionsAt ((parse text).actionAt? (Text.lines text))) := by
  have h : (Draft.readAll {} ((Text.lines text).take (parse text).lineKinds.length)).Explains
      ((parse text).actionAt? (Text.lines text)) := by
    refine Draft.explains_readAll fun n line hline => ?_
    have hn : n < (parse text).lineKinds.length :=
      Nat.lt_of_lt_of_le (List.getElem?_eq_some_iff.mp hline).1 (List.length_take_le _ _)
    rw [List.getElem?_take_of_lt hn] at hline
    rw [Document.actionAt?, getElem?_lineKinds_parse hn, hline, List.take_take,
      Nat.min_eq_left (Nat.le_of_lt hn), Draft.action?_eq, Option.map_some, Option.bind_some]
    simp only [Option.some.injEq]
  have hfinish := parse_eq_finish text
  exact ⟨fun rule hrule => h.actions rule (by rwa [hfinish] at hrule),
    (congrArg Document.oddities hfinish).trans
      (h.oddities.trans (by rw [rules_parse]))⟩

/-- The oddities of a compiled document, apart from their lines, are those of its rules. -/
theorem map_what_oddities_parse (text : Chars) : (parse text).oddities.map AtLine.what =
    (parse text).rules.flatMap fun rule => oddities rule.actions := by
  obtain ⟨hactions, hoddities⟩ := explains_parse text
  rw [hoddities, List.map_flatMap]
  refine List.flatMap_congr fun rule hrule => ?_
  rw [odditiesAt, map_what_odditiesAtFrom, hactions rule hrule, oddities]

/-- Rules have no line in common. -/
theorem pairwise_disjoint_lines (text : Chars) :
    (parse text).rules.Pairwise fun r r' => r.lines.Disjoint r'.lines := by
  have hlt := (List.pairwise_flatMap.mp (parse_creditsLines text).pairwise_lt).2
  exact hlt.imp fun h n hn hn' => Nat.lt_irrefl n (h n hn n hn')

theorem pairwise_lines {text : Chars} {rule : Rule} (h : rule ∈ (parse text).rules) :
    rule.lines.Pairwise (· < ·) :=
  (List.pairwise_flatMap.mp (parse_creditsLines text).pairwise_lt).1 rule h

/-- What stands at the lines of one rule, if each rule has something at its own lines. -/
theorem filter_flatMap_lines {α : Type} {rules : List Rule} {f : Rule → List (AtLine α)}
    (hdisjoint : rules.Pairwise fun r r' => r.lines.Disjoint r'.lines)
    (hf : ∀ rule, ∀ w ∈ f rule, w.line ∈ rule.lines) {rule : Rule} (hrule : rule ∈ rules) :
    (rules.flatMap f).filter (·.line ∈ rule.lines) = f rule := by
  have hown : (f rule).filter (·.line ∈ rule.lines) = f rule :=
    List.filter_eq_self.mpr fun w hw => decide_eq_true (hf rule w hw)
  have hother : ∀ r, r.lines.Disjoint rule.lines →
      (f r).filter (·.line ∈ rule.lines) = [] := fun r hr =>
    List.filter_eq_nil_iff.mpr fun w hw h => hr (hf r w hw) (of_decide_eq_true h)
  induction rules with
  | nil => cases hrule
  | cons r rules ih =>
    rw [List.pairwise_cons] at hdisjoint
    rw [List.flatMap_cons, List.filter_append]
    rcases List.mem_cons.mp hrule with rfl | hmem
    · have hrest : (rules.flatMap f).filter (·.line ∈ rule.lines) = [] := by
        rw [List.filter_flatMap, List.flatMap_eq_nil_iff]
        exact fun r' hr' => hother r' (hdisjoint.1 r' hr').symm
      rw [hown, hrest, List.append_nil]
    · rw [hother r (hdisjoint.1 rule hmem), List.nil_append, ih hdisjoint.2 hmem]

theorem disjoint_lines_of_ne {text : Chars} {i j : Fin (parse text).rules.length} (h : i ≠ j) :
    (parse text).rules[i].lines.Disjoint (parse text).rules[j].lines := by
  have hdisjoint := List.pairwise_iff_getElem.mp (pairwise_disjoint_lines text)
  rcases Nat.lt_or_gt_of_ne (Fin.val_ne_of_ne h) with hlt | hgt
  · exact hdisjoint i j i.2 j.2 hlt
  · exact (hdisjoint j i j.2 i.2 hgt).symm

theorem map_line_odditiesAt_actionsAt_sublist (said : Nat → Option Action) (rule : Rule) :
    ((odditiesAt (rule.actionsAt said)).map AtLine.line).Sublist rule.lines :=
  (map_line_odditiesAt_sublist _).trans (rule.map_line_actionsAt_sublist said)

/-- **A line is odd** if its action clashes with an earlier one of its rule. -/
theorem mem_oddities_parse_iff {text : Chars} {w : AtLine Oddity} :
    w ∈ (parse text).oddities ↔
      ∃ a, (parse text).actionAt? (Text.lines text) w.line = some a ∧
        (∃ m < w.line, (parse text).ClashAt (Text.lines text) w.line m) ∧ w.what = a.oddity := by
  have hat : ∀ rule ∈ (parse text).rules, ∀ said, (w ∈ odditiesAt (rule.actionsAt said) ↔
      ∃ a, ⟨w.line, a⟩ ∈ rule.actionsAt said ∧
        (∃ y ∈ rule.actionsAt said, y.line < w.line ∧ a.Clash y.what) ∧ w.what = a.oddity) :=
    fun rule hrule said =>
      mem_odditiesAt_iff ((pairwise_lines hrule).sublist (rule.map_line_actionsAt_sublist said))
  rw [(explains_parse text).2, List.mem_flatMap]
  constructor
  · rintro ⟨rule, hrule, hw⟩
    obtain ⟨a, ha, ⟨y, hy, hlt, hclash⟩, hwhat⟩ := (hat rule hrule _).mp hw
    obtain ⟨hline, hsays⟩ := Rule.mem_actionsAt_iff.mp ha
    obtain ⟨hline', hsays'⟩ := Rule.mem_actionsAt_iff.mp hy
    exact ⟨a, hsays, ⟨y.line, hlt, rule, hrule, hline, hline', a, y.what, hsays, hsays', hclash⟩,
      hwhat⟩
  · rintro ⟨a, ha, ⟨m, hlt, rule, hrule, hline, hline', a', b, ha', hb, hclash⟩, hwhat⟩
    obtain rfl : a = a' := Option.some.inj (ha.symm.trans ha')
    refine ⟨rule, hrule, (hat rule hrule _).mpr ⟨a, ?_, ⟨⟨m, b⟩, ?_, hlt, hclash⟩, hwhat⟩⟩
    · exact Rule.mem_actionsAt_iff.mpr ⟨hline, ha⟩
    · exact Rule.mem_actionsAt_iff.mpr ⟨hline', hb⟩

/-- The oddities of one rule are all of its actions but one for each class. -/
theorem length_oddities_parse_add_card {text : Chars} {rule : Rule}
    (hrule : rule ∈ (parse text).rules) :
    ((parse text).oddities.filter (·.line ∈ rule.lines)).length +
      (clashClasses rule.actions).card = rule.actions.length := by
  obtain ⟨hactions, hoddities⟩ := explains_parse text
  have hcount :=
    length_odditiesAt_add_card (rule.actionsAt ((parse text).actionAt? (Text.lines text)))
  have hlength := congrArg List.length (hactions rule hrule)
  rw [List.length_map] at hlength
  rw [hactions rule hrule, hlength] at hcount
  rw [hoddities, filter_flatMap_lines (pairwise_disjoint_lines text) ?_ hrule, hcount]
  intro r w hw
  exact (map_line_odditiesAt_actionsAt_sublist _ r).subset (List.mem_map_of_mem hw)

theorem existsUnique_rule_parse {text : Chars} {n : Nat}
    (h : (parse text).lineKinds[n]? = some .action) :
    ∃! i : Fin (parse text).rules.length, n ∈ (parse text).rules[i].lines := by
  obtain ⟨hn, hkind⟩ := List.getElem?_eq_some_iff.mp h
  have hmem : n ∈ (parse text).rules.flatMap Rule.lines := by
    rw [flatMap_lines_parse, List.mem_findIdxs_iff_pos_getElem hn, hkind]
    rfl
  obtain ⟨rule, hrule, hline⟩ := List.mem_flatMap.mp hmem
  obtain ⟨i, hi, rfl⟩ := List.getElem_of_mem hrule
  refine ⟨⟨i, hi⟩, hline, fun j hj => ?_⟩
  by_contra hne
  exact disjoint_lines_of_ne hne hj hline

/-- **The oddities of a compiled document are its overridden actions**: in order, one for each line
whose action clashes with an earlier one of its rule, and none for any other line. -/
theorem parse_reportsOverridden (text : Chars) :
    (parse text).ReportsOverridden (Text.lines text) where
  pairwise_lt := by
    rw [(explains_parse text).2, List.map_flatMap]
    exact (parse_creditsLines text).pairwise_lt.sublist
      (List.Sublist.flatMap_right _ fun rule _ => map_line_odditiesAt_actionsAt_sublist _ rule)
  mem_iff := fun _ => mem_oddities_parse_iff
  actions_eq := by
    intro rule hrule
    rw [← (explains_parse text).1 rule hrule, Rule.actionsAt, List.map_filterMap]
    congr 1
    funext n
    cases h : (parse text).actionAt? (Text.lines text) n <;> simp
  length_add_card := fun _ => length_oddities_parse_add_card
  existsUnique_rule := fun _ => existsUnique_rule_parse
  not_clashAt := by
    rintro i j hij m hm n hn ⟨rule, hrule, hm', hn', -⟩
    obtain ⟨k, hk, rfl⟩ := List.getElem_of_mem hrule
    by_cases hki : (⟨k, hk⟩ : Fin _) = i
    · exact disjoint_lines_of_ne hij (hki ▸ hn') hn
    · exact disjoint_lines_of_ne hki hm' hm

example : (parse ("Show\nSetFontSize 40\nPlayAlertSound 1\nHide\nSetFontSize 32\n" ++
    "CustomAlertSound \"a.mp3\"\nSetFontSize\nPlayAlertSound 2\n").toList).oddities =
    [⟨7, .multipleSounds "PlayAlertSound"⟩] := by
  decide +kernel

end LootLedger.Filter
