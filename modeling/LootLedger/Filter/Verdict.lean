import LootLedger.Filter.Matching
import LootLedger.Filter.Rule

/-!
# Verdicts

What a list of rules decides about an item. Rules are tried in order. A matching rule that
continues adds its style and lets evaluation go on; the first matching rule that does not
continue ends it. If only continuing rules match, the last of them decides.

## Main definitions

* `Filter.Rule.matches`
* `Filter.Verdict`, `Filter.verdict?`
* `Filter.shownItems`
-/

namespace LootLedger.Filter

/-- The item meets every condition of the rule. -/
def Rule.matches (rule : Rule) (areaLevel : Nat) (item : Item) : Bool :=
  rule.conditions.all fun c => c.matches areaLevel item

/-- The decision of a rule list on an item. -/
structure Verdict where
  /-- The position of the deciding rule. -/
  index : Nat
  rule : Rule
  /-- What the matching rules up to the deciding one have made of the style. -/
  style : Style
  deriving DecidableEq, Repr

/-- The item is shown. -/
def Verdict.isShown (v : Verdict) : Bool :=
  v.rule.isShown

/-- The verdict of the rules from position `index` on, when the rules before have led to
`style`, and the last of them that matched gives the verdict `last` by itself. -/
def verdictFrom? (areaLevel : Nat) (item : Item) (index : Nat) (style : Style)
    (last : Option Verdict) : List Rule → Option Verdict
  | [] => last
  | rule :: rules =>
    if rule.matches areaLevel item then
      let style := style.apply rule.actions
      let here : Verdict := { index, rule, style }
      if rule.continues then verdictFrom? areaLevel item (index + 1) style (some here) rules
      else some here
    else verdictFrom? areaLevel item (index + 1) style last rules

/-- The verdict of a rule list on an item in an area of the given level. -/
def verdict? (rules : List Rule) (areaLevel : Nat) (item : Item) : Option Verdict :=
  verdictFrom? areaLevel item 0 {} none rules

/-- The items that a rule list shows. -/
def shownItems (rules : List Rule) (areaLevel : Nat) (items : List Item) : List Item :=
  items.filter fun item => (verdict? rules areaLevel item).any Verdict.isShown

end LootLedger.Filter
