import LootLedger.Filter.Action
import LootLedger.Filter.Condition

/-!
# Rules

A rule is one `Show` or `Hide` block of a filter document: its conditions, its actions, whether
evaluation goes on after it, and the lines it was read from.

## Main definitions

* `Filter.Visibility`, `Filter.Rule`
-/

namespace LootLedger.Filter

/-- Whether a matching item is shown. -/
inductive Visibility
  | display
  | conceal
  deriving DecidableEq, Repr

/-- The keyword that opens a block. -/
def Visibility.keyword : Visibility → String
  | .display => "Show"
  | .conceal => "Hide"

/-- A block of a filter document. -/
structure Rule where
  visibility : Visibility
  /-- Later rules are tried even if this one matches. -/
  continues : Bool := false
  conditions : List Condition := []
  actions : List Action := []
  /-- The lines that make up the block, counted from zero. The first is the opening line. -/
  lines : List Nat
  deriving DecidableEq, Repr

namespace Rule

/-- The rule shows what it matches. -/
def isShown (rule : Rule) : Bool :=
  rule.visibility = .display

/-- A rule just opened on a line. -/
def opened (visibility : Visibility) (line : Nat) : Rule :=
  { visibility, lines := [line] }

/-- The rule with one more condition. -/
def addCondition (rule : Rule) (c : Condition) (line : Nat) : Rule :=
  { rule with conditions := rule.conditions ++ [c], lines := rule.lines ++ [line] }

/-- The rule with one more action. -/
def addAction (rule : Rule) (a : Action) (line : Nat) : Rule :=
  { rule with actions := rule.actions ++ [a], lines := rule.lines ++ [line] }

/-- The rule ended by a line that lets evaluation go on. -/
def continued (rule : Rule) (line : Nat) : Rule :=
  { rule with continues := true, lines := rule.lines ++ [line] }

end Rule

end LootLedger.Filter
