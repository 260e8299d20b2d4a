import LootLedger.Text.Split

/-!
# Comparison operators

The six operators of the filter language. A single and a double equals sign compare numbers alike
and differ only on texts, sockets and influences, where the double sign asks for more.

## Main definitions

* `Filter.Comparison`, `Filter.Comparison.holds`
* `Filter.Comparison.ofSymbol?`, `Filter.Comparison.split?`: operators at the start of a token
-/

namespace LootLedger.Filter

open Text (Chars)

/-- A comparison operator. -/
inductive Comparison
  | less
  | lessEqual
  | equal
  | exactEqual
  | greaterEqual
  | greater
  deriving DecidableEq, Repr

namespace Comparison

/-- All operators, each before any operator that its symbol starts with. -/
def all : List Comparison :=
  [lessEqual, greaterEqual, exactEqual, greater, less, equal]

/-- The operator as written. -/
def symbol : Comparison → String
  | less => "<"
  | lessEqual => "<="
  | equal => "="
  | exactEqual => "=="
  | greaterEqual => ">="
  | greater => ">"

/-- The operator that a token is. -/
def ofSymbol? (token : Chars) : Option Comparison :=
  all.find? fun op => op.symbol.toList = token

/-- The comparison of two numbers. -/
def holds (op : Comparison) (lhs rhs : Nat) : Bool :=
  match op with
  | less => lhs < rhs
  | lessEqual => lhs ≤ rhs
  | equal | exactEqual => lhs = rhs
  | greaterEqual => rhs ≤ lhs
  | greater => rhs < lhs

/-- The longest operator at the start of a token, and what follows it. -/
def split? (token : Chars) : Option (Comparison × Chars) :=
  all.findSome? fun op => (Text.dropPrefix? op.symbol.toList token).map (op, ·)

theorem ofSymbol?_symbol (op : Comparison) : ofSymbol? op.symbol.toList = some op := by
  cases op <;> decide

end Comparison

end LootLedger.Filter
