import LootLedger.Filter.Arguments
import LootLedger.Filter.Condition

/-!
# Reading conditions

The arguments of each family of conditions.

## Main definitions

* `Filter.ConditionKind.read`: the condition that the arguments of a keyword give
-/

namespace LootLedger.Filter

open Text (Chars)

/-- A rarity that a filter can name. -/
def rarityName (token : Chars) : Except Problem Rarity :=
  match Rarity.ofFilterName? token with
  | some r => .ok r
  | none => .error (.invalidRarity (String.ofList token))

/-- An influence. -/
def influenceName (token : Chars) : Except Problem Influence :=
  match Influence.ofName? token with
  | some i => .ok i
  | none => .error (.invalidInfluence (String.ofList token))

/-- A sought socket group. -/
def socketSpec (token : Chars) : Except Problem SocketSpec :=
  match SocketSpec.parse? token with
  | some spec => .ok spec
  | none => .error (.invalidSocketSpec (String.ofList token))

/-- One rarity after an operator, or any number of rarities without one. -/
def readRarity (keyword : String) (arguments : Chars) : Except Problem Condition :=
  match leadingOperator (detachOperator (Text.words arguments)) with
  | (_, []) => .error (.unexpectedEndOfLine keyword)
  | (some op, [value]) => return .rarity op (← rarityName value)
  | (some _, values) => .error (.argumentCount keyword .rarityAfterOperator (values.length + 1))
  | (none, values) => return .rarityIn (← values.mapM rarityName)

/-- Sought socket groups; without an operator the counts are lower bounds. -/
def readSockets (keyword : String) (mode : SocketMode) (arguments : Chars) :
    Except Problem Condition := do
  let (op, tokens) := leadingOperator (detachOperator (← quotedTokens arguments))
  if tokens = [] then throw (.unexpectedEndOfLine keyword)
  return .sockets mode (op.getD .equal) (← tokens.mapM socketSpec)

/-- Mods, after an operator and a number of them; without these at least one mod is sought. -/
def readExplicitMods (keyword : String) (arguments : Chars) : Except Problem Condition := do
  match leadingOperator (detachOperator (← quotedTokens arguments)) with
  | (_, []) => throw (.unexpectedEndOfLine keyword)
  | (none, mods) => return .explicitMods .greater 0 (mods.map String.ofList)
  | (some op, threshold :: mods) =>
    let threshold ← number threshold
    if mods = [] then throw (.unexpectedEndOfLine keyword)
    return .explicitMods op threshold (mods.map String.ofList)

/-- Influences, all of which are sought after a double equals sign, or the word for none. An
operator here is a token of its own. -/
def readInfluence (keyword : String) (arguments : Chars) : Except Problem Condition := do
  let (op, tokens) := leadingOperator (← quotedTokens arguments)
  let names := do
    let influences ← tokens.mapM influenceName
    return Condition.influence (if op = some .exactEqual then .all else .any) influences
  match tokens with
  | [] => throw (.unexpectedEndOfLine keyword)
  | [token] =>
    if Text.equalIgnoringCase token "none".toList then return .influence .none [] else names
  | _ => names

/-- The condition that the arguments of a keyword give. -/
def ConditionKind.read (kind : ConditionKind) (arguments : Chars) : Except Problem Condition :=
  match kind with
  | .numeric field => do
    let (op, value) ← operatorAndNumber kind.keyword arguments
    return .numeric field op value
  | .text field => do
    let (exact, values) ← textList kind.keyword arguments
    return .text field exact values
  | .flag field => return .flag field (← boolean kind.keyword arguments)
  | .areaLevel => do
    let (op, value) ← operatorAndNumber kind.keyword arguments
    return .areaLevel op value
  | .rarity => readRarity kind.keyword arguments
  | .prophecy => do
    let (exact, values) ← textList kind.keyword arguments
    return .prophecy exact values
  | .sockets mode => readSockets kind.keyword mode arguments
  | .explicitMods => readExplicitMods kind.keyword arguments
  | .influence => readInfluence kind.keyword arguments

end LootLedger.Filter
