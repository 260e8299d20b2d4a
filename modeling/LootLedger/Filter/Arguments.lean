import LootLedger.Filter.Line
import LootLedger.Filter.Problem
import LootLedger.Text.Number

/-!
# Arguments of keywords

Readers shared by conditions and actions. Each takes the text after a keyword, or its tokens, and
gives a value or the problem with it.

## Main definitions

* `Filter.quotedTokens`, `Filter.leadingOperator`
* `Filter.number`, `Filter.operatorAndNumber`, `Filter.textList`, `Filter.boolean`
-/

namespace LootLedger.Filter

open Text (Chars)

/-- A 32-bit number. -/
def number (token : Chars) : Except Problem UInt32 :=
  match Text.readNat? Text.max32 token with
  | some n => .ok (UInt32.ofNat n)
  | none => .error (.invalidNumber (String.ofList token))

/-- The tokens of arguments that may be quoted. -/
def quotedTokens (arguments : Chars) : Except Problem (List Chars) :=
  let split := splitQuoted arguments
  if split.unterminated then .error .unterminatedString else .ok split.tokens

/-- An operator in front of some tokens, and the tokens after it. -/
def leadingOperator : List Chars → Option Comparison × List Chars
  | [] => (none, [])
  | token :: tokens =>
    match Comparison.ofSymbol? token with
    | some op => (some op, tokens)
    | none => (none, token :: tokens)

/-- A number with an operator before it. Without an operator the two must be equal. -/
def operatorAndNumber (keyword : String) (arguments : Chars) :
    Except Problem (Comparison × UInt32) :=
  match detachOperator (Text.words arguments) with
  | [] => .error (.unexpectedEndOfLine keyword)
  | [value] =>
    if (Comparison.ofSymbol? value).isSome then .error (.unexpectedEndOfLine keyword)
    else return (.equal, ← number value)
  | [symbol, value] =>
    match Comparison.ofSymbol? symbol with
    | some op => return (op, ← number value)
    | none => .error (.invalidOperator (String.ofList symbol))
  | tokens => .error (.argumentCount keyword .operatorAndValue tokens.length)

/-- Texts, whole texts if a double equals sign stands before them. -/
def textList (keyword : String) (arguments : Chars) : Except Problem (Bool × List String) := do
  let (op, values) := leadingOperator (detachOperator (← quotedTokens arguments))
  let exact ← match op with
    | none | some .equal => pure false
    | some .exactEqual => pure true
    | some op => throw (.invalidOperator op.symbol)
  if values = [] then throw (.unexpectedEndOfLine keyword)
  return (exact, values.map String.ofList)

/-- A truth value, with an equals sign before it or not. -/
def boolean (keyword : String) (arguments : Chars) : Except Problem Bool := do
  let (op, values) := leadingOperator (detachOperator (Text.words arguments))
  match op with
  | none | some .equal | some .exactEqual => pure ()
  | some op => throw (.invalidOperator op.symbol)
  match values with
  | [] => throw (.unexpectedEndOfLine keyword)
  | [value] =>
    if Text.equalIgnoringCase value "true".toList then return true
    else if Text.equalIgnoringCase value "false".toList then return false
    else throw (.invalidBoolean (String.ofList value))
  | _ => throw (.argumentCount keyword .boolean values.length)

/-- One of the allowed texts. -/
def oneOf (keyword : String) (allowed : List String) (token : Chars) : Except Problem String :=
  match allowed.find? fun s => s.toList = token with
  | some s => .ok s
  | none => .error (.invalidArgument keyword (String.ofList token))

end LootLedger.Filter
