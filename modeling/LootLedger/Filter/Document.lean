import LootLedger.Filter.Action.Reader
import LootLedger.Filter.Condition.Reader
import LootLedger.Filter.Rule
import LootLedger.Selection
import LootLedger.Text.EditDistance

/-!
# Filter documents

A filter document compiles line by line into rules. What a line says depends on the lines before
it in one point only: whether a block is open. A line that is refused changes nothing but the
list of problems, so one bad line never spoils its neighbours. A text with more than a hundred
bad lines is no filter; reading stops there.

## Main definitions

* `Filter.Statement`, `Filter.readStatement`: what one line says
* `Filter.Draft`, `Filter.Draft.readLine`: the document so far, and one more line
* `Filter.Document`, `Filter.parse`: a compiled document
-/

namespace LootLedger.Filter

open Text (Chars)

/-! ### Keywords -/

/-- The words that open or end a block. -/
def blockKeywords : List String :=
  [Visibility.display.keyword, Visibility.conceal.keyword, "Continue"]

/-- Every keyword of the language. -/
def keywords : List String :=
  conditionKeywords ++ actionKeywords ++ blockKeywords

/-- How many edits a suggestion may be away. -/
def maxSuggestionDistance : Nat := 3

/-- The keyword that was probably meant: the first of those at the least distance, if the word is
near it and not the keyword itself. -/
def suggestion? (word : Chars) : Option String := do
  let (keyword, distance) ←
    firstLeast (·.2) (keywords.map fun k => (k, Text.editDistance word k.toList))
  if 0 < distance ∧ distance ≤ maxSuggestionDistance then some keyword else none

/-! ### Statements -/

/-- What an accepted line says. -/
inductive Statement
  | blank
  | comment
  | block (visibility : Visibility)
  /-- Ends the open block and lets evaluation go on after it. -/
  | continue
  | condition (c : Condition)
  | action (a : Action)
  deriving DecidableEq, Repr

/-- A line that takes no arguments. -/
def readBareLine (keyword : String) (arguments : Chars) (statement : Statement) :
    Except Problem Statement :=
  match Text.words arguments with
  | [] => .ok statement
  | tokens => .error (.argumentCount keyword .nothing tokens.length)

/-- What a keyword with its arguments says, in a block or outside one. -/
def readCode (inBlock : Bool) (keyword arguments : Chars) : Except Problem Statement :=
  if keyword = Visibility.display.keyword.toList then
    readBareLine Visibility.display.keyword arguments (.block .display)
  else if keyword = Visibility.conceal.keyword.toList then
    readBareLine Visibility.conceal.keyword arguments (.block .conceal)
  else if keyword = "Continue".toList then do
    let statement ← readBareLine "Continue" arguments .continue
    if inBlock then return statement else throw .continueOutsideRule
  else
    match ConditionKind.ofKeyword? keyword with
    | some kind =>
      if inBlock then return .condition (← kind.read arguments)
      else .error (.noOpenRule kind.keyword)
    | none =>
      match ActionKind.ofKeyword? keyword with
      | some kind =>
        if inBlock then return .action (← kind.read arguments)
        else .error (.noOpenRule kind.keyword)
      | none => .error (.unknownKeyword (String.ofList keyword) (suggestion? keyword))

/-- What a line says, in a block or outside one. -/
def readStatement (inBlock : Bool) (line : Chars) : Except Problem Statement :=
  match shapeOf line with
  | .blank => .ok .blank
  | .comment => .ok .comment
  | .code keyword arguments => readCode inBlock keyword arguments

/-- The kind of a line. -/
inductive LineKind
  | empty
  | comment
  /-- A line that opens or ends a block. -/
  | visibility
  | condition
  | action
  | error
  deriving DecidableEq, Repr

/-- The kind of a line that says something. -/
def Statement.kind : Statement → LineKind
  | .blank => .empty
  | .comment => .comment
  | .block _ => .visibility
  | .continue => .visibility
  | .condition _ => .condition
  | .action _ => .action

/-! ### Documents -/

/-- A compiled document. -/
structure Document where
  rules : List Rule
  problems : List (AtLine Problem)
  oddities : List (AtLine Oddity)
  /-- One entry per line that was read. -/
  lineKinds : List LineKind
  /-- Reading stopped early. -/
  aborted : Bool
  deriving DecidableEq, Repr

/-- No line was refused. -/
def Document.isClean (d : Document) : Bool :=
  d.problems.isEmpty

/-- The document read so far: ended rules, and the rule whose block is open. -/
structure Draft where
  ended : List Rule := []
  current : Option Rule := none
  problems : List (AtLine Problem) := []
  oddities : List (AtLine Oddity) := []
  lineKinds : List LineKind := []
  deriving DecidableEq, Repr

namespace Draft

/-- All rules, the open one last. -/
def rules (d : Draft) : List Rule :=
  d.ended ++ d.current.toList

/-- The number of the next line. -/
def nextLine (d : Draft) : Nat :=
  d.lineKinds.length

/-- The oddity of an action in the open rule: it clashes with an earlier one. -/
def oddity? (actions : List Action) (a : Action) : Option Oddity :=
  if actions.any a.clashes then
    some (if a.isSound then .multipleSounds a.keyword else .duplicateAction a.keyword)
  else none

/-- The draft after the next line says something. -/
def apply (d : Draft) (statement : Statement) : Draft :=
  let d' := { d with lineKinds := d.lineKinds ++ [statement.kind] }
  match statement with
  | .blank | .comment => d'
  | .block visibility =>
    { d' with ended := d.rules, current := some (.opened visibility d.nextLine) }
  | .continue =>
    { d' with
      ended := d.ended ++ (d.current.map (·.continued d.nextLine)).toList
      current := none }
  | .condition c => { d' with current := d.current.map (·.addCondition c d.nextLine) }
  | .action a =>
    let oddity := d.current.bind fun rule => oddity? rule.actions a
    { d' with
      current := d.current.map (·.addAction a d.nextLine)
      oddities := d.oddities ++ (oddity.map (AtLine.mk d.nextLine)).toList }

/-- The draft after the next line is refused. -/
def refuse (d : Draft) (problem : Problem) : Draft :=
  { d with
    problems := d.problems ++ [⟨d.nextLine, problem⟩]
    lineKinds := d.lineKinds ++ [.error] }

/-- The draft after one more line. -/
def readLine (d : Draft) (line : Chars) : Draft :=
  match readStatement d.current.isSome line with
  | .ok statement => d.apply statement
  | .error problem => d.refuse problem

/-- The finished document. -/
def finish (d : Draft) (aborted : Bool) : Document :=
  { rules := d.rules
    problems := d.problems
    oddities := d.oddities
    lineKinds := d.lineKinds
    aborted }

end Draft

/-- How many refused lines a document may have before it is taken for something else. -/
def maxProblems : Nat := 100

/-- The document after more lines. -/
def readLines (d : Draft) : List Chars → Document
  | [] => d.finish false
  | line :: lines =>
    let d := d.readLine line
    if maxProblems < d.problems.length then d.finish true else readLines d lines

/-- The compiled document of a text. -/
def parse (text : Chars) : Document :=
  readLines {} (Text.lines text)

end LootLedger.Filter
