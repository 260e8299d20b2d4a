import LootLedger.Text.Alphanumeric
import LootLedger.Text.Number
import LootLedger.Text.Split

/-!
# Levels and directives of a log

How much an event matters, and from which level on events are shown. A directive is about all
events or about some of them, which it names by the part of the program that they come from, by
the values that they have, or by the span of work that they belong to.

## Main definitions

* `Cli.Level`
* `Cli.Directive`, `Cli.directives?`
-/

namespace LootLedger.Cli

open Text (Chars)

/-! ### Levels -/

/-- How much an event matters, the most important first. -/
inductive Level
  | error
  | warn
  | info
  | debug
  | trace
  deriving DecidableEq, Repr

namespace Level

/-- The position of a level, the most important first. -/
def rank : Level → Nat
  | .error => 1
  | .warn => 2
  | .info => 3
  | .debug => 4
  | .trace => 5

/-- The name of a level. -/
def name : Level → String
  | .error => "ERROR"
  | .warn => "WARN"
  | .info => "INFO"
  | .debug => "DEBUG"
  | .trace => "TRACE"

/-- The colour that the name of a level is shown in. -/
def colourCode : Level → String
  | .error => "31"
  | .warn => "33"
  | .info => "32"
  | .debug => "34"
  | .trace => "35"

/-- All levels. -/
def all : List Level := [.error, .warn, .info, .debug, .trace]

end Level

/-! ### Directives -/

/-- From which level on some events are shown. -/
structure Directive where
  /-- The start of the names of the parts of the program that are meant, empty for all. -/
  target : Chars := []
  /-- The names of values that an event must have. -/
  fields : List Chars := []
  /-- Only work that was given a name is meant. The program names none. -/
  inSpan : Bool := false
  /-- The greatest rank of the levels that are shown. -/
  greatestRank : Nat := Level.trace.rank
  deriving DecidableEq, Repr

/-- The greatest rank of the levels that are shown at a threshold, which is given by name in any
case or by number. -/
def threshold? (s : Chars) : Option Nat :=
  match Text.readNat? 5 s with
  | some n => some n
  | none =>
    if Text.equalIgnoringCase s "off".toList then some 0
    else (Level.all.find? fun l => Text.equalIgnoringCase s l.name.toList).map Level.rank

/-- The rank that an equals sign and a threshold name, and the greatest one without them or
without a threshold. -/
def rankAfter? : Chars → Option Nat
  | [] | ['='] => some Level.trace.rank
  | '=' :: threshold => threshold? threshold
  | _ => none

/-- The directive of a name with a scope, which is given from its opening bracket on: the name of a
span of work, a value that an event must have, or both. -/
def scoped? (target scope : Chars) : Option Directive := do
  let isEnd := fun c : Char => c == ']' || c == '{'
  match scope.dropWhile fun c => !isEnd c with
  | ']' :: rest => return { target, inSpan := true, greatestRank := ← rankAfter? rest }
  | '{' :: rest =>
    let field := rest.takeWhile (· != '}')
    let span := scope.takeWhile fun c => !isEnd c
    let rank ← rankAfter? (← Text.dropPrefix? ['}', ']'] (rest.drop field.length))
    if field = [] then none
    else
      return {
        target, fields := [field], inSpan := span ≠ [] || field.contains '='
        greatestRank := rank }
  | _ => none

/-- The directive of a name without a scope. A name that is a threshold is one for all parts. -/
def named? (s : Chars) : Option Directive :=
  match s.dropWhile (· != '=') with
  | [] =>
    match threshold? s with
    | some rank => some { greatestRank := rank }
    | none => some { target := s }
  | rest =>
    if s.head?.any Text.isBlank then none
    else (rankAfter? rest).map fun rank =>
      { target := s.takeWhile (· != '='), greatestRank := rank }

/-- The directive that a text spells: a threshold for all parts, or one for some of them, perhaps
with a scope in brackets. A part without a threshold is shown completely. Blanks are not taken off
the name or the threshold that they touch: with one at the start, a threshold after an equals sign
makes no sense, and a scope is one that nothing has. -/
def directive? (s : Chars) : Option Directive :=
  let body := Text.trim s
  let isNameStart := fun c => Text.isAlphanumeric c || c == '-' || c == ':' || c == '_'
  let name := body.takeWhile fun c => c != '=' && c != '['
  if !body.head?.any fun c => isNameStart c || c == '[' then none
  else
    match body.drop name.length with
    | '[' :: scope =>
      if body = s ∨ body.getLast? = some ']' then
        (scoped? name scope).map fun d =>
          if s.head?.any Text.isBlank then { d with inSpan := true } else d
      else none
    | _ => named? s

/-- The directives that a text spells, separated by commas. Without directives, errors are
shown. -/
def directives? (s : Chars) : Option (List Directive) := do
  let directives ← ((Text.splitAtChar ',' s).filter (· ≠ [])).mapM directive?
  if directives = [] then return [{ greatestRank := Level.error.rank }]
  else return directives

end LootLedger.Cli
