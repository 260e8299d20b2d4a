import LootLedger.Calendar.Instant
import LootLedger.Cli.Options

/-!
# Commands

What a command line asks for. Four options are understood by every command and may stand before
or after its name.

## Main definitions

* `Cli.Flags`, `Cli.Command`
* `Cli.readCommandLine`: the command that the words of a command line name
-/

namespace LootLedger.Cli

/-- Options of every command. -/
structure Flags where
  verbose : Bool := false
  quiet : Bool := false
  json : Bool := false
  noColor : Bool := false
  deriving DecidableEq, Repr

/-- A shell that command lines can be completed in. -/
inductive Shell
  | bash
  | zsh
  | fish
  | powershell
  deriving DecidableEq, Repr

namespace Shell

/-- All shells. -/
def all : List Shell := [.bash, .zsh, .fish, .powershell]

/-- The name of a shell. -/
def name : Shell → String
  | .bash => "bash"
  | .zsh => "zsh"
  | .fish => "fish"
  | .powershell => "powershell"

/-- The shell with the given name. -/
def ofName? (name : String) : Option Shell :=
  all.find? fun s => s.name = name

end Shell

/-- How items are to be matched. -/
structure MatchOptions where
  items : String
  areaLevel : Nat
  /-- A filter document, instead of a saved one. -/
  filter : Option String := none
  profile : Option String := none
  /-- When the saved filter has to be in effect. -/
  at_ : Option Instant := none
  /-- Only shown items are listed. -/
  shownOnly : Bool := false
  deriving DecidableEq

/-- What is to be done. -/
inductive Command
  | overview
  | check (file : String)
  | matchItems (options : MatchOptions)
  | category (items : String) (wantsSubcategory : Bool)
  | price (items : String) (date : Option Date)
  | fetchRates (league : Option String) (date : Option Date)
  | listRates
  | saveFilter (file : String) (profile : Option String) (force : Bool)
  | listFilters (profile : Option String)
  | showSettings
  | changeSetting (name value : String)
  | settingsPath
  | completions (shell : Shell)
  deriving DecidableEq

/-- The command does its work on its arguments alone, so it works without readable settings. -/
def Command.isStandalone : Command → Bool
  | .overview | .check _ | .category _ _ | .showSettings | .changeSetting _ _ | .settingsPath
  | .completions _ => true
  | .matchItems _ | .price _ _ | .fetchRates _ _ | .listRates | .saveFilter _ _ _
  | .listFilters _ => false

/-! ### Values of arguments -/

/-- Takes any text. -/
def anyText (_ : String) : Bool := true

/-- Takes any path. -/
def anyPath (s : String) : Bool := s != ""

/-- The level of an area. A minus sign is read, but no level is below zero. -/
def areaLevel? (s : String) : Option Nat :=
  match s.toList with
  | '-' :: digits => (Text.readDigits? digits).filter (· = 0)
  | numeral => Text.readNat? Text.max32 numeral

/-- A date. -/
def date? (s : String) : Option Date :=
  Date.parse? s.toList

/-- A point in time. -/
def instant? (s : String) : Option Instant :=
  Instant.parse? s.toList

/-- Takes the values that can be read. -/
def readable (read : String → Option α) (s : String) : Bool :=
  (read s).isSome

/-! ### Rules -/

/-- The options of every command. -/
def flagRules : List OptionRule :=
  [{ name := "verbose", letter := 'v' }, { name := "quiet", letter := 'q' }, { name := "json" },
    { name := "no-color" }]

/-- A command with options of its own. -/
def ruleOf (options : List OptionRule) (operands : List (String → Bool)) : CommandRule :=
  { options := options ++ flagRules, operands }

/-- A command that only takes the name of a subcommand. -/
def groupOf (subcommands : List String) : CommandRule :=
  { options := flagRules, subcommands := subcommands ++ ["help"] }

/-- An option with a value. -/
def valueOption (name : String) (letter : Option Char) (accepts : String → Bool) : OptionRule :=
  { name, letter, accepts }

/-- The program itself. -/
def programRule : CommandRule :=
  groupOf ["check", "c", "match", "m", "category", "price", "p", "rates", "filters", "config",
    "completions"]

/-- The rule of `rates`. -/
def ratesRule : CommandRule :=
  groupOf ["fetch", "list"]

/-- The rule of `filters`. -/
def filtersRule : CommandRule :=
  groupOf ["save", "list"]

/-- The rule of `config`. -/
def configRule : CommandRule :=
  groupOf ["show", "set", "path"]

/-- The name of the command that a name stands for. -/
def fullName : String → String
  | "c" => "check"
  | "m" => "match"
  | "p" => "price"
  | name => name

/-- The subcommands of the command with a name. -/
def subcommandsOf : String → List String
  | "rates" => ratesRule.subcommands
  | "filters" => filtersRule.subcommands
  | "config" => configRule.subcommands
  | _ => []

/-- Words that name one of the given commands, then a subcommand of it, and so on. -/
def nameCommand (commands : List String) : List String → Bool
  | [] => true
  | word :: rest => commands.contains word && nameCommand (subcommandsOf word) rest

/-- The rule of `match`. -/
def matchRule : CommandRule :=
  ruleOf
    [valueOption "area-level" 'a' (readable areaLevel?), valueOption "filter" 'f' anyPath,
      valueOption "profile" 'p' anyText, valueOption "at" none (readable instant?),
      { name := "shown" }]
    [anyPath]

/-- The flags that are given. -/
def flagsOf (given : Given) : Flags :=
  { verbose := given.has "verbose", quiet := given.has "quiet", json := given.has "json"
    noColor := given.has "no-color" }

/-- Flags that are given at either of two places. -/
def Flags.or (a b : Flags) : Flags :=
  { verbose := a.verbose || b.verbose, quiet := a.quiet || b.quiet, json := a.json || b.json
    noColor := a.noColor || b.noColor }

/-- Two options that are not given together. -/
def exclude (given : Given) (a b : String) : Except Refusal Unit :=
  if given.has a ∧ given.has b then .error .usage else .ok ()

/-- A value that must be there. -/
def need (a : Option α) : Except Refusal α :=
  match a with
  | some a => .ok a
  | none => .error .usage

/-! ### Reading -/

/-- The command that words after the name of a command ask for, and the flags among them. -/
abbrev Read := Except Refusal (Flags × Command)

/-- Reads a command by its rule. -/
def readBy (rule : CommandRule) (words : List String)
    (command : Given → Except Refusal Command) : Read := do
  let given ← rule.read words
  exclude given "quiet" "verbose"
  return (flagsOf given, ← command given)

/-- Reads a command and then the subcommand that it is given, if it is given one. -/
def readGroup (rule : CommandRule) (words : List String) (absent : Except Refusal Command)
    (subcommand : String → List String → Read) : Read := do
  let given ← rule.read words
  match given.subcommand with
  | none =>
    exclude given "quiet" "verbose"
    return (flagsOf given, ← absent)
  | some (name, rest) =>
    if name = "help" then
      if nameCommand rule.subcommands rest then .error .help else .error .usage
    else
      let name := fullName name
      let (flags, command) ← (subcommand name rest).mapError (Refusal.within name)
      exclude given "quiet" "verbose"
      return ((flagsOf given).or flags, command)

/-- The operand at a position. -/
def operand (given : Given) (i : Nat) : Except Refusal String :=
  need given.operands[i]?

/-- Reads `match`. -/
def readMatch (words : List String) : Read :=
  readBy matchRule words fun given => do
    exclude given "filter" "profile"
    exclude given "filter" "at"
    return .matchItems {
      items := ← operand given 0
      areaLevel := ← need ((given.value? "area-level").bind areaLevel?)
      filter := given.value? "filter"
      profile := given.value? "profile"
      at_ := (given.value? "at").bind instant?
      shownOnly := given.has "shown" }

/-- Reads a subcommand of `rates`. -/
def readRates (name : String) (words : List String) : Read :=
  if name = "fetch" then
    let rule := ruleOf
      [valueOption "league" 'l' anyText, valueOption "date" 'd' (readable date?)] []
    readBy rule words fun given =>
      .ok (.fetchRates (given.value? "league") ((given.value? "date").bind date?))
  else readBy (ruleOf [] []) words fun _ => .ok .listRates

/-- Reads a subcommand of `filters`. -/
def readFilters (name : String) (words : List String) : Read :=
  let profile := valueOption "profile" 'p' anyText
  if name = "save" then
    readBy (ruleOf [profile, { name := "force" }] [anyPath]) words fun given => do
      return .saveFilter (← operand given 0) (given.value? "profile") (given.has "force")
  else readBy (ruleOf [profile] []) words fun given => .ok (.listFilters (given.value? "profile"))

/-- Reads a subcommand of `config`. -/
def readConfig (name : String) (words : List String) : Read :=
  if name = "set" then
    readBy (ruleOf [] [anyText, anyText]) words fun given => do
      return .changeSetting (← operand given 0) (← operand given 1)
  else if name = "path" then readBy (ruleOf [] []) words fun _ => .ok .settingsPath
  else readBy (ruleOf [] []) words fun _ => .ok .showSettings

/-- Reads a command after its name. -/
def readNamed (name : String) (words : List String) : Read :=
  if name = "check" then
    readBy (ruleOf [] [anyPath]) words fun given => do return .check (← operand given 0)
  else if name = "match" then readMatch words
  else if name = "category" then
    readBy (ruleOf [{ name := "sub", letter := 's' }] [anyPath]) words fun given => do
      return .category (← operand given 0) (given.has "sub")
  else if name = "price" then
    readBy (ruleOf [valueOption "date" 'd' (readable date?)] [anyPath]) words fun given => do
      return .price (← operand given 0) ((given.value? "date").bind date?)
  else if name = "rates" then
    readGroup ratesRule words (.error .usage) readRates
  else if name = "filters" then
    readGroup filtersRule words (.error .usage) readFilters
  else if name = "config" then
    readGroup configRule words (.ok .showSettings) readConfig
  else
    readBy (ruleOf [] [readable Shell.ofName?]) words fun given => do
      return .completions (← need ((given.operands[0]?).bind Shell.ofName?))

/-- The command that the words of a command line name. -/
def readCommandLine (words : List String) : Read :=
  readGroup programRule words (.ok .overview) readNamed

end LootLedger.Cli
