import LootLedger.Text.Number
import LootLedger.Text.Split

/-!
# Options on a command line

The words of a command line are options, operands or the name of a subcommand. An option has a
long name after two dashes, and some have a letter after one dash; letters may be joined. The
value of an option is attached to it or is the next word, which then must not look like an
option. Two dashes by themselves end the options.

Words are read from left to right, and the first one that makes no sense decides. What a
subcommand makes of the words after its name is its own affair.

## Main definitions

* `Cli.OptionRule`, `Cli.CommandRule`: what a command takes
* `Cli.Given`: what it is given
* `Cli.CommandRule.read`
-/

namespace LootLedger.Cli

open Text (Chars)

/-! ### Rules -/

/-- An option that a command takes. -/
structure OptionRule where
  name : String
  letter : Option Char := none
  /-- The values that the option takes, none if it takes no value. -/
  accepts : Option (String → Bool) := none

/-- What a command takes. -/
structure CommandRule where
  options : List OptionRule := []
  /-- The values that the operands may have, in order. -/
  operands : List (String → Bool) := []
  subcommands : List String := []

/-- What a command is given. -/
structure Given where
  /-- Names and values of options, an empty value for an option that takes none. -/
  options : List (String × String) := []
  operands : List String := []
  /-- The name of a subcommand and the words after it. -/
  subcommand : Option (String × List String) := none
  deriving DecidableEq, Repr

/-- Why a command line is not carried out. -/
inductive Refusal
  | usage
  /-- Help is asked for. -/
  | help
  /-- The version is asked for, after the names of the given subcommands. -/
  | version (command : List String)
  deriving DecidableEq, Repr

/-- What a refusal among the words after a command's name is to someone who reads the name too. -/
def Refusal.within (name : String) : Refusal → Refusal
  | .version command => .version (name :: command)
  | .usage => .usage
  | .help => .help

namespace Given

/-- The option is given. -/
def has (given : Given) (name : String) : Bool :=
  (given.options.lookup name).isSome

/-- The value of an option. -/
def value? (given : Given) (name : String) : Option String :=
  given.options.lookup name

/-- Adds an option, unless it is given already or does not take the value. -/
def addOption (given : Given) (rule : OptionRule) (value : String) : Except Refusal Given :=
  if given.has rule.name then .error .usage
  else if rule.accepts.all fun accepts => accepts value then
    .ok { given with options := given.options ++ [(rule.name, value)] }
  else .error .usage

/-- Adds an operand, if there is a place for one with the value. -/
def addOperand (given : Given) (rule : CommandRule) (value : String) : Except Refusal Given :=
  match rule.operands[given.operands.length]? with
  | some accepts =>
    if accepts value then .ok { given with operands := given.operands ++ [value] }
    else .error .usage
  | none => .error .usage

end Given

/-! ### Words -/

/-- What a word or a joined letter gives rise to. -/
inductive Reading
  | done (given : Given)
  /-- An option whose value is the next word. -/
  | awaiting (given : Given) (rule : OptionRule)

/-- The word cannot be the value of an option or an operand. -/
def looksLikeOption (word : String) : Bool :=
  Text.begins word "-" && word != "-"

namespace CommandRule

/-- The option with the given long name. -/
def named? (rule : CommandRule) (name : Chars) : Option OptionRule :=
  rule.options.find? fun o => o.name.toList = name

/-- The option with the given letter. -/
def lettered? (rule : CommandRule) (letter : Char) : Option OptionRule :=
  rule.options.find? fun o => o.letter = some letter

/-- Reads a long option, without its dashes. -/
def readLong (rule : CommandRule) (given : Given) (word : Chars) : Except Refusal Reading :=
  let name := word.takeWhile (· != '=')
  let attached := match word.dropWhile (· != '=') with
    | [] => none
    | _ :: value => some (String.ofList value)
  match rule.named? name with
  | none =>
    if attached.isSome then .error .usage
    else if name = "help".toList then .error .help
    else if name = "version".toList then .error (.version [])
    else .error .usage
  | some o =>
    match o.accepts, attached with
    | none, none => (given.addOption o "").map .done
    | none, some _ => .error .usage
    | some _, some value => (given.addOption o value).map .done
    | some _, none => .ok (.awaiting given o)

/-- Reads joined letters, without their dash. -/
def readLetters (rule : CommandRule) (given : Given) : Chars → Except Refusal Reading
  | [] => .ok (.done given)
  | c :: rest =>
    match rule.lettered? c with
    | none =>
      if c = 'h' then .error .help
      else if c = 'V' then .error (.version [])
      else .error .usage
    | some o =>
      match o.accepts with
      | none => do readLetters rule (← given.addOption o "") rest
      | some _ =>
        match rest with
        | [] => if given.has o.name then .error .usage else .ok (.awaiting given o)
        | '=' :: value => (given.addOption o (String.ofList value)).map .done
        | value => (given.addOption o (String.ofList value)).map .done

/-- Reads a word that looks like an option. -/
def readOption (rule : CommandRule) (given : Given) (word : String) : Except Refusal Reading :=
  match word.toList with
  | '-' :: '-' :: name => rule.readLong given name
  | '-' :: letters => rule.readLetters given letters
  | _ => .error .usage

/-- Reads the words of a command. -/
def readFrom (rule : CommandRule) (given : Given) : List String → Except Refusal Given
  | [] => .ok given
  | word :: rest =>
    if word = "--" then rest.foldlM (fun given word => given.addOperand rule word) given
    else if rule.subcommands.contains word then
      .ok { given with subcommand := some (word, rest) }
    else if looksLikeOption word then do
      match ← rule.readOption given word with
      | .done given => readFrom rule given rest
      | .awaiting given o =>
        match rest with
        | [] => .error .usage
        | value :: rest =>
          if looksLikeOption value then .error .usage
          else readFrom rule (← given.addOption o value) rest
    else do readFrom rule (← given.addOperand rule word) rest

/-- What a command is given by some words. -/
def read (rule : CommandRule) (words : List String) : Except Refusal Given :=
  rule.readFrom {} words

end CommandRule

end LootLedger.Cli
