import LootLedger.Cli.Failure
import LootLedger.Cli.Log
import LootLedger.Disk.Access
import LootLedger.Settings.Document
import LootLedger.Settings.Places

/-!
# Machines

What the commands need of the machine that they run on. A command is an action on a host: it
succeeds with a result or fails for a reason, and either way what it did on the host is done.

## Main definitions

* `Cli.Host`: the operations of a machine
* `Cli.Console`: how a command talks to its user
* `Cli.Action`: what a command does
-/

namespace LootLedger.Cli

/-- The operations of a machine. -/
class Host (m : Type → Type) extends FileAccess m where
  environment : m Environment
  now : m Instant
  /-- All of the standard input. -/
  readInput : m (Except IoError String)
  send (url : Url) : m Http.Outcome
  wait (w : Http.Wait) : m Unit
  /-- Writes to the standard output, which always succeeds. An output that was closed, at which a
  program breaks off and leaves what it has done so far, is left out. -/
  print (s : String) : m Unit
  /-- Writes to the standard error output, which always succeeds as well. -/
  printError (s : String) : m Unit

/-- How a command talks to its user. -/
structure Console where
  json : Bool
  quiet : Bool
  verbose : Bool
  usesColour : Bool
  log : Log
  deriving DecidableEq, Repr

/-- What a command does on a host. -/
abbrev Action (m : Type → Type) := ExceptT Failure m

variable {m : Type → Type} [Monad m] [Host m]

/-- An operation of the host, which does not fail. -/
def perform (x : m α) : Action m α :=
  ExceptT.lift x

/-- The result of an operation that may fail. -/
def demand (failure : ε → Failure) (x : m (Except ε α)) : Action m α := do
  match ← perform x with
  | .ok a => return a
  | .error e => throw (failure e)

/-- A value that may be missing for a reason. -/
def require (failure : ε → Failure) (x : Except ε α) : Action m α :=
  match x with
  | .ok a => return a
  | .error e => throw (failure e)

/-- Writes to the output. -/
def say (s : String) : Action m Unit :=
  perform (Host.print s)

/-- Writes to the error output. -/
def remark (s : String) : Action m Unit :=
  perform (Host.printError s)

/-- Tells events, as far as they are shown. -/
def tell (log : Log) (es : List Event) : Action m Unit :=
  match log.lines es with
  | "" => return ()
  | lines => remark lines

/-- The text of a file. -/
def readFile (path : String) : Action m String :=
  demand .io (FileAccess.readText path)

/-- The items of a file, or of the standard input if the path is a dash. -/
def readItems (log : Log) (path : String) : Action m (List Item) := do
  let text ← if path = "-" then demand .io Host.readInput else readFile path
  let items ← require .items (Item.listOfText? text)
  tell log [Event.loadedItems items.length path]
  return items

/-- The path of the settings file. -/
def settingsPath : Action m String := do
  match (← perform Host.environment).settingsPath? with
  | some path => return path
  | none => throw (.settings .noDirectory)

/-- The settings in effect. -/
def loadSettings (log : Log) : Action m Settings := do
  let path ← settingsPath
  match ← demand .settings (Settings.loadFrom path) with
  | some settings => return settings
  | none =>
    tell log [Event.noSettings path]
    return {}

/-- Writes a report: as JSON, or as a text unless the user wants no texts. -/
def report (console : Console) (json : Json) (text : String) : Action m Unit :=
  if console.json then say (String.ofList json.pretty ++ "\n")
  else if console.quiet then return ()
  else say text

end LootLedger.Cli
