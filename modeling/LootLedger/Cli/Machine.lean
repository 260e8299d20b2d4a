import LootLedger.Cli.Host
import LootLedger.Http.Script

/-!
# A machine as a value

A machine that commands can be run on without touching anything outside: its disk, its clock, its
network and its two outputs are parts of one value. What a command does on it is a function, so
statements about commands are statements about machines before and after.

## Main definitions

* `Cli.Machine`, and `Cli.Host` of the actions that change it
-/

namespace LootLedger.Cli

/-- A machine. -/
structure Machine where
  disk : Disk := {}
  /-- The directory that paths are seen from. -/
  here : Location := []
  environment : Environment := []
  clock : Instant
  /-- The standard input. -/
  input : Content := .text ""
  network : Http.Script
  output : String := ""
  errorOutput : String := ""

namespace Machine

/-- What came of a change of the disk: the machine after it, or the unchanged machine and the
refusal. -/
def after (machine : Machine) : Except IoError Disk → Except IoError Unit × Machine
  | .ok disk => (.ok (), { machine with disk })
  | .error e => (.error e, machine)

/-- The text of the standard input. -/
def inputText (machine : Machine) : Except IoError String :=
  match machine.input with
  | .text s => .ok s
  | .bytes _ => .error .notText

instance : FileAccess (StateM Machine) where
  readText path := fun k => (k.disk.readText k.here path, k)
  writeText path text := fun k => k.after (k.disk.writeText k.here path text)
  makeDirectories path := fun k => k.after (k.disk.makeDirectories k.here path)
  rename source target := fun k => k.after (k.disk.rename k.here source target)
  hasPath path := fun k => (k.disk.hasPath k.here path, k)

instance : Host (StateM Machine) where
  environment := fun k => (k.environment, k)
  now := fun k => (k.clock, k)
  readInput := fun k => (k.inputText, k)
  send url := fun k =>
    let (outcome, network) := (Http.Script.ask url).run k.network
    (outcome, { k with network })
  wait w := fun k =>
    let ((), network) := (Http.Script.wait w).run k.network
    ((), { k with network })
  print s := fun k => ((), { k with output := k.output ++ s })
  printError s := fun k => ((), { k with errorOutput := k.errorOutput ++ s })

end Machine

end LootLedger.Cli
