import LootLedger.Cli.Run
import Std.Time.Date.PlainDate
import Std.Time.DateTime.Timestamp

/-!
# The program

The commands on the machine that the program is started on: its files, its clock, its variables
and its streams. No transport to the network is built in, so every service is out of reach, and
commands that ask one fail the way they do without a connection. All decisions are those of
`Cli.run`; here an operation of a `Cli.Host` is one operation of the system.

## Main definitions

* `Cli.Host` of the actions of the system
* `main`
-/

namespace LootLedger.Cli

/-- The number and the words in which the system refuses an operation. -/
def systemRefusal? : IO.Error → Option (UInt32 × String)
  | .alreadyExists _ code words | .noFileOrDirectory _ code words | .invalidArgument _ code words
  | .permissionDenied _ code words | .resourceExhausted _ code words
  | .inappropriateType _ code words | .noSuchThing _ code words | .interrupted _ code words
  | .otherError code words | .resourceBusy code words | .resourceVanished code words
  | .unsupportedOperation code words | .hardwareFault code words
  | .unsatisfiedConstraints code words | .illegalOperation code words
  | .protocolError code words | .timeExpired code words => some (code, words)
  | .unexpectedEof | .userError _ => none

/-- The refusal that an error of the system stands for. Some operations give the number of an
error with a minus sign, as the word that stands for it. -/
def refusalOf (e : IO.Error) : IoError :=
  match systemRefusal? e with
  | none => .other (toString e)
  | some (code, words) =>
    let mark := s!" (os error {(min code (0 - code)).toNat})"
    match [IoError.notFound, .alreadyExists, .notDirectory, .isDirectory, .nameTooLong].find?
        fun known => Text.ends known.message mark with
    | some known => known
    | none => .other (words.capitalize ++ mark)

/-- What comes of an operation of the system on a path. -/
def attempt (path : String) (operation : IO α) : IO (Except IoError α) := do
  if path.toList.contains '\x00' then return .error .endOfTextInPath
  match ← operation.toBaseIO with
  | .ok a => return .ok a
  | .error e => return .error (refusalOf e)

/-- The text that some bytes spell. -/
def textOfBytes (bytes : ByteArray) : Except IoError String :=
  match String.fromUTF8? bytes with
  | some s => .ok s
  | none => .error .notText

/-- All bytes that a stream still holds, after the ones read before. -/
partial def readToEnd (stream : IO.FS.Stream) (before : ByteArray) : IO ByteArray := do
  let bytes ← stream.read 65536
  if bytes.isEmpty then return before
  else readToEnd stream (before ++ bytes)

/-- The instant at which the clock of the system stands. -/
def systemClock : IO Instant := do
  let elapsed := (← Std.Time.Timestamp.now).val
  let seconds := elapsed.second.val
  let day := Std.Time.PlainDate.ofEpochDay (.ofInt (seconds / 86400))
  let inDay := (seconds % 86400).toNat
  let date := (Date.of? day.year day.month.val.toNat day.day.val.toNat).getD default
  return (Instant.of? date (inDay / 3600) (inDay / 60 % 60) (inDay % 60)
    elapsed.nano.val.toNat).getD default

/-- The names of the variables that commands look at. -/
def variableNames : List String :=
  ["HOME", "LOOTLOG_CONFIG", "LOOTLOG_LOG", "NO_COLOR", "RUST_LOG", "XDG_CACHE_HOME",
    "XDG_CONFIG_HOME", "XDG_DATA_HOME"]

instance : FileAccess IO where
  readText path := do
    return (← attempt path (IO.FS.readBinFile path)).bind textOfBytes
  writeText path text := attempt path (IO.FS.writeFile path text)
  makeDirectories path := attempt path (IO.FS.createDirAll path)
  rename source target := attempt (source ++ target) (IO.FS.rename source target)
  hasPath path := return (← attempt path (IO.FS.realPath path)).isOk

instance : Host IO where
  environment :=
    variableNames.filterMapM fun name => do
      return (← IO.getEnv name).map (name, ·)
  now := systemClock
  readInput := do
    let stream ← IO.getStdin
    return (← attempt "" (readToEnd stream .empty)).bind textOfBytes
  send _ := return .failure .unreachable
  wait w := IO.sleep (1000 * w.seconds.toNat).toUInt32
  print s := do
    (← IO.getStdout).putStr s
    (← IO.getStdout).flush
  printError s := do (← IO.getStderr).putStr s

end LootLedger.Cli

/-- Does what the command line asks for, and gives the exit status. -/
def main (words : List String) : IO UInt32 := do
  let code ← (LootLedger.Cli.run words : IO Nat)
  return code.toUInt32
