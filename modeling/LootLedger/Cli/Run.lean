import LootLedger.Cli.Command
import LootLedger.Cli.Host
import LootLedger.Cli.Report.Categories
import LootLedger.Cli.Report.Diagnostics
import LootLedger.Cli.Report.Filters
import LootLedger.Cli.Report.Matches
import LootLedger.Cli.Report.Prices
import LootLedger.Cli.Report.Rates
import LootLedger.Cli.Report.Settings

/-!
# Carrying out commands

What each command does on a host. Commands that change a document load it first, and write only
when everything else has succeeded: a command that fails leaves all documents as they were.

## Main definitions

* the commands, `Cli.checkFilter` and the like
* `Cli.carryOut`: what a command does
* `Cli.run`: what the words of a command line do, with the exit status
-/

namespace LootLedger.Cli

variable {m : Type → Type} [Monad m] [Host m]

/-! ### Filters -/

/-- Compiles a document and reports what is wrong with it. -/
def checkFilter (console : Console) (file : String) : Action m Unit := do
  let document := Filter.parse (← readFile file).toList
  tell console.log (Event.compiled document)
  report console (Diagnostics.json file document)
    (Diagnostics.text console.usesColour file document)
  if !document.isClean then throw (.invalidFilter file document.problems.length)

/-- The document in a file as a filter. Its path serves as its version. -/
def compileFile (console : Console) (file : String) : Action m CompiledFilter := do
  let filter := CompiledFilter.ofText file (← readFile file)
  tell console.log (Event.compiled filter.document)
  return filter

/-- The saved document that is in effect for a profile at a time. -/
def compileSaved (console : Console) (settings : Settings) (profile : Option String)
    (at_ : Option Instant) : Action m CompiledFilter := do
  let profile := profile.getD settings.profileName
  let at_ ← match at_ with
    | some t => pure t
    | none => perform Host.now
  let store ← require .store (settings.filterStore? (← perform Host.environment))
  let archive ← demand .store store.loadOrEmpty
  let (filter, _) := ({} : FilterCache).compiledAt archive at_ profile
  tell console.log (Event.cached filter profile)
  if filter.version = "" then throw (.noFilter profile)
  return filter

/-- The filter that items are to be matched against. -/
def chosenFilter (console : Console) (settings : Settings) (options : MatchOptions) :
    Action m CompiledFilter :=
  match options.filter with
  | some file => compileFile console file
  | none => compileSaved console settings options.profile options.at_

/-- Matches items against a filter. -/
def matchItems (console : Console) (settings : Settings) (options : MatchOptions) :
    Action m Unit := do
  let filter ← chosenFilter console settings options
  let filter := filter.withAreaLevel options.areaLevel
  tell console.log (Event.flawedFilter filter)
  let items ← readItems console.log options.items
  let rows ← require .filter (matchRows filter items options.shownOnly)
  report console (Matches.json filter.version options.areaLevel rows)
    (Matches.text console.usesColour rows)

/-- Saves a document. One with problems is saved only if that is insisted on. -/
def saveFilter (console : Console) (settings : Settings) (file : String)
    (profile : Option String) (force : Bool) : Action m Unit := do
  let text ← readFile file
  let document := Filter.parse text.toList
  tell console.log (Event.compiled document)
  if !document.isClean && !force then
    if !console.json && !console.quiet then
      remark (Diagnostics.text console.usesColour file document)
    throw (.invalidFilter file document.problems.length)
  let store ← require .store (settings.filterStore? (← perform Host.environment))
  let archive ← demand .store store.loadOrEmpty
  let entry : SavedFilter := {
    profile := profile.getD settings.profileName, savedAt := ← perform Host.now, text }
  demand .store (store.save (archive.save entry))
  tell console.log [Event.savedFilter entry]
  let saved : Saved := { file, entry, document }
  report console saved.json saved.text

/-- Lists the saved documents. -/
def listFilters (console : Console) (settings : Settings) (profile : Option String) :
    Action m Unit := do
  let store ← require .store (settings.filterStore? (← perform Host.environment))
  let archive ← demand .store store.loadOrEmpty
  let saved := Filters.selected archive profile
  report console (Filters.json saved) (Filters.text console.usesColour saved)

/-! ### Items -/

/-- Says what categories items are of. -/
def categorize (console : Console) (items : String) (wantsSubcategory : Bool) :
    Action m Unit := do
  let items ← readItems console.log items
  tell console.log (items.flatMap Event.classified)
  report console (Categories.json wantsSubcategory items)
    (Categories.text console.usesColour wantsSubcategory items)

/-- A date, today if none is given. -/
def dateOrToday (date : Option Date) : Action m Date := do
  match date with
  | some date => return date
  | none => return (← perform Host.now).date

/-- Values items by the snapshot in effect on a date. -/
def priceItems (console : Console) (settings : Settings) (items : String)
    (date : Option Date) : Action m Unit := do
  let date ← dateOrToday date
  let store ← require .store (settings.rateStore? (← perform Host.environment))
  let history ← demand .store store.loadOrEmpty
  match history.tableAt? date with
  | none => throw (.noRates date)
  | some table =>
    if console.verbose then remark s!"Using snapshot of {String.ofList table.date.text}\n"
    let items ← readItems console.log items
    tell console.log (items.flatMap Event.valued)
    let appraisal := appraise table items
    report console (Prices.json table.date items appraisal)
      (Prices.text console.usesColour items appraisal)

/-! ### Snapshots -/

/-- Fetches a snapshot and stores it in place of one of the same date. -/
def fetchRates (console : Console) (settings : Settings) (league : Option String)
    (date : Option Date) : Action m Unit := do
  let league := league.getD settings.leagueName
  let date ← dateOrToday date
  let service := Http.SnapshotService.ofUrl settings.serviceUrl
  if console.verbose then
    remark s!"Fetching {league} rates for {String.ofList date.text} from {service.baseUrl}...\n"
  tell console.log ((service.address? league date).toOption.toList.map Event.fetching)
  let wait (url : Url) (w : Http.Wait) : m Unit := do
    let lines := console.log.lines [Event.retrying url w]
    if lines ≠ "" then Host.printError lines
    Host.wait w
  let table ← demand .rates (service.fetch Host.send wait league date)
  let store ← require .store (settings.rateStore? (← perform Host.environment))
  let history ← demand .store store.loadOrEmpty
  tell console.log [Event.storingSnapshot table]
  demand .store (store.save (history.insert table))
  let fetched : Fetched := { league, table, replaced := (history.get? date).isSome }
  report console fetched.json (fetched.text console.usesColour)

/-- Lists the stored snapshots. -/
def listRates (console : Console) (settings : Settings) : Action m Unit := do
  let store ← require .store (settings.rateStore? (← perform Host.environment))
  let history ← demand .store store.loadOrEmpty
  report console (Rates.json history.toList) (Rates.text console.usesColour history.toList)

/-! ### Settings -/

/-- Shows the settings in effect. -/
def showSettings (console : Console) : Action m Unit := do
  let settings ← loadSettings console.log
  let path ← settingsPath
  let view : SettingsView := {
    path, found := ← perform (FileAccess.hasPath path), settings }
  report console view.json (view.text console.usesColour)

/-- Changes a setting. -/
def changeSetting (console : Console) (name value : String) : Action m Unit := do
  let settings ← loadSettings console.log
  let settings ← require .settings (settings.change name value)
  let path ← settingsPath
  demand .settings (settings.saveTo path)
  let outcome : Json := .object [
    ("key", .text name), ("path", .text path), ("status", .text "success"),
    ("value", .text value)]
  report console outcome s!"Set {name} = {value}\n"

/-- Says where the settings file is. -/
def showSettingsPath (console : Console) : Action m Unit := do
  let path ← settingsPath
  let found ← perform (FileAccess.hasPath path)
  let place : Json := .object [("exists", .bool found), ("path", .text path)]
  report { console with quiet := false } place s!"{path}\n"

/-! ### Everything else -/

/-- What is said when nothing is asked for. -/
def overviewText : String :=
  "lootlog - Loot filter checker and item valuation\nUse --help for usage information\n"

/-- The names of the commands, for completion. -/
def completionWords : String :=
  "check match category price rates filters config completions help"

/-- A script that lets a shell complete the names of commands. -/
def completionScript : Shell → String
  | .bash => s!"complete -W \"{completionWords}\" lootlog\n"
  | .zsh => s!"#compdef lootlog\ncompadd {completionWords}\n"
  | .fish => s!"complete -c lootlog -f -a \"{completionWords}\"\n"
  | .powershell =>
    "Register-ArgumentCompleter -Native -CommandName lootlog -ScriptBlock \x7b '" ++
      completionWords ++ "' -split ' ' \x7d\n"

/-- What a command that works on its arguments alone does. -/
def carryOutStandalone (console : Console) : Command → Action m Unit
  | .check file => checkFilter console file
  | .category items wantsSubcategory => categorize console items wantsSubcategory
  | .showSettings => showSettings console
  | .changeSetting name value => changeSetting console name value
  | .settingsPath => showSettingsPath console
  | .completions shell => say (completionScript shell)
  | _ => if console.quiet then return () else say overviewText

/-- What a command that depends on the settings does. -/
def carryOutConfigured (console : Console) (settings : Settings) : Command → Action m Unit
  | .matchItems options => matchItems console settings options
  | .price items date => priceItems console settings items date
  | .fetchRates league date => fetchRates console settings league date
  | .listRates => listRates console settings
  | .saveFilter file profile force => saveFilter console settings file profile force
  | .listFilters profile => listFilters console settings profile
  | _ => return ()

/-- The console that flags, variables and settings ask for. -/
def consoleOf (flags : Flags) (env : Environment) (log : Log) (settings : Option Settings) :
    Console :=
  let wantsColour := ((settings.bind (·.color)).getD true)
  let forbidsColour := flags.noColor || ((env.lookup "NO_COLOR").any (· ≠ ""))
  { json := flags.json, quiet := flags.quiet, verbose := flags.verbose
    usesColour := wantsColour && !forbidsColour, log }

/-- What a command does. A command that works on its arguments alone does so even if the settings
cannot be read. -/
def carryOut (flags : Flags) (command : Command) : Action m Unit := do
  let env ← perform Host.environment
  let log := logOf flags.verbose flags.quiet flags.noColor env
  if command.isStandalone then
    let settings ← perform (loadSettings log).run
    carryOutStandalone (consoleOf flags env log settings.toOption) command
  else
    let settings ← loadSettings log
    carryOutConfigured (consoleOf flags env log settings) settings command

/-- How the program is used. -/
def usageText : String :=
  "Usage: lootlog [OPTIONS] [COMMAND]\n\nCommands: " ++ completionWords ++
    "\n\nOptions: -v --verbose, -q --quiet, --json, --no-color, -h --help, -V --version\n"

/-- Carries out a command that was read, and gives the exit status. -/
def runCommand (flags : Flags) (command : Command) : m Nat := do
  match ← (carryOut flags command).run with
  | .ok () => return 0
  | .error failure =>
    Host.printError (failure.report flags.json)
    return failure.exitCode

/-- Does what the words of a command line ask for, and gives the exit status. -/
def run (words : List String) : m Nat := do
  match readCommandLine words with
  | .ok (flags, command) => runCommand flags command
  | .error .help =>
    Host.print usageText
    return 0
  | .error (.version command) =>
    Host.print ("-".intercalate ("lootlog" :: command) ++ " 0.1.0\n")
    return 0
  | .error .usage =>
    Host.printError usageText
    return 2

end LootLedger.Cli
