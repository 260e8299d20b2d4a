import LootLedger.Archive.Cache
import LootLedger.Category.Classify
import LootLedger.Cli.Log.Directive
import LootLedger.Cli.Paint
import LootLedger.Http.Snapshot
import LootLedger.Price.Worth
import LootLedger.Settings.Places
import LootLedger.Text.Quoted

/-!
# Log

What the program tells about its work while it does it. An event has a level, the part of the
program that it comes from, a message and named values. Of the directives that are about an event,
the most exact one decides if it is shown.

## Main definitions

* `Cli.Event`
* `Cli.Log`, `Cli.Log.shows`, `Cli.Log.line`
* the events of the program, `Cli.Event.compiled` and the like
-/

namespace LootLedger.Cli

open Text (Chars)

/-! ### Events -/

/-- Something to tell. -/
structure Event where
  level : Level
  /-- The part of the program that it comes from. -/
  target : String
  message : String
  fields : List (String × String) := []
  deriving DecidableEq, Repr

/-- What is shown of the events, and how. -/
structure Log where
  directives : List Directive
  usesColour : Bool
  deriving DecidableEq, Repr

namespace Log

/-- The directive says something about the event. -/
def concerns (d : Directive) (e : Event) : Bool :=
  !d.inSpan && Text.startsWith d.target e.target.toList &&
    d.fields.all fun name => ("message" :: e.fields.map Prod.fst).contains (String.ofList name)

/-- A directive goes before another one that says no more about which events are meant. -/
def goesBefore (d other : Directive) : Bool :=
  let names (d : Directive) : List String := d.fields.map String.ofList
  let key (d : Directive) : Nat × Nat := (d.target.length, d.fields.length)
  (key other).1 < (key d).1 || ((key other).1 = (key d).1 &&
    ((key other).2 < (key d).2 || ((key other).2 = (key d).2 && !decide (names d < names other))))

/-- The directive that decides about an event: the last of those which name it most exactly. -/
def decisive? (log : Log) (e : Event) : Option Directive :=
  (log.directives.filter (concerns · e)).foldl (fun best d =>
    match best with
    | some b => if goesBefore d b then some d else some b
    | none => some d) none

/-- The event is shown. -/
def shows (log : Log) (e : Event) : Bool :=
  match log.decisive? e with
  | some d => e.level.rank ≤ d.greatestRank
  | none => false

/-- The line that shows an event. -/
def line (log : Log) (e : Event) : String :=
  let styled (code s : String) : String :=
    if log.usesColour then escapeSequence code ++ s ++ escapeSequence "0" else s
  let level := styled e.level.colourCode (rightCell 5 e.level.name)
  let fields := e.fields.map fun (name, value) =>
    " " ++ styled Paint.italic.code name ++ styled Paint.dim.code "=" ++ value
  level ++ " " ++ e.message ++ String.join fields ++ "\n"

/-- The lines that show those of some events that are shown. -/
def lines (log : Log) (es : List Event) : String :=
  String.join ((es.filter log.shows).map log.line)

end Log

/-! ### The events of the program -/

namespace Event

/-- A text in the fields of an event, between quotes. -/
def quotedText (s : String) : String :=
  String.ofList (Text.quoted s.toList)

/-- A pause in the fields of an event. -/
def pauseText (seconds : UInt64) : String :=
  if seconds = 0 then "0ns" else s!"{seconds.toNat}s"

/-- There is no settings file. -/
def noSettings (path : String) : Event :=
  { level := .debug, target := "lootlog::commands::config"
    message := "no config file, using defaults", fields := [("path", path)] }

/-- A document was compiled. -/
def compiled (d : Filter.Document) : List Event :=
  let target := "lootlog_engine::filter::parser"
  let stopped : List Event :=
    if d.aborted then
      [{ level := .debug, target, message := "too many errors, not a filter document"
         fields := [("line", toString (d.lineKinds.length - 1))] }]
    else []
  stopped ++
    [{ level := .debug, target, message := "compiled filter document"
       fields := [("rules", toString d.rules.length), ("errors", toString d.problems.length),
        ("warnings", toString d.oddities.length)] }]

/-- A saved document was compiled for the cache. -/
def cached (f : CompiledFilter) (profile : String) : List Event :=
  let target := "lootlog_engine::compiled"
  let flawed : List Event :=
    if f.document.problems.isEmpty then []
    else
      [{ level := .debug, target, message := "filter compiled with errors"
         fields := [("version", f.version), ("errors", toString f.document.problems.length)] }]
  { level := .debug, target, message := "compiled filter cache miss"
    fields := [("version", f.version), ("profile", quotedText profile)] } ::
    compiled f.document ++ flawed

/-- A filter with errors is used. -/
def flawedFilter (f : CompiledFilter) : List Event :=
  if f.document.problems.isEmpty then []
  else
    [{ level := .warn, target := "lootlog::commands::matching"
       message := "filter has errors, the affected lines are ignored"
       fields := [("version", quotedText f.version),
        ("errors", toString f.document.problems.length)] }]

/-- Items were read. -/
def loadedItems (count : Nat) (source : String) : Event :=
  { level := .debug, target := "lootlog::commands::items", message := "loaded items"
    fields := [("count", toString count), ("source", source)] }

/-- An item was classified. Only that it has no class is told. -/
def classified (item : Item) : List Event :=
  if item.classify?.isSome then []
  else
    [{ level := .debug, target := "lootlog_engine::category"
       message := "unresolved item category"
       fields := [("type_line", quotedText item.typeLine), ("base_type", item.givenBase),
        ("name", item.name), ("rarity", quotedText item.rarity.name), ("icon", item.icon)] }]

/-- An item was valued. That it has no value and that it cannot have one is told. -/
def valued (item : Item) : List Event :=
  let target := "lootlog_engine::valuation"
  let result : List Event := match item.worth? with
    | .error e =>
      [{ level := .warn, target, message := "valuation failed"
         fields := [("error", e.message), ("type_line", item.typeLine)] }]
    | .ok .unvalued =>
      let category := ((item.classify?).map fun c => c.category.name).getD "unknown"
      [{ level := .warn, target, message := "unable to value item"
         fields := [("type_line", item.typeLine), ("name", item.name),
          ("rarity", quotedText item.rarity.name), ("category", quotedText category)] }]
    | .ok _ => []
  classified item ++ result

/-- A document was saved. -/
def savedFilter (saved : SavedFilter) : Event :=
  { level := .debug, target := "lootlog::commands::filters", message := "saved filter version"
    fields := [("profile", quotedText saved.profile), ("version", saved.version)] }

/-- A snapshot is asked for. -/
def fetching (url : Url) : Event :=
  { level := .debug, target := "lootlog_data::client", message := "fetching price snapshot"
    fields := [("url", String.ofList url.text)] }

/-- A request is going to be repeated. -/
def retrying (url : Url) (w : Http.Wait) : Event :=
  let attempt := ("attempt", toString w.attempt.toNat)
  match w.after with
  | .failure _ =>
    { level := .debug, target := "lootlog_data::retry"
      message := "snapshot request failed, retrying"
      fields := [attempt, ("error", Http.FetchError.transportMessage url)] }
  | .response _ =>
    { level := .debug, target := "lootlog_data::retry"
      message := "snapshot service busy, backing off"
      fields := [attempt, ("backoff", pauseText w.seconds)] }

/-- A snapshot is going to be stored. -/
def storingSnapshot (table : PriceTable Float) : Event :=
  { level := .debug, target := "lootlog::commands::rates", message := "storing snapshot"
    fields := [("date", String.ofList table.date.text), ("entries", toString table.size)] }

end Event

/-! ### The log of a run -/

/-- The log that flags and variables ask for. Directives that make no sense count as none. -/
def logOf (verbose quiet noColor : Bool) (env : Environment) : Log :=
  let usual := if verbose then Level.debug else if quiet then .error else .warn
  let given := (env.lookup "LOOTLOG_LOG").or (env.lookup "RUST_LOG")
  let directives := (given.bind fun s => directives? s.toList).getD
    [{ greatestRank := usual.rank }]
  { directives, usesColour := !noColor && (env.lookup "NO_COLOR").isNone }

end LootLedger.Cli
