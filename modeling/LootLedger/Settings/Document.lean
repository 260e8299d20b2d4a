import LootLedger.Disk.Access
import LootLedger.Json.Value
import LootLedger.Settings.Basic
import LootLedger.Toml.Printer
import LootLedger.Toml.Reader

/-!
# Settings files

Settings are kept in a TOML file with one section per subject. A file without a version is taken
to be of the current one, and a file of a later version is refused. Keys and sections that mean
nothing are passed over in reading, and lost in writing.

## Main definitions

* `Settings.ofText?`, `Settings.text`, `Settings.toJson`
* `Settings.loadFrom`, `Settings.saveTo`
-/

namespace LootLedger

open Text (Chars)

/-! ### Reading -/

namespace Toml

/-- The text of a value. -/
def text? : Toml → Option String
  | .text s => some s
  | _ => none

/-- The truth value of a value. -/
def bool? : Toml → Option Bool
  | .bool b => some b
  | _ => none

/-- The number of a value, if it is at most `limit`. -/
def nat? (limit : Nat) : Toml → Option Nat
  | .int (.ofNat n) => if n ≤ limit then some n else none
  | _ => none

/-- The values of a record with the given keys: a table has them by key, an array has all of them
in order. -/
def record? (keys : List String) : Toml → Option Entries
  | .table _ entries => some entries
  | .array xs => if keys.length ≤ xs.length then some (keys.zip xs) else none
  | .tables ts =>
    if keys.length ≤ ts.length then some (keys.zip (ts.map (.table .whole ·))) else none
  | _ => none

/-- The value under a key, if there is one. -/
def field? (entries : Entries) (key : String) (value : Toml → Option α) : Option (Option α) :=
  match entries.lookup key with
  | none => some none
  | some t => (value t).map some

end Toml

namespace Settings

/-- The keys of a section, in order. -/
def keysOf (section_ : String) : List String :=
  (Setting.all.filter fun s => s.section_ = section_).map Setting.key

/-- The entries of a section, none if there is no such section. -/
def section? (entries : Toml.Entries) (name : String) : Option Toml.Entries :=
  match entries.lookup name with
  | none => some []
  | some t => t.record? (keysOf name)

/-- The value of a setting in its section, if it is set. -/
def setting? (entries : Toml.Entries) (s : Setting) (value : Toml → Option α) :
    Option (Option α) := do
  Toml.field? (← section? entries s.section_) s.key value

/-- The version and the settings that the entries of a document denote. -/
def ofEntries? (entries : Toml.Entries) : Option (Nat × Settings) := do
  let version ← Toml.field? entries "version" (Toml.nat? Text.max32)
  let settings := {
    baseUrl := ← setting? entries .baseUrl Toml.text?
    league := ← setting? entries .league Toml.text?
    profile := ← setting? entries .profile Toml.text?
    color := ← setting? entries .color Toml.bool?
    filtersPath := ← setting? entries .filtersPath Toml.text?
    ratesPath := ← setting? entries .ratesPath Toml.text? }
  return (version.getD Settings.version, settings)

/-- The settings that a file holds. -/
def ofText? (text : String) : Except SettingsError Settings :=
  match (Toml.parse? text.toList).bind ofEntries? with
  | none => .error .malformed
  | some (version, settings) =>
    if Settings.version < version then .error (.tooNew version) else .ok settings

/-! ### Writing -/

/-- The value of a setting, if it is set. -/
def get? (s : Settings) : Setting → Option Toml.Scalar
  | .baseUrl => s.baseUrl.map .text
  | .league => s.league.map .text
  | .profile => s.profile.map .text
  | .color => s.color.map .bool
  | .filtersPath => s.filtersPath.map .text
  | .ratesPath => s.ratesPath.map .text

/-- The sections, in the order in which they are written. -/
def sections : List String := ["rates", "filter", "output", "storage"]

/-- What is set in a section. -/
def entriesOf (s : Settings) (section_ : String) : List (String × Toml.Scalar) :=
  (Setting.all.filter fun x => x.section_ = section_).filterMap fun x =>
    (s.get? x).map (x.key, ·)

/-- The written form of settings. -/
def text (s : Settings) : String :=
  String.ofList <| Toml.document [("version", .nat Settings.version)]
    (sections.map fun name => (name, s.entriesOf name))

/-- A value of a setting in JSON. -/
def scalarJson : Toml.Scalar → Json
  | .text s => .text s
  | .nat n => .int n
  | .bool b => .bool b

/-- The settings in JSON, with names in ascending order. -/
def toJson (s : Settings) : Json :=
  let entriesJson (name : String) : Json :=
    .object <| Json.sortMembers <| (s.entriesOf name).map fun (key, value) =>
      (key, scalarJson value)
  .object <| Json.sortMembers <|
    ("version", .int Settings.version) :: sections.map fun name => (name, entriesJson name)

/-! ### Files -/

variable {m : Type → Type} [Monad m] [FileAccess m]

/-- The settings in a file, none if there is no file. -/
def loadFrom (path : String) : m (Except SettingsError (Option Settings)) := do
  if ← FileAccess.hasPath path then
    match ← FileAccess.readText path with
    | .error e => return .error (.unreadable e)
    | .ok text => return (ofText? text).map some
  else return .ok none

/-- Writes settings to a file, and makes the directory that it is in. -/
def saveTo (s : Settings) (path : String) : m (Except SettingsError Unit) := do
  let made ← match Path.parent? path with
    | some directory => FileAccess.makeDirectories directory
    | none => pure (.ok ())
  match made with
  | .error e => return .error (.noDirectoryMade e)
  | .ok () =>
    match ← FileAccess.writeText path s.text with
    | .error e => return .error (.unwritable e)
    | .ok () => return .ok ()

end Settings

end LootLedger
