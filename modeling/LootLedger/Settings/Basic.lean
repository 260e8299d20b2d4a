import LootLedger.Disk.Basic
import LootLedger.Http.Snapshot
import LootLedger.Text.Number

/-!
# Settings

What a user can set once instead of at every command. A setting that is not set has a usual
value, and stays unset: changing one setting never writes down the usual values of the others.

## Main definitions

* `Settings`, with the values in effect: `Settings.serviceUrl`, `Settings.leagueName`,
  `Settings.profileName`
* `Setting`: the settings by name
* `Settings.change`: one setting changed
* `SettingsError`, `SettingsError.message`
-/

namespace LootLedger

open Text (Chars)

/-- What is set. -/
structure Settings where
  /-- Address of the snapshot service. -/
  baseUrl : Option String := none
  /-- League that snapshots are fetched for. -/
  league : Option String := none
  /-- Profile of filters that is used when a command names none. -/
  profile : Option String := none
  /-- Output is coloured. -/
  color : Option Bool := none
  /-- Path of the file of saved filters. -/
  filtersPath : Option String := none
  /-- Path of the file of price snapshots. -/
  ratesPath : Option String := none
  deriving DecidableEq, Repr

namespace Settings

/-- The address of the snapshot service. -/
def serviceUrl (s : Settings) : String :=
  s.baseUrl.getD Http.SnapshotService.usualBaseUrl

/-- The league that snapshots are fetched for. -/
def leagueName (s : Settings) : String :=
  s.league.getD "Standard"

/-- The profile of filters that is used when a command names none. -/
def profileName (s : Settings) : String :=
  s.profile.getD "default"

/-- The version of the form in which settings are written. -/
def version : Nat := 1

end Settings

/-! ### Errors -/

/-- Why settings cannot be read, changed or written. -/
inductive SettingsError
  | noDirectory
  | unreadable (e : IoError)
  /-- The file is no settings file. -/
  | malformed
  | tooNew (version : Nat)
  | unknownSetting (name : String)
  | invalidUrl (value : String)
  | invalidTruthValue (value : String)
  | emptyValue (name : String)
  | noDirectoryMade (e : IoError)
  | unwritable (e : IoError)
  deriving DecidableEq, Repr

/-! ### Settings by name -/

/-- A setting. -/
inductive Setting
  | baseUrl
  | league
  | profile
  | color
  | filtersPath
  | ratesPath
  deriving DecidableEq, Repr

namespace Setting

/-- All settings, in the order in which they are listed. -/
def all : List Setting := [.baseUrl, .league, .profile, .color, .filtersPath, .ratesPath]

/-- The section of a setting. -/
def section_ : Setting → String
  | .baseUrl | .league => "rates"
  | .profile => "filter"
  | .color => "output"
  | .filtersPath | .ratesPath => "storage"

/-- The key of a setting in its section. -/
def key : Setting → String
  | .baseUrl => "base_url"
  | .league => "league"
  | .profile => "profile"
  | .color => "color"
  | .filtersPath => "filters"
  | .ratesPath => "rates"

/-- The name of a setting. -/
def name (s : Setting) : String :=
  s.section_ ++ "." ++ s.key

/-- The setting with the given name. -/
def ofName? (name : String) : Option Setting :=
  all.find? fun s => s.name = name

end Setting

/-- The wording of a settings error. -/
def SettingsError.message : SettingsError → String
  | .noDirectory => "Could not determine config directory"
  | .unreadable e => s!"Failed to read config: {e.message}"
  | .malformed => "Failed to parse config: not a settings file"
  | .tooNew version =>
    s!"Config version {version} is newer than supported version {Settings.version}"
  | .unknownSetting name =>
    let names := String.intercalate ", " (Setting.all.map Setting.name)
    s!"Unknown config key '{name}'. Valid keys: {names}"
  | .invalidUrl value => s!"Invalid base_url '{value}'. Expected an http(s) URL"
  | .invalidTruthValue value =>
    s!"Invalid boolean value '{value}'. Use true/false, yes/no, 1/0, or on/off"
  | .emptyValue name => s!"{name} cannot be empty"
  | .noDirectoryMade e => s!"Failed to create config directory: {e.message}"
  | .unwritable e => s!"Failed to write config: {e.message}"

/-! ### Changes -/

/-- The truth value that a word names. The case of letters does not matter. -/
def truthValue? (word : String) : Option Bool :=
  let word := String.ofList (Text.lowerAscii word.toList)
  if ["true", "yes", "1", "on"].contains word then some true
  else if ["false", "no", "0", "off"].contains word then some false
  else none

/-- The value without blanks around it, unless nothing is left then. -/
def Setting.value (s : Setting) (value : String) : Except SettingsError String :=
  match Text.trim value.toList with
  | [] => .error (.emptyValue s.name)
  | trimmed => .ok (String.ofList trimmed)

namespace Settings

/-- The settings with one of them changed. The address of the service is taken as it is given,
other texts without blanks around them. -/
def set (s : Settings) (setting : Setting) (value : String) : Except SettingsError Settings := do
  match setting with
  | .baseUrl =>
    if Text.begins value "http://" ∨ Text.begins value "https://" then
      return { s with baseUrl := some value }
    else .error (.invalidUrl value)
  | .league => return { s with league := some (← setting.value value) }
  | .profile => return { s with profile := some (← setting.value value) }
  | .color =>
    match truthValue? value with
    | some b => return { s with color := some b }
    | none => .error (.invalidTruthValue value)
  | .filtersPath => return { s with filtersPath := some (← setting.value value) }
  | .ratesPath => return { s with ratesPath := some (← setting.value value) }

/-- The settings with the one of the given name changed. -/
def change (s : Settings) (name value : String) : Except SettingsError Settings :=
  match Setting.ofName? name with
  | some setting => s.set setting value
  | none => .error (.unknownSetting name)

end Settings

end LootLedger
