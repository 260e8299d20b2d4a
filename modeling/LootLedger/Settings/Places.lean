import LootLedger.Disk.Path
import LootLedger.Settings.Basic
import LootLedger.Store.Basic

/-!
# Places of files

Where the settings, the saved filters and the price snapshots are kept. Settings and variables of
the environment decide; otherwise the files are below the home directory, each kind where the
desktop conventions put it: saved filters with the data of the user, snapshots with what can be
fetched again.

## Main definitions

* `Environment.settingsPath?`, `Environment.dataPath?`, `Environment.cachePath?`
* `Settings.filterStore?`, `Settings.rateStore?`
-/

namespace LootLedger

/-- The variables of the environment and their values. -/
abbrev Environment := List (String × String)

namespace Environment

/-- The directory of the user, as the environment gives it. Where it gives none, the system may know
one from its list of users; that list is left out here, so there is none. -/
def home? (env : Environment) : Option String :=
  (env.lookup "HOME").filter (· ≠ "")

/-- The name of the directory that holds the program's files. -/
def programDirectory : String := "lootlog"

/-- The path of the settings file. -/
def settingsPath? (env : Environment) : Option String :=
  match env.lookup "LOOTLOG_CONFIG" with
  | some path => some path
  | none =>
    let base? := match env.lookup "XDG_CONFIG_HOME" with
      | some base => some base
      | none => env.home?.map (Path.join · ".config")
    base?.map fun base => Path.join (Path.join base programDirectory) "config.toml"

/-- The path of a file below the directory that a variable names, if it names one from the root,
else below a directory in the home directory. -/
def filePath? (env : Environment) (variable_ fallback file : String) : Option String := do
  let home ← env.home?
  let base := ((env.lookup variable_).filter Path.isAbsolute).getD (Path.join home fallback)
  return Path.join (Path.join base programDirectory) file

/-- The path of a file with data of the user. -/
def dataPath? (env : Environment) (file : String) : Option String :=
  env.filePath? "XDG_DATA_HOME" ".local/share" file

/-- The path of a file that can be fetched again. -/
def cachePath? (env : Environment) (file : String) : Option String :=
  env.filePath? "XDG_CACHE_HOME" ".cache" file

end Environment

namespace Settings

/-- Where the saved filters are. -/
def filterStore? (s : Settings) (env : Environment) :
    Except StoreError (DocumentStore FilterArchive) :=
  match s.filtersPath.or (env.dataPath? "filters.json") with
  | some path => .ok { path }
  | none => .error .noDataDirectory

/-- Where the price snapshots are. -/
def rateStore? (s : Settings) (env : Environment) :
    Except StoreError (DocumentStore (PriceHistory Float)) :=
  match s.ratesPath.or (env.cachePath? "rates.json") with
  | some path => .ok { path }
  | none => .error .noDataDirectory

end Settings

end LootLedger
