import LootLedger.Cli.Paint
import LootLedger.Settings.Document

/-!
# Settings in output

The settings in effect, with their usual values where nothing is set.

## Main definitions

* `Cli.SettingsView`, `Cli.SettingsView.text`, `Cli.SettingsView.json`
-/

namespace LootLedger.Cli

/-- Settings and the file that they are from. -/
structure SettingsView where
  path : String
  /-- There is such a file. -/
  found : Bool
  settings : Settings

namespace SettingsView

/-- A line with a name and a value, none if there is no value. -/
def entryLine (name : String) (value : Option String) : String :=
  match value with
  | some value => s!"  {name}: {value}\n"
  | none => ""

/-- The settings in effect. -/
def text (usesColour : Bool) (view : SettingsView) : String :=
  let s := view.settings
  String.join [
    painted usesColour .bold (painted usesColour .green "Configuration"), "\n\n",
    s!"File: {view.path}\n",
    s!"Exists: {view.found}\n\n",
    "[rates]\n",
    entryLine "base_url" s.serviceUrl,
    entryLine "league" s.leagueName,
    "\n[filter]\n",
    entryLine "profile" s.profileName,
    "\n[output]\n",
    entryLine "color" (s.color.map toString),
    "\n[storage]\n",
    entryLine "filters" s.filtersPath,
    entryLine "rates" s.ratesPath]

/-- The settings as they are set and as they are in effect. -/
def json (view : SettingsView) : Json :=
  let s := view.settings
  let effective : Json := .object [
    ("filter.profile", .text s.profileName),
    ("rates.base_url", .text s.serviceUrl),
    ("rates.league", .text s.leagueName)]
  .object [
    ("config", s.toJson),
    ("effective", effective),
    ("exists", .bool view.found),
    ("path", .text view.path)]

end SettingsView

end LootLedger.Cli
