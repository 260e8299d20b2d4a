import LootLedger.Filter.Problem
import LootLedger.Http.Snapshot
import LootLedger.Item.Listing
import LootLedger.Json.Printer
import LootLedger.Settings.Basic
import LootLedger.Store.Basic

/-!
# Failures

Why a command fails, with the wording for readers, the code for programs and the exit status.

## Main definitions

* `Cli.Failure`, `Cli.Failure.message`, `Cli.Failure.code`, `Cli.Failure.exitCode`
* `Cli.Failure.report`
-/

namespace LootLedger.Cli

/-- Why a command fails. -/
inductive Failure
  | store (e : StoreError)
  | filter (p : Filter.Problem)
  | invalidFilter (path : String) (problems : Nat)
  | noFilter (profile : String)
  | rates (e : Http.FetchError)
  | noRates (date : Date)
  | settings (e : SettingsError)
  | io (e : IoError)
  | items (e : ItemsError)
  deriving DecidableEq

namespace Failure

/-- The start of the wording, which names the kind of failure. -/
def heading : Failure → String
  | .store _ => "storage error: "
  | .filter _ => "filter error: "
  | .rates _ => "rates error: "
  | .settings _ => "configuration error: "
  | .io _ => "I/O error: "
  | .items _ => "serialization error: "
  | .invalidFilter _ _ | .noFilter _ | .noRates _ => ""

/-- The rest of the wording. -/
def detail : Failure → String
  | .store e => e.message
  | .filter p => p.message
  | .invalidFilter path problems => s!"{path} has {problems} error(s)"
  | .noFilter profile => s!"no saved filter for profile '{profile}' (use 'lootlog filters save')"
  | .rates e => e.message
  | .noRates date =>
    s!"no price snapshot on or before {String.ofList date.text} (use 'lootlog rates fetch')"
  | .settings e => e.message
  | .io e => e.message
  | .items e => e.message

/-- The wording of a failure. -/
def message (f : Failure) : String :=
  f.heading ++ f.detail

/-- The code by which programs tell failures apart. -/
def code : Failure → String
  | .store _ => "STORE_ERROR"
  | .filter _ => "FILTER_ERROR"
  | .invalidFilter _ _ => "INVALID_FILTER"
  | .noFilter _ => "NO_FILTER"
  | .rates _ => "RATES_ERROR"
  | .noRates _ => "NO_RATES"
  | .settings _ => "CONFIG_ERROR"
  | .io _ => "IO_ERROR"
  | .items _ => "JSON_ERROR"

/-- The exit status of a command that fails. -/
def exitCode : Failure → Nat
  | .filter _ | .invalidFilter _ _ => 1
  | .rates (.service e) => e.exitCode
  | .rates (.transport _ _) => 3
  | .rates .invalidSnapshot => 2
  | .io _ => 3
  | .items _ => 1
  | .settings _ | .store _ | .noFilter _ | .noRates _ => 5

/-- What is reported of a failure. -/
def report (json : Bool) (f : Failure) : String :=
  if json then
    let error : Json := .object [("code", .text f.code), ("message", .text f.message)]
    String.ofList (Json.pretty (.object [("error", error)])) ++ "\n"
  else "Error: " ++ f.message ++ "\n"

end Failure

end LootLedger.Cli
