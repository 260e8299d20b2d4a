import LootLedger.Http.Retry
import LootLedger.Http.Url
import LootLedger.Json.Reader
import LootLedger.Price.Document

/-!
# Fetching snapshots

A market service answers a league and a date with the price table of that day. The reply is a
document of values by section; that it belongs to the date asked for is taken on trust. What goes
wrong is reported by its cause: a reply that is an error, a service that has no such table, one
that is asked too often, an address that is none, no reply at all, or a reply that is no table.

## Main definitions

* `Http.SnapshotService`, `Http.SnapshotService.address?`, `Http.SnapshotService.fetch`
* `Http.FetchError`, `Http.FetchError.message`, `Http.FetchError.isRetryable`
* `Http.tableOf?`: what an outcome says about the table of a day
-/

namespace LootLedger.Http

open Text (Chars)

/-! ### Errors -/

/-- An answer of the service that is no table, or an address at which nothing can be asked. -/
inductive ServiceError
  | status (code : Nat) (message : String)
  | rateLimited (retryAfter : Option UInt64)
  | noSnapshot (league date : String)
  | network (message : String)
  deriving DecidableEq, Repr

namespace ServiceError

/-- The wording of a service error. -/
def message : ServiceError → String
  | .status code message => s!"HTTP error {code}: {message}"
  | .rateLimited none => "rate limited"
  | .rateLimited (some seconds) => s!"rate limited, retry after {seconds.toNat} seconds"
  | .noSnapshot league date => s!"no snapshot for league '{league}' on {date}"
  | .network message => s!"network error: {message}"

/-- The same request may succeed later. -/
def isRetryable : ServiceError → Bool
  | .status code _ => 500 ≤ code
  | .rateLimited _ | .network _ => true
  | .noSnapshot _ _ => false

/-- The exit status of a command that ends with the error. -/
def exitCode : ServiceError → Nat
  | .network _ => 3
  | .rateLimited _ => 4
  | .status _ _ | .noSnapshot _ _ => 2

end ServiceError

/-- Why there is no table. -/
inductive FetchError
  | service (e : ServiceError)
  /-- There was no reply from the address. -/
  | transport (f : Failure) (url : Url)
  /-- The reply is no table. -/
  | invalidSnapshot
  deriving DecidableEq, Repr

namespace FetchError

/-- What is said of a request that got no reply. -/
def transportMessage (url : Url) : String :=
  s!"error sending request for url ({String.ofList url.withoutUser.text})"

/-- The wording of a fetch error. -/
def message : FetchError → String
  | .service e => e.message
  | .transport _ url => s!"request failed: {transportMessage url}"
  | .invalidSnapshot => "invalid snapshot: not a table of values by category and identifier"

/-- The same request may succeed later. -/
def isRetryable : FetchError → Bool
  | .service e => e.isRetryable
  | .transport f _ => f == .unreachable
  | .invalidSnapshot => false

end FetchError

/-! ### Requests -/

/-- A service that is asked for snapshots. -/
structure SnapshotService where
  /-- The address of the service, without slashes at its end. -/
  baseUrl : String
  policy : RetryPolicy := {}
  deriving DecidableEq, Repr

namespace SnapshotService

/-- The address of the service that is asked unless another one is configured. -/
def usualBaseUrl : String := "https://rates.lootlog.dev/api/v1"

/-- The service at an address. Slashes at its end make no difference. -/
def ofUrl (url : String) (policy : RetryPolicy := {}) : SnapshotService :=
  { baseUrl := String.ofList (url.toList.reverse.dropWhile (· == '/')).reverse, policy }

/-- The service that is asked unless another one is configured. -/
def usual : SnapshotService := ofUrl usualBaseUrl

/-- Where the table of a league and a date is asked for. -/
def address? (service : SnapshotService) (league : String) (date : Date) :
    Except UrlError Url := do
  let url ← Url.parse? (service.baseUrl ++ "/rates").toList
  return url.withPairs [("league".toList, league.toList), ("date".toList, date.text)]

end SnapshotService

/-! ### Replies -/

/-- The error that a reply without success stands for. -/
def Response.error (r : Response) (league : String) (date : Date) : ServiceError :=
  if r.status = notFound then .noSnapshot league (String.ofList date.text)
  else if r.status = tooManyRequests then .rateLimited r.retryAfter?
  else if r.text = "" then .status r.status ((reason? r.status).getD "Unknown error")
  else .status r.status r.text

/-- What an outcome says about the table of a league and a date. -/
def tableOf? (url : Url) (league : String) (date : Date) :
    Outcome → Except FetchError (PriceTable Float)
  | .failure f => .error (.transport f url)
  | .response r =>
    if isSuccess r.status then
      match (Json.parse? r.text.toList).bind PriceTable.sections? with
      | some sections => .ok { date, sections }
      | none => .error .invalidSnapshot
    else .error (.service (r.error league date))

/-- The table of a league and a date, asked for as often as the policy of the service allows.
An address at which nothing can be asked is not asked. -/
def SnapshotService.fetch [Monad m] (service : SnapshotService) (send : Url → m Outcome)
    (wait : Url → Wait → m Unit) (league : String) (date : Date) :
    m (Except FetchError (PriceTable Float)) :=
  match service.address? league date with
  | .error e => return .error (.service (.network s!"invalid snapshot URL: {e.message}"))
  | .ok url => do
    let ask := if url.isWeb then send url else pure (.failure .broken)
    return tableOf? url league date (← service.policy.settle ask (wait url))

end LootLedger.Http
