import LootLedger.Http.Status
import LootLedger.Text.Blank
import LootLedger.Text.Number

/-!
# Asking again

A request to a busy or unreachable service is repeated a limited number of times. The pause
before each repetition is what the service asks for, else twice the pause before it, and in any
case at most a fixed longest pause. All of it is reckoned in machine words: a product too large
for a word becomes the largest word, so a pause never wraps around.

The loop knows nothing of how a request is sent and how time passes. Both are given to it, so the
same loop runs against a service, against recorded outcomes and in a proof.

## Main definitions

* `Http.Response`, `Http.Outcome`, `Http.Outcome.isRetryable`
* `Http.RetryPolicy`, `Http.RetryPolicy.pause`
* `Http.RetryPolicy.settle`: the outcome that decides
-/

namespace LootLedger.Http

open Text (Chars)

/-! ### Outcomes -/

/-- A reply of a service. -/
structure Response where
  status : Nat
  /-- Names and values as they were sent. -/
  headers : List (String × String) := []
  body : String := ""
  deriving Repr

namespace Response

/-- The text without spaces and tabs around it. -/
def trimHeader (s : Chars) : Chars :=
  let isPadding := fun c : Char => c == ' ' || c == '\t'
  ((s.dropWhile isPadding).reverse.dropWhile isPadding).reverse

/-- The value of a header. Names are told apart without regard to the case of letters. -/
def header? (r : Response) (name : String) : Option Chars :=
  (r.headers.find? fun h => Text.equalIgnoringCase h.1.toList name.toList).map
    fun h => trimHeader h.2.toList

/-- The number of seconds after which the service wants to be asked again. -/
def retryAfter? (r : Response) : Option UInt64 :=
  ((r.header? "retry-after").bind (Text.readNat? Text.max64)).map (·.toUInt64)

/-- The text that the reply carries. -/
def text (r : Response) : String :=
  if isBodiless r.status then "" else r.body

end Response

/-- Why a request got no reply. -/
inductive Failure
  /-- No connection came about, or it took too long. -/
  | unreachable
  /-- The request could not be sent: its address is not one of the web, or there is no end to where
  it is sent on to. A reply whose text cannot be read to its end is left out; a `Response` has all
  of its text. -/
  | broken
  deriving DecidableEq, Repr

/-- What came of a request. -/
inductive Outcome
  | response (r : Response)
  | failure (f : Failure)
  deriving Repr

namespace Outcome

/-- The same request may do better later. -/
def isRetryable : Outcome → Bool
  | .response r => isBusy r.status
  | .failure f => f == .unreachable

/-- The number of seconds after which the service wants to be asked again. -/
def retryAfter? : Outcome → Option UInt64
  | .response r => r.retryAfter?
  | .failure _ => none

end Outcome

/-! ### Pauses -/

/-- How often and after which pauses a request is repeated. Pauses are in seconds. -/
structure RetryPolicy where
  maxRetries : UInt32 := 3
  initialPause : UInt64 := 1
  longestPause : UInt64 := 30
  deriving DecidableEq, Repr

namespace RetryPolicy

/-- The policy that repeats no request. -/
def never : RetryPolicy := { maxRetries := 0 }

/-- The product of two words, or the largest word if it is too large for one. -/
def saturatingMul (a b : UInt64) : UInt64 :=
  if b ≠ 0 ∧ (18446744073709551615 : UInt64) / b < a then 18446744073709551615 else a * b

/-- The pause after the attempt with the given number, counted from zero. -/
def pause (policy : RetryPolicy) (attempt : UInt32) (retryAfter : Option UInt64) : UInt64 :=
  match retryAfter with
  | some seconds => min seconds policy.longestPause
  | none =>
    min (saturatingMul policy.initialPause (1 <<< (min attempt 32).toUInt64))
      policy.longestPause

end RetryPolicy

/-! ### The loop -/

/-- A pause between two requests. -/
structure Wait where
  /-- The number of the request before it, counted from zero. -/
  attempt : UInt32
  /-- What came of that request. -/
  after : Outcome
  seconds : UInt64
  deriving Repr

namespace RetryPolicy

/-- Sends requests until one is not worth repeating or `left` repetitions are used up. -/
def settleFrom [Monad m] (policy : RetryPolicy) (send : m Outcome) (wait : Wait → m Unit)
    (attempt : UInt32) : Nat → m Outcome
  | 0 => send
  | left + 1 => do
    let outcome ← send
    if outcome.isRetryable then
      wait {
        attempt, after := outcome
        seconds := policy.pause attempt outcome.retryAfter? }
      settleFrom policy send wait (attempt + 1) left
    else
      return outcome

/-- **The outcome that decides.** It is the first one that is not worth repeating, or the one of
the last request that the policy allows. -/
def settle [Monad m] (policy : RetryPolicy) (send : m Outcome) (wait : Wait → m Unit) :
    m Outcome :=
  policy.settleFrom send wait 0 policy.maxRetries.toNat

end RetryPolicy

end LootLedger.Http
