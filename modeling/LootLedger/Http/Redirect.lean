import LootLedger.Http.Retry
import LootLedger.Http.Url

/-!
# Moved resources

A service may answer that what it was asked for is elsewhere, and where. The place is an address
of its own or one told from where the request went: on the same service, or next to what was
asked for. A client asks there in turn, a limited number of times, so two services that send it to
each other do not hold it for ever.

## Main definitions

* `Url.join?`: the address that a text denotes where another address is known
* `Http.Response.movedTo?`
* `Http.askAround`: what comes of a request that is sent on

## Main statements

* `Http.Response.movedTo?_of_isSuccess`, `Http.Response.movedTo?_of_isBusy`: neither a success
  nor a reply that puts a request off sends it on
-/

namespace LootLedger

open Text (Chars)

/-! ### Addresses told from another -/

namespace Url

open Http

/-- The part of a path up to its last slash. -/
def parentPath (path : Chars) : Chars :=
  (path.reverse.dropWhile (· != '/')).reverse

/-- The address that a text without a scheme denotes, told from an address of the web. -/
def relative? (base : Url) (s : Chars) : Except UrlError Url :=
  let kind := SchemeKind.ofScheme base.scheme
  match (s.takeWhile kind.isSlash).length with
  | 0 =>
    if (s.takeWhile fun c => c != '?' && c != '#') = [] then
      let url := ofParts base.scheme base.authority (fun _ => base.path) s
      let hasQuery := (splitAtMark '#' s).1 != []
      .ok { url with query := if hasQuery then url.query else base.query }
    else
      .ok (ofParts base.scheme base.authority
        (fun path => kind.pathText (parentPath base.path ++ path)) s)
  | 1 => .ok (ofParts base.scheme base.authority kind.pathText s)
  | _ => parse? (base.scheme ++ ':' :: s)

/-- The address that a text denotes, told from an address of the web where it is not written out.
The scheme may be written even then, so long as no two slashes follow it. -/
def join? (base : Url) (text : Chars) : Except UrlError Url :=
  let s := cleaned text
  match splitScheme? s with
  | none => base.relative? s
  | some (scheme, rest) =>
    let slashes := rest.takeWhile (SchemeKind.ofScheme scheme).isSlash
    if scheme = base.scheme ∧ slashes.length < 2 then base.relative? rest else parse? s

end Url

namespace Http

/-! ### Being sent on -/

/-- What is asked for may be found elsewhere. -/
def isMoved (status : Nat) : Bool :=
  [301, 302, 303, 307, 308].contains status

/-- The status of a moved resource is one of five. -/
theorem isMoved_iff {status : Nat} :
    isMoved status = true ↔ status = 301 ∨ status = 302 ∨ status = 303 ∨ status = 307 ∨
      status = 308 := by
  simp [isMoved]

namespace Response

/-- Where the reply to a request sends it on to. A reply that does not say so clearly is taken as
it is. -/
def movedTo? (r : Response) (url : Url) : Option Url :=
  if isMoved r.status then
    (r.header? "location").bind fun place =>
      (url.join? place).toOption.filter Url.isWritable
  else none

/-- A success does not send a request on. -/
theorem movedTo?_of_isSuccess {r : Response} (url : Url) (h : isSuccess r.status = true) :
    r.movedTo? url = none := by
  have hs : ¬ isMoved r.status = true := by
    simp only [isSuccess, Bool.and_eq_true, decide_eq_true_eq] at h
    rw [isMoved_iff]
    omega
  rw [movedTo?, if_neg hs]

/-- A service that puts a request off does not send it on. -/
theorem movedTo?_of_isBusy {r : Response} (url : Url) (h : isBusy r.status = true) :
    r.movedTo? url = none := by
  have hs : ¬ isMoved r.status = true := by
    simp only [isBusy, isServerError, tooManyRequests, Bool.or_eq_true, beq_iff_eq,
      Bool.and_eq_true, decide_eq_true_eq] at h
    rw [isMoved_iff]
    omega
  rw [movedTo?, if_neg hs]

end Response

/-- Where an outcome sends a request on to. -/
def Outcome.movedTo? (o : Outcome) (url : Url) : Option Url :=
  match o with
  | .response r => r.movedTo? url
  | .failure _ => none

/-- What comes of a request that is sent on at most `left` times. One that is sent on once more
than that, or to where nothing can be asked, gets no reply. -/
def askAround [Monad m] (send : Url → m Outcome) : (left : Nat) → (url : Url) → m Outcome
  | 0, url => do
    let outcome ← send url
    return if (outcome.movedTo? url).isSome then .failure .broken else outcome
  | left + 1, url => do
    let outcome ← send url
    match outcome.movedTo? url with
    | none => return outcome
    | some next => if next.isWeb then askAround send left next else return .failure .broken

/-- How often a client lets a request be sent on. -/
def usualMoves : Nat := 10

end Http

end LootLedger
