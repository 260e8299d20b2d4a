import LootLedger.HostName.Basic
import LootLedger.Http.Address
import LootLedger.Http.Escape
import LootLedger.Http.Scheme

/-!
# Whom an address names

The part of an address that names a host, perhaps with a port and a user. It is read strictly: a
host that cannot be one makes the whole text no address.

## Main definitions

* `Http.UrlError`, `Http.UrlError.message`
* `Http.Authority`, `Http.Authority.parse?`
* `Http.knownHost?`, `Http.otherHost?`: hosts of known schemes and of others
-/

namespace LootLedger.Http

open Text (Chars)

/-- Why a text is no address. -/
inductive UrlError
  | noScheme
  | emptyHost
  | invalidPort
  | invalidHost
  | invalidHostCharacter
  | invalidIpv4
  | invalidIpv6
  deriving DecidableEq, Repr

/-- The wording of an address error. -/
def UrlError.message : UrlError → String
  | .noScheme => "relative URL without a base"
  | .emptyHost => "empty host"
  | .invalidPort => "invalid port number"
  | .invalidHost => "invalid international domain name"
  | .invalidHostCharacter => "invalid domain character"
  | .invalidIpv4 => "invalid IPv4 address"
  | .invalidIpv6 => "invalid IPv6 address"

/-- Whom an address names. -/
structure Authority where
  /-- A user name and a password, escaped, with the sign that ends them. -/
  user : Chars := []
  host : Chars
  /-- The port, if it is not the usual one of the scheme. -/
  port : Option Nat := none
  deriving DecidableEq, Repr

/-! ### Users -/

/-- What stands before the last `@`, if there is one, and what follows it. -/
def splitUser : Chars → Option Chars × Chars
  | [] => (none, [])
  | c :: s =>
    match splitUser s with
    | (some user, host) => (some (c :: user), host)
    | (none, host) => if c = '@' then (some [], host) else (none, c :: host)

/-- Escaped in user names and passwords. -/
def isEscapedInUser (c : Char) : Bool :=
  isForeign c || " \"#<>?`{}/:;=@[\\]^|".toList.contains c

/-- A user name and a password in their written form, nothing if both are empty. -/
def userText (user : Chars) : Chars :=
  let name := escapeWhere isEscapedInUser (user.takeWhile (· != ':'))
  let password := escapeWhere isEscapedInUser ((user.dropWhile (· != ':')).drop 1)
  if name = [] ∧ password = [] then []
  else if password = [] then name ++ ['@']
  else name ++ ':' :: password ++ ['@']

/-! ### Hosts -/

/-- The host and what follows it from its colon on. A colon inside brackets is part of the host. -/
def splitPort (isInside : Bool) : Chars → Chars × Chars
  | [] => ([], [])
  | c :: s =>
    if c = ':' ∧ !isInside then ([], c :: s)
    else
      let (host, port) := splitPort (c == '[' || (isInside && c != ']')) s
      (c :: host, port)

/-- The host that a text in brackets denotes. -/
def bracketedHost? (s : Chars) : Except UrlError Chars :=
  let groups := if s.getLast? = some ']' then ipv6? (s.drop 1).dropLast else none
  match groups with
  | some groups => .ok ('[' :: ipv6Text groups ++ [']'])
  | none => .error .invalidIpv6

/-- The host of a known scheme in its usual form. -/
def knownHost? (s : Chars) : Except UrlError Chars :=
  if s.head? = some '[' then bracketedHost? s
  else
    let written := if s.contains '%' then unescape? s else some s
    match written.bind HostName.toAscii? with
    | none => .error .invalidHost
    | some [] => .error .emptyHost
    | some host =>
      if endsInNumber host then
        match ipv4? host with
        | some address => .ok address
        | none => .error .invalidIpv4
      else .ok host

/-- May not occur in the host of a scheme that nothing is known of. -/
def isForbiddenInOther (c : Char) : Bool :=
  "\x00\t\n\r #/:<>?@[\\]^|".toList.contains c

/-- The host of a scheme that nothing is known of, which may be empty. -/
def otherHost? (s : Chars) : Except UrlError Chars :=
  if s.head? = some '[' then bracketedHost? s
  else if s.any isForbiddenInOther then .error .invalidHostCharacter
  else .ok (escapeWhere isForeign s)

/-! ### Ports -/

/-- The port that the text after a colon names, none if it is empty or the usual one. -/
def port? (usual : Option Nat) (s : Chars) : Except UrlError (Option Nat) :=
  if s = [] then .ok none
  else
    match (Text.readDigits? s).filter (· < Nat.pow 2 16) with
    | some n => .ok (if some n = usual then none else some n)
    | none => .error .invalidPort

/-! ### Reading and writing -/

namespace Authority

/-- The authority that a text starts with, and what follows it. A port ends before a backslash,
whatever the scheme. -/
def parse? (kind : SchemeKind) (s : Chars) : Except UrlError (Authority × Chars) := do
  let rest := s.dropWhile fun c => !kind.endsHost c
  let (user, named) := splitUser (s.takeWhile fun c => !kind.endsHost c)
  let (hostText, portText) := splitPort false named
  let user' := userText (user.getD [])
  if user = some [] ∧ named = [] ∧ rest ≠ [] then throw .emptyHost
  if hostText = [] ∧ (kind ≠ .other ∨ user' ≠ [] ∨ portText ≠ []) then throw .emptyHost
  let host ← if kind = .other then otherHost? hostText else knownHost? hostText
  let port ← port? kind.usualPort? ((portText.drop 1).takeWhile (· != '\\'))
  return ({ user := user', host, port }, (portText.drop 1).dropWhile (· != '\\') ++ rest)

/-- The written form of an authority. -/
def text (a : Authority) : Chars :=
  let port := match a.port with
    | some n => ':' :: Text.digits n
    | none => []
  a.user ++ a.host ++ port

end Authority

end LootLedger.Http
