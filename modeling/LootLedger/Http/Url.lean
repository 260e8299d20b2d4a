import LootLedger.Http.Authority
import LootLedger.Http.Path

/-!
# Addresses

The address of a service, read the way browsers read one: leniently about blanks, slashes and
letters of either case, strictly about the host and the port. Addresses of any scheme are read,
but only those of the web can be asked anything. Of a scheme that nothing is known of, an address
may also be a text without a host and a path, such as a mail address.

## Main definitions

* `Url`, `Url.parse?`, `Url.text`
* `Url.withPairs`: the address with form fields added to its query
* `Url.target`: what the request line asks for
* `Url.isWeb`: requests can be sent to the address
-/

namespace LootLedger

open Text (Chars)

/-- An address. -/
structure Url where
  scheme : Chars
  authority : Option Http.Authority
  path : Chars
  query : Option Chars := none
  fragment : Option Chars := none
  deriving DecidableEq, Repr

namespace Url

open Http

/-! ### Reading -/

/-- The part before a marker and the part after it, if it occurs. -/
def splitAtMark (mark : Char) (s : Chars) : Chars × Option Chars :=
  match s.dropWhile (· != mark) with
  | [] => (s.takeWhile (· != mark), none)
  | _ :: rest => (s.takeWhile (· != mark), some rest)

/-- The text without the blanks and controls around it and without line breaks and tabs. -/
def cleaned (s : Chars) : Chars :=
  let isOuter := fun c : Char => decide (c.toNat ≤ 0x20)
  let inner := ((s.dropWhile isOuter).reverse.dropWhile isOuter).reverse
  inner.filter fun c => c != '\t' && c != '\n' && c != '\r'

/-- Escaped in queries. -/
def isEscapedInQuery (kind : SchemeKind) (c : Char) : Bool :=
  isForeign c || " \"#<>".toList.contains c || (c == '\'' && kind != .other)

/-- Escaped in fragments. -/
def isEscapedInFragment (c : Char) : Bool :=
  isForeign c || " \"<>`".toList.contains c

/-- The address of a scheme and an authority that the rest of a text completes, given how its
path is written. -/
def ofParts (scheme : Chars) (authority : Option Authority) (pathText : Chars → Chars)
    (s : Chars) : Url :=
  let (rest, fragment) := splitAtMark '#' s
  let (path, query) := splitAtMark '?' rest
  { scheme, authority, path := pathText path
    query := query.map (escapeWhere (isEscapedInQuery (.ofScheme scheme)))
    fragment := fragment.map (escapeWhere isEscapedInFragment) }

/-- The address of a file, given its path from the root. The host is left out before a path that
starts at a drive. -/
def ofFile (host : Chars) (s : Chars) : Url :=
  let path := filePath (SchemeKind.file.segments (s.takeWhile fun c => c != '?' && c != '#'))
  ofParts "file".toList (some { host := if path.2 then [] else host }) (fun _ => path.1) s

/-- The address of a file, given what follows two slashes: a host, unless there is a drive or
nothing in its place. The local host need not be named. -/
def onHost? (s : Chars) : Except UrlError Url := do
  let name := s.takeWhile fun c => !SchemeKind.file.endsHost c
  let path := s.dropWhile fun c => !SchemeKind.file.endsHost c
  if name = [] ∨ isDrive name then return ofFile [] ('/' :: s)
  else
    let host ← knownHost? name
    if host = "localhost".toList then return ofFile [] ('/' :: path) else return ofFile host path

/-- The address of a file, given what follows the scheme. -/
def fileUrl? : Chars → Except UrlError Url
  | a :: b :: s =>
    if SchemeKind.file.isSlash a && SchemeKind.file.isSlash b then onHost? s
    else .ok (ofFile [] (a :: b :: s))
  | s => .ok (ofFile [] s)

/-- The address that a text denotes. -/
def parse? (s : Chars) : Except UrlError Url := do
  match splitScheme? (cleaned s) with
  | none => .error .noScheme
  | some (scheme, rest) =>
    let kind := SchemeKind.ofScheme scheme
    match kind with
    | .file => fileUrl? rest
    | .network _ =>
      let (authority, rest) ← Authority.parse? kind (rest.dropWhile kind.isSlash)
      return ofParts scheme (some authority) kind.pathText rest
    | .other =>
      match rest with
      | '/' :: '/' :: rest =>
        let (authority, rest) ← Authority.parse? kind rest
        let pathText (path : Chars) := if path = [] then [] else kind.pathText path
        return ofParts scheme (some authority) pathText rest
      | '/' :: _ => return ofParts scheme none kind.pathText rest
      | _ => return ofParts scheme none (escapeWhere isForeign) rest

/-! ### Changing -/

/-- The address with form fields added to its query. -/
def withPairs (url : Url) (pairs : List (Chars × Chars)) : Url :=
  let query := match url.query with
    | none | some [] => formPairs pairs
    | some query => query ++ '&' :: formPairs pairs
  { url with query := some query }

/-- The address without a user name and a password. -/
def withoutUser (url : Url) : Url :=
  { url with authority := url.authority.map ({ · with user := [] }) }

/-! ### Writing -/

/-- What a request line asks for. -/
def target (url : Url) : Chars :=
  match url.query with
  | some query => url.path ++ '?' :: query
  | none => url.path

/-- The written form of an address. Without an authority, a path may not look like one, so a step
to here comes before two slashes. -/
def text (url : Url) : Chars :=
  let start := match url.authority with
    | some a => "//".toList ++ a.text
    | none => if Text.startsWith "//".toList url.path then "/.".toList else []
  let fragment := match url.fragment with
    | some f => '#' :: f
    | none => []
  url.scheme ++ ':' :: start ++ url.target ++ fragment

/-! ### Asking -/

/-- Not to be written in the host of a request. -/
def isUnaskable (c : Char) : Bool :=
  "\"`{}".toList.contains c

/-- The greatest length of an address in a request. -/
def askableLength : Nat := 65534

/-- The address can be written down in a request. -/
def isWritable (url : Url) : Bool :=
  (url.authority.any fun a => !a.host.any isUnaskable) &&
    url.withoutUser.text.length ≤ askableLength

/-- Requests can be sent to the address. -/
def isWeb (url : Url) : Bool :=
  (url.scheme == "http".toList || url.scheme == "https".toList) && url.isWritable

/-- The two addresses name the same service. -/
def sameOrigin (a b : Url) : Bool :=
  a.scheme == b.scheme && (a.authority.map ({ · with user := [] })) ==
    (b.authority.map ({ · with user := [] }))

end Url

end LootLedger
