import LootLedger.Text.Number

/-!
# Schemes

What an address starts with. The scheme decides how the rest is to be read: the schemes of the
web, for which a host must be named; files, for which one may be named; and all others, of which
nothing is known but how they are written.

## Main definitions

* `Http.splitScheme?`
* `Http.SchemeKind`, `Http.SchemeKind.ofScheme`
-/

namespace LootLedger.Http

open Text (Chars)

/-- How the rest of an address is to be read. -/
inductive SchemeKind
  /-- Something is asked of a host, at a port of the scheme unless another one is named. -/
  | network (usualPort : Nat)
  | file
  | other
  deriving DecidableEq, Repr

namespace SchemeKind

/-- How an address with a scheme is to be read. -/
def ofScheme (scheme : Chars) : SchemeKind :=
  if scheme = "http".toList ∨ scheme = "ws".toList then .network 80
  else if scheme = "https".toList ∨ scheme = "wss".toList then .network 443
  else if scheme = "ftp".toList then .network 21
  else if scheme = "file".toList then .file
  else .other

/-- The port of a scheme that need not be named. -/
def usualPort? : SchemeKind → Option Nat
  | .network port => some port
  | .file | .other => none

/-- A character that separates the parts of a path. A backslash does so where it is known to be
none of the letters. -/
def isSlash (kind : SchemeKind) (c : Char) : Bool :=
  c == '/' || (c == '\\' && kind != .other)

/-- A character that ends the name of a host. -/
def endsHost (kind : SchemeKind) (c : Char) : Bool :=
  kind.isSlash c || c == '?' || c == '#'

end SchemeKind

/-- The scheme in lower case and what follows its colon. -/
def splitScheme? (s : Chars) : Option (Chars × Chars) :=
  match s with
  | [] => none
  | c :: _ =>
    if c.isAlpha then
      let isSchemeChar := fun c : Char => c.isAlphanum || c == '+' || c == '-' || c == '.'
      match s.dropWhile isSchemeChar with
      | ':' :: rest => some (Text.lowerAscii (s.takeWhile isSchemeChar), rest)
      | _ => none
    else none

end LootLedger.Http
