import LootLedger.Text.Hexadecimal
import LootLedger.Text.Number
import LootLedger.Text.Split

/-!
# Numeric hosts

A host can be given by its address instead of a name. A host whose last label is a number is an IPv4
address, and there are many ways to write one: with fewer than four numbers, of which the last then
fills more bytes, and with numbers to base 8, 10 or 16. All of them are read here; only one is
written.

An IPv6 address is eight numbers of 16 bits, in hexadecimal digits with colons between them. Two
colons stand for as many zeros as are missing, once and for one of them at least. The last two
numbers may be written as the four bytes of an IPv4 address.

## Main definitions

* `Http.endsInNumber`: the host is meant as an address of four bytes
* `Http.ipv4?`, `Http.ipv4Text`
* `Http.ipv6?`: the groups that a text denotes
* `Http.ipv6Text`: the groups with the longest run of zeros left out

## Main statements

* `Http.length_ipv6?`: there are eight groups
-/

namespace LootLedger.Http

open Text (Chars)

/-! ### Four bytes -/

/-- A numeral in an IPv4 address: hexadecimal after `0x`, octal after `0`, else decimal. -/
def ipv4Number? (s : Chars) : Option Nat :=
  let digits (base : Nat) (s : Chars) : Option Nat :=
    s.foldlM (fun n c => do
      let d ← Text.hexValue? c
      if d < base then some (n * base + d) else none) 0
  match s with
  | [] => none
  | '0' :: 'x' :: rest => digits 16 rest
  | '0' :: 'X' :: rest => digits 16 rest
  | '0' :: c :: rest => digits 8 (c :: rest)
  | _ => digits 10 s

/-- The labels of a host name, without an empty one at the end. -/
def hostLabels (host : Chars) : List Chars :=
  let labels := Text.splitAtChar '.' host
  if labels.getLast? = some [] then labels.dropLast else labels

/-- The host is meant as a number. -/
def endsInNumber (host : Chars) : Bool :=
  match (hostLabels host).getLast? with
  | some last => last ≠ [] && (last.all Text.isDigit || (ipv4Number? last).isSome)
  | none => false

/-- The four bytes of an IPv4 address, in their usual form. -/
def ipv4Text (n : Nat) : Chars :=
  Text.joinWith '.' ([16777216, 65536, 256, 1].map fun unit => Text.digits (n / unit % 256))

/-- The address that a numeric host denotes: every number but the last is a byte, and the last
fills the bytes that are left. -/
def ipv4? (host : Chars) : Option Chars := do
  let numbers ← (hostLabels host).mapM ipv4Number?
  let last ← numbers.getLast?
  let bytes := numbers.dropLast
  let room := Nat.pow 256 (4 - bytes.length)
  if bytes.length ≤ 3 ∧ bytes.all (· < 256) ∧ last < room then
    return ipv4Text (bytes.foldl (fun n b => 256 * n + b) 0 * room + last)
  else none

/-! ### Eight groups, read -/

/-- The number that one to four hexadecimal digits denote. -/
def group? (s : Chars) : Option Nat :=
  if s ≠ [] ∧ s.length ≤ 4 then Text.ofHexDigits? s else none

/-- The byte that a decimal numeral without leading zeros denotes. -/
def byte? (s : Chars) : Option Nat :=
  if s.head? = some '0' ∧ s ≠ ['0'] then none
  else (Text.readDigits? s).filter (· < 256)

/-- The two groups that the four bytes of an IPv4 address fill. -/
def groupsOfBytes? (s : Chars) : Option (List Nat) := do
  match ← (Text.splitAtChar '.' s).mapM byte? with
  | [a, b, c, d] => some [256 * a + b, 256 * c + d]
  | _ => none

/-- The groups that colons separate, the last of which may be four bytes. -/
def groups? : List Chars → Option (List Nat)
  | [] => some []
  | [last] => if last.contains '.' then groupsOfBytes? last else (group? last).map ([·])
  | s :: t :: rest => do return (← group? s) :: (← groups? (t :: rest))

/-- The groups of a part of an address, which may be empty. -/
def groupsOf? (s : Chars) : Option (List Nat) :=
  if s = [] then some [] else groups? (Text.splitAtChar ':' s)

/-- The number of groups of an address. -/
def groupCount : Nat := 8

/-- The groups that a text denotes. Bytes of an IPv4 address come last, so none stand before two
colons. -/
def ipv6? (s : Chars) : Option (List Nat) :=
  match Text.splitOnce? [':', ':'] s with
  | none => (groupsOf? s).filter (·.length = groupCount)
  | some (before, after) => do
    if before.contains '.' then none
    else
      let front ← groupsOf? before
      let back ← groupsOf? after
      if front.length + back.length < groupCount then
        some (front ++ List.replicate (groupCount - front.length - back.length) 0 ++ back)
      else none

/-- An address has eight groups. -/
theorem length_ipv6? {s : Chars} {groups : List Nat} (h : ipv6? s = some groups) :
    groups.length = groupCount := by
  unfold ipv6? at h
  split at h
  · simpa using (Option.filter_eq_some_iff.1 h).2
  · next before after _ =>
    split at h
    · cases h
    · cases hf : groupsOf? before with
      | none => simp [hf] at h
      | some front =>
        cases hb : groupsOf? after with
        | none => simp [hf, hb] at h
        | some back =>
          simp only [hf, hb, Option.bind_eq_bind, Option.bind_some] at h
          split at h
          · cases h
            simp only [List.length_append, List.length_replicate]
            omega
          · cases h

/-! ### Eight groups, written -/

/-- Groups with colons between them. -/
def groupsText (groups : List Nat) : Chars :=
  Text.joinWith ':' (groups.map Text.hexNumeral)

/-- The number of zeros that groups start with. -/
def leadingZeros (groups : List Nat) : Nat :=
  (groups.takeWhile (· == 0)).length

/-- The length of the longest run of zeros. -/
def longestZeros : List Nat → Nat
  | [] => 0
  | g :: rest => max (leadingZeros (g :: rest)) (longestZeros rest)

/-- Groups with two colons in place of the first run of as many zeros. -/
def shortened (zeros : Nat) (before : List Nat) : List Nat → Chars
  | [] => groupsText before.reverse
  | g :: rest =>
    if leadingZeros (g :: rest) = zeros then
      groupsText before.reverse ++ "::".toList ++ groupsText ((g :: rest).drop zeros)
    else shortened zeros (g :: before) rest

/-- The written form of an address: the first of the longest runs of zeros is left out, but not a
single zero. -/
def ipv6Text (groups : List Nat) : Chars :=
  let zeros := longestZeros groups
  if zeros < 2 then groupsText groups else shortened zeros [] groups

end LootLedger.Http
