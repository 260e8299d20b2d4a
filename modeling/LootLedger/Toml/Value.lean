import LootLedger.Text.Blank

/-!
# TOML values

Settings files are tables of named values. A table comes into being in one of three ways, and the
way decides what may still be added to it: a table that was written out is complete, one that a
header merely passed through may still get a header of its own, and one that grew out of a dotted
key may still grow by dotted keys.

## Main definitions

* `Toml`: a value
* `Toml.Standing`: how a table came into being
* `Toml.within`: the entries of a table, changed at the end of a path of keys
-/

namespace LootLedger

open Text (Chars)

namespace Toml

/-- How a table came into being. -/
inductive Standing
  /-- Written out, by a header or between braces. -/
  | whole
  /-- Passed through by a header on the way to a table below it. -/
  | implied
  /-- Grown out of a dotted key. -/
  | dotted
  deriving DecidableEq, Repr

end Toml

/-- A value of a settings file. -/
inductive Toml
  | text (s : String)
  | int (n : Int)
  | bool (b : Bool)
  /-- A number with a fraction or an exponent, as it is written. -/
  | float (s : Chars)
  /-- A date, a time or both, as they are written. -/
  | moment (s : Chars)
  | array (xs : List Toml)
  | table (standing : Toml.Standing) (entries : List (String × Toml))
  /-- An array of tables that were written out one by one under a header. -/
  | tables (elements : List (List (String × Toml)))

namespace Toml

/-- The entries of a table. -/
abbrev Entries := List (String × Toml)

/-- The entries with the value of a key replaced. -/
def replace (key : String) (value : Toml) (entries : Entries) : Entries :=
  entries.map fun (k, v) => if k = key then (k, value) else (k, v)

/-- The entries changed at the end of a path of keys. Tables on the path that do not exist come
into being; a value on the path that is no table makes the path lead nowhere. By dotted keys one
gets into tables only that were not written out. -/
def within (byDots : Bool) : (path : List String) → (Standing → Entries → Option Entries) →
    Standing → Entries → Option Entries
  | [], change, standing, entries => change standing entries
  | key :: path, change, _, entries =>
    match entries.lookup key with
    | none => do
      let standing := if byDots then Standing.dotted else .implied
      let inner ← within byDots path change standing []
      return entries ++ [(key, .table standing inner)]
    | some (.table standing inner) =>
      if byDots ∧ standing = .whole then none
      else do
        let inner ← within byDots path change standing inner
        return replace key (.table standing inner) entries
    | some (.tables elements) => do
      let last ← elements.getLast?
      let last ← within byDots path change .whole last
      return replace key (.tables (elements.dropLast ++ [last])) entries
    | some _ => none

/-- The entries with one more value at the end of a path of keys. A key is given once, and a
dotted key does not add to a table that came into being in another way. -/
def insert (path : List String) (key : String) (value : Toml) (entries : Entries) :
    Option Entries :=
  within true path (fun standing entries =>
    if (standing = .dotted) = (path = []) then none
    else if (entries.lookup key).isSome then none
    else some (entries ++ [(key, value)])) .whole entries

/-- The entries with a table written out under a header. -/
def openTable (path : List String) (key : String) (entries : Entries) : Option Entries :=
  within false path (fun _ entries =>
    match entries.lookup key with
    | none => some (entries ++ [(key, .table .whole [])])
    | some (.table .implied inner) => some (replace key (.table .whole inner) entries)
    | some _ => none) .whole entries

/-- The entries with one more table in the array of tables under a header. -/
def openElement (path : List String) (key : String) (entries : Entries) : Option Entries :=
  within false path (fun _ entries =>
    match entries.lookup key with
    | none => some (entries ++ [(key, .tables [[]])])
    | some (.tables elements) => some (replace key (.tables (elements ++ [[]])) entries)
    | some _ => none) .whole entries

end Toml

end LootLedger
