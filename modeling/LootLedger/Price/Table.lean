import LootLedger.Calendar.Date
import LootLedger.Entries
import LootLedger.Price.Section

/-!
# Price tables

A market snapshot of one day: values by section and identifier. What is not listed is worth
nothing, which is an ordinary answer and no failure. A history keeps one snapshot per date, in
ascending order of dates.

The tables do not care what a value is. Prices are reckoned in doubles where the program runs
and in exact numbers where one reasons about it; `Money` is what reckoning needs.

## Main definitions

* `Money`: reckoning with values
* `PriceTable`, `PriceTable.lookup?`, `PriceTable.value`, `PriceTable.insert`
* `PriceHistory`, `PriceHistory.insert`, `PriceHistory.tableAt?`
-/

namespace LootLedger

/-! ### Values -/

/-- Reckoning with values. -/
class Money (V : Type) where
  /-- The value of a number of units of account. -/
  units : Nat → V
  add : V → V → V
  mul : V → V → V
  half : V → V
  /-- The smaller of two values. -/
  lesser : V → V → V
  /-- The larger of two values. -/
  larger : V → V → V

instance : Money Float where
  units n := Float.ofNat n
  add x y := x + y
  mul x y := x * y
  half x := x / 2
  lesser x y := if y < x then y else x
  larger x y := if x < y then y else x

/-! ### Price tables -/

/-- The snapshot of a day. It says what is found under its keys and identifiers, and the order in
which these are listed means nothing. Here it is the order of insertion; a hash table in its place
would list and write them in an order of its own. -/
structure PriceTable (V : Type) where
  date : Date
  /-- Values by section key and identifier. -/
  sections : List (String × List (String × V)) := []
  deriving DecidableEq

namespace PriceTable

/-- The listed value of an identifier. -/
def lookup? (table : PriceTable V) (key identifier : String) : Option V := do
  (← table.sections.lookup key).lookup identifier

/-- The value of an identifier, nothing if it is not listed. -/
def value [Money V] (table : PriceTable V) (key identifier : String) : V :=
  (table.lookup? key identifier).getD (Money.units 0)

/-- The table has the section. -/
def hasSection (table : PriceTable V) (key : String) : Bool :=
  (table.sections.lookup key).isSome

/-- The table with one value set. -/
def insert (table : PriceTable V) (key identifier : String) (value : V) : PriceTable V :=
  let entries := (table.sections.lookup key).getD []
  { table with sections := put key (put identifier value entries) table.sections }

/-- The number of listed values. -/
def size (table : PriceTable V) : Nat :=
  (table.sections.flatMap (·.2)).length

end PriceTable

/-! ### Histories -/

/-- Snapshots by date, in ascending order, one per date. -/
structure PriceHistory (V : Type) where
  tables : List (Date × PriceTable V) := []
  deriving DecidableEq

namespace PriceHistory

/-- The entries with the one for a date set, in ascending order of dates. -/
def place (date : Date) (a : A) : List (Date × A) → List (Date × A)
  | [] => [(date, a)]
  | (d, b) :: rest =>
    if date = d then (date, a) :: rest
    else if date < d then (date, a) :: (d, b) :: rest
    else (d, b) :: place date a rest

/-- The history with one more snapshot, which replaces one of the same date. -/
def insert (history : PriceHistory V) (table : PriceTable V) : PriceHistory V :=
  { tables := place table.date table history.tables }

/-- The history with the given entries, later ones replacing earlier ones for the same date. -/
def ofEntries (entries : List (Date × PriceTable V)) : PriceHistory V :=
  { tables := entries.foldl (fun tables (date, table) => place date table tables) [] }

/-- The snapshot stored under the greatest date that is not after the given one. -/
def tableAt? (history : PriceHistory V) (date : Date) : Option (PriceTable V) :=
  ((history.tables.takeWhile fun entry => entry.1 ≤ date).getLast?).map (·.2)

/-- The snapshot of exactly one date. -/
def get? (history : PriceHistory V) (date : Date) : Option (PriceTable V) :=
  history.tables.lookup date

/-- The snapshots in order of their dates. -/
def toList (history : PriceHistory V) : List (PriceTable V) :=
  history.tables.map (·.2)

/-- The number of snapshots. -/
def size (history : PriceHistory V) : Nat :=
  history.tables.length

end PriceHistory

end LootLedger
