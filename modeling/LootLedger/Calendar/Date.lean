import LootLedger.Text.Number
import LootLedger.Text.Split

/-!
# Calendar dates

Days of the proleptic Gregorian calendar, from year -262143 to 262142. A date carries the proof
that its day exists. Dates are compared by an ordinal that gives every month 32 numbers: it has
gaps, but it grows with the date and tells any two dates apart, which is all that an order needs.

## Main definitions

* `Date`, `Date.of?`, `Date.ordinal`
* `Date.next?`, `Date.previous?`: the neighbouring days
* `Date.text`, `Date.parse?`: `YYYY-MM-DD`, with the liberties that readers take
-/

namespace LootLedger

open Text (Chars)

/-- A leap year has a day more in February. -/
def isLeapYear (year : Int) : Bool :=
  year % 4 = 0 && (year % 100 ≠ 0 || year % 400 = 0)

/-- The number of days of a month, zero for a number that names no month. -/
def daysInMonth (year : Int) : Nat → Nat
  | 1 | 3 | 5 | 7 | 8 | 10 | 12 => 31
  | 4 | 6 | 9 | 11 => 30
  | 2 => if isLeapYear year then 29 else 28
  | _ => 0

theorem daysInMonth_le (year : Int) (month : Nat) : daysInMonth year month ≤ 31 := by
  unfold daysInMonth
  split <;> first | omega | (split <;> omega)

/-- The first year of the calendar. -/
def leastYear : Int := -262143

/-- The last year of the calendar. -/
def greatestYear : Int := 262142

/-- The three numbers name a day of the calendar. -/
def IsDay (year : Int) (month day : Nat) : Prop :=
  leastYear ≤ year ∧ year ≤ greatestYear ∧ 1 ≤ day ∧ day ≤ daysInMonth year month

instance (year : Int) (month day : Nat) : Decidable (IsDay year month day) :=
  inferInstanceAs (Decidable (_ ∧ _ ∧ _ ∧ _))

/-- A day of the calendar. -/
structure Date where
  year : Int
  month : Nat
  day : Nat
  isDay : IsDay year month day
  deriving DecidableEq

namespace Date

/-- The date with the given numbers, if there is one. -/
def of? (year : Int) (month day : Nat) : Option Date :=
  if h : IsDay year month day then some ⟨year, month, day, h⟩ else none

/-- The first of January 1970, which stands in where a date is needed and none is given. -/
def epoch : Date :=
  ⟨1970, 1, 1, by decide⟩

instance : Inhabited Date := ⟨epoch⟩

/-- A number that grows with the date. Every month takes 32 numbers. -/
def ordinal (d : Date) : Int :=
  (d.year * 13 + d.month) * 32 + d.day

instance : LE Date := ⟨fun a b => a.ordinal ≤ b.ordinal⟩

instance : LT Date := ⟨fun a b => a.ordinal < b.ordinal⟩

instance (a b : Date) : Decidable (a ≤ b) :=
  inferInstanceAs (Decidable (a.ordinal ≤ b.ordinal))

instance (a b : Date) : Decidable (a < b) :=
  inferInstanceAs (Decidable (a.ordinal < b.ordinal))

theorem le_def {a b : Date} : a ≤ b ↔ a.ordinal ≤ b.ordinal := Iff.rfl

theorem lt_def {a b : Date} : a < b ↔ a.ordinal < b.ordinal := Iff.rfl

theorem month_le (d : Date) : 1 ≤ d.month ∧ d.month ≤ 12 := by
  obtain ⟨y, m, dd, h⟩ := d
  simp only [IsDay] at h
  have h1 := h.2.2.1
  have h2 := h.2.2.2
  unfold daysInMonth at h2
  split at h2 <;> simp_all
  omega

/-- **The ordinal tells dates apart.** -/
theorem ordinal_injective {a b : Date} (h : a.ordinal = b.ordinal) : a = b := by
  have ha := a.month_le
  have hb := b.month_le
  have da := daysInMonth_le a.year a.month
  have db := daysInMonth_le b.year b.month
  obtain ⟨ya, ma, da', pa⟩ := a
  obtain ⟨yb, mb, db', pb⟩ := b
  simp only [IsDay] at pa pb
  simp only [ordinal] at h ha hb da db
  have hd : da' = db' := by omega
  have hm : ma = mb := by omega
  have hy : ya = yb := by omega
  subst hd hm hy
  rfl

/-- The day after; none after the last day of the calendar. -/
def next? (d : Date) : Option Date :=
  (of? d.year d.month (d.day + 1)).or <|
    (of? d.year (d.month + 1) 1).or (of? (d.year + 1) 1 1)

/-- The day before; none before the first day of the calendar. -/
def previous? (d : Date) : Option Date :=
  (of? d.year d.month (d.day - 1)).or <|
    (of? d.year (d.month - 1) (daysInMonth d.year (d.month - 1))).or (of? (d.year - 1) 12 31)

/-! ### Text -/

/-- A year is written with four digits; outside 0 to 9999 it has a sign, which counts towards
the width. -/
def yearText (year : Int) : Chars :=
  if 0 ≤ year ∧ year ≤ 9999 then Text.paddedDigits 4 year.toNat
  else (if year < 0 then '-' else '+') :: Text.paddedDigits 4 year.natAbs

/-- The date as `YYYY-MM-DD`. -/
def text (d : Date) : Chars :=
  yearText d.year ++ '-' :: Text.paddedDigits 2 d.month ++ '-' :: Text.paddedDigits 2 d.day

instance : ToString Date := ⟨fun d => String.ofList d.text⟩

/-- A number of one to `width` digits, after blanks. A numeral of digits beyond `width` is not
wrong: the digits left over belong to what follows. -/
def readNumber? (width : Nat) (s : Chars) : Option (Nat × Chars) :=
  let s := Text.trimLeft s
  let ds := (s.take width).takeWhile Text.isDigit
  if ds = [] then none else some (Text.ofDigits ds, s.drop ds.length)

/-- A year: one to four digits, or a sign and any number of digits. -/
def readYear? (s : Chars) : Option (Int × Chars) :=
  match Text.trimLeft s with
  | '-' :: rest => signed rest.length rest |>.map fun (n, r) => (-(n : Int), r)
  | '+' :: rest => signed rest.length rest |>.map fun (n, r) => ((n : Int), r)
  | rest => (readNumber? 4 rest).map fun (n, r) => ((n : Int), r)
where
  /-- Digits directly after a sign. -/
  signed (width : Nat) (s : Chars) : Option (Nat × Chars) :=
    let ds := (s.take width).takeWhile Text.isDigit
    if ds = [] then none else some (Text.ofDigits ds, s.drop ds.length)

/-- A date at the start of a text, and what follows it. Blanks may stand before each number and
before each dash. -/
def read? (s : Chars) : Option (Date × Chars) := do
  let (year, s) ← readYear? s
  let s ← Text.dropPrefix? ['-'] (Text.trimLeft s)
  let (month, s) ← readNumber? 2 s
  let s ← Text.dropPrefix? ['-'] (Text.trimLeft s)
  let (day, s) ← readNumber? 2 s
  return (← of? year month day, s)

/-- The date that a text holds, blanks at its end apart. -/
def parse? (s : Chars) : Option Date := do
  let (d, rest) ← read? s
  if Text.trimLeft rest = [] then some d else none

end Date

end LootLedger
