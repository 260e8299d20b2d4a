import LootLedger.Calendar.Date

/-!
# Instants

Points in time with nanosecond precision, in universal time. A minute may have a second numbered
60, so a leap second is an instant of its own, between second 59 and the next minute. As with
dates, the order goes by an ordinal.

## Main definitions

* `Instant`, `Instant.ordinal`
* `Instant.text`: the timestamp with as few fraction digits as are exact
* `Instant.parse?`: a timestamp with an offset, in the looser forms that people type
* `Instant.versionKey`: the calendar second as digits
-/

namespace LootLedger

open Text (Chars)

/-- A point in universal time. -/
structure Instant where
  date : Date
  hour : Nat
  minute : Nat
  second : Nat
  nanosecond : Nat
  hour_lt : hour < 24
  minute_lt : minute < 60
  second_le : second ≤ 60
  nanosecond_lt : nanosecond < 1000000000
  deriving DecidableEq

namespace Instant

/-- The instant with the given numbers, if there is one. -/
def of? (date : Date) (hour minute second nanosecond : Nat) : Option Instant :=
  if h : hour < 24 ∧ minute < 60 ∧ second ≤ 60 ∧ nanosecond < 1000000000 then
    some ⟨date, hour, minute, second, nanosecond, h.1, h.2.1, h.2.2.1, h.2.2.2⟩
  else none

/-- Midnight at the start of a date. -/
def midnight (date : Date) : Instant :=
  ⟨date, 0, 0, 0, 0, by decide, by decide, by decide, by decide⟩

instance : Inhabited Instant := ⟨midnight Date.epoch⟩

/-- A number that grows with the instant. -/
def ordinal (t : Instant) : Int :=
  (((t.date.ordinal * 24 + t.hour) * 60 + t.minute) * 61 + t.second) * 1000000000 + t.nanosecond

instance : LE Instant := ⟨fun a b => a.ordinal ≤ b.ordinal⟩

instance : LT Instant := ⟨fun a b => a.ordinal < b.ordinal⟩

instance (a b : Instant) : Decidable (a ≤ b) :=
  inferInstanceAs (Decidable (a.ordinal ≤ b.ordinal))

instance (a b : Instant) : Decidable (a < b) :=
  inferInstanceAs (Decidable (a.ordinal < b.ordinal))

theorem le_def {a b : Instant} : a ≤ b ↔ a.ordinal ≤ b.ordinal := Iff.rfl

theorem lt_def {a b : Instant} : a < b ↔ a.ordinal < b.ordinal := Iff.rfl

/-- **The ordinal tells instants apart.** -/
theorem ordinal_injective {a b : Instant} (h : a.ordinal = b.ordinal) : a = b := by
  obtain ⟨d, hr, mi, s, n, h1, h2, h3, h4⟩ := a
  obtain ⟨d', hr', mi', s', n', h1', h2', h3', h4'⟩ := b
  simp only [ordinal] at h
  have hn : n = n' := by omega
  have hs : s = s' := by omega
  have hm : mi = mi' := by omega
  have hh : hr = hr' := by omega
  have hd : d = d' := Date.ordinal_injective (by omega)
  subst hn hs hm hh hd
  rfl

/-! ### Writing -/

/-- The fraction of a second with three, six or nine digits, whichever is the first to be exact;
nothing for a whole second. -/
def fractionText (nanosecond : Nat) : Chars :=
  if nanosecond = 0 then []
  else if nanosecond % 1000000 = 0 then '.' :: Text.paddedDigits 3 (nanosecond / 1000000)
  else if nanosecond % 1000 = 0 then '.' :: Text.paddedDigits 6 (nanosecond / 1000)
  else '.' :: Text.paddedDigits 9 nanosecond

/-- The time of day, with seconds. -/
def timeText (t : Instant) : Chars :=
  Text.paddedDigits 2 t.hour ++ ':' :: Text.paddedDigits 2 t.minute ++
    ':' :: Text.paddedDigits 2 t.second

/-- The timestamp in universal time. -/
def text (t : Instant) : Chars :=
  t.date.text ++ 'T' :: t.timeText ++ fractionText t.nanosecond ++ ['Z']

/-- The date and time down to the minute, for tables. -/
def minuteText (t : Instant) : Chars :=
  t.date.text ++ ' ' :: Text.paddedDigits 2 t.hour ++ ':' :: Text.paddedDigits 2 t.minute

/-- The calendar second of an instant as digits. Saved documents are told apart by it, so two
that are saved within one second share a key. -/
def versionKey (t : Instant) : String :=
  String.ofList <|
    Date.yearText t.date.year ++ Text.paddedDigits 2 t.date.month ++
      Text.paddedDigits 2 t.date.day ++ Text.paddedDigits 2 t.hour ++
      Text.paddedDigits 2 t.minute ++ Text.paddedDigits 2 t.second

/-! ### Reading -/

/-- The fraction of a second after an optional point, in nanoseconds. Digits after the ninth are
dropped. -/
def readFraction? : Chars → Option (Nat × Chars)
  | '.' :: s =>
    let ds := (s.take 9).takeWhile Text.isDigit
    if ds = [] then none
    else
      let nanosecond := Text.ofDigits ds * Nat.pow 10 (9 - ds.length)
      some (nanosecond, (s.drop ds.length).dropWhile Text.isDigit)
  | s => some (0, s)

/-- A number of exactly two digits. -/
def readTwoDigits? : Chars → Option (Nat × Chars)
  | a :: b :: s =>
    if Text.isDigit a ∧ Text.isDigit b then some (Text.ofDigits [a, b], s) else none
  | _ => none

/-- An offset from universal time in minutes: `Z` or `UTC` in any case, or a sign, two digits of
hours and two of minutes with colons or blanks between them. -/
def readOffset? (s : Chars) : Option (Int × Chars) :=
  if Text.equalIgnoringCase (s.take 3) "UTC".toList then some (0, s.drop 3)
  else
    match s with
    | 'Z' :: s | 'z' :: s => some (0, s)
    | '+' :: s => numbers s
    | '-' :: s | '\u2212' :: s => (numbers s).map fun (n, s) => (-n, s)
    | _ => none
where
  /-- Hours and minutes, as minutes. -/
  numbers (s : Chars) : Option (Int × Chars) := do
    let (hours, s) ← readTwoDigits? s
    let (minutes, s) ← readTwoDigits? (s.dropWhile fun c => c = ':' || Text.isBlank c)
    if hours < 24 ∧ minutes < 60 then some (60 * hours + minutes, s) else none

/-- The instant whose local date and time at the given offset are these. -/
def ofLocal? (date : Date) (hour minute second nanosecond : Nat) (offset : Int) :
    Option Instant := do
  let total : Int := 60 * hour + minute - offset
  let date ← if total < 0 then date.previous? else if 1440 ≤ total then date.next? else some date
  let minutes := (total % 1440).toNat
  of? date (minutes / 60) (minutes % 60) second nanosecond

/-- The instant that a timestamp stands for. The mark between date and time is `T`, `t` or a
space; the numbers may lack leading zeros; the offset may not be left out. -/
def parse? (s : Chars) : Option Instant := do
  let (date, s) ← Date.read? s
  let s ← match s with
    | 'T' :: s | 't' :: s | ' ' :: s => some s
    | _ => none
  let (hour, s) ← Date.readNumber? 2 s
  let s ← Text.dropPrefix? [':'] (Text.trimLeft s)
  let (minute, s) ← Date.readNumber? 2 s
  let s ← Text.dropPrefix? [':'] (Text.trimLeft s)
  let (second, s) ← Date.readNumber? 2 s
  let (nanosecond, s) ← readFraction? s
  let (offset, s) ← readOffset? (Text.trimLeft s)
  if Text.trimLeft s = [] ∧ hour < 24 ∧ minute < 60 ∧ second ≤ 60 then
    ofLocal? date hour minute second nanosecond offset
  else none

end Instant

end LootLedger
