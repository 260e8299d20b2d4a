import LootLedger.Price.Identifier
import LootLedger.Proofs.Text.Marker
import LootLedger.Proofs.Text.Numeral
import Mathlib.Data.List.Find

/-!
# The series number in a map icon

The address of a map icon has the number of the map's series in it, behind a mark. The table of
series lists each mark together with a number, and the first entry is taken that occurs in the
address. Longer numbers come first, so that no listed number is taken for the shorter one that it
begins with.

An entry occurs where the digits in the address go on, too. So a number is read as the longest
listed one that it begins with. A listed number begins with itself, and nothing listed is longer. A
number past the end of the table begins with a listed one as well: with its first digit at least. So
a map of a series that the table does not know yet goes by the name of an old one.

## Main definitions

* `PriceName.ShowsNumber`: an address with one series number in it
* `PriceName.numberedSeries?`: the series with a number
* `PriceName.leadingNumber`: what is left of a number when it is cut until it is in the table

## Main results

* `PriceName.ShowsNumber.seriesOfIcon?_eq`, `PriceName.seriesOfDigits?_digits`: the series read
* `PriceName.readsSeriesNumber_iff`: which numbers are read as they stand
-/

namespace LootLedger.PriceName

open Text (Chars)

/-- The mark in front of a series number. -/
def numberMark : String :=
  "mn="

/-- The marks of series without a number. -/
def folderMarks : List String :=
  ["Atlas2Maps", "AtlasMaps", "act4maps"]

/-- The number of the newest series in the table. -/
def newestSeries : Nat := 18

/-- The series that is listed under a number, from 1 up to the newest one. -/
def numberedSeries? (n : Nat) : Option String :=
  if 1 ≤ n ∧ n ≤ newestSeries then mapSeries.lookup (numberMark ++ numeral n) else none

/-- An icon with the series number `n` in it: the mark occurs at one place, and there the numeral of
`n` follows and no other digit after it. No other mark of a series occurs. -/
structure ShowsNumber (icon : String) (n : Nat) : Prop where
  once : Text.OccursOnce numberMark.toList icon.toList
  numeral : ∃ before after, icon.toList = before ++ numberMark.toList ++ (Text.digits n ++ after) ∧
    ∀ c ∈ after.head?, Text.isDigit c = false
  plain : ∀ mark ∈ folderMarks, Text.contains icon mark = false

/-! ### Entries of the table -/

/-- The digits in a mark of the table. -/
def markDigits? (mark : String) : Option Chars :=
  Text.dropPrefix? numberMark.toList mark.toList

/-- Marks have digits, and these denote a number that is listed, or they are marks without one. -/
theorem markDigits?_mapSeries : ∀ entry ∈ mapSeries,
    (∀ ds ∈ markDigits? entry.1, ds.all Text.isDigit = true ∧ Text.ofDigits ds ≤ newestSeries) ∧
      (markDigits? entry.1 = none → entry.1 ∈ folderMarks) := by
  decide

/-- The first series whose digits the given digits begin with. -/
def seriesOfDigits? (digits : Chars) : Option String :=
  (mapSeries.find? fun entry => (markDigits? entry.1).any (·.isPrefixOf digits)).map (·.2)

/-- Digits at the start of a text are those at the start of its leading number. -/
theorem prefix_append_iff_of_isDigit {ds number after : Chars} (hds : ds.all Text.isDigit = true)
    (hafter : ∀ c ∈ after.head?, Text.isDigit c = false) :
    ds <+: number ++ after ↔ ds <+: number := by
  refine ⟨fun h => ?_, fun h => h.trans (List.prefix_append number after)⟩
  obtain h | ⟨t, rfl⟩ := List.prefix_or_prefix_of_prefix h (List.prefix_append number after)
  · exact h
  · obtain ⟨rest, hrest⟩ := h
    rw [List.append_assoc, List.append_cancel_left_eq] at hrest
    cases t with
    | nil => rw [List.append_nil]
    | cons c t =>
      have hdigit : Text.isDigit c = true := List.all_eq_true.mp hds c (by simp)
      rw [hafter c (by simp [← hrest])] at hdigit
      cases hdigit

/-- **An entry occurs** in the icon if the number there begins with its digits. -/
theorem ShowsNumber.contains_iff {icon : String} {n : Nat} (h : ShowsNumber icon n)
    {entry : String × String} (hentry : entry ∈ mapSeries) :
    Text.contains icon entry.1 = (markDigits? entry.1).any (·.isPrefixOf (Text.digits n)) := by
  obtain ⟨hdigits, hfolder⟩ := markDigits?_mapSeries entry hentry
  cases hmark : markDigits? entry.1 with
  | none => exact h.plain entry.1 (hfolder hmark)
  | some ds =>
    obtain ⟨before, after, hicon, hafter⟩ := h.numeral
    have honce := h.once
    rw [hicon] at honce
    rw [Bool.eq_iff_iff, Text.contains_iff, Text.eq_append_of_dropPrefix? hmark,
      hicon, honce.infix_iff, Option.any_some, List.isPrefixOf_iff_prefix]
    exact prefix_append_iff_of_isDigit (hdigits ds hmark).1 hafter

theorem ShowsNumber.seriesOfIcon?_eq {icon : String} {n : Nat} (h : ShowsNumber icon n) :
    Item.seriesOfIcon? icon = seriesOfDigits? (Text.digits n) := by
  rw [Item.seriesOfIcon?, seriesOfDigits?, List.find?_congr fun _ hentry => h.contains_iff hentry]

/-! ### Numbers -/

/-- The number, or what is left of it when the last digit is taken off until it is no greater than
the number of the newest series. -/
def leadingNumber (n : Nat) : Nat :=
  if n ≤ newestSeries then n else leadingNumber (n / 10)
termination_by n
decreasing_by simp only [newestSeries] at *; omega

/-- The digits of a number below one hundred. -/
def twoDigits (n : Nat) : Chars :=
  if n < 10 then [Text.digitChar n] else [Text.digitChar (n / 10), Text.digitChar n]

theorem digits_of_lt_hundred {n : Nat} (h : n < 100) : Text.digits n = twoDigits n := by
  rw [twoDigits]
  split
  · next hn => exact Text.digits_of_lt_ten hn
  · next hn =>
    rw [Text.digits_of_ten_le (by omega), Text.digits_of_lt_ten (by omega), List.singleton_append]

/-- An icon with a short number in it, cut at the mark. -/
theorem showsNumber_of_twoDigits {icon : String} {n : Nat} (before after : Chars) (hn : n < 100)
    (hicon : icon.toList = before ++ numberMark.toList ++ (twoDigits n ++ after))
    (hbefore : ¬ numberMark.toList <:+: before)
    (hrest : ¬ numberMark.toList <:+: twoDigits n ++ after)
    (hafter : after.head?.any Text.isDigit = false)
    (hplain : ∀ mark ∈ folderMarks, Text.contains icon mark = false) : ShowsNumber icon n := by
  have hfollows : ∀ c ∈ after.head?, Text.isDigit c = false :=
    (Option.any_eq_false _ _).mp hafter
  refine ⟨?_, ⟨before, after, by rw [digits_of_lt_hundred hn, hicon], hfollows⟩, hplain⟩
  rw [hicon]
  exact Text.occursOnce_append (by decide) hbefore hrest

/-- A number that is listed is read as it stands. -/
theorem seriesOfDigits?_of_le {n : Nat} (h : n ≤ newestSeries) :
    seriesOfDigits? (Text.digits n) = numberedSeries? n := by
  have htable : ∀ n ≤ newestSeries, seriesOfDigits? (twoDigits n) =
      if 1 ≤ n ∧ n ≤ newestSeries then
        mapSeries.lookup (numberMark ++ String.ofList (twoDigits n))
      else none := by
    decide +kernel
  have hn : n < 100 := lt_of_le_of_lt h (by decide)
  rw [numberedSeries?, LootLedger.numeral, digits_of_lt_hundred hn]
  exact htable n h

/-- The last digit of a number that is not listed does not matter: no entry is the whole number. -/
theorem seriesOfDigits?_of_lt {n : Nat} (h : newestSeries < n) :
    seriesOfDigits? (Text.digits n) = seriesOfDigits? (Text.digits (n / 10)) := by
  have hn : 10 ≤ n := le_trans (by decide) h
  rw [seriesOfDigits?, seriesOfDigits?, List.find?_congr fun entry hentry => ?_]
  cases hmark : markDigits? entry.1 with
  | none => rfl
  | some ds =>
    have hlisted := ((markDigits?_mapSeries entry hentry).1 ds hmark).2
    have hne : ds ≠ Text.digits n := by
      rintro rfl
      rw [Text.ofDigits_digits] at hlisted
      omega
    rw [Option.any_some, Option.any_some, Bool.eq_iff_iff, List.isPrefixOf_iff_prefix,
      List.isPrefixOf_iff_prefix]
    rw [Text.digits_of_ten_le hn] at hne ⊢
    rw [List.prefix_concat_iff]
    exact or_iff_right hne

theorem seriesOfDigits?_digits (n : Nat) :
    seriesOfDigits? (Text.digits n) = numberedSeries? (leadingNumber n) := by
  fun_induction leadingNumber n with
  | case1 n h => exact seriesOfDigits?_of_le h
  | case2 n h ih => rw [seriesOfDigits?_of_lt (Nat.lt_of_not_le h), ih]

theorem leadingNumber_bounds {n : Nat} (h : 1 ≤ n) :
    1 ≤ leadingNumber n ∧ leadingNumber n ≤ newestSeries := by
  fun_induction leadingNumber n with
  | case1 n hn => exact ⟨h, hn⟩
  | case2 n hn ih =>
    simp only [newestSeries] at hn
    exact ih (by omega)

/-- Every number from 1 to the newest is listed. -/
theorem isSome_numberedSeries? {n : Nat} (hpos : 1 ≤ n) (h : n ≤ newestSeries) :
    (numberedSeries? n).isSome = true := by
  have htable : ∀ n ≤ newestSeries, 1 ≤ n →
      (mapSeries.lookup (numberMark ++ String.ofList (twoDigits n))).isSome = true := by
    decide +kernel
  have hn : n < 100 := lt_of_le_of_lt h (by decide)
  rw [numberedSeries?, if_pos ⟨hpos, h⟩, LootLedger.numeral, digits_of_lt_hundred hn]
  exact htable n h hpos

/-! ### Icons -/

/-- The number in the icon is read as it stands: as the series that is listed under it, and as none
if there is no such series. -/
def ReadsSeriesNumber (icon : String) (n : Nat) : Prop :=
  Item.seriesOfIcon? icon = numberedSeries? n

/-- **Which series numbers are read as they stand.** The number in an icon is read as the longest
listed number that it begins with. So it is read as it stands if and only if it is not greater than
the newest one: a series that is not listed yet is taken for an older one. -/
theorem readsSeriesNumber_iff {icon : String} {n : Nat} (h : ShowsNumber icon n) :
    Item.seriesOfIcon? icon = numberedSeries? (leadingNumber n) ∧
      (ReadsSeriesNumber icon n ↔ n ≤ newestSeries) := by
  have hseries : Item.seriesOfIcon? icon = numberedSeries? (leadingNumber n) := by
    rw [h.seriesOfIcon?_eq, seriesOfDigits?_digits]
  refine ⟨hseries, ?_⟩
  rw [ReadsSeriesNumber, hseries]
  constructor
  · intro hreads
    by_contra hn
    have hpos : 1 ≤ n := le_trans (by decide) (Nat.le_of_not_le hn)
    obtain ⟨hleast, hgreatest⟩ := leadingNumber_bounds hpos
    have hsome := isSome_numberedSeries? hleast hgreatest
    rw [hreads, numberedSeries?, if_neg fun hlisted => hn hlisted.2] at hsome
    cases hsome
  · intro hn
    rw [leadingNumber, if_pos hn]

/-- Twelve, which begins with a listed number, and is one. -/
theorem readsSeriesNumber_twelve :
    let icon := "gen/image/Strand.png?scale=1&mn=12&mt=5"
    ShowsNumber icon 12 ∧ Item.seriesOfIcon? icon = numberedSeries? (leadingNumber 12) ∧
      (ReadsSeriesNumber icon 12 ↔ 12 ≤ newestSeries) := by
  intro icon
  have h : ShowsNumber icon 12 :=
    showsNumber_of_twoDigits "gen/image/Strand.png?scale=1&".toList "&mt=5".toList (by decide)
      (by decide) (by decide) (by decide) (by decide) (by decide)
  exact ⟨h, readsSeriesNumber_iff h⟩

/-- **A series that is not listed yet is taken for an old one:** nineteen for one. -/
theorem not_readsSeriesNumber_nineteen :
    let icon := "gen/image/Strand.png?scale=1&mn=19&mt=5"
    ShowsNumber icon 19 ∧ Item.seriesOfIcon? icon = some "War for the Atlas" ∧
      ¬ ReadsSeriesNumber icon 19 := by
  intro icon
  have h : ShowsNumber icon 19 :=
    showsNumber_of_twoDigits "gen/image/Strand.png?scale=1&".toList "&mt=5".toList (by decide)
      (by decide) (by decide) (by decide) (by decide) (by decide)
  have hseries : Item.seriesOfIcon? icon = some "War for the Atlas" := by decide
  refine ⟨h, hseries, ?_⟩
  rw [ReadsSeriesNumber, hseries, numberedSeries?, if_neg (by decide)]
  nofun

end LootLedger.PriceName
