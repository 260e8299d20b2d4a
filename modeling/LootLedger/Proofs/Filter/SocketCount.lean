import LootLedger.Proofs.Filter.Rendering.Condition
import LootLedger.Proofs.Text.Frequency

/-!
# A count with one colour

A token such as `3R` asks for so many sockets of one colour. It is kept as the letter written that
often, without a size, and a group is compared with it colour by colour. So the count is found again
as the number of letters, and the comparison is the one of two numbers.

It is found again unless it is zero. Then no letter is left, and a sought group without letters asks
for nothing: the comparison that the token writes is not made at all.

## Main definitions

* `Filter.SocketSpec.ofColour`: so many sockets of one colour
* `Filter.SocketSpec.ComparesCount`: a token compares the sockets of its colour with its count

## Main results

* `Filter.SocketSpec.parse?_digits_append_singleton`: what a count with one colour is read as
* `Filter.SocketSpec.fits_ofColour`: how it is compared
* `Filter.SocketSpec.comparesCount_iff`: when the token does what it says
-/

namespace LootLedger.Filter.SocketSpec

open Text (Chars)

/-- So many sockets of one colour, and others besides. -/
def ofColour (n : Nat) (c : Char) : SocketSpec :=
  { count := none, colours := String.ofList (List.replicate n c) }

/-! ### Reading -/

/-- **A count with one colour** is read as that many letters. -/
theorem parse?_digits_append_singleton {n : Nat} {c : Char} (hn : n ≤ maxSockets)
    (hc : c ∈ socketColours) : parse? (Text.digits n ++ [c]) = some (ofColour n c) := by
  have hcolours : ∀ d ∈ [c], d ∈ socketColours := List.forall_mem_singleton.mpr hc
  rw [parse?_append_iff (fun _ => Text.isDigit_of_mem_digits) hcolours]
  exact ⟨isToken_digits hn hcolours, .ofColour c (Text.isNumeralOf_digits n)⟩

/-! ### Comparing -/

/-- The operators with which a count is a bound. -/
def boundOperators : List Comparison :=
  [.greaterEqual, .greater, .lessEqual]

/-- Without a letter nothing is asked. -/
theorem fits_ofColour_zero (c : Char) (op : Comparison) (group : Chars) :
    (ofColour 0 c).fits op group = true := by
  simp [fits, ofColour]

/-- **With letters their number is compared** with the number of such sockets in the group. -/
theorem fits_ofColour {n : Nat} (hn : 0 < n) (c : Char) {op : Comparison}
    (hop : op ∈ boundOperators) (group : Chars) :
    (ofColour n c).fits op group = op.holds (group.count c) n := by
  have hsome : (ofColour n c).colours ≠ "" := by
    rw [ofColour, Ne, ← String.toList_inj, String.toList_ofList]
    simpa using hn.ne'
  have hcount : (List.replicate n c).count c = n := List.count_replicate_self
  -- All letters are the same, so what is asked of the counts is asked of one number.
  have hall {P : Char → Nat → Prop} :
      (∀ e ∈ Text.frequencies (List.replicate n c), P e.1 e.2) ↔ P c n := by
    rw [Text.forall_mem_frequencies_iff]
    simp [hcount, hn.ne']
  have hcolours : (ofColour n c).colours.toList = List.replicate n c := String.toList_ofList
  rw [Bool.eq_iff_iff]
  simp only [boundOperators, List.mem_cons, List.not_mem_nil, or_false] at hop
  obtain rfl | rfl | rfl := hop
  · simp only [fits, hcolours, hsome]
    simpa [ofColour, Comparison.holds, Text.isWithin] using @hall fun c n => n ≤ group.count c
  · simp only [fits, hcolours, hsome]
    simpa [ofColour, Comparison.holds] using @hall fun c n => n < group.count c
  · simp only [fits, hcolours, hsome]
    simpa [ofColour, Comparison.holds] using @hall fun c n => group.count c ≤ n

/-! ### Tokens -/

/-- A count with one colour is read, and it compares the number of sockets of that colour in a group
with the count. -/
def ComparesCount (op : Comparison) (n : Nat) (c : Char) (group : Chars) : Prop :=
  ∃ spec, parse? (Text.digits n ++ [c]) = some spec ∧
    spec.fits op group = op.holds (group.count c) n

/-- **When a count with one colour asks for that many sockets.** It does so in every group if the
count is not zero. A count of zero asks for nothing, so there it does so only where the comparison
with zero holds anyway. -/
theorem comparesCount_iff {op : Comparison} {n : Nat} {c : Char} (hop : op ∈ boundOperators)
    (hn : n ≤ maxSockets) (hc : c ∈ socketColours) (group : Chars) :
    ComparesCount op n c group ↔ 0 < n ∨ op.holds (group.count c) 0 = true := by
  rw [ComparesCount, parse?_digits_append_singleton hn hc]
  simp only [Option.some.injEq, exists_eq_left']
  rcases Nat.eq_zero_or_pos n with rfl | hpos
  · rw [fits_ofColour_zero, eq_comm]
    simp
  · rw [fits_ofColour hpos c hop]
    simp [hpos]

/-- Three red sockets, in a group of four with three red ones. -/
theorem comparesCount_three :
    .lessEqual ∈ boundOperators ∧ 3 ≤ maxSockets ∧ 'R' ∈ socketColours ∧
      ComparesCount .lessEqual 3 'R' "RGRR".toList :=
  ⟨by decide, by decide, by decide,
    (comparesCount_iff (by decide) (by decide) (by decide) _).mpr (.inl (by decide))⟩

/-- **No red socket is not asked for:** a group without one has more than none. -/
theorem not_comparesCount_zero : ¬ ComparesCount .greater 0 'R' "G".toList := by
  rintro ⟨spec, hspec, hfits⟩
  rw [parse?_digits_append_singleton (by decide) (by decide)] at hspec
  obtain rfl := Option.some.inj hspec
  rw [fits_ofColour_zero] at hfits
  exact absurd hfits (by decide)

end LootLedger.Filter.SocketSpec
