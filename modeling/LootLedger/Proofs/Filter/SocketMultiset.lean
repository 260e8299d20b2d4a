import LootLedger.Filter.Matching
import LootLedger.Proofs.Text.Frequency
import Mathlib.Data.List.Forall2

/-!
# Sockets are multisets

A condition on sockets may depend on how many sockets of each colour there are, and on nothing else
that the texts of groups and sought groups show: not on the order of the letters, nor on the order
of the groups or of the sought groups.

Letters are only ever looked at through the counts of a text, and its length, so a group and a
sought group may each be rearranged. What is left is the order of whole lists, and both lists are
only ever asked whether some entry of theirs fits.

How far the groups themselves matter is the difference of the two modes. Pooled sockets are one
group, so the grouping is lost. Looked at one by one, groups must correspond to each other.

## Main definitions

* `Corresponds`: two lists in one-to-one correspondence, in any order
* `Filter.SocketSpec.Rearranges`: two sought groups that differ in the order of their letters

## Main results

* `Filter.SocketSpec.Rearranges.fits_eq`: one group and one sought group, both rearranged
* `Filter.matches_sockets_of_perm`: what conditions on sockets do not depend on
-/

namespace LootLedger

/-! ### Lists in any order -/

/-- The entries of two lists can be paired off, whatever their order, such that `r` holds of each
pair. -/
def Corresponds (r : α → β → Prop) (xs : List α) (ys : List β) : Prop :=
  ∃ zs, xs.Perm zs ∧ List.Forall₂ r zs ys

/-- A test that pairs pass alike is passed by some entry of either list or of none. -/
theorem Corresponds.any_eq {r : α → β → Prop} {p : α → Bool} {q : β → Bool} {xs : List α}
    {ys : List β} (h : Corresponds r xs ys) (hr : ∀ x y, r x y → p x = q y) :
    xs.any p = ys.any q := by
  obtain ⟨zs, hperm, hpairs⟩ := h
  rw [hperm.any_eq]
  clear hperm
  induction hpairs with
  | nil => rfl
  | cons hxy _ ih => rw [List.any_cons, List.any_cons, hr _ _ hxy, ih]

namespace Filter

open Text (Chars)

/-! ### Letters in any order -/

namespace SocketSpec

variable {spec spec' : SocketSpec}

/-- Two sought groups of one size that differ in the order of their letters only. -/
structure Rearranges (spec spec' : SocketSpec) : Prop where
  count : spec.count = spec'.count
  colours : spec.colours.toList.Perm spec'.colours.toList

theorem Rearranges.colours_eq_empty_iff (h : Rearranges spec spec') :
    spec.colours = "" ↔ spec'.colours = "" := by
  rw [← String.toList_eq_nil_iff, ← String.toList_eq_nil_iff]
  exact ⟨fun hnil => (hnil ▸ h.colours).nil_eq.symm, fun hnil => (hnil ▸ h.colours).eq_nil⟩

/-- **A sought group fits a group** whatever the order of the letters in either, for every
operator and with or without a size. -/
theorem Rearranges.fits_eq (h : Rearranges spec spec') (op : Comparison) {group group' : Chars}
    (hgroup : group.Perm group') : spec.fits op group = spec'.fits op group' := by
  have hcounts : Text.frequencies group = Text.frequencies group' :=
    Text.frequencies_eq_iff_perm.mpr hgroup
  have hsought : Text.frequencies spec.colours.toList = Text.frequencies spec'.colours.toList :=
    Text.frequencies_eq_iff_perm.mpr h.colours
  simp only [fits, hcounts, hsought, hgroup.length_eq, h.count, h.colours_eq_empty_iff]

end SocketSpec

/-! ### Groups and sought groups in any order -/

/-- **Sockets are multisets.** Let two lists of sought groups differ in their order and in the order
of the letters of each. Where all sockets are pooled, the condition with one list holds of an item if
and only if the one with the other list holds of an item with the same sockets, however either item
groups them. Where groups are looked at one by one, the same is true of two items whose groups
correspond, in any order and with their letters in any order. Delve groups do not count. -/
theorem matches_sockets_of_perm (op : Comparison) {specs specs' : List SocketSpec}
    (hspecs : Corresponds SocketSpec.Rearranges specs specs') (areaLevel : Nat)
    (item item' : Item) :
    ((item.linkedGroups.flatMap String.toList).Perm (item'.linkedGroups.flatMap String.toList) →
      (Condition.sockets .unlinked op specs).matches areaLevel item =
        (Condition.sockets .unlinked op specs').matches areaLevel item') ∧
    (Corresponds (fun g g' => g.toList.Perm g'.toList) item.linkedGroups item'.linkedGroups →
      (Condition.sockets .linked op specs).matches areaLevel item =
        (Condition.sockets .linked op specs').matches areaLevel item') := by
  have hgroup {group group' : Chars} (hperm : group.Perm group') :
      (specs.any fun spec => spec.fits op group) = specs'.any fun spec => spec.fits op group' :=
    hspecs.any_eq fun _ _ h => h.fits_eq op hperm
  constructor
  · intro hpooled
    exact hgroup hpooled
  · intro hgroups
    exact hgroups.any_eq fun _ _ hperm => hgroup hperm

/-- A delve group, a group of two and one of three, regrouped and rearranged, and sought groups of
which the second one fits the larger group. -/
theorem matches_sockets_of_perm_three :
    let specs : List SocketSpec := [⟨none, "WWB"⟩, ⟨some 3, "RB"⟩]
    let specs' : List SocketSpec := [⟨some 3, "BR"⟩, ⟨none, "BWW"⟩]
    let item : Item := { sockets := ["RGB", "DV", "WA"] }
    let item' : Item := { sockets := ["AW", "BRG"] }
    Corresponds SocketSpec.Rearranges specs specs' ∧
      Corresponds (fun g g' => g.toList.Perm g'.toList) item.linkedGroups item'.linkedGroups ∧
      (item.linkedGroups.flatMap String.toList).Perm
        (item'.linkedGroups.flatMap String.toList) ∧
      (Condition.sockets .linked .equal specs).matches 68 item = true ∧
      (Condition.sockets .linked .equal specs').matches 68 item' = true ∧
      (Condition.sockets .unlinked .equal specs).matches 68 item =
        (Condition.sockets .unlinked .equal specs').matches 68 item' := by
  intro specs specs' item item'
  have hspecs : Corresponds SocketSpec.Rearranges specs specs' :=
    ⟨specs.reverse, (List.reverse_perm specs).symm,
      .cons ⟨rfl, by decide⟩ (.cons ⟨rfl, by decide⟩ .nil)⟩
  have hgroups : Corresponds (fun g g' => g.toList.Perm g'.toList) item.linkedGroups
      item'.linkedGroups :=
    ⟨["WA", "RGB"], by decide, .cons (by decide) (.cons (by decide) .nil)⟩
  have hpooled : (item.linkedGroups.flatMap String.toList).Perm
      (item'.linkedGroups.flatMap String.toList) := by decide
  have hfits : (Condition.sockets .linked .equal specs).matches 68 item = true := by decide
  obtain ⟨hunlinked, hlinked⟩ := matches_sockets_of_perm .equal hspecs 68 item item'
  exact ⟨hspecs, hgroups, hpooled, hfits, hlinked hgroups ▸ hfits, hunlinked hpooled⟩

end Filter

end LootLedger
