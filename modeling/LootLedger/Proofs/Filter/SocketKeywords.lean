import LootLedger.Filter.Matching
import LootLedger.Proofs.Filter.Rendering.Condition
import LootLedger.Proofs.Filter.SocketOrder
import LootLedger.Proofs.Item.Sockets

/-!
# Three keywords for sockets

`SocketGroup` looks at the linked groups of an item one by one, `Sockets` at all of them together,
and `LinkedSockets` at the size of the largest. They are consistent with each other because each
group is part of the whole: it has at most as many sockets, and at most as many of each colour.

So a comparison from below goes over from a group to the whole, and one from above from the whole to
any group. With `=` the sizes have to be equal while the colours are only compared from below, so it
goes over where no size is given. And with a single group there is nothing to tell apart.

A largest group exists only where there are groups. An item without one has a largest size all the
same, which is zero, so the size that `LinkedSockets` is compared with must not be zero.

## Main definitions

* `Filter.Comparison.IsLowerBound`, `Filter.Comparison.IsUpperBound`: comparisons from one side
* `Filter.SocketSpec.ofSize`: a group of so many sockets

## Main results

* `Filter.matches_linked_iff`, `Filter.matches_unlinked_iff`: the two readings of groups
* `Filter.SocketSpec.Fits.of_sublist`, `Filter.SocketSpec.Fits.of_superlist`: groups and the whole
* `Filter.socketKeywords_agree`: how the three keywords go together
-/

namespace LootLedger

open Text (Chars)

namespace Filter

/-! ### Comparisons from one side -/

namespace Comparison

/-- What compares with a number does so when it grows. -/
def IsLowerBound (op : Comparison) : Prop :=
  ∀ ⦃m m' n⦄, m ≤ m' → op.holds m n = true → op.holds m' n = true

/-- What compares with a number does so when it shrinks. -/
def IsUpperBound (op : Comparison) : Prop :=
  ∀ ⦃m m' n⦄, m ≤ m' → op.holds m' n = true → op.holds m n = true

theorem isLowerBound_of_mem {op : Comparison} (h : op ∈ [greaterEqual, greater]) :
    op.IsLowerBound := by
  intro m m' n hle hholds
  simp only [List.mem_cons, List.not_mem_nil, or_false] at h
  obtain rfl | rfl := h
  all_goals
    simp only [holds, decide_eq_true_eq] at hholds ⊢
    omega

theorem isUpperBound_of_mem {op : Comparison} (h : op ∈ [lessEqual, less]) :
    op.IsUpperBound := by
  intro m m' n hle hholds
  simp only [List.mem_cons, List.not_mem_nil, or_false] at h
  obtain rfl | rfl := h
  all_goals
    simp only [holds, decide_eq_true_eq] at hholds ⊢
    omega

/-- The numbers of sockets of a colour are compared from the same side as the sizes. -/
theorem onColours_mem :
    (∀ op ∈ [greaterEqual, greater], op.onColours ∈ [greaterEqual, greater]) ∧
      ∀ op ∈ [lessEqual, less], op.onColours ∈ [lessEqual, less] := by
  decide

/-- A comparison that colours make from one side is not `==`. -/
theorem ne_exactEqual_of_isLowerBound {op : Comparison} (h : op.onColours.IsLowerBound) :
    op ≠ exactEqual := by
  rintro rfl
  have hone : exactEqual.holds 1 0 = true := h (Nat.zero_le 1) rfl
  exact absurd hone (by decide)

theorem ne_exactEqual_of_isUpperBound {op : Comparison} (h : op.onColours.IsUpperBound) :
    op ≠ exactEqual := by
  rintro rfl
  have hzero : exactEqual.holds 0 1 = true := h (Nat.zero_le 1) rfl
  exact absurd hzero (by decide)

end Comparison

/-! ### Parts of a group -/

namespace SocketSpec

variable {spec : SocketSpec} {op : Comparison} {part whole : Chars}

/-- A comparison from below goes over from a part to the whole. -/
theorem Fits.of_sublist (h : spec.Fits op part) (hle : part.Sublist whole)
    (hsize : spec.count = none ∨ op.IsLowerBound) (hcolours : op.onColours.IsLowerBound) :
    spec.Fits op whole := by
  have hop := Comparison.ne_exactEqual_of_isLowerBound hcolours
  refine h.imp hop (fun n hn => ?_) fun c n => hcolours (hle.count_le c)
  obtain hnone | hlower := hsize
  · rw [hn] at hnone
    cases hnone
  · exact hlower hle.length_le

/-- A comparison from above goes over from the whole to a part. -/
theorem Fits.of_superlist (h : spec.Fits op whole) (hle : part.Sublist whole)
    (hsize : op.IsUpperBound) (hcolours : op.onColours.IsUpperBound) : spec.Fits op part := by
  have hop := Comparison.ne_exactEqual_of_isUpperBound hcolours
  exact h.imp hop (fun _ _ => hsize hle.length_le) fun c _ => hcolours (hle.count_le c)

/-- Any group of so many sockets. -/
def ofSize (n : Nat) : SocketSpec :=
  { count := some n, colours := "" }

theorem wellFormed_ofSize {n : Nat} (h : n ≤ maxSockets) : (ofSize n).WellFormed where
  count_le m hm := Option.some.inj hm ▸ h
  length_ne_one := by simp [ofSize]
  mem_colours := by simp [ofSize]

theorem fits_ofSize (n : Nat) (op : Comparison) (group : Chars) :
    (ofSize n).Fits op group ↔ op.holds group.length n = true := by
  constructor
  · intro h
    exact h.size n rfl
  · intro h
    exact ⟨fun m hm => Option.some.inj hm ▸ h, by simp [ofSize], fun _ _ hne => absurd rfl hne⟩

end SocketSpec

end Filter

namespace Filter

variable {areaLevel : Nat} {item : Item} {op : Comparison} {specs : List SocketSpec}

theorem matches_linked_iff : (Condition.sockets .linked op specs).matches areaLevel item = true ↔
    ∃ g ∈ item.linkedGroups, ∃ spec ∈ specs, spec.Fits op g.toList := by
  simp only [Condition.matches, socketsFit, List.any_eq_true, SocketSpec.fits_iff]

theorem matches_unlinked_iff :
    (Condition.sockets .unlinked op specs).matches areaLevel item = true ↔
      ∃ spec ∈ specs, spec.Fits op (item.linkedGroups.flatMap String.toList) := by
  simp only [Condition.matches, socketsFit, List.any_eq_true, SocketSpec.fits_iff]

/-- What is compared from below goes over from some group to the whole. -/
theorem matches_unlinked_of_linked (hsize : (∀ spec ∈ specs, spec.count = none) ∨ op.IsLowerBound)
    (hcolours : op.onColours.IsLowerBound)
    (h : (Condition.sockets .linked op specs).matches areaLevel item = true) :
    (Condition.sockets .unlinked op specs).matches areaLevel item = true := by
  rw [matches_linked_iff] at h
  obtain ⟨g, hg, spec, hspec, hfits⟩ := h
  rw [matches_unlinked_iff]
  have hle := Item.sublist_of_mem_linkedGroups hg
  exact ⟨spec, hspec, hfits.of_sublist hle (hsize.imp_left fun h => h spec hspec) hcolours⟩

/-- What is compared from above goes over from the whole to each group, if there is one. -/
theorem matches_linked_of_unlinked (hgroups : item.linkedGroups ≠ []) (hsize : op.IsUpperBound)
    (hcolours : op.onColours.IsUpperBound)
    (h : (Condition.sockets .unlinked op specs).matches areaLevel item = true) :
    (Condition.sockets .linked op specs).matches areaLevel item = true := by
  rw [matches_unlinked_iff] at h
  obtain ⟨spec, hspec, hfits⟩ := h
  obtain ⟨g, hg⟩ := List.exists_mem_of_ne_nil _ hgroups
  rw [matches_linked_iff]
  have hle := Item.sublist_of_mem_linkedGroups hg
  exact ⟨g, hg, spec, hspec, hfits.of_superlist hle hsize hcolours⟩

/-- A single group is the whole. -/
theorem matches_linked_eq_unlinked (hsingle : item.linkedGroups.length = 1) (op : Comparison) :
    (Condition.sockets .linked op specs).matches areaLevel item =
      (Condition.sockets .unlinked op specs).matches areaLevel item := by
  obtain ⟨g, hg⟩ := List.length_eq_one_iff.mp hsingle
  have hwhole : item.linkedGroups.flatMap String.toList = g.toList := by
    rw [hg, List.flatMap_singleton]
  rw [Bool.eq_iff_iff, matches_linked_iff, matches_unlinked_iff, hwhole, hg]
  simp only [List.mem_singleton, exists_eq_left]

/-! ### Comparing with a size -/

/-- An operator and a number, as they follow a keyword. -/
def sizeArguments (op : Comparison) (n : UInt32) : Chars :=
  op.symbol.toList ++ ' ' :: Text.digits n.toNat

theorem read_linkedSockets (op : Comparison) (n : UInt32) :
    (ConditionKind.numeric .linkedSockets).read (sizeArguments op n) =
      .ok (.numeric .linkedSockets op n) :=
  @Condition.read_arguments (.numeric .linkedSockets op n) trivial

theorem read_socketGroup (op : Comparison) {n : UInt32} (hn : n.toNat ≤ maxSockets) :
    (ConditionKind.sockets .linked).read (sizeArguments op n) =
      .ok (.sockets .linked op [.ofSize n.toNat]) := by
  have hwell : (Condition.sockets .linked op [.ofSize n.toNat]).WellFormed :=
    ⟨List.cons_ne_nil _ _, List.forall_mem_singleton.mpr (SocketSpec.wellFormed_ofSize hn)⟩
  have hwritten : (SocketSpec.ofSize n.toNat).written = Text.digits n.toNat := List.append_nil _
  rw [sizeArguments, ← hwritten]
  exact Condition.read_arguments hwell

/-- A size from below is reached by some group if it is reached by the largest one. -/
theorem matches_linked_ofSize_iff {n : UInt32} (hn : 0 < n.toNat)
    (hop : op ∈ [Comparison.greaterEqual, .greater]) :
    (Condition.sockets .linked op [.ofSize n.toNat]).matches areaLevel item = true ↔
      (Condition.numeric .linkedSockets op n).matches areaLevel item = true := by
  have hlinks : (Condition.numeric .linkedSockets op n).matches areaLevel item =
      op.holds item.largestLink n.toNat := rfl
  rw [hlinks, matches_linked_iff]
  simp only [List.mem_singleton, exists_eq_left, SocketSpec.fits_ofSize]
  simp only [List.mem_cons, List.not_mem_nil, or_false] at hop
  obtain rfl | rfl := hop
  · simp only [Comparison.holds, decide_eq_true_eq]
    exact (Item.le_largestLink_iff hn).symm
  · -- More than so many is as many as the next number.
    simp only [Comparison.holds, decide_eq_true_eq]
    exact (Item.le_largestLink_iff (Nat.succ_pos n.toNat)).symm

/-! ### The three keywords -/

/-- **How the three keywords for sockets go together.** Whatever the sought groups, a match of
`SocketGroup` is one of `Sockets` under `>=` and `>`, and under `=` if no size is sought. A match of
`Sockets` is one of `SocketGroup` under `<=` and `<`, if the item has a group at all. With exactly
one group both answer alike under every operator. And a size from 1 to 6 means the same behind
`SocketGroup` and behind `LinkedSockets`, under `>=` and `>`. Delve groups do not count. -/
theorem socketKeywords_agree (areaLevel : Nat) (item : Item) (specs : List SocketSpec) :
    let grouped op := (Condition.sockets .linked op specs).matches areaLevel item
    let pooled op := (Condition.sockets .unlinked op specs).matches areaLevel item
    (∀ op ∈ [Comparison.greaterEqual, .greater], grouped op → pooled op) ∧
      ((∀ spec ∈ specs, spec.count = none) → grouped .equal → pooled .equal) ∧
      (item.linkedGroups ≠ [] →
        ∀ op ∈ [Comparison.lessEqual, .less], pooled op → grouped op) ∧
      (item.linkedGroups.length = 1 → ∀ op, grouped op = pooled op) ∧
      ∀ op ∈ [Comparison.greaterEqual, .greater], ∀ n : UInt32, 1 ≤ n → n ≤ 6 →
        ∃ ofGroup ofLinks,
          (ConditionKind.sockets .linked).read (sizeArguments op n) = .ok ofGroup ∧
          (ConditionKind.numeric .linkedSockets).read (sizeArguments op n) = .ok ofLinks ∧
          ofGroup.matches areaLevel item = ofLinks.matches areaLevel item := by
  intro grouped pooled
  refine ⟨?_, ?_, ?_, matches_linked_eq_unlinked, ?_⟩
  · intro op hop
    have hcolours := Comparison.onColours_mem.1 op hop
    exact matches_unlinked_of_linked (.inr (Comparison.isLowerBound_of_mem hop))
      (Comparison.isLowerBound_of_mem hcolours)
  · intro hcount
    have hcolours : Comparison.equal.onColours ∈ [Comparison.greaterEqual, .greater] := by decide
    exact matches_unlinked_of_linked (.inl hcount) (Comparison.isLowerBound_of_mem hcolours)
  · intro hgroups op hop
    have hcolours := Comparison.onColours_mem.2 op hop
    exact matches_linked_of_unlinked hgroups (Comparison.isUpperBound_of_mem hop)
      (Comparison.isUpperBound_of_mem hcolours)
  · intro op hop n hpos hle
    have hn : n.toNat ≤ maxSockets := hle
    refine ⟨_, _, read_socketGroup op hn, read_linkedSockets op n, ?_⟩
    rw [Bool.eq_iff_iff]
    exact matches_linked_ofSize_iff hpos hop

/-- An item with two groups besides a delve group, and one with a single group. -/
theorem socketKeywords_agree_two_and_one :
    let specs : List SocketSpec := [⟨none, "WWB"⟩, ⟨none, "RG"⟩]
    let item : Item := { sockets := ["RGB", "DV", "WA"] }
    let single : Item := { sockets := ["DV", "RGB"] }
    (∀ spec ∈ specs, spec.count = none) ∧
      item.linkedGroups ≠ [] ∧ single.linkedGroups.length = 1 ∧
      (Condition.sockets .linked .equal specs).matches 68 item = true ∧
      (Condition.sockets .unlinked .equal specs).matches 68 item = true ∧
      (Condition.sockets .unlinked .less specs).matches 68 item = true ∧
      (Condition.sockets .linked .less specs).matches 68 item = true ∧
      (Condition.sockets .linked .exactEqual specs).matches 68 single =
        (Condition.sockets .unlinked .exactEqual specs).matches 68 single := by
  intro specs item single
  have hcount : ∀ spec ∈ specs, spec.count = none := by decide
  have hgroups : item.linkedGroups ≠ [] := by decide
  have hsingle : single.linkedGroups.length = 1 := by decide
  have hgrouped : (Condition.sockets .linked .equal specs).matches 68 item = true := by decide
  have hpooled : (Condition.sockets .unlinked .less specs).matches 68 item = true := by decide
  obtain ⟨-, hequal, hless, -, -⟩ := socketKeywords_agree 68 item specs
  obtain ⟨-, -, -, hone, -⟩ := socketKeywords_agree 68 single specs
  exact ⟨hcount, hgroups, hsingle, hgrouped, hequal hcount hgrouped, hpooled,
    hless hgroups .less (by decide) hpooled, hone hsingle .exactEqual⟩

end Filter

end LootLedger
