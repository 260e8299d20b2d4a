/-!
# Choosing by weight

Picking one entry of a list by a weight, with the rule for ties in the name: the first of the
lightest, or the last of the heaviest.

## Main definitions

* `firstLeast`, `lastGreatest`

## Main results

* `exists_of_firstLeast`: which entry is chosen as the first of the lightest
* `lastGreatest_append_cons`, `exists_of_lastGreatest`: which entry is chosen
* `lastGreatest_filter_eq_some_iff`: which entry is chosen among those that qualify
* `lastGreatest_concat`: what one more entry changes
-/

namespace LootLedger

/-- The first entry of least weight. -/
def firstLeast [LT β] [DecidableLT β] (weight : α → β) : List α → Option α
  | [] => none
  | x :: xs =>
    match firstLeast weight xs with
    | none => some x
    | some y => if weight y < weight x then some y else some x

/-- The last entry of greatest weight. -/
def lastGreatest [LT β] [DecidableLT β] (weight : α → β) : List α → Option α
  | [] => none
  | x :: xs =>
    match lastGreatest weight xs with
    | none => some x
    | some y => if weight y < weight x then some x else some y

theorem firstLeast_eq_none_iff [LT β] [DecidableLT β] {weight : α → β} {xs : List α} :
    firstLeast weight xs = none ↔ xs = [] := by
  cases xs with
  | nil => simp [firstLeast]
  | cons x xs =>
    simp only [firstLeast]
    split
    · simp
    · split <;> simp

theorem lastGreatest_eq_none_iff [LT β] [DecidableLT β] {weight : α → β} {xs : List α} :
    lastGreatest weight xs = none ↔ xs = [] := by
  cases xs with
  | nil => simp [lastGreatest]
  | cons x xs =>
    simp only [lastGreatest]
    split
    · simp
    · split <;> simp

/-- The chosen entry is one of the list. -/
theorem mem_of_lastGreatest [LT β] [DecidableLT β] {weight : α → β} {xs : List α} {a : α}
    (h : lastGreatest weight xs = some a) : a ∈ xs := by
  induction xs generalizing a with
  | nil => simp [lastGreatest] at h
  | cons x xs ih =>
    simp only [lastGreatest] at h
    split at h
    · simp_all
    · next y hy =>
      split at h
      · simp_all
      · exact List.mem_cons_of_mem _ (ih (by simp_all))

/-- An entry is chosen if no entry before it is heavier and all entries after it are lighter. -/
theorem lastGreatest_append_cons [LT β] [DecidableLT β] {weight : α → β} {before after : List α}
    {a : α} (hbefore : ∀ x ∈ before, ¬ weight a < weight x)
    (hafter : ∀ x ∈ after, weight x < weight a) :
    lastGreatest weight (before ++ a :: after) = some a := by
  induction before with
  | nil =>
    rw [List.nil_append, lastGreatest]
    split
    · rfl
    · next y hy => rw [if_pos (hafter y (mem_of_lastGreatest hy))]
  | cons x before ih =>
    rw [List.forall_mem_cons] at hbefore
    rw [List.cons_append, lastGreatest, ih hbefore.2]
    exact if_neg hbefore.1

/-! ### Which entry is chosen -/

section

variable [LT β] [DecidableLT β] [LE β] [Std.IsLinearOrder β] [Std.LawfulOrderLT β]
  {weight : α → β} {xs : List α} {a : α}

/-- **The first of the lightest** has only heavier entries before it, and nothing lighter behind
it. -/
theorem exists_of_firstLeast (h : firstLeast weight xs = some a) :
    ∃ before after, xs = before ++ a :: after ∧ (∀ x ∈ before, weight a < weight x) ∧
      ∀ x ∈ after, ¬ weight x < weight a := by
  induction xs generalizing a with
  | nil => cases h
  | cons x xs ih =>
    rw [firstLeast] at h
    cases hrest : firstLeast weight xs with
    | none =>
      rw [hrest] at h
      cases h
      rw [firstLeast_eq_none_iff.mp hrest]
      exact ⟨[], [], rfl, by simp, by simp⟩
    | some y =>
      obtain ⟨before, after, rfl, hbefore, hafter⟩ := ih hrest
      rw [hrest] at h
      dsimp only at h
      split at h
      · next hlt =>
        cases h
        exact ⟨x :: before, after, rfl, List.forall_mem_cons.mpr ⟨hlt, hbefore⟩, hafter⟩
      · next hnot =>
        cases h
        refine ⟨[], _, rfl, by simp, fun z hz hlt => ?_⟩
        obtain hz | rfl | hz : z ∈ before ∨ z = y ∨ z ∈ after := by simpa using hz
        · exact hnot (Std.lt_trans (hbefore z hz) hlt)
        · exact hnot hlt
        · exact hnot (Std.lt_of_le_of_lt (Std.not_lt.mp (hafter z hz)) hlt)

/-- **The last of the heaviest** has nothing heavier before it, and only lighter entries behind
it. -/
theorem exists_of_lastGreatest (h : lastGreatest weight xs = some a) :
    ∃ before after, xs = before ++ a :: after ∧ (∀ x ∈ before, ¬ weight a < weight x) ∧
      ∀ x ∈ after, weight x < weight a := by
  induction xs generalizing a with
  | nil => cases h
  | cons x xs ih =>
    rw [lastGreatest] at h
    cases hrest : lastGreatest weight xs with
    | none =>
      rw [hrest] at h
      cases h
      rw [lastGreatest_eq_none_iff.mp hrest]
      exact ⟨[], [], rfl, by simp, by simp⟩
    | some y =>
      obtain ⟨before, after, rfl, hbefore, hafter⟩ := ih hrest
      rw [hrest] at h
      dsimp only at h
      split at h
      · next hlt =>
        cases h
        refine ⟨[], _, rfl, by simp, fun z hz => ?_⟩
        obtain hz | rfl | hz : z ∈ before ∨ z = y ∨ z ∈ after := by simpa using hz
        · exact Std.lt_of_le_of_lt (Std.not_lt.mp (hbefore z hz)) hlt
        · exact hlt
        · exact Std.lt_trans (hafter z hz) hlt
      · next hnot =>
        cases h
        exact ⟨x :: before, after, rfl, List.forall_mem_cons.mpr ⟨hnot, hbefore⟩, hafter⟩

/-- Nothing is heavier than the chosen entry. -/
theorem not_lt_of_lastGreatest (h : lastGreatest weight xs = some a) {x : α} (hx : x ∈ xs) :
    ¬ weight a < weight x := by
  obtain ⟨before, after, rfl, hbefore, hafter⟩ := exists_of_lastGreatest h
  obtain hx | rfl | hx : x ∈ before ∨ x = a ∨ x ∈ after := by simpa using hx
  · exact hbefore x hx
  · exact Std.lt_irrefl
  · exact Std.not_lt.mpr (Std.le_of_lt (hafter x hx))

/-- **Which entry is chosen** among those that qualify. -/
theorem lastGreatest_filter_eq_some_iff {p : α → Bool} :
    lastGreatest weight (xs.filter p) = some a ↔
      ∃ before after, xs = before ++ a :: after ∧ p a = true ∧
        (∀ x ∈ before, p x = true → ¬ weight a < weight x) ∧
        ∀ x ∈ after, p x = true → weight x < weight a := by
  constructor
  · intro h
    obtain ⟨_, _, hxs, hbefore, hafter⟩ := exists_of_lastGreatest h
    obtain ⟨before, rest, rfl, rfl, hrest⟩ := List.filter_eq_append_iff.mp hxs
    obtain ⟨skipped, after, rfl, hskipped, ha, rfl⟩ := List.filter_eq_cons_iff.mp hrest
    refine ⟨before ++ skipped, after, (List.append_assoc ..).symm, ha, fun x hx hp => ?_,
      fun x hx hp => hafter x (List.mem_filter.mpr ⟨hx, hp⟩)⟩
    obtain hx | hx := List.mem_append.mp hx
    · exact hbefore x (List.mem_filter.mpr ⟨hx, hp⟩)
    · exact absurd hp (hskipped x hx)
  · rintro ⟨before, after, rfl, ha, hbefore, hafter⟩
    rw [List.filter_append, List.filter_cons_of_pos ha]
    refine lastGreatest_append_cons (fun x hx => ?_) (fun x hx => ?_) <;>
      obtain ⟨hx, hp⟩ := List.mem_filter.mp hx
    · exact hbefore x hx hp
    · exact hafter x hx hp

/-- An entry at the end is chosen unless the one chosen before is heavier. -/
theorem lastGreatest_concat (xs : List α) (a : α) :
    lastGreatest weight (xs ++ [a]) =
      match lastGreatest weight xs with
      | none => some a
      | some y => if weight a < weight y then some y else some a := by
  cases hchosen : lastGreatest weight xs with
  | none => rw [lastGreatest_eq_none_iff.mp hchosen]; rfl
  | some y =>
    dsimp only
    split
    · next hlt =>
      obtain ⟨before, after, rfl, hbefore, hafter⟩ := exists_of_lastGreatest hchosen
      rw [List.append_assoc, List.cons_append]
      refine lastGreatest_append_cons hbefore fun x hx => ?_
      obtain hx | hx := List.mem_append.mp hx
      · exact hafter x hx
      · exact List.mem_singleton.mp hx ▸ hlt
    · next hnot =>
      refine lastGreatest_append_cons (fun x hx hlt => ?_) (fun _ hx => absurd hx List.not_mem_nil)
      exact not_lt_of_lastGreatest hchosen hx (Std.lt_of_le_of_lt (Std.not_lt.mp hnot) hlt)

/-- An entry that is heavier than all others is chosen, wherever it stands and however often. -/
theorem lastGreatest_eq_some (ha : a ∈ xs) (h : ∀ x ∈ xs, x = a ∨ weight x < weight a) :
    lastGreatest weight xs = some a := by
  cases hchosen : lastGreatest weight xs with
  | none =>
    rw [lastGreatest_eq_none_iff.mp hchosen] at ha
    cases ha
  | some y =>
    obtain rfl | hlt := h y (mem_of_lastGreatest hchosen)
    · rfl
    · exact absurd hlt (not_lt_of_lastGreatest hchosen ha)

end

end LootLedger
