import LootLedger.Entries
import LootLedger.Text.Frequency
import Mathlib.Data.Char
import Mathlib.Data.List.Induction
import Mathlib.Data.List.Perm.Subperm
import Mathlib.Data.List.Nodup

/-!
# Frequencies count

The counts of a text are made one character at a time, each put at its place in the ascending list.
A count can be put right only in a list that is ascending: the search ends at the first greater
character, and the character that is looked for must not stand behind it. That order is the
invariant of counting, and with it the list says of every character how often it occurs.

## Main definitions

* `Text.AreCounts`: an ascending list of positive counts

## Main results

* `Text.frequencyOf_frequencies`: the counts of a text are its counts
* `Text.forall_mem_frequencies_iff`: a property of all counts, read off the text
* `Text.isWithin_frequencies_iff`: one text within another, character by character
* `Text.frequencies_eq_iff_perm`: equal counts are those of rearranged texts
* `Text.frequencies_decide_inclusion`: counts compare texts as multisets
-/

namespace LootLedger.Text

/-! ### Lists of counts -/

/-- Counts in ascending order of their characters, all of them positive. -/
structure AreCounts (counts : Frequencies) : Prop where
  ascending : (counts.map Prod.fst).Pairwise (· < ·)
  pos : ∀ e ∈ counts, 0 < e.2

theorem areCounts_nil : AreCounts [] :=
  ⟨List.Pairwise.nil, fun _ h => absurd h List.not_mem_nil⟩

theorem AreCounts.of_cons {e : Char × Nat} {counts : Frequencies} (h : AreCounts (e :: counts)) :
    AreCounts counts :=
  ⟨h.ascending.of_cons, fun e' he' => h.pos e' (List.mem_cons_of_mem e he')⟩

theorem AreCounts.nodup {counts : Frequencies} (h : AreCounts counts) :
    (counts.map Prod.fst).Nodup :=
  h.ascending.imp ne_of_lt

@[simp] theorem frequencyOf_nil (c : Char) : frequencyOf [] c = 0 := rfl

theorem frequencyOf_cons (c d : Char) (n : Nat) (counts : Frequencies) :
    frequencyOf ((d, n) :: counts) c = if c = d then n else frequencyOf counts c := by
  by_cases h : c = d
  · rw [if_pos h, h, frequencyOf, List.lookup_cons_self, Option.getD_some]
  · rw [if_neg h, frequencyOf, List.lookup_cons, beq_false_of_ne h, frequencyOf]

theorem frequencyOf_of_notMem {c : Char} {counts : Frequencies}
    (h : c ∉ counts.map Prod.fst) : frequencyOf counts c = 0 := by
  have hnone : counts.lookup c = none := by
    rwa [← Option.not_isSome_iff_eq_none, isSome_lookup_iff]
  rw [frequencyOf, hnone, Option.getD_none]

/-- The list holds exactly the counts that are not zero. -/
theorem AreCounts.mem_iff {counts : Frequencies} (h : AreCounts counts) {c : Char} {n : Nat} :
    (c, n) ∈ counts ↔ 0 < n ∧ frequencyOf counts c = n := by
  constructor
  · intro hmem
    refine ⟨h.pos _ hmem, ?_⟩
    rw [frequencyOf, lookup_eq_some_of_mem h.nodup hmem, Option.getD_some]
  · rintro ⟨hpos, hcount⟩
    cases hfound : counts.lookup c with
    | none =>
      rw [frequencyOf, hfound, Option.getD_none] at hcount
      omega
    | some m =>
      rw [frequencyOf, hfound, Option.getD_some] at hcount
      exact hcount ▸ mem_of_lookup hfound

/-! ### One more occurrence -/

theorem mem_map_fst_countOne {c d : Char} {counts : Frequencies}
    (h : d ∈ (countOne c counts).map Prod.fst) : d = c ∨ d ∈ counts.map Prod.fst := by
  induction counts with
  | nil => exact .inl (List.mem_singleton.mp h)
  | cons e counts ih =>
    obtain ⟨e, n⟩ := e
    rw [countOne] at h
    split at h
    · exact .inr h
    split at h
    · exact List.mem_cons.mp h
    · rcases List.mem_cons.mp h with rfl | h
      · exact .inr List.mem_cons_self
      · exact (ih h).imp_right (List.mem_cons_of_mem e)

/-- **Counting keeps the order**, and the counts positive. -/
theorem AreCounts.countOne {counts : Frequencies} (h : AreCounts counts) (c : Char) :
    AreCounts (countOne c counts) := by
  induction counts with
  | nil => exact ⟨List.pairwise_singleton _ _, by simp [Text.countOne]⟩
  | cons e counts ih =>
    obtain ⟨d, n⟩ := e
    have hfirst : ∀ e ∈ counts.map Prod.fst, d < e := fun _ => List.rel_of_pairwise_cons h.ascending
    rw [Text.countOne]
    split
    · exact ⟨h.ascending, List.forall_mem_cons.mpr ⟨n.succ_pos, h.of_cons.pos⟩⟩
    split
    · next hlt =>
      refine ⟨List.Pairwise.cons (List.forall_mem_cons.mpr ⟨hlt, fun e he => ?_⟩) h.ascending,
        List.forall_mem_cons.mpr ⟨Nat.one_pos, h.pos⟩⟩
      exact lt_trans hlt (hfirst e he)
    · next hne hge =>
      have hrest := ih h.of_cons
      refine ⟨List.Pairwise.cons (fun e he => ?_) hrest.ascending,
        List.forall_mem_cons.mpr ⟨h.pos _ List.mem_cons_self, hrest.pos⟩⟩
      rcases mem_map_fst_countOne he with rfl | he
      · exact lt_of_le_of_ne (not_lt.mp hge) (Ne.symm hne)
      · exact hfirst e he

/-- **One more occurrence** is counted for its character and for no other. -/
theorem AreCounts.frequencyOf_countOne {counts : Frequencies} (h : AreCounts counts)
    (c d : Char) : frequencyOf (Text.countOne c counts) d =
      frequencyOf counts d + if d = c then 1 else 0 := by
  induction counts with
  | nil => simp [Text.countOne, frequencyOf_cons]
  | cons e counts ih =>
    obtain ⟨e, n⟩ := e
    rw [Text.countOne]
    split
    · next hce =>
      subst hce
      rw [frequencyOf_cons, frequencyOf_cons]
      split <;> rfl
    split
    · next hlt =>
      -- Nothing behind a greater character can be the one that is counted.
      have hnone : frequencyOf ((e, n) :: counts) c = 0 := by
        refine frequencyOf_of_notMem fun hmem => ?_
        rcases List.mem_cons.mp hmem with rfl | hmem
        · exact lt_irrefl c hlt
        · exact lt_irrefl c (lt_trans hlt (List.rel_of_pairwise_cons h.ascending hmem))
      rw [frequencyOf_cons]
      split
      · next hdc => rw [hdc, hnone]
      · rfl
    · next hne _ =>
      rw [frequencyOf_cons, frequencyOf_cons, ih h.of_cons]
      split
      · next hde => rw [if_neg (hde ▸ Ne.symm hne), Nat.add_zero]
      · rfl

/-! ### The counts of a text -/

theorem frequencies_append_singleton (s : Chars) (c : Char) :
    frequencies (s ++ [c]) = countOne c (frequencies s) := by
  rw [frequencies, List.foldl_append, ← frequencies, List.foldl_cons, List.foldl_nil]

theorem areCounts_frequencies (s : Chars) : AreCounts (frequencies s) := by
  induction s using List.reverseRecOn with
  | nil => exact areCounts_nil
  | append_singleton s c ih =>
    rw [frequencies_append_singleton]
    exact ih.countOne c

/-- **The counts of a text** are how often each character occurs in it. -/
@[simp] theorem frequencyOf_frequencies (s : Chars) (c : Char) :
    frequencyOf (frequencies s) c = s.count c := by
  induction s using List.reverseRecOn with
  | nil => rfl
  | append_singleton s d ih =>
    rw [frequencies_append_singleton, (areCounts_frequencies s).frequencyOf_countOne, ih,
      List.count_append, List.count_singleton]
    exact congrArg _ (if_congr (eq_comm.trans beq_iff_eq.symm) rfl rfl)

/-- What holds of all counts of a text holds of the count of each of its characters. -/
theorem forall_mem_frequencies_iff {s : Chars} {P : Char → Nat → Prop} :
    (∀ e ∈ frequencies s, P e.1 e.2) ↔ ∀ c ∈ s, P c (s.count c) := by
  have hmem {c : Char} {n : Nat} : (c, n) ∈ frequencies s ↔ 0 < n ∧ s.count c = n := by
    rw [(areCounts_frequencies s).mem_iff, frequencyOf_frequencies]
  constructor
  · exact fun h c hc => h (c, s.count c) (hmem.mpr ⟨List.count_pos_iff.mpr hc, rfl⟩)
  · rintro h ⟨c, n⟩ he
    obtain ⟨hpos, rfl⟩ := hmem.mp he
    exact h c (List.count_pos_iff.mp hpos)

/-- **One text within another**, character by character. -/
theorem isWithin_frequencies_iff {s t : Chars} :
    isWithin (frequencies s) (frequencies t) = true ↔ ∀ c ∈ s, s.count c ≤ t.count c := by
  simp only [isWithin, List.all_eq_true, decide_eq_true_eq, frequencyOf_frequencies]
  exact forall_mem_frequencies_iff (P := fun c n => n ≤ t.count c)

/-! ### Rearranged texts -/

/-- Lists of counts that say the same of every character are the same: the order leaves no choice
where an entry stands. -/
theorem AreCounts.ext {counts counts' : Frequencies} (h : AreCounts counts)
    (h' : AreCounts counts') (heq : ∀ c, frequencyOf counts c = frequencyOf counts' c) :
    counts = counts' := by
  have hperm : counts.Perm counts' := by
    refine (List.perm_ext_iff_of_nodup (h.nodup.of_map _) (h'.nodup.of_map _)).mpr ?_
    rintro ⟨c, n⟩
    rw [h.mem_iff, h'.mem_iff, heq]
  have hasc : counts.Pairwise fun e e' => e.1 < e'.1 := List.pairwise_map.mp h.ascending
  have hasc' : counts'.Pairwise fun e e' => e.1 < e'.1 := List.pairwise_map.mp h'.ascending
  exact hperm.eq_of_pairwise (fun _ _ _ _ hlt hgt => absurd hgt (lt_asymm hlt)) hasc hasc'

/-- **Equal counts** are those of texts that are rearrangements of each other. -/
theorem frequencies_eq_iff_perm {s t : Chars} : frequencies s = frequencies t ↔ s.Perm t := by
  rw [List.perm_iff_count]
  constructor
  · intro h c
    rw [← frequencyOf_frequencies, h, frequencyOf_frequencies]
  · intro h
    refine (areCounts_frequencies s).ext (areCounts_frequencies t) fun c => ?_
    rw [frequencyOf_frequencies, h c, frequencyOf_frequencies]

/-- Two texts are rearrangements of each other if they have the same characters, equally often. -/
theorem perm_iff_forall_mem_count_eq {s t : Chars} :
    s.Perm t ↔ (∀ c ∈ t, s.count c = t.count c) ∧ ∀ c ∈ s, c ∈ t := by
  rw [List.perm_iff_count]
  constructor
  · intro h
    refine ⟨fun c _ => h c, fun c hc => ?_⟩
    rwa [← List.count_pos_iff, ← h c, List.count_pos_iff]
  · rintro ⟨hcount, hmem⟩ c
    by_cases hc : c ∈ t
    · exact hcount c hc
    · rw [List.count_eq_zero_of_not_mem hc, List.count_eq_zero_of_not_mem fun hs => hc (hmem c hs)]

/-- **Counts compare texts as multisets.** One text is within another if something can be added to
it that makes a rearrangement of the other, and equal counts need nothing added. -/
theorem frequencies_decide_inclusion (s t : Chars) :
    (isWithin (frequencies s) (frequencies t) = true ↔ ∃ u, t.Perm (s ++ u)) ∧
      (frequencies s = frequencies t ↔ s.Perm t) := by
  refine ⟨isWithin_frequencies_iff.trans ⟨fun h => ?_, ?_⟩, frequencies_eq_iff_perm⟩
  · exact ⟨t.diff s, (List.subperm_append_diff_self_of_count_le h).symm⟩
  · rintro ⟨u, hu⟩ c -
    rw [hu.count_eq, List.count_append]
    exact Nat.le_add_right _ _

end LootLedger.Text
