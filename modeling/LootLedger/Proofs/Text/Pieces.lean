import LootLedger.Text.Split
import Mathlib.Data.List.TakeWhile

/-!
# The pieces of a text

Paths are cut at slashes and names at spaces. A text is never without a piece: the first one is what
stands before the first separator, and may be empty. Cutting loses nothing, so what is said of the
pieces can be said of the text.

## Main results

* `Text.splitAtChar_append_cons`: the pieces before a separator and those after it
* `Text.exists_splitAtChar_eq_cons`: the first piece
* `Text.joinWith_splitAtChar`, `Text.splitAtChar_joinWith`: joining undoes the cuts, and the other
  way round
-/

namespace LootLedger.Text

variable {sep : Char}

theorem splitAtChar_ne_nil (s : Chars) : splitAtChar sep s ≠ [] := by
  cases s with
  | nil => exact List.cons_ne_nil _ _
  | cons c s =>
    rw [splitAtChar]
    split
    · exact List.cons_ne_nil _ _
    · split <;> exact List.cons_ne_nil _ _

/-- A text without the separator is one piece. -/
theorem splitAtChar_of_notMem {s : Chars} (h : sep ∉ s) : splitAtChar sep s = [s] := by
  induction s with
  | nil => rfl
  | cons c s ih =>
    rw [splitAtChar, if_neg (List.ne_of_not_mem_cons h).symm, ih (List.not_mem_of_not_mem_cons h)]

/-- The pieces before a separator and those after it. -/
theorem splitAtChar_append_cons (s t : Chars) :
    splitAtChar sep (s ++ sep :: t) = splitAtChar sep s ++ splitAtChar sep t := by
  induction s with
  | nil => exact if_pos rfl
  | cons c s ih =>
    rw [List.cons_append, splitAtChar, splitAtChar, ih]
    split
    · rfl
    · obtain ⟨l, ls, hl⟩ := List.exists_cons_of_ne_nil (@splitAtChar_ne_nil sep s)
      rw [hl]
      rfl

/-- Joining undoes the cuts. -/
theorem joinWith_splitAtChar (s : Chars) : joinWith sep (splitAtChar sep s) = s := by
  induction s with
  | nil => rfl
  | cons c s ih =>
    obtain ⟨l, ls, hl⟩ := List.exists_cons_of_ne_nil (@splitAtChar_ne_nil sep s)
    rw [splitAtChar, hl]
    rw [hl] at ih
    split
    · next hc =>
      rw [joinWith, ih, hc]
      rfl
    · rw [← ih]
      cases ls <;> rfl

/-- The pieces of a text are without the separator. -/
theorem notMem_of_mem_splitAtChar {s piece : Chars} (h : piece ∈ splitAtChar sep s) :
    sep ∉ piece := by
  induction s generalizing piece with
  | nil =>
    obtain rfl := List.mem_singleton.mp h
    exact List.not_mem_nil
  | cons c s ih =>
    obtain ⟨l, ls, hl⟩ := List.exists_cons_of_ne_nil (@splitAtChar_ne_nil sep s)
    rw [splitAtChar] at h
    split at h
    · rcases List.mem_cons.mp h with rfl | h
      · exact List.not_mem_nil
      · exact ih h
    · next hc =>
      rw [hl] at h ih
      rcases List.mem_cons.mp h with rfl | h
      · exact List.not_mem_cons_of_ne_of_not_mem (Ne.symm hc) (ih List.mem_cons_self)
      · exact ih (List.mem_cons_of_mem _ h)

/-- Cutting undoes the joining of pieces without the separator. -/
theorem splitAtChar_joinWith {ss : List Chars} (hnil : ss ≠ []) (h : ∀ s ∈ ss, sep ∉ s) :
    splitAtChar sep (joinWith sep ss) = ss := by
  induction ss with
  | nil => exact absurd rfl hnil
  | cons s ss ih =>
    rw [List.forall_mem_cons] at h
    cases ss with
    | nil => exact splitAtChar_of_notMem h.1
    | cons t ss =>
      rw [joinWith, splitAtChar_append_cons, splitAtChar_of_notMem h.1,
        ih (List.cons_ne_nil _ _) h.2, List.singleton_append]

/-- The first pieces stand in front. -/
theorem joinWith_prefix_append (ss ts : List Chars) :
    joinWith sep ss <+: joinWith sep (ss ++ ts) := by
  induction ss with
  | nil => exact List.nil_prefix
  | cons s ss ih =>
    cases ss with
    | nil =>
      cases ts with
      | nil => exact List.prefix_refl _
      | cons t ts => exact List.prefix_append s _
    | cons s' ss =>
      rw [List.cons_append, List.cons_append, joinWith, joinWith, List.prefix_append_right_inj,
        List.cons_prefix_cons]
      exact ⟨rfl, ih⟩

/-- One more piece at the end. -/
theorem joinWith_concat {ss : List Chars} (h : ss ≠ []) (t : Chars) :
    joinWith sep (ss ++ [t]) = joinWith sep ss ++ sep :: t := by
  induction ss with
  | nil => exact absurd rfl h
  | cons s ss ih =>
    cases ss with
    | nil => rfl
    | cons s' ss =>
      rw [List.cons_append, List.cons_append, joinWith, joinWith, ← List.cons_append,
        ih (List.cons_ne_nil _ _), List.append_assoc, List.cons_append]

/-- **The first piece** is what stands before the first separator. -/
theorem exists_splitAtChar_eq_cons (s : Chars) :
    ∃ ls, splitAtChar sep s = s.takeWhile (· ≠ sep) :: ls := by
  induction s with
  | nil => exact ⟨[], rfl⟩
  | cons c s ih =>
    obtain ⟨ls, hls⟩ := ih
    by_cases hc : c = sep
    · exact ⟨splitAtChar sep s, by simp [splitAtChar, hc]⟩
    · exact ⟨ls, by simp [splitAtChar, hc, hls]⟩

end LootLedger.Text
