import LootLedger.Text.EditDistance
import Mathlib.Order.Bounds.Basic
import Mathlib.Order.MinMax

/-!
# The edit distance is the least number of edits

Edits may be made anywhere and in any order, and some may undo others. The rows of `editDistance`
know nothing of that: they only compare the ends of prefixes. Between the two stands a recursion on
the first characters, `distance`. It can be followed by edits, front to back, and no edit whatever
changes it by more than one. So it is the least number of edits.

The rows grow at the other end. They are the recursion on reversed texts, which makes no difference
since edits can be made in a mirror.

## Main definitions

* `Text.Edit`, `Text.Edits`: one edit of one character, and a number of them
* `Text.IsNear`: some number of edits will do, up to a limit
* `Text.distance`: the edit distance by recursion on the first characters

## Main results

* `Text.edits_distance`, `Text.Edits.distance_le`: as many edits will do, and fewer will not
* `Text.editDistance_eq_distance_reverse`: the rows compute the recursion
* `Text.isLeast_editDistance`: the edit distance is the least number of edits
-/

namespace LootLedger.Text

/-- One edit of one character. -/
inductive Edit : Chars → Chars → Prop
  | insert (before : Chars) (c : Char) (after : Chars) :
    Edit (before ++ after) (before ++ c :: after)
  | delete (before : Chars) (c : Char) (after : Chars) :
    Edit (before ++ c :: after) (before ++ after)
  | replace (before : Chars) (c d : Char) (after : Chars) :
    Edit (before ++ c :: after) (before ++ d :: after)

/-- So many edits, one after another, make the second text of the first. -/
inductive Edits : Nat → Chars → Chars → Prop
  | refl (s : Chars) : Edits 0 s s
  | step {n : Nat} {s t u : Chars} (h : Edit s t) (hs : Edits n t u) : Edits (n + 1) s u

/-- No more than `n` edits make the second text of the first. -/
def IsNear (n : Nat) (s t : Chars) : Prop :=
  ∃ m ≤ n, Edits m s t

/-! ### Edits -/

theorem Edit.cons {s t : Chars} (h : Edit s t) (a : Char) : Edit (a :: s) (a :: t) := by
  cases h with
  | insert before c after => exact insert (a :: before) c after
  | delete before c after => exact delete (a :: before) c after
  | replace before c d after => exact replace (a :: before) c d after

theorem Edit.reverse {s t : Chars} (h : Edit s t) : Edit s.reverse t.reverse := by
  cases h with
  | insert before c after => simpa using insert after.reverse c before.reverse
  | delete before c after => simpa using delete after.reverse c before.reverse
  | replace before c d after => simpa using replace after.reverse c d before.reverse

theorem Edits.cons {n : Nat} {s t : Chars} (h : Edits n s t) (a : Char) :
    Edits n (a :: s) (a :: t) := by
  induction h with
  | refl s => exact refl _
  | step h _ ih => exact step (h.cons a) ih

theorem Edits.reverse {n : Nat} {s t : Chars} (h : Edits n s t) :
    Edits n s.reverse t.reverse := by
  induction h with
  | refl s => exact refl _
  | step h _ ih => exact step h.reverse ih

theorem edits_zero_iff {s t : Chars} : Edits 0 s t ↔ s = t := by
  constructor
  · intro h
    cases h
    rfl
  · rintro rfl
    exact .refl s

/-! ### Recursion on the first characters -/

/-- The edit distance by recursion: the first characters are one inserted, one deleted, or a pair
that is kept if it can be. -/
def distance : Chars → Chars → Nat
  | [], [] => 0
  | [], _ :: t => distance [] t + 1
  | _ :: s, [] => distance s [] + 1
  | c :: s, d :: t =>
    min (min (distance (c :: s) t + 1) (distance s (d :: t) + 1))
      (distance s t + if c = d then 0 else 1)
termination_by s t => s.length + t.length

theorem distance_nil_left (t : Chars) : distance [] t = t.length := by
  induction t with
  | nil => rw [distance, List.length_nil]
  | cons d t ih => rw [distance, ih, List.length_cons]

theorem distance_cons_nil (c : Char) (s : Chars) : distance (c :: s) [] = distance s [] + 1 := by
  rw [distance]

theorem distance_cons_cons (c d : Char) (s t : Chars) : distance (c :: s) (d :: t) =
    min (min (distance (c :: s) t + 1) (distance s (d :: t) + 1))
      (distance s t + if c = d then 0 else 1) := by
  rw [distance]

/-- **As many edits will do**, made from the front to the back. -/
theorem edits_distance (s t : Chars) : Edits (distance s t) s t := by
  induction s, t using distance.induct with
  | case1 =>
    rw [distance]
    exact .refl []
  | case2 d t ih =>
    rw [distance]
    exact .step (.insert [] d []) (ih.cons d)
  | case3 c s ih =>
    rw [distance]
    exact .step (.delete [] c s) ih
  | case4 c s d t hinsert hdelete hpair =>
    have hinserted : Edits (distance (c :: s) t + 1) (c :: s) (d :: t) :=
      .step (.insert [] d (c :: s)) (hinsert.cons d)
    have hdeleted : Edits (distance s (d :: t) + 1) (c :: s) (d :: t) :=
      .step (.delete [] c s) hdelete
    have hpaired : Edits (distance s t + if c = d then 0 else 1) (c :: s) (d :: t) := by
      split
      · next hcd => exact hcd ▸ hpair.cons c
      · exact .step (.replace [] c d s) (hpair.cons d)
    rw [distance_cons_cons]
    rcases min_choice (min (distance (c :: s) t + 1) (distance s (d :: t) + 1))
      (distance s t + if c = d then 0 else 1) with h | h <;> rw [h]
    · rcases min_choice (distance (c :: s) t + 1) (distance s (d :: t) + 1) with h | h <;> rw [h]
      · exact hinserted
      · exact hdeleted
    · exact hpaired

/-! ### One edit changes the distance by one at most -/

theorem distance_self (s : Chars) : distance s s = 0 := by
  induction s with
  | nil => rw [distance]
  | cons c s ih => rw [distance_cons_cons, ih, if_pos rfl, Nat.min_zero]

theorem distance_cons_left_le (c : Char) (s t : Chars) :
    distance (c :: s) t ≤ distance s t + 1 := by
  cases t with
  | nil => rw [distance_cons_nil]
  | cons d t => exact distance_cons_cons c d s t ▸ (min_le_left _ _).trans (min_le_right _ _)

theorem distance_cons_right_le (d : Char) (s t : Chars) :
    distance s (d :: t) ≤ distance s t + 1 := by
  cases s with
  | nil => rw [distance]
  | cons c s => exact distance_cons_cons c d s t ▸ (min_le_left _ _).trans (min_le_left _ _)

/-- Without its first character a text is at most one edit farther away. -/
theorem distance_le_cons_left (c : Char) (s t : Chars) :
    distance s t ≤ distance (c :: s) t + 1 := by
  induction t with
  | nil => rw [distance_cons_nil]; omega
  | cons d t ih =>
    have hinsert := distance_cons_right_le d s t
    rw [distance_cons_cons]
    omega

/-- A common first character brings two texts no farther apart. -/
theorem distance_cons_le_cons {s s' : Chars} (h : ∀ t, distance s t ≤ distance s' t + 1) (a : Char)
    (t : Chars) : distance (a :: s) t ≤ distance (a :: s') t + 1 := by
  induction t with
  | nil =>
    have hnil := h []
    rw [distance_cons_nil, distance_cons_nil]
    omega
  | cons d t ih =>
    have hdelete := h (d :: t)
    have hpair := h t
    rw [distance_cons_cons, distance_cons_cons]
    omega

theorem distance_replace_le (c d : Char) (s t : Chars) :
    distance (c :: s) t ≤ distance (d :: s) t + 1 := by
  induction t with
  | nil => rw [distance_cons_nil, distance_cons_nil]; omega
  | cons e t ih =>
    rw [distance_cons_cons, distance_cons_cons]
    split <;> omega

/-- **One edit** changes the distance by one at most. -/
theorem Edit.distance_le {s s' : Chars} (h : Edit s s') (t : Chars) :
    distance s t ≤ distance s' t + 1 := by
  have hcommon {u u' : Chars} (hu : ∀ t, distance u t ≤ distance u' t + 1) (before t : Chars) :
      distance (before ++ u) t ≤ distance (before ++ u') t + 1 := by
    induction before generalizing t with
    | nil => exact hu t
    | cons a before ih => exact distance_cons_le_cons ih a t
  cases h with
  | insert before c after => exact hcommon (distance_le_cons_left c after) before t
  | delete before c after => exact hcommon (distance_cons_left_le c after) before t
  | replace before c d after => exact hcommon (distance_replace_le c d after) before t

/-- **Fewer edits will not do.** -/
theorem Edits.distance_le {n : Nat} {s t : Chars} (h : Edits n s t) : distance s t ≤ n := by
  induction h with
  | refl s => exact (distance_self s).le
  | @step n s s' t hedit _ ih => exact (hedit.distance_le t).trans (Nat.add_le_add_right ih 1)

theorem isLeast_distance (s t : Chars) : IsLeast {n | Edits n s t} (distance s t) :=
  ⟨edits_distance s t, fun _ h => h.distance_le⟩

/-- Read backwards, two texts are as far apart as before. -/
theorem distance_reverse (s t : Chars) : distance s.reverse t.reverse = distance s t := by
  refine (isLeast_distance s.reverse t.reverse).unique
    ⟨(edits_distance s t).reverse, fun n h => Edits.distance_le ?_⟩
  simpa using h.reverse

/-! ### Rows

What has been read of the two texts is held backwards, so that one more character of either stands
in front. -/

/-- The entries of a row behind the one for `p`, of which `t` is still to come. -/
def laterEntries (s p : Chars) : Chars → List Nat
  | [] => []
  | d :: t => distance s (d :: p) :: laterEntries s (d :: p) t

theorem nextEntries_laterEntries (c : Char) (s p t : Chars) :
    nextEntries c (distance (c :: s) p) (distance s p) (laterEntries s p t) t =
      laterEntries (c :: s) p t := by
  induction t generalizing p with
  | nil => rfl
  | cons d t ih =>
    rw [laterEntries, laterEntries, nextEntries, ← distance_cons_cons, ih]

/-- **One more character** gives the row of the text with that character. -/
theorem nextRow_laterEntries (c : Char) (s t : Chars) :
    nextRow t (distance s [] :: laterEntries s [] t) c =
      distance (c :: s) [] :: laterEntries (c :: s) [] t := by
  rw [nextRow, ← distance_cons_nil c s, nextEntries_laterEntries]

theorem firstRow_eq (t : Chars) : firstRow t = distance [] [] :: laterEntries [] [] t := by
  have hlater (p t : Chars) : laterEntries [] p t = List.range' (p.length + 1) t.length := by
    induction t generalizing p with
    | nil => rfl
    | cons d t ih =>
      rw [laterEntries, ih, distance_nil_left, List.length_cons, List.length_cons, List.range'_succ]
  rw [firstRow, List.range_eq_range', List.range'_succ, hlater, distance_nil_left, List.length_nil]

theorem foldl_nextRow (s u t : Chars) :
    s.foldl (nextRow t) (distance u [] :: laterEntries u [] t) =
      distance (s.reverse ++ u) [] :: laterEntries (s.reverse ++ u) [] t := by
  induction s generalizing u with
  | nil => rfl
  | cons c s ih =>
    rw [List.foldl_cons, nextRow_laterEntries, ih, List.reverse_cons, List.append_assoc]
    rfl

theorem getLastD_laterEntries (s p t : Chars) (x : Nat) :
    (distance s p :: laterEntries s p t).getLastD x = distance s (t.reverse ++ p) := by
  induction t generalizing p x with
  | nil => rfl
  | cons d t ih =>
    rw [laterEntries, List.getLastD_cons, ih, List.reverse_cons, List.append_assoc]
    rfl

/-- **The rows compute the recursion**, from the other end. -/
theorem editDistance_eq_distance_reverse (s t : Chars) :
    editDistance s t = distance s.reverse t.reverse := by
  rw [editDistance, firstRow_eq, foldl_nextRow, getLastD_laterEntries, List.append_nil,
    List.append_nil]

/-- **The edit distance** is the least number of edits. -/
theorem isLeast_editDistance (s t : Chars) : IsLeast {n | Edits n s t} (editDistance s t) := by
  rw [editDistance_eq_distance_reverse, distance_reverse]
  exact isLeast_distance s t

theorem isNear_iff {n : Nat} {s t : Chars} : IsNear n s t ↔ editDistance s t ≤ n := by
  obtain ⟨hedits, hleast⟩ := isLeast_editDistance s t
  constructor
  · rintro ⟨m, hm, h⟩
    exact (hleast h).trans hm
  · exact fun h => ⟨_, h, hedits⟩

theorem editDistance_eq_zero_iff {s t : Chars} : editDistance s t = 0 ↔ s = t := by
  rw [← edits_zero_iff]
  constructor
  · exact fun h => h ▸ (isLeast_editDistance s t).1
  · exact fun h => Nat.le_zero.mp ((isLeast_editDistance s t).2 h)

end LootLedger.Text
