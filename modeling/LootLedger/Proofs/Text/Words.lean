import LootLedger.Text.Split
import Mathlib.Data.List.DropRight

/-!
# Words and the blanks between them

A line is cut into words at its blanks, whatever blanks they are. Words that are written with a
space between each two are read back from the line, and the first word of a line begins where its
leading blanks end.

## Main definitions

* `Text.IsWord`, `Text.IsTrimmed`: a non-empty text without blanks, and one without blanks at its
  ends
* `Text.OnlySpaces`: a text all of whose blanks are spaces

## Main results

* `Text.words_joinWith`: words are read back
* `Text.words_eq_cons`: where the first word of a text stands
* `Text.words_append_cons`: a blank cuts a text into words
* `Text.IsTrimmed.trim`, `Text.exists_eq_append_trim`: what trimming leaves and what it takes off
-/

namespace LootLedger.Text

/-- A non-empty text without blanks. -/
structure IsWord (w : Chars) : Prop where
  ne_nil : w ≠ []
  isBlank_eq_false : ∀ c ∈ w, isBlank c = false

/-- A non-empty text with no blank at either end. -/
structure IsTrimmed (s : Chars) : Prop where
  ne_nil : s ≠ []
  head : ∀ c ∈ s.head?, isBlank c = false
  last : ∀ c ∈ s.getLast?, isBlank c = false

/-- All blanks of the text are spaces. -/
def OnlySpaces (s : Chars) : Prop :=
  ∀ c ∈ s, isBlank c = true → c = ' '

instance (s : Chars) : Decidable (OnlySpaces s) :=
  List.decidableBAll _ s

/-! ### Texts with no blanks but spaces -/

theorem OnlySpaces.append {s t : Chars} (hs : OnlySpaces s) (ht : OnlySpaces t) :
    OnlySpaces (s ++ t) := by
  intro c hc
  rcases List.mem_append.mp hc with h | h
  · exact hs c h
  · exact ht c h

theorem OnlySpaces.cons {c : Char} {s : Chars} (hc : isBlank c = true → c = ' ')
    (hs : OnlySpaces s) : OnlySpaces (c :: s) := by
  intro d hd
  rcases List.mem_cons.mp hd with rfl | h
  · exact hc
  · exact hs d h

theorem OnlySpaces.subset {s t : Chars} (ht : OnlySpaces t) (h : s ⊆ t) : OnlySpaces s :=
  fun c hc => ht c (h hc)

theorem IsWord.onlySpaces {w : Chars} (h : IsWord w) : OnlySpaces w := by
  intro c hc hblank
  rw [h.isBlank_eq_false c hc] at hblank
  cases hblank

/-- A text whose only blanks are spaces stands on one line. -/
theorem OnlySpaces.newline_notMem {s : Chars} (h : OnlySpaces s) : '\n' ∉ s :=
  fun hc => absurd (h _ hc (by decide)) (by decide)

theorem OnlySpaces.return_notMem {s : Chars} (h : OnlySpaces s) : '\r' ∉ s :=
  fun hc => absurd (h _ hc (by decide)) (by decide)

theorem OnlySpaces.joinWith {ss : List Chars} (h : ∀ s ∈ ss, OnlySpaces s) :
    OnlySpaces (joinWith ' ' ss) := by
  induction ss with
  | nil => intro c hc; cases hc
  | cons s ss ih =>
    cases ss with
    | nil => exact h s List.mem_cons_self
    | cons t ss =>
      have htail := ih fun u hu => h u (List.mem_cons_of_mem _ hu)
      exact (h s List.mem_cons_self).append (.cons (fun _ => rfl) htail)

/-! ### Trimming -/

theorem trimLeft_eq_self {s : Chars} (h : ∀ c ∈ s.head?, isBlank c = false) : trimLeft s = s := by
  cases s with
  | nil => rfl
  | cons c s => exact trimLeft_cons_of_not_isBlank (h c rfl)

theorem trimRight_eq_self {s : Chars} (h : ∀ c ∈ s.getLast?, isBlank c = false) :
    trimRight s = s := by
  have := trimLeft_eq_self (s := s.reverse) (by rwa [List.head?_reverse])
  rw [trimLeft] at this
  rw [trimRight, this, List.reverse_reverse]

theorem trim_cons_of_isBlank {c : Char} (h : isBlank c = true) (s : Chars) :
    trim (c :: s) = trim s := by
  rw [trim, trimLeft, List.dropWhile_cons_of_pos h, trim, trimLeft]

theorem trim_blanks_append {b : Chars} (hb : ∀ c ∈ b, isBlank c = true) (s : Chars) :
    trim (b ++ s) = trim s := by
  induction b with
  | nil => rfl
  | cons c b ih =>
    rw [List.forall_mem_cons] at hb
    rw [List.cons_append, trim_cons_of_isBlank hb.1, ih hb.2]

theorem trim_append_blanks {b : Chars} (hb : ∀ c ∈ b, isBlank c = true) (s : Chars) :
    trim (s ++ b) = trim s := by
  have hright (t : Chars) : trimRight (t ++ b) = trimRight t := by
    rw [trimRight, List.reverse_append, List.dropWhile_append_of_pos, trimRight]
    exact fun c hc => hb c (List.mem_reverse.mp hc)
  by_cases hs : ∀ c ∈ s, isBlank c = true
  · rw [← List.append_nil (s ++ b), List.append_assoc, trim_blanks_append hs, List.append_nil,
      ← List.append_nil s, trim_blanks_append hs, ← List.append_nil b, trim_blanks_append hb]
  · rw [trim, trimLeft, List.dropWhile_append, if_neg, hright, ← trimLeft, ← trim]
    rwa [List.isEmpty_iff, List.dropWhile_eq_nil_iff]

/-- A text that neither begins nor ends with a blank is not changed by trimming. -/
theorem IsTrimmed.trim {s : Chars} (h : IsTrimmed s) : trim s = s := by
  rw [Text.trim, trimLeft_eq_self h.head, trimRight_eq_self h.last]

theorem IsTrimmed.append {s t : Chars} (hs : IsTrimmed s) (ht : IsTrimmed t) (between : Chars) :
    IsTrimmed (s ++ (between ++ t)) where
  ne_nil := List.append_ne_nil_of_left_ne_nil hs.ne_nil _
  head := by
    rw [List.head?_append_of_ne_nil s hs.ne_nil]
    exact hs.head
  last := by
    rw [← List.append_assoc, List.getLast?_append_of_ne_nil _ ht.ne_nil]
    exact ht.last

theorem IsWord.isTrimmed {w : Chars} (h : IsWord w) : IsTrimmed w where
  ne_nil := h.ne_nil
  head := fun c hc => h.isBlank_eq_false c (List.mem_of_head? hc)
  last := fun c hc => h.isBlank_eq_false c (List.mem_of_getLast? hc)

theorem IsTrimmed.joinWith {ss : List Chars} (hne : ss ≠ []) (h : ∀ s ∈ ss, IsTrimmed s) :
    IsTrimmed (joinWith ' ' ss) := by
  induction ss with
  | nil => exact absurd rfl hne
  | cons s ss ih =>
    cases ss with
    | nil => exact h s List.mem_cons_self
    | cons t ss =>
      have htail := ih (List.cons_ne_nil _ _) fun u hu => h u (List.mem_cons_of_mem _ hu)
      exact (h s List.mem_cons_self).append htail [' ']

/-- Trimming takes off blanks at both ends and nothing else. -/
theorem exists_eq_append_trim (s : Chars) : ∃ before after, (∀ c ∈ before, isBlank c = true) ∧
    (∀ c ∈ after, isBlank c = true) ∧ s = before ++ (trim s ++ after) := by
  refine ⟨s.takeWhile isBlank, ((trimLeft s).reverse.takeWhile isBlank).reverse, ?_, ?_, ?_⟩
  · exact fun c hc => List.all_eq_true.mp List.all_takeWhile c hc
  · intro c hc
    exact List.all_eq_true.mp List.all_takeWhile c (List.mem_reverse.mp hc)
  · have hright : trim s ++ ((trimLeft s).reverse.takeWhile isBlank).reverse = trimLeft s := by
      rw [trim, trimRight, ← List.reverse_append, List.takeWhile_append_dropWhile,
        List.reverse_reverse]
    rw [hright, takeWhile_append_trimLeft]

theorem trim_subset (s : Chars) : trim s ⊆ s := by
  obtain ⟨before, after, -, -, h⟩ := exists_eq_append_trim s
  intro c hc
  rw [h]
  exact List.mem_append_right _ (List.mem_append_left _ hc)

/-- A trimmed text begins where the blanks in front of it end. -/
theorem head?_trimLeft_of_trim {s : Chars} {c : Char} (h : (trim s).head? = some c) :
    (trimLeft s).head? = some c := by
  have hprefix : trim s <+: trimLeft s := List.rdropWhile_prefix isBlank _
  obtain ⟨rest, hrest⟩ := hprefix
  rw [← hrest, List.head?_append, h, Option.some_or]

/-- Trimming leaves nothing, or a text with no blank at either end. -/
theorem trim_eq_nil_or_isTrimmed (s : Chars) : trim s = [] ∨ IsTrimmed (trim s) := by
  by_cases hne : trim s = []
  · exact .inl hne
  · refine .inr ⟨hne, fun c hc => ?_, fun c hc => ?_⟩
    · have hnot := List.head?_dropWhile_not isBlank s
      rw [← trimLeft, head?_trimLeft_of_trim hc] at hnot
      exact hnot
    · obtain ⟨hne', rfl⟩ := List.mem_getLast?_eq_getLast hc
      exact eq_false_of_ne_true (List.rdropWhile_last_not isBlank (trimLeft s) hne')

/-- Trimming leaves nothing of blanks, and of no other text. -/
theorem trim_eq_nil_iff {s : Chars} : trim s = [] ↔ ∀ c ∈ s, isBlank c = true := by
  constructor
  · intro h
    obtain ⟨before, after, hbefore, hafter, hs⟩ := exists_eq_append_trim s
    rw [h, List.nil_append] at hs
    rw [hs]
    exact List.forall_mem_append.mpr ⟨hbefore, hafter⟩
  · intro h
    rcases trim_eq_nil_or_isTrimmed s with hnil | htrim
    · exact hnil
    · obtain ⟨c, t, ht⟩ := List.exists_cons_of_ne_nil htrim.ne_nil
      have hblank := h c (trim_subset s (ht ▸ List.mem_cons_self))
      have hnot := htrim.head c (by rw [ht]; rfl)
      rw [hblank] at hnot
      cases hnot

/-! ### Words that are written are read back -/

theorem wordsFrom_append {u : Chars} (hu : ∀ c ∈ u, isBlank c = false) (w s : Chars) :
    wordsFrom w (u ++ s) = wordsFrom (u.reverse ++ w) s := by
  induction u generalizing w with
  | nil => rfl
  | cons c u ih =>
    have hc : ¬ isBlank c = true := by simp [hu c List.mem_cons_self]
    rw [List.cons_append, wordsFrom, if_neg hc, ih fun d hd => hu d (List.mem_cons_of_mem _ hd),
      List.reverse_cons, List.append_assoc]
    rfl

theorem IsWord.words {w : Chars} (h : IsWord w) : words w = [w] := by
  have hw := wordsFrom_append h.isBlank_eq_false [] []
  rw [List.append_nil, List.append_nil, wordsFrom, if_neg (by simpa using h.ne_nil),
    List.reverse_reverse] at hw
  exact hw

theorem IsWord.words_append {w : Chars} (h : IsWord w) {c : Char} (hc : isBlank c = true)
    (s : Chars) : Text.words (w ++ c :: s) = w :: Text.words s := by
  rw [Text.words, wordsFrom_append h.isBlank_eq_false, List.append_nil, wordsFrom, if_pos hc,
    if_neg (by simpa using h.ne_nil), List.reverse_reverse, Text.words]

/-- **Words with spaces between them are read back.** -/
theorem words_joinWith {ws : List Chars} (h : ∀ w ∈ ws, IsWord w) :
    words (joinWith ' ' ws) = ws := by
  induction ws with
  | nil => rfl
  | cons w ws ih =>
    cases ws with
    | nil => exact (h w List.mem_cons_self).words
    | cons v ws =>
      rw [joinWith, (h w List.mem_cons_self).words_append (by decide),
        ih fun u hu => h u (List.mem_cons_of_mem _ hu)]

/-! ### The first word -/

theorem wordsFrom_ne_nil {p : Chars} (hp : p ≠ []) (s : Chars) : wordsFrom p s ≠ [] := by
  induction s generalizing p with
  | nil =>
    rw [wordsFrom, if_neg hp]
    exact List.cons_ne_nil _ _
  | cons c s ih =>
    rw [wordsFrom, if_neg hp]
    split
    · exact List.cons_ne_nil _ _
    · exact ih (List.cons_ne_nil c p)

/-- A text that begins with no blank has a word. -/
theorem IsTrimmed.words_ne_nil {s : Chars} (h : IsTrimmed s) : words s ≠ [] := by
  obtain ⟨c, s, rfl⟩ := List.exists_cons_of_ne_nil h.ne_nil
  rw [words, wordsFrom, if_neg (by simp [h.head c rfl])]
  exact wordsFrom_ne_nil (List.cons_ne_nil c []) s

theorem wordsFrom_eq_cons {p s w : Chars} {ws : List Chars}
    (hp : ∀ c ∈ p, isBlank c = false) (h : wordsFrom p s = w :: ws) :
    IsWord w ∧ ∃ before after, (∀ c ∈ before, isBlank c = true) ∧ (p ≠ [] → before = []) ∧
      p.reverse ++ s = before ++ (w ++ after) := by
  have hpword : p ≠ [] → IsWord p.reverse := fun hne =>
    ⟨by simpa using hne, fun c hc => hp c (List.mem_reverse.mp hc)⟩
  induction s generalizing p with
  | nil =>
    rw [wordsFrom] at h
    split at h
    · cases h
    · next hne =>
      obtain ⟨rfl, -⟩ := List.cons.inj h
      exact ⟨hpword hne, [], [], by simp, fun _ => rfl, rfl⟩
  | cons c s ih =>
    rw [wordsFrom] at h
    split at h
    · next hc =>
      split at h
      · next hnil =>
        subst hnil
        obtain ⟨hw, before, after, hbefore, -, hs⟩ := ih (by simp) h (by simp)
        refine ⟨hw, c :: before, after, ?_, by simp, congrArg (c :: ·) hs⟩
        simpa using ⟨hc, hbefore⟩
      · next hne =>
        obtain ⟨rfl, -⟩ := List.cons.inj h
        exact ⟨hpword hne, [], c :: s, by simp, fun _ => rfl, rfl⟩
    · next hc =>
      -- the character goes to the pending word, so nothing stands before that word
      have hcp : ∀ d ∈ c :: p, isBlank d = false := by simpa using ⟨by simpa using hc, hp⟩
      obtain ⟨hw, before, after, -, hnil, hs⟩ :=
        ih hcp h fun _ => ⟨by simp, fun d hd => hcp d (List.mem_reverse.mp hd)⟩
      refine ⟨hw, [], after, by simp, fun _ => rfl, ?_⟩
      rw [hnil (List.cons_ne_nil _ _)] at hs
      simpa using hs

/-- **The first word of a text** stands behind the blanks at its start. -/
theorem words_eq_cons {s w : Chars} {ws : List Chars} (h : words s = w :: ws) :
    IsWord w ∧ ∃ before after, (∀ c ∈ before, isBlank c = true) ∧ s = before ++ (w ++ after) := by
  obtain ⟨hw, before, after, hbefore, -, hs⟩ := wordsFrom_eq_cons (by simp) h
  exact ⟨hw, before, after, hbefore, hs⟩

/-! ### The blanks between words

A text is cut at every blank, so how many blanks stand at a place, and which, makes no difference
to its words. -/

theorem wordsFrom_append_cons {c : Char} (hc : isBlank c = true) (w s t : Chars) :
    wordsFrom w (s ++ c :: t) = wordsFrom w s ++ words t := by
  induction s generalizing w with
  | nil =>
    rw [List.nil_append, wordsFrom, wordsFrom, if_pos hc]
    split <;> rfl
  | cons d s ih =>
    rw [List.cons_append, wordsFrom, wordsFrom]
    split
    · split
      · exact ih []
      · rw [ih [], List.cons_append]
    · exact ih (d :: w)

/-- **A blank cuts a text** into two that have their words apart. -/
theorem words_append_cons {c : Char} (hc : isBlank c = true) (s t : Chars) :
    words (s ++ c :: t) = words s ++ words t :=
  wordsFrom_append_cons hc [] s t

theorem words_cons {c : Char} (hc : isBlank c = true) (t : Chars) : words (c :: t) = words t :=
  words_append_cons hc [] t

theorem words_blanks_append {b : Chars} (hb : ∀ c ∈ b, isBlank c = true) (t : Chars) :
    words (b ++ t) = words t := by
  induction b with
  | nil => rfl
  | cons c b ih =>
    rw [List.forall_mem_cons] at hb
    rw [List.cons_append, words_cons hb.1, ih hb.2]

theorem words_of_blanks {b : Chars} (hb : ∀ c ∈ b, isBlank c = true) : words b = [] := by
  simpa using words_blanks_append hb []

theorem words_append_blanks {b : Chars} (hb : ∀ c ∈ b, isBlank c = true) (s : Chars) :
    words (s ++ b) = words s := by
  cases b with
  | nil => rw [List.append_nil]
  | cons c b =>
    rw [List.forall_mem_cons] at hb
    rw [words_append_cons hb.1, words_of_blanks hb.2, List.append_nil]

/-- Any blanks cut a text, as long as there are some. -/
theorem words_append_blanks_append {b : Chars} (hne : b ≠ []) (hb : ∀ c ∈ b, isBlank c = true)
    (s t : Chars) : words (s ++ (b ++ t)) = words s ++ words t := by
  obtain ⟨c, b, rfl⟩ := List.exists_cons_of_ne_nil hne
  rw [List.forall_mem_cons] at hb
  rw [List.cons_append, words_append_cons hb.1, words_blanks_append hb.2]

/-- The first word of a text stands in front of a blank or at the end. -/
theorem IsWord.words_append_of_head? {w r : Chars} (hw : IsWord w)
    (hr : ∀ c ∈ r.head?, isBlank c = true) : Text.words (w ++ r) = w :: Text.words r := by
  cases r with
  | nil => rw [List.append_nil, hw.words, words_nil]
  | cons c r => rw [hw.words_append (hr c rfl), words_cons (hr c rfl)]

@[simp] theorem words_trim (s : Chars) : words (trim s) = words s := by
  obtain ⟨before, after, hbefore, hafter, hs⟩ := exists_eq_append_trim s
  conv_rhs => rw [hs]
  rw [words_blanks_append hbefore, words_append_blanks hafter]

end LootLedger.Text
