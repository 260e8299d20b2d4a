import LootLedger.Filter.Line
import LootLedger.Proofs.Text.Words

/-!
# Lines taken apart and put together

A line of a filter document is taken apart in three steps: its blanks become spaces, its comment is
cut off, and its arguments are split at spaces or, where they may be quoted, at spaces outside
quotes. Each step leaves something that the next can rely on. The arguments that arrive at a reader
have no blanks but spaces and no comment, and a token that was quoted has no quotes and is not
empty.

The other way round, arguments that are written with a space between each two come back as they
were written. Quotes protect spaces and number signs only as long as each argument closes the quote
that it opens, so what stands in a text is followed by `quotedAfter`, whether it ends inside quotes.

## Main definitions

* `Filter.quotedAfter`: a text ends inside quotes
* `Filter.IsCode`: a text without a comment
* `Filter.IsQuotable`: a text that can stand between quotes
* `Filter.Argument`: an argument as it is written, in quotes or not

## Main results

* `Filter.shapeOf_eq_code`: what arrives at the reader of a keyword
* `Filter.shapeOf_cons_joinWith`: a keyword with its arguments, read back
* `Filter.isQuotable_of_mem_splitQuoted`: the tokens of quoted arguments
* `Filter.splitQuoted_joinWith`: arguments that may be quoted, read back
-/

namespace LootLedger.Filter

open Text (Chars isBlank joinWith IsWord IsTrimmed OnlySpaces)

/-! ### Comments -/

/-- A text that begins inside quotes, or outside of them, ends inside quotes. -/
def quotedAfter (quoted : Bool) (s : Chars) : Bool :=
  s.foldl (fun q c => if c = '"' then !q else q) quoted

/-- A text that begins inside quotes, or outside of them, has no number sign outside quotes. -/
def IsCode (quoted : Bool) (s : Chars) : Prop :=
  withoutCommentFrom quoted s = s

@[simp] theorem quotedAfter_nil (quoted : Bool) : quotedAfter quoted [] = quoted := rfl

theorem quotedAfter_cons (quoted : Bool) (c : Char) (s : Chars) :
    quotedAfter quoted (c :: s) = quotedAfter (if c = '"' then !quoted else quoted) s := rfl

theorem quotedAfter_append (quoted : Bool) (s t : Chars) :
    quotedAfter quoted (s ++ t) = quotedAfter (quotedAfter quoted s) t :=
  List.foldl_append

theorem quotedAfter_of_notMem {s : Chars} (h : '"' ∉ s) (quoted : Bool) :
    quotedAfter quoted s = quoted := by
  induction s with
  | nil => rfl
  | cons c s ih =>
    rw [List.mem_cons, not_or] at h
    rw [quotedAfter_cons, if_neg (Ne.symm h.1), ih h.2]

@[simp] theorem isCode_nil (quoted : Bool) : IsCode quoted [] := rfl

theorem isCode_cons {quoted : Bool} {c : Char} {s : Chars} : IsCode quoted (c :: s) ↔
    ¬ (c = '#' ∧ quoted = false) ∧ IsCode (if c = '"' then !quoted else quoted) s := by
  unfold IsCode
  rw [withoutCommentFrom]
  by_cases hquote : c = '"'
  · simp [hquote]
  · by_cases hsign : c = '#' ∧ quoted = false
    · simp [hsign]
    · simp [hquote, hsign]

theorem isCode_append {quoted : Bool} {s t : Chars} :
    IsCode quoted (s ++ t) ↔ IsCode quoted s ∧ IsCode (quotedAfter quoted s) t := by
  induction s generalizing quoted with
  | nil => simp
  | cons c s ih => rw [List.cons_append, isCode_cons, isCode_cons, ih, quotedAfter_cons, and_assoc]

theorem isCode_of_notMem {s : Chars} (h : '#' ∉ s) (quoted : Bool) : IsCode quoted s := by
  induction s generalizing quoted with
  | nil => rfl
  | cons c s ih =>
    rw [List.mem_cons, not_or] at h
    exact isCode_cons.mpr ⟨fun hc => h.1 hc.1.symm, ih h.2 _⟩

/-- Inside quotes nothing is a comment. -/
theorem isCode_true_of_notMem {s : Chars} (h : '"' ∉ s) : IsCode true s := by
  induction s with
  | nil => rfl
  | cons c s ih =>
    rw [List.mem_cons, not_or] at h
    rw [isCode_cons, if_neg (Ne.symm h.1)]
    exact ⟨by simp, ih h.2⟩

/-- A text whose comment is cut off has none. -/
theorem isCode_withoutCommentFrom (quoted : Bool) (s : Chars) :
    IsCode quoted (withoutCommentFrom quoted s) := by
  induction s generalizing quoted with
  | nil => rfl
  | cons c s ih =>
    rw [withoutCommentFrom]
    split
    · next hquote => exact isCode_cons.mpr ⟨by simp [hquote], by simpa [hquote] using ih (!quoted)⟩
    · next hquote =>
      split
      · rfl
      · next hsign => exact isCode_cons.mpr ⟨hsign, by simpa [hquote] using ih quoted⟩

theorem withoutCommentFrom_subset (quoted : Bool) (s : Chars) :
    withoutCommentFrom quoted s ⊆ s := by
  induction s generalizing quoted with
  | nil => exact List.Subset.refl _
  | cons c s ih =>
    rw [withoutCommentFrom]
    split
    · exact List.cons_subset_cons c (ih _)
    · split
      · exact List.nil_subset _
      · exact List.cons_subset_cons c (ih _)

theorem quotedAfter_of_blanks {s : Chars} (h : ∀ c ∈ s, isBlank c = true) (quoted : Bool) :
    quotedAfter quoted s = quoted :=
  quotedAfter_of_notMem (fun hc => absurd (h _ hc) (by decide)) quoted

theorem IsCode.trim {quoted : Bool} {s : Chars} (h : IsCode quoted s) :
    IsCode quoted (Text.trim s) := by
  obtain ⟨before, after, hbefore, -, hs⟩ := Text.exists_eq_append_trim s
  rw [hs, isCode_append, quotedAfter_of_blanks hbefore, isCode_append] at h
  exact h.2.1

/-! ### The parts of a line -/

theorem onlySpaces_spaced (line : Chars) : OnlySpaces (spaced line) := by
  intro c hc
  obtain ⟨d, -, rfl⟩ := List.mem_map.mp hc
  split
  · exact fun _ => rfl
  · next hd => exact fun hblank => absurd hblank hd

theorem spaced_eq_self {s : Chars} (h : OnlySpaces s) : spaced s = s := by
  unfold spaced
  conv_rhs => rw [← List.map_id s]
  refine List.map_congr_left fun c hc => ?_
  split
  · next hblank => exact (h c hc hblank).symm
  · rfl

/-- **What arrives at the reader of a keyword.** The arguments have no blanks but spaces, and if
the keyword has no quotes they have no comment. -/
theorem shapeOf_eq_code {line keyword arguments : Chars}
    (h : shapeOf line = .code keyword arguments) :
    OnlySpaces arguments ∧ ('"' ∉ keyword → IsCode false arguments) := by
  unfold shapeOf at h
  split at h
  · cases h
  · cases h
  · next s hs hsign =>
    have hcode : IsCode false (Text.trim (withoutComment (Text.trim (spaced line)))) :=
      (isCode_withoutCommentFrom false _).trim
    have hspaces : OnlySpaces (Text.trim (withoutComment (Text.trim (spaced line)))) :=
      (onlySpaces_spaced line).subset fun c hc => Text.trim_subset _
        (withoutCommentFrom_subset false _ (Text.trim_subset _ hc))
    generalize Text.trim (withoutComment (Text.trim (spaced line))) = code at h hcode hspaces
    obtain ⟨rfl, rfl⟩ := Shape.code.inj h
    refine ⟨hspaces.subset fun c hc => (List.dropWhile_sublist _).subset (Text.trim_subset _ hc),
      fun hquote => ?_⟩
    rw [← List.takeWhile_append_dropWhile (p := (· ≠ ' ')) (l := code), isCode_append,
      quotedAfter_of_notMem hquote] at hcode
    exact hcode.2.trim

/-- The arguments that arrive are trimmed. -/
theorem eq_nil_or_isTrimmed_of_shapeOf {line keyword arguments : Chars}
    (h : shapeOf line = .code keyword arguments) : arguments = [] ∨ IsTrimmed arguments := by
  unfold shapeOf at h
  split at h
  · cases h
  · cases h
  · obtain ⟨-, rfl⟩ := Shape.code.inj h
    exact Text.trim_eq_nil_or_isTrimmed _

/-- A word that can begin a line: neither a comment nor a quote. -/
structure IsKeyword (keyword : Chars) : Prop where
  isWord : IsWord keyword
  quote_notMem : '"' ∉ keyword
  sign_notMem : '#' ∉ keyword

theorem IsKeyword.append {s t : Chars} (hs : IsKeyword s) (ht : IsKeyword t) :
    IsKeyword (s ++ t) where
  isWord := ⟨List.append_ne_nil_of_left_ne_nil hs.isWord.ne_nil t, List.forall_mem_append.mpr
    ⟨hs.isWord.isBlank_eq_false, ht.isWord.isBlank_eq_false⟩⟩
  quote_notMem := List.not_mem_append hs.quote_notMem ht.quote_notMem
  sign_notMem := List.not_mem_append hs.sign_notMem ht.sign_notMem

theorem IsKeyword.ne_space {keyword : Chars} (h : IsKeyword keyword) :
    ∀ c ∈ keyword, decide (c ≠ ' ') = true := by
  intro c hc
  refine decide_eq_true fun hspace => ?_
  have hblank := h.isWord.isBlank_eq_false c hc
  rw [hspace] at hblank
  exact absurd hblank (by decide)

/-- A trimmed line of code that has no blanks but spaces and begins with no number sign. -/
theorem shapeOf_of_isTrimmed {line : Chars} (htrim : IsTrimmed line) (hspaces : OnlySpaces line)
    (hcode : IsCode false line) :
    shapeOf line = .code (line.takeWhile (· ≠ ' ')) (Text.trim (line.dropWhile (· ≠ ' '))) := by
  have hs : Text.trim (spaced line) = line := by rw [spaced_eq_self hspaces, htrim.trim]
  unfold shapeOf
  rw [hs]
  split
  · exact absurd rfl htrim.ne_nil
  · exact absurd ⟨rfl, rfl⟩ (isCode_cons.mp hcode).1
  · rw [withoutComment, hcode, htrim.trim]

/-- **A keyword with its arguments, read back.** -/
theorem shapeOf_cons_joinWith {keyword : Chars} {arguments : List Chars} (hk : IsKeyword keyword)
    (htrim : ∀ a ∈ arguments, IsTrimmed a) (hspaces : ∀ a ∈ arguments, OnlySpaces a)
    (hcode : IsCode false (joinWith ' ' arguments)) :
    shapeOf (joinWith ' ' (keyword :: arguments)) = .code keyword (joinWith ' ' arguments) := by
  have htrim' : IsTrimmed (joinWith ' ' (keyword :: arguments)) :=
    .joinWith (List.cons_ne_nil _ _) (by simpa using ⟨hk.isWord.isTrimmed, htrim⟩)
  have hspaces' : OnlySpaces (joinWith ' ' (keyword :: arguments)) :=
    .joinWith (by simpa using ⟨hk.isWord.onlySpaces, hspaces⟩)
  have hkcode : IsCode false keyword := isCode_of_notMem hk.sign_notMem false
  cases arguments with
  | nil =>
    rw [joinWith] at htrim' hspaces' ⊢
    rw [shapeOf_of_isTrimmed htrim' hspaces' hkcode, ← List.append_nil keyword,
      List.takeWhile_append_of_pos hk.ne_space, List.dropWhile_append_of_pos hk.ne_space]
    rfl
  | cons a arguments =>
    have hline : IsCode false (keyword ++ ' ' :: joinWith ' ' (a :: arguments)) := by
      rw [isCode_append, quotedAfter_of_notMem hk.quote_notMem, isCode_cons]
      exact ⟨hkcode, by decide, hcode⟩
    have hjoin : IsTrimmed (joinWith ' ' (a :: arguments)) := .joinWith (List.cons_ne_nil _ _) htrim
    rw [joinWith] at htrim' hspaces' ⊢
    rw [shapeOf_of_isTrimmed htrim' hspaces' hline, List.takeWhile_append_of_pos hk.ne_space,
      List.dropWhile_append_of_pos hk.ne_space, List.takeWhile_cons_of_neg (by decide),
      List.dropWhile_cons_of_neg (by decide), List.append_nil,
      Text.trim_cons_of_isBlank (by decide), hjoin.trim]

/-! ### Tokens of quoted arguments -/

/-- A text that can stand between quotes on a line. -/
structure IsQuotable (s : Chars) : Prop where
  ne_nil : s ≠ []
  quote_notMem : '"' ∉ s
  onlySpaces : OnlySpaces s

instance (s : Chars) : Decidable (IsQuotable s) :=
  decidable_of_iff (s ≠ [] ∧ '"' ∉ s ∧ OnlySpaces s)
    ⟨fun h => ⟨h.1, h.2.1, h.2.2⟩, fun h => ⟨h.ne_nil, h.quote_notMem, h.onlySpaces⟩⟩

theorem IsQuotable.append {s t : Chars} (hs : IsQuotable s) (ht : IsQuotable t) :
    IsQuotable (s ++ t) where
  ne_nil := List.append_ne_nil_of_left_ne_nil hs.ne_nil t
  quote_notMem := List.not_mem_append hs.quote_notMem ht.quote_notMem
  onlySpaces := hs.onlySpaces.append ht.onlySpaces

theorem IsKeyword.isQuotable {keyword : Chars} (h : IsKeyword keyword) : IsQuotable keyword where
  ne_nil := h.isWord.ne_nil
  quote_notMem := h.quote_notMem
  onlySpaces := h.isWord.onlySpaces

theorem Split.push_of_ne_nil {token : Chars} (h : token ≠ []) (s : Split) :
    s.push token = ⟨token :: s.tokens, s.unterminated⟩ := by
  rw [push, if_neg h]

theorem Split.mem_tokens_push_iff {token t : Chars} {s : Split} :
    t ∈ (s.push token).tokens ↔ (t ≠ [] ∧ t = token) ∨ t ∈ s.tokens := by
  rw [push]
  split
  · next hnil => exact ⟨.inr, fun h => h.resolve_left fun h => h.1 (h.2.trans hnil)⟩
  · next hne =>
    rw [List.mem_cons]
    exact or_congr_left ⟨fun h => ⟨h ▸ hne, h⟩, And.right⟩

/-- A token holds something, and it holds only what was pending or is no quote. -/
theorem mem_tokens_splitQuotedFrom {quoted : Bool} {pending s t : Chars}
    (h : t ∈ (splitQuotedFrom quoted pending s).tokens) :
    t ≠ [] ∧ ∀ c ∈ t, c ∈ pending ∨ c ≠ '"' ∧ c ∈ s := by
  induction s generalizing quoted pending with
  | nil =>
    rw [splitQuotedFrom, Split.mem_tokens_push_iff] at h
    obtain ⟨hne, rfl⟩ := h.resolve_right List.not_mem_nil
    exact ⟨hne, fun c hc => .inl (List.mem_reverse.mp hc)⟩
  | cons d s ih =>
    have hcons {c : Char} (hc : c ≠ '"' ∧ c ∈ s) : c ≠ '"' ∧ c ∈ d :: s :=
      ⟨hc.1, List.mem_cons_of_mem d hc.2⟩
    have hpush (h : t ∈ ((splitQuotedFrom false [] s).push pending.reverse).tokens) :
        t ≠ [] ∧ ∀ c ∈ t, c ∈ pending ∨ c ≠ '"' ∧ c ∈ d :: s := by
      rcases Split.mem_tokens_push_iff.mp h with ⟨hne, rfl⟩ | h
      · exact ⟨hne, fun c hc => .inl (List.mem_reverse.mp hc)⟩
      · exact ⟨(ih h).1, fun c hc => .inr (hcons (((ih h).2 c hc).resolve_left List.not_mem_nil))⟩
    rw [splitQuotedFrom] at h
    split at h
    · split at h
      · exact hpush h
      · exact ⟨(ih h).1, fun c hc => ((ih h).2 c hc).imp_right hcons⟩
    · next hquote =>
      split at h
      · exact hpush h
      · refine ⟨(ih h).1, fun c hc => ?_⟩
        rcases (ih h).2 c hc with hmem | hmem
        · rcases List.mem_cons.mp hmem with rfl | hmem
          · exact .inr ⟨hquote, List.mem_cons_self⟩
          · exact .inl hmem
        · exact .inr (hcons hmem)

/-- **The tokens of quoted arguments** are not empty and have no quotes. -/
theorem isQuotable_of_mem_splitQuoted {s : Chars} (hs : OnlySpaces s) :
    ∀ t ∈ (splitQuoted s).tokens, IsQuotable t := by
  intro t ht
  obtain ⟨hne, hmem⟩ := mem_tokens_splitQuotedFrom ht
  have hchars : ∀ c ∈ t, c ≠ '"' ∧ c ∈ s := fun c hc =>
    (hmem c hc).resolve_left List.not_mem_nil
  exact ⟨hne, fun hquote => (hchars _ hquote).1 rfl, hs.subset fun c hc => (hchars c hc).2⟩

/-! ### Arguments as they are written -/

/-- An argument as it is written. -/
inductive Argument
  | bare (token : Chars)
  | quoted (token : Chars)

namespace Argument

/-- What the argument stands for. -/
def token : Argument → Chars
  | bare token => token
  | quoted token => token

/-- The argument as written. -/
def chars : Argument → Chars
  | bare token => token
  | quoted token => '"' :: (token ++ ['"'])

/-- The argument can be written that way and be read back. -/
def IsWritable : Argument → Prop
  | bare token => IsKeyword token
  | quoted token => IsQuotable token

/-- The argument is one token wherever it stands. Inside quotes any blanks will do. -/
def IsOneToken : Argument → Prop
  | bare token => IsWord token ∧ '"' ∉ token
  | quoted token => token ≠ [] ∧ '"' ∉ token

theorem IsWritable.isOneToken {a : Argument} (h : a.IsWritable) : a.IsOneToken := by
  cases a with
  | bare token => exact ⟨h.isWord, h.quote_notMem⟩
  | quoted token => exact ⟨h.ne_nil, h.quote_notMem⟩

theorem IsOneToken.token_ne_nil {a : Argument} (h : a.IsOneToken) : a.token ≠ [] := by
  cases a with
  | bare token => exact h.1.ne_nil
  | quoted token => exact h.1

theorem IsWritable.isTrimmed {a : Argument} (h : a.IsWritable) : IsTrimmed a.chars := by
  cases a with
  | bare token => exact h.isWord.isTrimmed
  | quoted token =>
    have hquote : IsTrimmed ['"'] := ⟨by decide, by simp; decide, by simp; decide⟩
    exact hquote.append hquote token

theorem IsWritable.onlySpaces {a : Argument} (h : a.IsWritable) : OnlySpaces a.chars := by
  cases a with
  | bare token => exact h.isWord.onlySpaces
  | quoted token =>
    have hquote : isBlank '"' = true → '"' = ' ' := by decide
    exact .cons hquote (OnlySpaces.append (IsQuotable.onlySpaces h)
      (.cons hquote fun c hc => by cases hc))

/-- An argument hides its number signs in quotes, and closes them. -/
theorem IsWritable.isCode {a : Argument} (h : a.IsWritable) :
    IsCode false a.chars ∧ quotedAfter false a.chars = false := by
  cases a with
  | bare token =>
    exact ⟨isCode_of_notMem h.sign_notMem false, quotedAfter_of_notMem h.quote_notMem false⟩
  | quoted token =>
    have hquote := h.quote_notMem
    rw [chars, isCode_cons, isCode_append, quotedAfter_cons, quotedAfter_append]
    simp only [if_true, Bool.not_false, quotedAfter_of_notMem hquote]
    exact ⟨⟨by decide, isCode_true_of_notMem hquote, isCode_of_notMem (by decide) true⟩, rfl⟩

theorem isCode_joinWith {as : List Argument} (h : ∀ a ∈ as, a.IsWritable) :
    IsCode false (joinWith ' ' (as.map chars)) := by
  induction as with
  | nil => rfl
  | cons a as ih =>
    have ha := (h a List.mem_cons_self).isCode
    cases as with
    | nil => exact ha.1
    | cons b as =>
      have htail := ih fun c hc => h c (List.mem_cons_of_mem _ hc)
      exact isCode_append.mpr ⟨ha.1, by rw [ha.2, isCode_cons]; exact ⟨by decide, htail⟩⟩

/-! ### Reading arguments back -/

theorem splitQuotedFrom_append {u : Chars} (quoted : Bool) (hquote : '"' ∉ u)
    (hblank : quoted = true ∨ ∀ c ∈ u, isBlank c = false) (pending s : Chars) :
    splitQuotedFrom quoted pending (u ++ s) = splitQuotedFrom quoted (u.reverse ++ pending) s := by
  induction u generalizing pending with
  | nil => rfl
  | cons c u ih =>
    rw [List.mem_cons, not_or] at hquote
    have hc : ¬ (isBlank c = true ∧ quoted = false) := by
      rintro ⟨hc, rfl⟩
      have := hblank.resolve_left (by decide) c List.mem_cons_self
      rw [hc] at this
      cases this
    rw [List.cons_append, splitQuotedFrom, if_neg (Ne.symm hquote.1), if_neg hc,
      ih hquote.2 (hblank.imp_right fun h d hd => h d (List.mem_cons_of_mem _ hd)),
      List.reverse_cons, List.append_assoc]
    rfl

theorem splitQuoted_space (s : Chars) : splitQuoted (' ' :: s) = splitQuoted s := rfl

theorem splitQuoted_quoted {token : Chars} (h : '"' ∉ token) (s : Chars) :
    splitQuoted ('"' :: (token ++ '"' :: s)) = (splitQuoted s).push token := by
  have hopen : splitQuoted ('"' :: (token ++ '"' :: s)) =
      splitQuotedFrom true [] (token ++ '"' :: s) := rfl
  rw [hopen, splitQuotedFrom_append true h (.inl rfl), List.append_nil, splitQuotedFrom, if_pos rfl,
    if_pos rfl, List.reverse_reverse, splitQuoted]

theorem splitQuoted_chars {a : Argument} (h : a.IsOneToken) :
    splitQuoted a.chars = ⟨[a.token], false⟩ := by
  cases a with
  | bare token =>
    have hw := splitQuotedFrom_append false h.2 (.inr h.1.isBlank_eq_false) [] []
    rw [List.append_nil, List.append_nil, splitQuotedFrom, List.reverse_reverse,
      Split.push_of_ne_nil h.1.ne_nil] at hw
    exact hw
  | quoted token =>
    rw [chars, splitQuoted_quoted h.2, Split.push_of_ne_nil h.1]
    rfl

theorem splitQuoted_chars_append {a : Argument} (h : a.IsOneToken) (s : Chars) :
    splitQuoted (a.chars ++ ' ' :: s) = (splitQuoted s).push a.token := by
  cases a with
  | bare t =>
    rw [chars, splitQuoted, splitQuotedFrom_append false h.2 (.inr h.1.isBlank_eq_false),
      List.append_nil, splitQuotedFrom, if_neg (by decide), if_pos (by decide),
      List.reverse_reverse, token, splitQuoted]
  | quoted t =>
    have hchars : (quoted t).chars ++ ' ' :: s = '"' :: (t ++ '"' :: ' ' :: s) := by
      simp [chars]
    rw [hchars, splitQuoted_quoted h.2, splitQuoted_space, Argument.token]

/-- **Arguments that may be quoted, read back.** -/
theorem splitQuoted_joinWith {as : List Argument} (h : ∀ a ∈ as, a.IsOneToken) :
    splitQuoted (joinWith ' ' (as.map chars)) = ⟨as.map token, false⟩ := by
  induction as with
  | nil => rfl
  | cons a as ih =>
    have ha := h a List.mem_cons_self
    cases as with
    | nil => exact splitQuoted_chars ha
    | cons b as =>
      have htail := ih fun c hc => h c (List.mem_cons_of_mem _ hc)
      rw [List.map_cons] at htail
      rw [List.map_cons, List.map_cons, joinWith, splitQuoted_chars_append ha, htail,
        Split.push_of_ne_nil ha.token_ne_nil]
      rfl

end Argument

/-! ### Lines written and read -/

/-- A keyword and its arguments as a line. -/
def writtenLine (keyword : String) (arguments : List Argument) : Chars :=
  joinWith ' ' (keyword.toList :: arguments.map Argument.chars)

/-- The arguments come back from a line: each has no blank at its ends and no blanks but spaces,
and none of them begins a comment. -/
structure AreReadable (arguments : List Argument) : Prop where
  isTrimmed : ∀ a ∈ arguments, IsTrimmed a.chars
  onlySpaces : ∀ a ∈ arguments, OnlySpaces a.chars
  isCode : IsCode false (joinWith ' ' (arguments.map Argument.chars))

theorem areReadable_of_isWritable {arguments : List Argument}
    (h : ∀ a ∈ arguments, a.IsWritable) : AreReadable arguments where
  isTrimmed := fun a ha => (h a ha).isTrimmed
  onlySpaces := fun a ha => (h a ha).onlySpaces
  isCode := Argument.isCode_joinWith h

theorem shapeOf_writtenLine {keyword : String} {arguments : List Argument}
    (hk : IsKeyword keyword.toList) (h : AreReadable arguments) :
    shapeOf (writtenLine keyword arguments) =
      .code keyword.toList (joinWith ' ' (arguments.map Argument.chars)) :=
  shapeOf_cons_joinWith hk (List.forall_mem_map.mpr h.isTrimmed)
    (List.forall_mem_map.mpr h.onlySpaces) h.isCode

theorem onlySpaces_writtenLine {keyword : String} {arguments : List Argument}
    (hk : IsKeyword keyword.toList) (h : AreReadable arguments) :
    OnlySpaces (writtenLine keyword arguments) :=
  .joinWith (List.forall_mem_cons.mpr ⟨hk.isWord.onlySpaces, List.forall_mem_map.mpr h.onlySpaces⟩)

end LootLedger.Filter
