import LootLedger.Proofs.Filter.Split
import LootLedger.Proofs.Filter.Statement

/-!
# What a line says is in its tokens

Blanks separate and do nothing else. The keyword of a line is its first word, and no reader looks at
its arguments as such: it cuts them into words, or into tokens that may be quoted. So what a line
says is told by the words and the quoted tokens of its code, which is the line with its blanks made
spaces and its comment cut off, and by whether the line holds anything at all.

There are two notions of quoting. The comment is found by the quotes from the start of the line,
the tokens by the quotes from the start of the arguments. They agree unless the first word has a
quote. But then it is no keyword, and the arguments are not read.

## Main definitions

* `Filter.codeOf`: a line with spaces for its blanks and without its comment
* `Filter.tokens`: all that readers see of a text

## Main results

* `Filter.tokens_gap`: between two tokens any blanks do
* `Filter.readStatement_congr`: lines with the same tokens say the same
-/

namespace LootLedger.Filter

open Text (Chars isBlank IsWord IsTrimmed OnlySpaces)

/-! ### Quoted tokens

A blank outside quotes cuts a text into two that have their quoted tokens apart. -/

theorem quotedTokens_eq (s : Chars) : quotedTokens s =
    if quotedAfter false s = true then .error .unterminatedString
    else .ok (splitQuoted s).tokens := by
  rw [quotedTokens, splitQuoted, unterminated_splitQuotedFrom]

/-- **A blank outside quotes cuts a text** into two that have their quoted tokens apart. -/
theorem quotedTokens_append_cons {c : Char} (hc : isBlank c = true) {s : Chars}
    (hs : quotedAfter false s = false) (t : Chars) :
    quotedTokens (s ++ c :: t) = (quotedTokens t).map ((splitQuoted s).tokens ++ ·) := by
  have hquote : c ≠ '"' := by
    rintro rfl
    exact absurd hc (by decide)
  rw [quotedTokens_eq, quotedTokens_eq, quotedAfter_append, hs, quotedAfter_cons, if_neg hquote,
    splitQuoted, tokens_splitQuotedFrom_append_cons hc hs, ← splitQuoted]
  split <;> rfl

theorem quotedTokens_cons {c : Char} (hc : isBlank c = true) (t : Chars) :
    quotedTokens (c :: t) = quotedTokens t := by
  have hcut := quotedTokens_append_cons hc (quotedAfter_nil false) t
  rw [List.nil_append] at hcut
  rw [hcut]
  cases quotedTokens t <;> rfl

theorem quotedTokens_blanks_append {b : Chars} (hb : ∀ c ∈ b, isBlank c = true) (t : Chars) :
    quotedTokens (b ++ t) = quotedTokens t := by
  induction b with
  | nil => rfl
  | cons c b ih =>
    rw [List.forall_mem_cons] at hb
    rw [List.cons_append, quotedTokens_cons hb.1, ih hb.2]

/-- Blanks at the end are inside quotes only if the quotes are not closed at all. -/
theorem quotedTokens_append_blanks {b : Chars} (hb : ∀ c ∈ b, isBlank c = true) (s : Chars) :
    quotedTokens (s ++ b) = quotedTokens s := by
  cases b with
  | nil => rw [List.append_nil]
  | cons c b =>
    cases hs : quotedAfter false s with
    | true =>
      rw [quotedTokens_eq, quotedTokens_eq, quotedAfter_append, hs, quotedAfter_of_blanks hb,
        if_pos rfl, if_pos rfl]
    | false =>
      rw [List.forall_mem_cons] at hb
      have hnil := quotedTokens_blanks_append hb.2 []
      rw [List.append_nil] at hnil
      rw [quotedTokens_append_cons hb.1 hs, hnil, quotedTokens_eq s, hs]
      exact congrArg Except.ok (List.append_nil _)

/-- A word in front is the first quoted token, unless it has a quote. -/
theorem quotedTokens_word_append {w : Chars} (hw : IsWord w) (hquote : '"' ∉ w) {r : Chars}
    (hr : ∀ c ∈ r.head?, isBlank c = true) :
    quotedTokens (w ++ r) = (quotedTokens r).map (w :: ·) := by
  have hsplit : (splitQuoted w).tokens = [w] := by
    have happend := Argument.splitQuotedFrom_append false hquote (.inr hw.isBlank_eq_false) [] []
    rw [List.append_nil, List.append_nil, splitQuotedFrom, List.reverse_reverse,
      Split.push_of_ne_nil hw.ne_nil] at happend
    rw [splitQuoted, happend]
  have hafter := quotedAfter_of_notMem hquote false
  cases r with
  | nil =>
    rw [List.append_nil, quotedTokens_eq, hafter, hsplit]
    rfl
  | cons c r =>
    have hc : isBlank c = true := hr c rfl
    rw [quotedTokens_append_cons hc hafter, hsplit, quotedTokens_cons hc]
    rfl

/-! ### All that readers see -/

/-- All that readers see of a text: its words and its quoted tokens. -/
def tokens (s : Chars) : List Chars × Except Problem (List Chars) :=
  (Text.words s, quotedTokens s)

theorem words_eq_of_tokens_eq {s t : Chars} (h : tokens s = tokens t) :
    Text.words s = Text.words t :=
  congrArg Prod.fst h

theorem quotedTokens_eq_of_tokens_eq {s t : Chars} (h : tokens s = tokens t) :
    quotedTokens s = quotedTokens t :=
  congrArg Prod.snd h

theorem ConditionKind.read_congr (kind : ConditionKind) {s t : Chars} (h : tokens s = tokens t) :
    kind.read s = kind.read t := by
  have hwords := words_eq_of_tokens_eq h
  have hquoted := quotedTokens_eq_of_tokens_eq h
  cases kind <;> simp only [read, operatorAndNumber, textList, boolean, readRarity, readSockets,
    readExplicitMods, readInfluence, hwords, hquoted]

theorem ActionKind.read_congr (kind : ActionKind) {s t : Chars} (h : tokens s = tokens t) :
    kind.read s = kind.read t := by
  have hwords := words_eq_of_tokens_eq h
  have hquoted := quotedTokens_eq_of_tokens_eq h
  cases kind <;> simp only [read, readColour, readFontSize, readAlertSound, readSoundFile, readBare,
    readIcon, readEffect, hwords, hquoted]

theorem tokens_blanks_append {b : Chars} (hb : ∀ c ∈ b, isBlank c = true) (t : Chars) :
    tokens (b ++ t) = tokens t := by
  rw [tokens, Text.words_blanks_append hb, quotedTokens_blanks_append hb, tokens]

theorem tokens_append_blanks {b : Chars} (hb : ∀ c ∈ b, isBlank c = true) (s : Chars) :
    tokens (s ++ b) = tokens s := by
  rw [tokens, Text.words_append_blanks hb, quotedTokens_append_blanks hb, tokens]

@[simp] theorem tokens_trim (s : Chars) : tokens (Text.trim s) = tokens s := by
  obtain ⟨before, after, hbefore, hafter, hs⟩ := Text.exists_eq_append_trim s
  conv_rhs => rw [hs]
  rw [tokens_blanks_append hbefore, tokens_append_blanks hafter]

/-- **Between two tokens any blanks do**, as long as there are some. -/
theorem tokens_gap {s b b' : Chars} (hs : quotedAfter false s = false) (hne : b ≠ [])
    (hne' : b' ≠ []) (hb : ∀ c ∈ b, isBlank c = true) (hb' : ∀ c ∈ b', isBlank c = true)
    (t : Chars) : tokens (s ++ (b ++ t)) = tokens (s ++ (b' ++ t)) := by
  have hcut : ∀ b : Chars, b ≠ [] → (∀ c ∈ b, isBlank c = true) → tokens (s ++ (b ++ t)) =
      (Text.words s ++ Text.words t, (quotedTokens t).map ((splitQuoted s).tokens ++ ·)) := by
    intro b hne hb
    obtain ⟨c, b, rfl⟩ := List.exists_cons_of_ne_nil hne
    rw [tokens, Text.words_append_blanks_append hne hb, List.cons_append]
    rw [List.forall_mem_cons] at hb
    rw [quotedTokens_append_cons hb.1 hs, quotedTokens_blanks_append hb.2]
  rw [hcut b hne hb, hcut b' hne' hb']

/-! ### The code of a line -/

/-- The line with spaces for its blanks and without its comment. -/
def codeOf (line : Chars) : Chars :=
  withoutComment (spaced line)

theorem withoutCommentFrom_append {quoted : Bool} {s : Chars} (h : IsCode quoted s) (t : Chars) :
    withoutCommentFrom quoted (s ++ t) = s ++ withoutCommentFrom (quotedAfter quoted s) t := by
  induction s generalizing quoted with
  | nil => rfl
  | cons c s ih =>
    rw [isCode_cons] at h
    rw [List.cons_append, withoutCommentFrom, quotedAfter_cons]
    split
    · next hc =>
      rw [if_pos hc] at h
      rw [ih h.2, List.cons_append]
    · next hc =>
      rw [if_neg hc] at h
      rw [if_neg h.1, ih h.2, List.cons_append]

/-- What stands behind a comment belongs to it. -/
theorem withoutCommentFrom_append_of_not_isCode {quoted : Bool} {s : Chars}
    (h : ¬ IsCode quoted s) (t : Chars) :
    withoutCommentFrom quoted (s ++ t) = withoutCommentFrom quoted s := by
  induction s generalizing quoted with
  | nil => exact absurd (isCode_nil quoted) h
  | cons c s ih =>
    rw [isCode_cons, not_and] at h
    rw [List.cons_append, withoutCommentFrom, withoutCommentFrom]
    split
    · next hc =>
      rw [if_pos hc] at h
      rw [ih (h (by simp [hc]))]
    · next hc =>
      rw [if_neg hc] at h
      split
      · rfl
      · next hsign => rw [ih (h hsign)]

/-- Trimming the line first makes no difference to the tokens of its code. -/
theorem tokens_codeOf (line : Chars) :
    tokens (codeOf line) = tokens (withoutComment (Text.trim (spaced line))) := by
  obtain ⟨before, after, hbefore, hafter, hs⟩ := Text.exists_eq_append_trim (spaced line)
  have hsign : ∀ {b : Chars}, (∀ c ∈ b, isBlank c = true) → '#' ∉ b := fun hb hc =>
    absurd (hb _ hc) (by decide)
  have hcode : codeOf line =
      before ++ withoutCommentFrom false (Text.trim (spaced line) ++ after) := by
    conv_lhs => rw [codeOf, hs, withoutComment]
    rw [withoutCommentFrom_append (isCode_of_notMem (hsign hbefore) false),
      quotedAfter_of_blanks hbefore]
  rw [hcode, tokens_blanks_append hbefore, withoutComment]
  by_cases h : IsCode false (Text.trim (spaced line))
  · rw [withoutCommentFrom_append h, isCode_of_notMem (hsign hafter), h,
      tokens_append_blanks hafter]
  · rw [withoutCommentFrom_append_of_not_isCode h]

/-! ### The parts of a line -/

/-- The line holds nothing but blanks. -/
def IsEmptyLine (line : Chars) : Prop :=
  ∀ c ∈ line, isBlank c = true

-- Named, since the instance that Lean may find instead goes through all characters there are.
instance (line : Chars) : Decidable (IsEmptyLine line) :=
  List.decidableBAll _ line

theorem trim_spaced_eq_nil_iff {line : Chars} :
    Text.trim (spaced line) = [] ↔ IsEmptyLine line := by
  rw [Text.trim_eq_nil_iff, spaced, List.forall_mem_map]
  refine forall₂_congr fun c _ => ?_
  split
  · next hc => exact iff_of_true (by decide) hc
  · exact Iff.rfl

/-- The keyword is the first token of trimmed code, and the arguments have the other ones. -/
theorem tokens_of_isTrimmed {code : Chars} (htrim : IsTrimmed code) (hspaces : OnlySpaces code) :
    Text.words code =
      code.takeWhile (· ≠ ' ') :: Text.words (code.dropWhile (· ≠ ' ')) ∧
    ('"' ∉ code.takeWhile (· ≠ ' ') → quotedTokens code =
      (quotedTokens (code.dropWhile (· ≠ ' '))).map (code.takeWhile (· ≠ ' ') :: ·)) := by
  have hw : IsWord (code.takeWhile (· ≠ ' ')) := by
    refine ⟨?_, fun c hc => ?_⟩
    · obtain ⟨c, s, rfl⟩ := List.exists_cons_of_ne_nil htrim.ne_nil
      have hc : c ≠ ' ' := by
        rintro rfl
        exact absurd (htrim.head ' ' rfl) (by decide)
      rw [List.takeWhile_cons_of_pos (by simpa using hc)]
      exact List.cons_ne_nil _ _
    · have hne : c ≠ ' ' := of_decide_eq_true (List.all_eq_true.mp List.all_takeWhile c hc)
      exact eq_false_of_ne_true fun hblank =>
        hne (hspaces c ((List.takeWhile_prefix _).subset hc) hblank)
  have hr : ∀ c ∈ (code.dropWhile (· ≠ ' ')).head?, isBlank c = true := by
    intro c hc
    have hnot := List.head?_dropWhile_not (fun c => decide (c ≠ ' ')) code
    rw [Option.mem_def.mp hc] at hnot
    have hspace : c = ' ' := by simpa using hnot
    rw [hspace]
    decide
  have hcode := List.takeWhile_append_dropWhile (p := (· ≠ ' ')) (l := code)
  generalize code.takeWhile (· ≠ ' ') = w at hw hcode ⊢
  generalize code.dropWhile (· ≠ ' ') = r at hr hcode ⊢
  subst hcode
  exact ⟨hw.words_append_of_head? hr, fun hquote => quotedTokens_word_append hw hquote hr⟩

/-- A line that begins with no number sign begins with code. -/
theorem isTrimmed_trim_withoutComment {s : Chars} (htrim : IsTrimmed s)
    (hsign : ∀ t, s ≠ '#' :: t) : IsTrimmed (Text.trim (withoutComment s)) := by
  refine (Text.trim_eq_nil_or_isTrimmed _).resolve_left fun hnil => ?_
  obtain ⟨c, t, rfl⟩ := List.exists_cons_of_ne_nil htrim.ne_nil
  have hhead : c ∈ withoutComment (c :: t) := by
    have hc : c ≠ '#' := fun hc => hsign t (by rw [hc])
    rw [withoutComment, withoutCommentFrom]
    split
    · exact List.mem_cons_self
    · rw [if_neg fun h => hc h.1]
      exact List.mem_cons_self
  have hblank := Text.trim_eq_nil_iff.mp hnil c hhead
  rw [htrim.head c rfl] at hblank
  cases hblank

/-- **The parts of a line** are told by whether it is empty and by the tokens of its code. -/
theorem shapeOf_cases (line : Chars) :
    (shapeOf line = .blank ∧ IsEmptyLine line) ∨
    ¬ IsEmptyLine line ∧
      ((shapeOf line = .comment ∧ Text.words (codeOf line) = []) ∨
      ∃ keyword arguments, shapeOf line = .code keyword arguments ∧
        Text.words (codeOf line) = keyword :: Text.words arguments ∧
        ('"' ∉ keyword →
          quotedTokens (codeOf line) = (quotedTokens arguments).map (keyword :: ·))) := by
  have htokens := tokens_codeOf line
  rw [← trim_spaced_eq_nil_iff]
  unfold shapeOf
  rcases Text.trim_eq_nil_or_isTrimmed (spaced line) with hnil | htrim
  · exact .inl ⟨by rw [hnil], hnil⟩
  · refine .inr ⟨htrim.ne_nil, ?_⟩
    have hspaces : OnlySpaces (Text.trim (spaced line)) :=
      (onlySpaces_spaced line).subset (Text.trim_subset _)
    generalize Text.trim (spaced line) = s at htokens htrim hspaces ⊢
    split
    · exact absurd rfl htrim.ne_nil
    · exact .inl ⟨rfl, words_eq_of_tokens_eq htokens⟩
    · next hne hsign =>
      have hcodeSpaces : OnlySpaces (Text.trim (withoutComment s)) :=
        hspaces.subset fun c hc => withoutCommentFrom_subset false _ (Text.trim_subset _ hc)
      rw [← tokens_trim (withoutComment s)] at htokens
      obtain ⟨hwords, hquoted⟩ :=
        tokens_of_isTrimmed (isTrimmed_trim_withoutComment htrim hsign) hcodeSpaces
      refine .inr ⟨_, _, rfl, ?_, fun hquote => ?_⟩
      · rw [words_eq_of_tokens_eq htokens, hwords, Text.words_trim]
      · rw [quotedTokens_eq_of_tokens_eq htokens, hquoted hquote,
          quotedTokens_eq_of_tokens_eq (tokens_trim _)]

/-! ### What the line says -/

/-- A word that cannot begin a line is unknown, whatever follows it. -/
theorem readCode_of_not_isKeyword {word : Chars} (h : ¬ IsKeyword word) (inBlock : Bool)
    (arguments : Chars) : readCode inBlock word arguments =
      .error (.unknownKeyword (String.ofList word) (suggestion? word)) := by
  refine readCode_of_notMem_keywords (fun hmem => h ?_) inBlock arguments
  rcases ofList_mem_keywords_iff.mp hmem with ⟨kind, rfl⟩ | ⟨kind, rfl⟩ | rfl | rfl | rfl
  · exact kind.isKeyword
  · exact kind.isKeyword
  · exact Visibility.isKeyword _
  · exact Visibility.isKeyword _
  · decide

theorem readCode_congr (inBlock : Bool) (word : Chars) {s t : Chars} (h : tokens s = tokens t) :
    readCode inBlock word s = readCode inBlock word t := by
  have hwords := words_eq_of_tokens_eq h
  unfold readCode readBareLine
  simp only [hwords, ConditionKind.read_congr _ h, ActionKind.read_congr _ h]

/-- Code whose tokens are the same says the same. -/
theorem readCode_eq_of_tokens_codeOf {line line' keyword arguments keyword' arguments' : Chars}
    (htokens : tokens (codeOf line) = tokens (codeOf line'))
    (hwords : Text.words (codeOf line) = keyword :: Text.words arguments)
    (hwords' : Text.words (codeOf line') = keyword' :: Text.words arguments')
    (hquoted : '"' ∉ keyword →
      quotedTokens (codeOf line) = (quotedTokens arguments).map (keyword :: ·))
    (hquoted' : '"' ∉ keyword' →
      quotedTokens (codeOf line') = (quotedTokens arguments').map (keyword' :: ·))
    (inBlock : Bool) :
    readCode inBlock keyword arguments = readCode inBlock keyword' arguments' := by
  rw [words_eq_of_tokens_eq htokens, hwords'] at hwords
  obtain ⟨rfl, harguments⟩ := List.cons.inj hwords
  by_cases hquote : '"' ∈ keyword'
  · have hnot : ¬ IsKeyword keyword' := fun h => h.quote_notMem hquote
    rw [readCode_of_not_isKeyword hnot, readCode_of_not_isKeyword hnot]
  · refine readCode_congr inBlock keyword' (Prod.ext harguments.symm ?_)
    have hmap := (hquoted hquote).symm.trans
      ((quotedTokens_eq_of_tokens_eq htokens).trans (hquoted' hquote))
    change quotedTokens arguments = quotedTokens arguments'
    cases hs : quotedTokens arguments <;> cases ht : quotedTokens arguments' <;>
      rw [hs, ht] at hmap
    · exact congrArg Except.error (Except.error.inj hmap)
    · cases hmap
    · cases hmap
    · exact congrArg Except.ok (List.cons.inj (Except.ok.inj hmap)).2

/-- **Lines with the same tokens say the same**, be they accepted or refused. -/
theorem readStatement_congr {line line' : Chars}
    (hempty : IsEmptyLine line ↔ IsEmptyLine line')
    (htokens : tokens (codeOf line) = tokens (codeOf line')) (inBlock : Bool) :
    readStatement inBlock line = readStatement inBlock line' := by
  have hwords := words_eq_of_tokens_eq htokens
  rcases shapeOf_cases line with ⟨hshape, hblank⟩ | ⟨hnot, hcases⟩
  · rcases shapeOf_cases line' with ⟨hshape', -⟩ | ⟨hnot', -⟩
    · rw [readStatement, readStatement, hshape, hshape']
    · exact absurd (hempty.mp hblank) hnot'
  · rcases shapeOf_cases line' with ⟨-, hblank'⟩ | ⟨-, hcases'⟩
    · exact absurd (hempty.mpr hblank') hnot
    rcases hcases with ⟨hshape, hnone⟩ | ⟨keyword, arguments, hshape, hcons, hquoted⟩ <;>
      rcases hcases' with ⟨hshape', hnone'⟩ | ⟨keyword', arguments', hshape', hcons', hquoted'⟩
    · rw [readStatement, readStatement, hshape, hshape']
    · rw [hnone, hcons'] at hwords
      cases hwords
    · rw [hcons, hnone'] at hwords
      cases hwords
    · rw [readStatement_of_shapeOf inBlock hshape, readStatement_of_shapeOf inBlock hshape']
      exact readCode_eq_of_tokens_codeOf htokens hcons hcons' hquoted hquoted' inBlock

end LootLedger.Filter
