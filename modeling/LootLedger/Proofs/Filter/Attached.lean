import LootLedger.Proofs.Filter.Arguments
import LootLedger.Proofs.Filter.OpenBlock

/-!
# Operators written against their argument

An operator may be written with a blank behind it or against its argument, and either is to say the
same. Where nothing is written against the operator, because a blank, a comment or an empty pair of
quotes follows, there is nothing to tell apart: the operator is a token of its own either way. Else
it becomes the front of the first token, be that in quotes or not, and has to be cut off again.

Readers cut it off before they look at their tokens. So all that they see of the arguments is the
same in both spellings, and it is enough that the argument itself does not go on the operator.

The reader of influences alone does not cut the operator off. It takes the operator with what is
written against it for the name of an influence, which it never is, and refuses the line over that
name. The line with a blank does the same only if it is refused over the very same word, and that
has to stand in the line once more.

## Main definitions

* `Filter.Attaches`: a word written against the text becomes part of its first token
* `Filter.attachedLine`, `Filter.spacedLine`: the two spellings of a line

## Main results

* `Filter.ConditionKind.read_symbol_append`: readers other than the one of influences read both
  spellings alike
* `Filter.readInfluence_attached`: what the reader of influences makes of an attached operator
* `Filter.agreeInBlock_attachedLine_iff`: when the two spellings of a line do the same
-/

namespace LootLedger.Filter

open Text (Chars isBlank)

/-! ### The front of the first token -/

/-- The first character of a text, behind a quote that the text may open. -/
def unquotedHead? : Chars → Option Char
  | '"' :: s => s.head?
  | s => s.head?

/-- A word written against the text becomes part of its first token: the text begins with a
character of that token, or with the quote in front of it. -/
inductive Attaches : Chars → Prop
  | bare {c : Char} {s : Chars} : c ≠ '"' → isBlank c = false → Attaches (c :: s)
  | quoted {c : Char} {s : Chars} : c ≠ '"' → Attaches ('"' :: c :: s)

theorem unquotedHead?_cons_of_ne {c : Char} (hc : c ≠ '"') (s : Chars) :
    unquotedHead? (c :: s) = some c := by
  unfold unquotedHead?
  split
  · next h => exact absurd (List.cons.inj h).1 hc
  · rfl

theorem unquotedHead?_of_notMem {s : Chars} (hs : '"' ∉ s.head?) : unquotedHead? s = s.head? := by
  cases s with
  | nil => rfl
  | cons c s => exact unquotedHead?_cons_of_ne (fun hc => hs (congrArg some hc)) s

/-- What does not begin like an operator inside its quotes does not so outside. -/
theorem head?_notMem_operatorChars {s : Chars} (hs : ∀ c ∈ unquotedHead? s, c ∉ operatorChars) :
    ∀ c ∈ s.head?, c ∉ operatorChars := by
  intro c hc
  obtain ⟨t, rfl⟩ : ∃ t, s = c :: t := List.head?_eq_some_iff.mp hc
  by_cases hquote : c = '"'
  · rw [hquote]
    decide
  · exact hs c (unquotedHead?_cons_of_ne hquote t)

/-- Where a word is pending, what was pending before it makes no difference but for the first
word. -/
theorem wordsFrom_append_pending {p : Chars} (hp : p ≠ []) (w s : Chars) : ∃ t ts,
    Text.wordsFrom p s = (p.reverse ++ t) :: ts ∧
      Text.wordsFrom (p ++ w) s = (w.reverse ++ (p.reverse ++ t)) :: ts := by
  have hne : ∀ {p : Chars}, p ≠ [] → p ++ w ≠ [] := fun hp =>
    List.append_ne_nil_of_left_ne_nil hp w
  induction s generalizing p with
  | nil => exact ⟨[], [], by simp [Text.wordsFrom, hp]⟩
  | cons c s ih =>
    rw [Text.wordsFrom, Text.wordsFrom, if_neg hp, if_neg (hne hp)]
    split
    · exact ⟨[], Text.wordsFrom [] s, by simp⟩
    · obtain ⟨t, ts, hfrom, happend⟩ := ih (List.cons_ne_nil c p)
      exact ⟨c :: t, ts, by simpa using hfrom, by simpa using happend⟩

/-- The same of tokens that may be quoted. -/
theorem tokens_splitQuotedFrom_append_pending {p : Chars} (hp : p ≠ []) (w : Chars)
    (quoted : Bool) (s : Chars) : ∃ t ts,
    (splitQuotedFrom quoted p s).tokens = (p.reverse ++ t) :: ts ∧
      (splitQuotedFrom quoted (p ++ w) s).tokens = (w.reverse ++ (p.reverse ++ t)) :: ts := by
  -- A token that ends is the pending one.
  have hpush : ∀ {p : Chars} (sp : Split), p ≠ [] → ∃ t ts,
      (sp.push p.reverse).tokens = (p.reverse ++ t) :: ts ∧
        (sp.push (p ++ w).reverse).tokens = (w.reverse ++ (p.reverse ++ t)) :: ts := by
    intro p sp hp
    refine ⟨[], sp.tokens, ?_, ?_⟩
    · rw [Split.push_of_ne_nil (by simpa using hp), List.append_nil]
    · rw [Split.push_of_ne_nil (by simp [hp]), List.reverse_append, List.append_nil]
  induction s generalizing p quoted with
  | nil => exact hpush ⟨[], quoted⟩ hp
  | cons c s ih =>
    rw [splitQuotedFrom, splitQuotedFrom]
    split
    · cases quoted with
      | true => exact hpush (splitQuotedFrom false [] s) hp
      | false => exact ih hp true
    · split
      · exact hpush (splitQuotedFrom false [] s) hp
      · obtain ⟨t, ts, hfrom, happend⟩ := ih (List.cons_ne_nil c p) quoted
        exact ⟨c :: t, ts, by simpa using hfrom, by simpa using happend⟩

/-! ### A word in front -/

section

variable {w s : Chars}

theorem words_append_cons_of_not_isBlank (hw : IsKeyword w) {c : Char} (hc : isBlank c = false)
    (s : Chars) : ∃ t ts, Text.words (c :: s) = (c :: t) :: ts ∧
      Text.words (w ++ c :: s) = (w ++ c :: t) :: ts := by
  have hc' : ¬ isBlank c = true := by simp [hc]
  obtain ⟨t, ts, hfrom, happend⟩ := wordsFrom_append_pending (List.cons_ne_nil c []) w.reverse s
  refine ⟨t, ts, ?_, ?_⟩
  · rw [Text.words, Text.wordsFrom, if_neg hc', hfrom]
    rfl
  · rw [Text.words, Text.wordsFrom_append hw.isWord.isBlank_eq_false, List.append_nil,
      Text.wordsFrom, if_neg hc']
    simpa using happend

theorem splitQuoted_keyword_append (hw : IsKeyword w) (s : Chars) :
    splitQuoted (w ++ s) = splitQuotedFrom false w.reverse s := by
  rw [splitQuoted, Argument.splitQuotedFrom_append false hw.quote_notMem
    (.inr hw.isWord.isBlank_eq_false), List.append_nil]

/-- **A word written against a token** is the front of that token. -/
theorem Attaches.exists_tokens (hs : Attaches s) (hw : IsKeyword w) : ∃ c t ts,
    unquotedHead? s = some c ∧ (splitQuoted s).tokens = (c :: t) :: ts ∧
      (splitQuoted (w ++ s)).tokens = (w ++ c :: t) :: ts := by
  cases hs with
  | @bare c s hquote hblank =>
    obtain ⟨t, ts, hfrom, happend⟩ :=
      tokens_splitQuotedFrom_append_pending (List.cons_ne_nil c []) w.reverse false s
    have hc : ¬ (isBlank c = true ∧ false = false) := by simp [hblank]
    refine ⟨c, t, ts, unquotedHead?_cons_of_ne hquote s, ?_, ?_⟩
    · rw [splitQuoted, splitQuotedFrom, if_neg hquote, if_neg hc, hfrom]
      rfl
    · rw [splitQuoted_keyword_append hw, splitQuotedFrom, if_neg hquote, if_neg hc]
      simpa using happend
  | @quoted c s hquote =>
    obtain ⟨t, ts, hfrom, happend⟩ :=
      tokens_splitQuotedFrom_append_pending (List.cons_ne_nil c []) w.reverse true s
    have hopen : ∀ p, splitQuotedFrom false p ('"' :: c :: s) =
        splitQuotedFrom true (c :: p) s := by
      intro p
      rw [splitQuotedFrom, if_pos rfl, if_neg (by decide), splitQuotedFrom, if_neg hquote,
        if_neg (by simp)]
    refine ⟨c, t, ts, rfl, ?_, ?_⟩
    · rw [splitQuoted, hopen, hfrom]
      rfl
    · rw [splitQuoted_keyword_append hw, hopen]
      simpa using happend

/-- Where the quotes are not closed, no tokens are read with the word or without. -/
theorem quotedTokens_append_of_attaches (hs : Attaches s) (hw : IsKeyword w) :
    (quotedTokens s = .error .unterminatedString ∧
      quotedTokens (w ++ s) = .error .unterminatedString) ∨
    ∃ c t ts, unquotedHead? s = some c ∧ quotedTokens s = .ok ((c :: t) :: ts) ∧
      quotedTokens (w ++ s) = .ok ((w ++ c :: t) :: ts) := by
  obtain ⟨c, t, ts, hhead, htokens, happend⟩ := hs.exists_tokens hw
  rw [quotedTokens_eq, quotedTokens_eq, quotedAfter_append, quotedAfter_of_notMem hw.quote_notMem,
    htokens, happend]
  cases quotedAfter false s with
  | true => exact .inl ⟨rfl, rfl⟩
  | false => exact .inr ⟨c, t, ts, hhead, rfl, rfl⟩

/-- An empty pair of quotes ends the word. -/
theorem quotedTokens_append_quotes (hw : IsKeyword w) (s : Chars) :
    quotedTokens (w ++ '"' :: '"' :: s) = (quotedTokens ('"' :: '"' :: s)).map (w :: ·) := by
  have hquotes : ∀ p, splitQuotedFrom false p ('"' :: '"' :: s) =
      (splitQuotedFrom false [] s).push p.reverse := fun p => rfl
  rw [quotedTokens_eq, quotedTokens_eq, quotedAfter_append, quotedAfter_of_notMem hw.quote_notMem,
    splitQuoted_keyword_append hw, hquotes, List.reverse_reverse,
    Split.push_of_ne_nil hw.isWord.ne_nil, splitQuoted, hquotes, List.reverse_nil,
    Split.tokens_push]
  split <;> rfl

/-- **A word written against no token** is a token of its own. -/
theorem quotedTokens_append_of_not_attaches (hs : ¬ Attaches s) (hw : IsKeyword w) :
    quotedTokens (w ++ s) = (quotedTokens s).map (w :: ·) := by
  have hblankCase : (∀ c ∈ s.head?, isBlank c = true) →
      quotedTokens (w ++ s) = (quotedTokens s).map (w :: ·) := fun h =>
    quotedTokens_word_append hw.isWord hw.quote_notMem h
  cases s with
  | nil => exact hblankCase (by simp)
  | cons c s =>
    by_cases hquote : c = '"'
    · subst hquote
      cases s with
      | nil =>
        rw [quotedTokens_eq, quotedTokens_eq, quotedAfter_append,
          quotedAfter_of_notMem hw.quote_notMem]
        rfl
      | cons d s =>
        obtain rfl : d = '"' := by
          by_contra hd
          exact hs (.quoted hd)
        exact quotedTokens_append_quotes hw s
    · refine hblankCase fun d hd => ?_
      obtain rfl : c = d := Option.some.inj hd
      by_contra hblank
      exact hs (.bare hquote (by simpa using hblank))

end

/-! ### Operators cut off again -/

section

variable (op : Comparison) {s : Chars}

theorem words_symbol_append_space (s : Chars) :
    Text.words (op.symbol.toList ++ ' ' :: s) = op.symbol.toList :: Text.words s :=
  op.isKeyword_symbol.isWord.words_append (by decide) s

theorem quotedTokens_symbol_append_space (s : Chars) :
    quotedTokens (op.symbol.toList ++ ' ' :: s) =
      (quotedTokens s).map (op.symbol.toList :: ·) := by
  have hblank : isBlank ' ' = true := by decide
  rw [quotedTokens_word_append op.isKeyword_symbol.isWord op.isKeyword_symbol.quote_notMem
    (by simpa using hblank), quotedTokens_cons hblank]

/-- **An operator is cut off the first word** again. -/
theorem detachOperator_words_symbol_append (hs : ∀ c ∈ s.head?, c ∉ operatorChars) :
    detachOperator (Text.words (op.symbol.toList ++ s)) = op.symbol.toList :: Text.words s := by
  have hop := op.isKeyword_symbol
  cases s with
  | nil => rw [List.append_nil, hop.isWord.words, detachOperator_symbol, Text.words_nil]
  | cons c s =>
    cases hc : isBlank c with
    | true => rw [hop.isWord.words_append hc, detachOperator_symbol, Text.words_cons hc]
    | false =>
      obtain ⟨t, ts, hwords, happend⟩ := words_append_cons_of_not_isBlank hop hc s
      rw [happend, detachOperator_symbol_append op (hs c rfl), hwords]

/-- **An operator is cut off the first quoted token** again. -/
theorem map_detachOperator_quotedTokens (hs : ∀ c ∈ unquotedHead? s, c ∉ operatorChars) :
    (quotedTokens (op.symbol.toList ++ s)).map detachOperator =
      (quotedTokens s).map (op.symbol.toList :: ·) := by
  by_cases hattaches : Attaches s
  · rcases quotedTokens_append_of_attaches hattaches op.isKeyword_symbol with ⟨herror, happend⟩ |
      ⟨c, t, ts, hhead, htokens, happend⟩
    · rw [herror, happend]
      rfl
    · rw [htokens, happend]
      exact congrArg Except.ok (detachOperator_symbol_append op (hs c hhead) t ts)
  · rw [quotedTokens_append_of_not_attaches hattaches op.isKeyword_symbol]
    cases quotedTokens s with
    | error problem => rfl
    | ok tokens => exact congrArg Except.ok (detachOperator_symbol op tokens)

end

/-- Readers other than the one of influences look at their tokens with the operator cut off. -/
theorem ConditionKind.read_congr_detached {kind : ConditionKind} (hkind : kind ≠ .influence)
    {s t : Chars} (hwords : detachOperator (Text.words s) = detachOperator (Text.words t))
    (hquoted : (quotedTokens s).map detachOperator = (quotedTokens t).map detachOperator) :
    kind.read s = kind.read t := by
  have htokens : (∃ problem, quotedTokens s = .error problem ∧ quotedTokens t = .error problem) ∨
      ∃ ss ts, quotedTokens s = .ok ss ∧ quotedTokens t = .ok ts ∧
        detachOperator ss = detachOperator ts := by
    cases hs : quotedTokens s <;> cases ht : quotedTokens t <;> rw [hs, ht] at hquoted
    · exact .inl ⟨_, rfl, hquoted.symm⟩
    · cases hquoted
    · cases hquoted
    · exact .inr ⟨_, _, rfl, rfl, Except.ok.inj hquoted⟩
  rcases htokens with ⟨problem, hs, ht⟩ | ⟨ss, ts, hs, ht, hdetached⟩
  · cases kind with
    | influence => exact absurd rfl hkind
    | _ => simp only [read, operatorAndNumber, textList, boolean, readRarity, readSockets,
        readExplicitMods, hwords, hs, ht]
  · cases kind with
    | influence => exact absurd rfl hkind
    | _ => simp only [read, operatorAndNumber, textList, boolean, readRarity, readSockets,
        readExplicitMods, hwords, hs, ht, bind, Except.bind, hdetached]

/-- **Both spellings of an operator are read alike**, but for influences. -/
theorem ConditionKind.read_symbol_append {kind : ConditionKind} (hkind : kind ≠ .influence)
    (op : Comparison) {s : Chars} (hs : ∀ c ∈ unquotedHead? s, c ∉ operatorChars) :
    kind.read (op.symbol.toList ++ s) = kind.read (op.symbol.toList ++ ' ' :: s) := by
  refine read_congr_detached hkind ?_ ?_
  · rw [detachOperator_words_symbol_append op (head?_notMem_operatorChars hs),
      words_symbol_append_space, detachOperator_symbol]
  · rw [map_detachOperator_quotedTokens op hs, quotedTokens_symbol_append_space]
    cases quotedTokens s with
    | error problem => rfl
    | ok tokens => exact congrArg Except.ok (detachOperator_symbol op tokens).symm

/-! ### Influences -/

/-- The first of some tokens that names no influence. -/
def unknownInfluence? (tokens : List Chars) : Option Chars :=
  tokens.find? fun t => (Influence.ofName? t).isNone

theorem isOk_influenceName (t : Chars) :
    (!(influenceName t).isOk) = (Influence.ofName? t).isNone := by
  rw [influenceName]
  cases Influence.ofName? t <;> rfl

theorem influenceName_of_isNone {t : Chars} (h : (Influence.ofName? t).isNone = true) :
    influenceName t = .error (.invalidInfluence (String.ofList t)) := by
  rw [influenceName, Option.isNone_iff_eq_none.mp h]

/-- Names of influences are refused over the first that is none. -/
theorem mapM_influenceName_eq_error_iff {tokens : List Chars} {w : Chars} :
    tokens.mapM influenceName = .error (.invalidInfluence (String.ofList w)) ↔
      unknownInfluence? tokens = some w := by
  simp only [mapM_eq_error_iff, isOk_influenceName]
  constructor
  · rintro ⟨t, hfound, hrefused⟩
    have hnone := List.find?_some hfound
    rw [influenceName_of_isNone hnone] at hrefused
    have hstrings := Problem.invalidInfluence.inj (Except.error.inj hrefused)
    obtain rfl : t = w := String.ofList_injective hstrings
    exact hfound
  · intro h
    have hnone := List.find?_some h
    exact ⟨w, h, influenceName_of_isNone hnone⟩

theorem not_equalIgnoringCase_of_head? {s t : Chars}
    (h : s.head?.map Char.toLower ≠ t.head?.map Char.toLower) :
    Text.equalIgnoringCase s t = false := by
  rw [Text.equalIgnoringCase, beq_eq_false_iff_ne]
  intro heq
  refine h ?_
  rw [← List.head?_map, ← List.head?_map]
  exact congrArg List.head? heq

/-- What begins with an operator is not the name of an influence. -/
theorem ofName?_symbol_append (op : Comparison) (t : Chars) :
    Influence.ofName? (op.symbol.toList ++ t) = none := by
  refine List.find?_eq_none.mpr fun i _ => ?_
  rw [not_equalIgnoringCase_of_head?]
  · exact Bool.false_ne_true
  · rw [List.head?_append_of_ne_nil _ op.symbol_ne_nil]
    cases op <;> cases i <;> decide

/-- **An attached operator is refused** with what it is written against, as the name of an
influence. -/
theorem readInfluence_attached (keyword : String) {s : Chars} {op : Comparison} {c : Char}
    {t : Chars} {ts : List Chars} (hc : c ∉ operatorChars)
    (h : quotedTokens s = .ok ((op.symbol.toList ++ c :: t) :: ts)) :
    readInfluence keyword s =
      .error (.invalidInfluence (String.ofList (op.symbol.toList ++ c :: t))) := by
  have hnone : Text.equalIgnoringCase (op.symbol.toList ++ c :: t) "none".toList = false := by
    refine not_equalIgnoringCase_of_head? ?_
    rw [List.head?_append_of_ne_nil _ op.symbol_ne_nil]
    cases op <;> decide
  have hname : (Influence.ofName? (op.symbol.toList ++ c :: t)).isNone = true := by
    rw [ofName?_symbol_append]
    rfl
  have hmapM : ((op.symbol.toList ++ c :: t) :: ts).mapM influenceName =
      .error (.invalidInfluence (String.ofList (op.symbol.toList ++ c :: t))) :=
    mapM_influenceName_eq_error_iff.mpr (List.find?_cons_of_pos hname)
  rw [readInfluence, h]
  simp only [bind, Except.bind, leadingOperator, op.ofSymbol?_symbol_append_cons hc, hmapM]
  cases ts with
  | nil => simp only [hnone, Bool.false_eq_true, if_false]
  | cons => rfl

/-- Behind an operator of its own, a word is refused if it is the first that names no influence.
Only the first word may also be the word for none. -/
theorem readInfluence_symbol_eq_error_iff (keyword : String) {s : Chars} {op : Comparison}
    {t w : Chars} {ts : List Chars} (hw : w ≠ t)
    (h : quotedTokens s = .ok (op.symbol.toList :: t :: ts)) :
    readInfluence keyword s = .error (.invalidInfluence (String.ofList w)) ↔
      unknownInfluence? (t :: ts) = some w := by
  have hnames {mode : InfluenceMode} :
      ((t :: ts).mapM influenceName >>= fun is => pure (Condition.influence mode is)) =
        .error (.invalidInfluence (String.ofList w)) ↔ unknownInfluence? (t :: ts) = some w := by
    rw [bind_pure_eq_map, map_eq_error_iff, mapM_influenceName_eq_error_iff]
  rw [readInfluence, h]
  simp only [bind, Except.bind, leadingOperator_symbol]
  cases ts with
  | nil =>
    dsimp only
    split
    · constructor
      · intro hread
        cases hread
      · -- The only word there is `t`.
        intro hunknown
        exact absurd (List.mem_singleton.mp (List.mem_of_find?_eq_some hunknown)) hw
    · exact hnames
  | cons => exact hnames

/-! ### The two spellings of a line -/

/-- A line whose operator is written against the argument. -/
def attachedLine (kind : ConditionKind) (op : Comparison) (argument : Chars) : Chars :=
  kind.keyword.toList ++ ' ' :: (op.symbol.toList ++ argument)

/-- A line whose operator has a blank behind it. -/
def spacedLine (kind : ConditionKind) (op : Comparison) (argument : Chars) : Chars :=
  kind.keyword.toList ++ ' ' :: (op.symbol.toList ++ ' ' :: argument)

section

variable (kind : ConditionKind) (op : Comparison) {a : Chars}

theorem readStatement_attachedLine (a : Chars) : readStatement true (attachedLine kind op a) =
    (kind.read (op.symbol.toList ++ codeOf a)).map .condition := by
  rw [attachedLine, readStatement_condition_line, codeOf_keyword_append op.isKeyword_symbol]

theorem readStatement_spacedLine (a : Chars) : readStatement true (spacedLine kind op a) =
    (kind.read (op.symbol.toList ++ ' ' :: codeOf a)).map .condition := by
  rw [spacedLine, readStatement_condition_line, codeOf_keyword_append op.isKeyword_symbol,
    codeOf_space_cons]

theorem mem_head?_withoutCommentFrom_spaced {quoted : Bool} {s : Chars} {c : Char}
    (hc : c ∈ (withoutCommentFrom quoted (spaced s)).head?) : c = ' ' ∨ c ∈ s.head? := by
  cases s with
  | nil => exact .inr hc
  | cons d s =>
    cases hd : isBlank d with
    | true =>
      rw [spaced_cons_of_isBlank hd] at hc
      exact .inl (Option.some.inj hc).symm
    | false =>
      rw [spaced_cons_of_not_isBlank hd, withoutCommentFrom] at hc
      split at hc
      · exact .inr hc
      · split at hc
        · cases hc
        · exact .inr hc

/-- The code of an argument begins with no operator either. -/
theorem unquotedHead?_codeOf_notMem (ha : ∀ c ∈ unquotedHead? a, c ∉ operatorChars) :
    ∀ c ∈ unquotedHead? (codeOf a), c ∉ operatorChars := by
  have hcode : ∀ {quoted : Bool} {s : Chars}, (∀ c ∈ s.head?, c ∉ operatorChars) →
      ∀ c ∈ (withoutCommentFrom quoted (spaced s)).head?, c ∉ operatorChars := by
    intro quoted s hs c hc
    rcases mem_head?_withoutCommentFrom_spaced hc with rfl | hc
    · decide
    · exact hs c hc
  intro c hc
  cases a with
  | nil => cases hc
  | cons d s =>
    by_cases hquote : d = '"'
    · subst hquote
      exact hcode ha c hc
    · rw [unquotedHead?_cons_of_ne hquote] at ha
      have hhead : '"' ∉ (codeOf (d :: s)).head? := by
        intro hmem
        rcases mem_head?_withoutCommentFrom_spaced hmem with hspace | hd
        · cases hspace
        · exact hquote (Option.some.inj hd)
      rw [unquotedHead?_of_notMem hhead] at hc
      exact @hcode false (d :: s) ha c hc

/-- For influences the two spellings do the same if nothing is written against the operator. Else
the spelling with a blank has to be refused over the word that the other one begins with. -/
theorem agreeInBlock_attachedLine_influence_iff
    (ha : ∀ c ∈ unquotedHead? a, c ∉ operatorChars) :
    AgreeInBlock (attachedLine .influence op a) (spacedLine .influence op a) ↔
      ∀ t ts, Attaches (codeOf a) → quotedTokens (codeOf a) = .ok (t :: ts) →
        unknownInfluence? (t :: ts) = some (op.symbol.toList ++ t) := by
  have hspaced := quotedTokens_symbol_append_space op (codeOf a)
  have hsame (h : quotedTokens (op.symbol.toList ++ codeOf a) =
      quotedTokens (op.symbol.toList ++ ' ' :: codeOf a)) :
      AgreeInBlock (attachedLine .influence op a) (spacedLine .influence op a) := by
    refine agreeInBlock_of_readStatement_eq ?_
    rw [readStatement_attachedLine, readStatement_spacedLine]
    simp only [ConditionKind.read, readInfluence, h]
  by_cases hattaches : Attaches (codeOf a)
  · rcases quotedTokens_append_of_attaches hattaches op.isKeyword_symbol with ⟨herror, happend⟩ |
      ⟨c, t, ts, hhead, htokens, happend⟩
    · refine ⟨fun _ t ts _ htokens => ?_, fun _ => hsame ?_⟩
      · rw [herror] at htokens
        cases htokens
      · rw [happend, hspaced, herror]
        rfl
    · have hc := unquotedHead?_codeOf_notMem ha c hhead
      have hattached : readStatement true (attachedLine .influence op a) =
          .error (.invalidInfluence (String.ofList (op.symbol.toList ++ c :: t))) := by
        rw [readStatement_attachedLine, ConditionKind.read, readInfluence_attached _ hc happend]
        rfl
      rw [htokens] at hspaced
      have hlonger : op.symbol.toList ++ c :: t ≠ c :: t := fun h =>
        op.symbol_ne_nil (by simpa using h)
      rw [agreeInBlock_iff_of_eq_error hattached, readStatement_spacedLine,
        map_eq_error_iff, ConditionKind.read,
        readInfluence_symbol_eq_error_iff _ hlonger hspaced, htokens]
      refine ⟨fun h t' ts' _ htokens' => ?_, fun h => h (c :: t) ts hattaches rfl⟩
      cases htokens'
      exact h
  · refine ⟨fun _ t ts h => absurd h hattaches, fun _ => hsame ?_⟩
    rw [quotedTokens_append_of_not_attaches hattaches op.isKeyword_symbol, hspaced]

/-- **The two spellings of a line do the same** if the argument does not go on the operator, unless
influences are named right behind it. Then they do so only if the line with a blank is refused as
well, and over the very word that the other one begins with. -/
theorem agreeInBlock_attachedLine_iff (ha : ∀ c ∈ unquotedHead? a, c ∉ operatorChars) :
    AgreeInBlock (attachedLine kind op a) (spacedLine kind op a) ↔
      (kind = .influence → ∀ t ts, Attaches (codeOf a) → quotedTokens (codeOf a) = .ok (t :: ts) →
        unknownInfluence? (t :: ts) = some (op.symbol.toList ++ t)) := by
  by_cases hkind : kind = .influence
  · subst hkind
    rw [agreeInBlock_attachedLine_influence_iff op ha]
    exact ⟨fun h _ => h, fun h => h rfl⟩
  · refine ⟨fun _ h => absurd h hkind, fun _ => agreeInBlock_of_readStatement_eq ?_⟩
    rw [readStatement_attachedLine, readStatement_spacedLine,
      ConditionKind.read_symbol_append hkind op (unquotedHead?_codeOf_notMem ha)]

end

theorem agreeInBlock_attachedLine_quoted :
    (∀ c ∈ unquotedHead? "\"Onyx Amulet\" Vaal # note".toList, c ∉ operatorChars) ∧
      AgreeInBlock
        (attachedLine (.text .baseType) .exactEqual "\"Onyx Amulet\" Vaal # note".toList)
        (spacedLine (.text .baseType) .exactEqual "\"Onyx Amulet\" Vaal # note".toList) := by
  have hhead : ∀ c ∈ unquotedHead? "\"Onyx Amulet\" Vaal # note".toList, c ∉ operatorChars := by
    intro c hc
    obtain rfl : 'O' = c := Option.some.inj hc
    decide
  exact ⟨hhead, (agreeInBlock_attachedLine_iff (.text .baseType) .exactEqual hhead).mpr nofun⟩

/-- One influence behind the operator is enough to tell the two spellings apart. -/
theorem not_agreeInBlock_attachedLine_shaper :
    (∀ c ∈ unquotedHead? "Shaper".toList, c ∉ operatorChars) ∧
      ¬ AgreeInBlock (attachedLine .influence .exactEqual "Shaper".toList)
        (spacedLine .influence .exactEqual "Shaper".toList) := by
  constructor
  · intro c hc
    obtain rfl : 'S' = c := Option.some.inj hc
    decide
  · intro h
    have hattached : readStatement true (attachedLine .influence .exactEqual "Shaper".toList) =
        .error (.invalidInfluence "==Shaper") := by rfl
    have hspaced : readStatement true (spacedLine .influence .exactEqual "Shaper".toList) =
        .ok (.condition (.influence .all [.shaper])) := by rfl
    have hrefused := h.readStatement_eq_error hattached
    rw [hspaced] at hrefused
    cases hrefused

end LootLedger.Filter
