import LootLedger.Proofs.Filter.LayoutEdit

/-!
# Lines in an open block

A condition stands in an open block. What its line does there is told by its keyword and by the code
of the rest of the line: the condition that the reader of the keyword makes of it is added to the
rule of the block, or the line is refused with what the reader says.

Two lines do the same, or one line adds a condition, in every open block or in none. So both are
stated of all drafts with an open block, and settled on the statement that is read.

## Main definitions

* `Filter.AgreeInBlock`: two lines do the same in every open block
* `Filter.AddsInBlock`: a line adds a condition in every open block

## Main results

* `Filter.readStatement_keyword_append`: a keyword with text behind it goes to its reader
* `Filter.readStatement_condition_line`: what the line of a condition says
* `Filter.addsInBlock_iff`: the lines that add a condition
-/

namespace LootLedger.Filter

open Text (Chars isBlank)

/-! ### Code behind a keyword -/

/-- In front of any text a word without quotes and comment is code as it stands. -/
theorem codeOf_keyword_append {word : Chars} (hw : IsKeyword word) (s : Chars) :
    codeOf (word ++ s) = word ++ codeOf s := by
  have hspaced : spaced word = word := spaced_eq_self hw.isWord.onlySpaces
  have hcode : IsCode false (spaced word) := by
    rw [hspaced]
    exact isCode_of_notMem hw.sign_notMem false
  have hword : codeOf word = word := by
    rw [codeOf, withoutComment, hcode, hspaced]
  rw [codeOf_append_of_isCode hcode, hword, quotedAfter_of_notMem hw.quote_notMem, codeOf,
    withoutComment]

theorem codeOf_space_cons (s : Chars) : codeOf (' ' :: s) = ' ' :: codeOf s := rfl

/-- **A keyword with text behind it** goes to its reader with the code of the text. -/
theorem readStatement_keyword_append {keyword : Chars} (hk : IsKeyword keyword) (inBlock : Bool)
    (s : Chars) :
    readStatement inBlock (keyword ++ ' ' :: s) = readCode inBlock keyword (codeOf s) := by
  have hcode : codeOf (keyword ++ ' ' :: s) = keyword ++ ' ' :: codeOf s := by
    rw [codeOf_keyword_append hk, codeOf_space_cons]
  have hblank : isBlank ' ' = true := by decide
  have hwords : Text.words (codeOf (keyword ++ ' ' :: s)) = keyword :: Text.words (codeOf s) := by
    rw [hcode, hk.isWord.words_append hblank]
  have hquoted : quotedTokens (codeOf (keyword ++ ' ' :: s)) =
      (quotedTokens (codeOf s)).map (keyword :: ·) := by
    rw [hcode, quotedTokens_word_append hk.isWord hk.quote_notMem (by simpa using hblank),
      quotedTokens_cons hblank]
  rcases shapeOf_cases (keyword ++ ' ' :: s) with ⟨-, hempty⟩ | ⟨-, ⟨-, hnone⟩ |
    ⟨word, arguments, hshape, hcons, hmap⟩⟩
  · obtain ⟨c, w, rfl⟩ := List.exists_cons_of_ne_nil hk.isWord.ne_nil
    have hc := hk.isWord.isBlank_eq_false c List.mem_cons_self
    rw [hempty c List.mem_cons_self] at hc
    cases hc
  · rw [hwords] at hnone
    cases hnone
  · rw [readStatement_of_shapeOf inBlock hshape]
    exact readCode_eq_of_tokens_codeOf rfl hcons hwords hmap (fun _ => hquoted) inBlock

/-! ### Conditions -/

/-- **What the line of a condition says.** -/
theorem readStatement_condition_line (kind : ConditionKind) (s : Chars) :
    readStatement true (kind.keyword.toList ++ ' ' :: s) =
      (kind.read (codeOf s)).map .condition := by
  rw [readStatement_keyword_append kind.isKeyword, readCode_conditionKind, if_pos rfl]

/-! ### Open blocks -/

/-- In every open block the two lines do the same, be they accepted or refused. -/
def AgreeInBlock (line line' : Chars) : Prop :=
  ∀ d : Draft, d.current.isSome = true → d.readLine line = d.readLine line'

/-- In every open block the line adds the condition to the rule of the block. -/
def AddsInBlock (line : Chars) (c : Condition) : Prop :=
  ∀ d : Draft, d.current.isSome = true → d.readLine line = d.apply (.condition c)

theorem agreeInBlock_of_readStatement_eq {line line' : Chars}
    (h : readStatement true line = readStatement true line') : AgreeInBlock line line' := by
  intro d hd
  rw [Draft.readLine, hd, h, Draft.readLine, hd]

theorem addsInBlock_of_readStatement_eq {line : Chars} {c : Condition}
    (h : readStatement true line = .ok (.condition c)) : AddsInBlock line c := by
  intro d hd
  rw [Draft.readLine, hd, h]

/-- A draft whose one block has just been opened. -/
def Draft.justOpened : Draft :=
  { current := some (.opened .display 0) }

/-- A line that does the same as a refused one is refused for the same reason. -/
theorem AgreeInBlock.readStatement_eq_error {line line' : Chars} (h : AgreeInBlock line line')
    {problem : Problem} (hline : readStatement true line = .error problem) :
    readStatement true line' = .error problem := by
  have hdraft := h .justOpened rfl
  have hopen : Draft.justOpened.current.isSome = true := rfl
  rw [Draft.readLine, Draft.readLine, hopen, hline] at hdraft
  cases hline' : readStatement true line' with
  | ok statement =>
    rw [hline'] at hdraft
    have hkinds := congrArg Draft.lineKinds hdraft
    cases statement <;> cases hkinds
  | error problem' =>
    rw [hline'] at hdraft
    have hproblems := congrArg Draft.problems hdraft
    cases hproblems
    rfl

theorem agreeInBlock_iff_of_eq_error {line line' : Chars} {problem : Problem}
    (hline : readStatement true line = .error problem) :
    AgreeInBlock line line' ↔ readStatement true line' = .error problem :=
  ⟨fun h => h.readStatement_eq_error hline,
    fun h => agreeInBlock_of_readStatement_eq (hline.trans h.symm)⟩

/-- **The lines that add a condition** are those that are read as it. -/
theorem addsInBlock_iff {line : Chars} {c : Condition} :
    AddsInBlock line c ↔ readStatement true line = .ok (.condition c) := by
  refine ⟨fun h => ?_, addsInBlock_of_readStatement_eq⟩
  have hdraft := h .justOpened rfl
  have hopen : Draft.justOpened.current.isSome = true := rfl
  rw [Draft.readLine, hopen] at hdraft
  cases hline : readStatement true line with
  | error problem =>
    rw [hline] at hdraft
    cases congrArg Draft.lineKinds hdraft
  | ok statement =>
    rw [hline] at hdraft
    have hkinds := congrArg Draft.lineKinds hdraft
    have hcurrent := congrArg Draft.current hdraft
    cases statement with
    | condition c' =>
      cases hcurrent
      rfl
    | _ => cases hkinds

end LootLedger.Filter
