import LootLedger.Proofs.Filter.Tokens
import LootLedger.Proofs.Text.Layout
import Mathlib.Logic.Relation

/-!
# The layout of a document does not matter

The layout of a document is what an editor changes by itself or a writer changes for looks: which
blanks stand where blanks stand anyway, how far a line is indented, what ends it, and notes behind
the code. A document compiles to the same outcome after any number of such changes, down to the
problems and the tokens they quote.

An edit is made to one line at a time, and it keeps the line feed of that line. So the edits are
those of whole lines, which a document that is empty or ends with a line feed has none but. Blanks
inside quotes are part of a text: one may stand for another, but their number matters. That is why
an edit that changes the number has to know that it is outside quotes.

## Main definitions

* `Filter.IsUnquoted`: what is written behind a text stands outside quotes
* `Filter.LineEdit`, `Filter.LayoutEdit`: one change of the layout of a line, and of a document

## Main results

* `Filter.LineEdit.readStatement_eq`: the edited line says the same
* `Filter.parse_eq_of_layoutEdits`: the edited document compiles to the same outcome
-/

namespace LootLedger.Filter

open Text (Chars TextLine isBlank)

/-! ### Edits -/

/-- What is written behind the text on its line stands outside quotes: all its quotes are closed
where its code ends, be that its end or the number sign of a comment. -/
def IsUnquoted (s : Chars) : Prop :=
  quotedAfter false (withoutComment s) = false

instance (s : Chars) : Decidable (IsUnquoted s) :=
  inferInstanceAs (Decidable (_ = _))

/-- The line is ended by a line feed, and holds no other. -/
def IsWholeLine (l : TextLine) : Prop :=
  '\n' ∉ l.content ∧ l.ending ≠ .nothing

instance (l : TextLine) : Decidable (IsWholeLine l) :=
  inferInstanceAs (Decidable (_ ∧ _))

/-- One change of the layout of a line. -/
inductive LineEdit : TextLine → TextLine → Prop
  /-- Another blank in the place of a blank, in quotes or outside. -/
  | blank {before after c c' ending} : isBlank c = true → isBlank c' = true →
      LineEdit ⟨before ++ c :: after, ending⟩ ⟨before ++ c' :: after, ending⟩
  /-- Other blanks, or none, at the start of the line. -/
  | start {b b' content ending} : IsEmptyLine b → IsEmptyLine b' →
      LineEdit ⟨b ++ content, ending⟩ ⟨b' ++ content, ending⟩
  /-- Other blanks, or none, at the end of the line. -/
  | stop {b b' content ending} : IsEmptyLine b → IsEmptyLine b' →
      LineEdit ⟨content ++ b, ending⟩ ⟨content ++ b', ending⟩
  /-- Other blanks in the place of blanks outside quotes. -/
  | gap {before b b' after ending} : IsUnquoted before → b ≠ [] → b' ≠ [] → IsEmptyLine b →
      IsEmptyLine b' → LineEdit ⟨before ++ (b ++ after), ending⟩ ⟨before ++ (b' ++ after), ending⟩
  /-- Another ending. -/
  | ending {content ending ending'} : LineEdit ⟨content, ending⟩ ⟨content, ending'⟩
  /-- A note behind a line that is not empty. -/
  | note {content ending} (note : Chars) : ¬ IsEmptyLine content → IsUnquoted content →
      LineEdit ⟨content, ending⟩ ⟨content ++ '#' :: note, ending⟩

/-- One change of the layout of a document: the edit of a whole line that begins where a line
begins. -/
inductive LayoutEdit : Chars → Chars → Prop
  | line {before after : Chars} {l l' : TextLine} : Text.IsEnded before → IsWholeLine l →
      IsWholeLine l' → LineEdit l l' →
      LayoutEdit (before ++ (l.chars ++ after)) (before ++ (l'.chars ++ after))

/-! ### Code of an edited line

Whether blanks are made spaces before the comment is cut off or after makes no difference, so the
quotes before a place can be counted in the line as it was written. -/

theorem spaced_append (s t : Chars) : spaced (s ++ t) = spaced s ++ spaced t :=
  List.map_append

theorem spaced_cons_of_not_isBlank {c : Char} (h : isBlank c = false) (s : Chars) :
    spaced (c :: s) = c :: spaced s := by
  rw [spaced, List.map_cons, if_neg (by simp [h]), spaced]

theorem spaced_cons_of_isBlank {c : Char} (h : isBlank c = true) (s : Chars) :
    spaced (c :: s) = ' ' :: spaced s := by
  rw [spaced, List.map_cons, if_pos h, spaced]

theorem IsEmptyLine.spaced {b : Chars} (h : IsEmptyLine b) : IsEmptyLine (spaced b) := by
  intro c hc
  obtain ⟨d, hd, rfl⟩ := List.mem_map.mp hc
  rw [if_pos (h d hd)]
  decide

theorem quotedAfter_spaced (quoted : Bool) (s : Chars) :
    quotedAfter quoted (spaced s) = quotedAfter quoted s := by
  induction s generalizing quoted with
  | nil => rfl
  | cons c s ih =>
    cases hc : isBlank c with
    | false => rw [spaced_cons_of_not_isBlank hc, quotedAfter_cons, quotedAfter_cons, ih]
    | true =>
      have hquote : c ≠ '"' := by
        rintro rfl
        exact absurd hc (by decide)
      rw [spaced_cons_of_isBlank hc, quotedAfter_cons, quotedAfter_cons, if_neg (by decide),
        if_neg hquote, ih]

theorem withoutCommentFrom_spaced (quoted : Bool) (s : Chars) :
    withoutCommentFrom quoted (spaced s) = spaced (withoutCommentFrom quoted s) := by
  induction s generalizing quoted with
  | nil => rfl
  | cons c s ih =>
    cases hc : isBlank c with
    | false =>
      rw [spaced_cons_of_not_isBlank hc, withoutCommentFrom, withoutCommentFrom]
      split
      · rw [ih, spaced_cons_of_not_isBlank hc]
      · split
        · rfl
        · rw [ih, spaced_cons_of_not_isBlank hc]
    | true =>
      have hquote : c ≠ '"' := by
        rintro rfl
        exact absurd hc (by decide)
      have hsign : c ≠ '#' := by
        rintro rfl
        exact absurd hc (by decide)
      rw [spaced_cons_of_isBlank hc, withoutCommentFrom, withoutCommentFrom, if_neg (by decide),
        if_neg (by simp), if_neg hquote, if_neg (by simp [hsign]), ih, spaced_cons_of_isBlank hc]

/-- What stands behind code without a comment is read on from where its quotes are. -/
theorem codeOf_append_of_isCode {s : Chars} (h : IsCode false (spaced s)) (t : Chars) :
    codeOf (s ++ t) = codeOf s ++ withoutCommentFrom (quotedAfter false (codeOf s)) (spaced t) := by
  have hs : codeOf s = spaced s := h
  rw [hs, codeOf, withoutComment, spaced_append, withoutCommentFrom_append h]

/-- What stands behind a comment is no code. -/
theorem codeOf_append_of_not_isCode {s : Chars} (h : ¬ IsCode false (spaced s)) (t : Chars) :
    codeOf (s ++ t) = codeOf s := by
  rw [codeOf, withoutComment, spaced_append, withoutCommentFrom_append_of_not_isCode h,
    ← withoutComment, codeOf]

theorem IsUnquoted.quotedAfter_codeOf {s : Chars} (h : IsUnquoted s) :
    quotedAfter false (codeOf s) = false := by
  rw [codeOf, withoutComment, withoutCommentFrom_spaced, quotedAfter_spaced]
  exact h

theorem IsEmptyLine.isCode {b : Chars} (h : IsEmptyLine b) (quoted : Bool) : IsCode quoted b :=
  isCode_of_notMem (fun hc => absurd (h _ hc) (by decide)) quoted

theorem IsEmptyLine.withoutCommentFrom_append {b : Chars} (h : IsEmptyLine b) (quoted : Bool)
    (t : Chars) : withoutCommentFrom quoted (b ++ t) = b ++ withoutCommentFrom quoted t := by
  rw [Filter.withoutCommentFrom_append (h.isCode quoted), quotedAfter_of_blanks h]

theorem tokens_codeOf_start {b : Chars} (hb : IsEmptyLine b) (s : Chars) :
    tokens (codeOf (b ++ s)) = tokens (codeOf s) := by
  rw [codeOf, spaced_append, withoutComment, hb.spaced.withoutCommentFrom_append,
    tokens_blanks_append hb.spaced, codeOf, withoutComment]

theorem tokens_codeOf_stop {b : Chars} (hb : IsEmptyLine b) (s : Chars) :
    tokens (codeOf (s ++ b)) = tokens (codeOf s) := by
  by_cases h : IsCode false (spaced s)
  · rw [codeOf_append_of_isCode h, hb.spaced.isCode, tokens_append_blanks hb.spaced]
  · rw [codeOf_append_of_not_isCode h]

theorem tokens_codeOf_gap {s b b' : Chars} (hs : IsUnquoted s) (hne : b ≠ []) (hne' : b' ≠ [])
    (hb : IsEmptyLine b) (hb' : IsEmptyLine b') (t : Chars) :
    tokens (codeOf (s ++ (b ++ t))) = tokens (codeOf (s ++ (b' ++ t))) := by
  have hmap : ∀ {b : Chars}, b ≠ [] → spaced b ≠ [] := fun hne h => hne (List.map_eq_nil_iff.mp h)
  by_cases h : IsCode false (spaced s)
  · rw [codeOf_append_of_isCode h, codeOf_append_of_isCode h, spaced_append, spaced_append,
      hb.spaced.withoutCommentFrom_append, hb'.spaced.withoutCommentFrom_append]
    exact tokens_gap hs.quotedAfter_codeOf (hmap hne) (hmap hne') hb.spaced hb'.spaced _
  · rw [codeOf_append_of_not_isCode h, codeOf_append_of_not_isCode h]

/-- A note is cut off with the comment it is, or is part of. -/
theorem codeOf_note {s : Chars} (hs : IsUnquoted s) (note : Chars) :
    codeOf (s ++ '#' :: note) = codeOf s := by
  by_cases h : IsCode false (spaced s)
  · rw [codeOf_append_of_isCode h, hs.quotedAfter_codeOf,
      spaced_cons_of_not_isBlank (by decide), withoutCommentFrom, if_neg (by decide),
      if_pos (by decide), List.append_nil]
  · rw [codeOf_append_of_not_isCode h]

/-! ### What an edited line says -/

theorem isEmptyLine_append {s t : Chars} :
    IsEmptyLine (s ++ t) ↔ IsEmptyLine s ∧ IsEmptyLine t :=
  List.forall_mem_append

/-- Blanks at the end of a line, such as a carriage return, do not change what it says. -/
theorem readStatement_append_blanks {b : Chars} (hb : IsEmptyLine b) (inBlock : Bool)
    (line : Chars) : readStatement inBlock (line ++ b) = readStatement inBlock line :=
  readStatement_congr (by rw [isEmptyLine_append, and_iff_left hb]) (tokens_codeOf_stop hb line)
    inBlock

/-- **The edited line says the same.** -/
theorem LineEdit.readStatement_eq {l l' : TextLine} (h : LineEdit l l') (inBlock : Bool) :
    readStatement inBlock l'.content = readStatement inBlock l.content := by
  cases h with
  | @blank before after c c' ending hc hc' =>
    have hspaced : spaced (before ++ c' :: after) = spaced (before ++ c :: after) := by
      rw [spaced_append, spaced_append, spaced_cons_of_isBlank hc, spaced_cons_of_isBlank hc']
    refine readStatement_congr ?_ (by rw [codeOf, hspaced, codeOf]) inBlock
    rw [← trim_spaced_eq_nil_iff, ← trim_spaced_eq_nil_iff, hspaced]
  | @start b b' content ending hb hb' =>
    refine readStatement_congr ?_ ?_ inBlock
    · rw [isEmptyLine_append, isEmptyLine_append, and_iff_right hb, and_iff_right hb']
    · rw [tokens_codeOf_start hb, tokens_codeOf_start hb']
  | @stop b b' content ending hb hb' =>
    rw [readStatement_append_blanks hb, readStatement_append_blanks hb']
  | @gap before b b' after ending hbefore hne hne' hb hb' =>
    refine readStatement_congr ?_ (tokens_codeOf_gap hbefore hne' hne hb' hb after) inBlock
    rw [isEmptyLine_append, isEmptyLine_append, isEmptyLine_append, isEmptyLine_append,
      and_iff_right hb, and_iff_right hb']
  | ending => rfl
  | note note hcontent hunquoted =>
    refine readStatement_congr (iff_of_false ?_ hcontent) (by rw [codeOf_note hunquoted]) inBlock
    exact fun hnote => hcontent (isEmptyLine_append.mp hnote).1

/-! ### Edited documents -/

/-- A whole line, wherever it stands, is a line of its document, but for blanks at its end. -/
theorem exists_lines_append_line {before : Chars} {l : TextLine} (hbefore : Text.IsEnded before)
    (hl : IsWholeLine l) (after : Chars) : ∃ line b,
      Text.lines (before ++ (l.chars ++ after)) =
        Text.lines before ++ line :: Text.lines after ∧
      l.content = line ++ b ∧ IsEmptyLine b := by
  obtain ⟨content, ending⟩ := l
  obtain ⟨hcontent, hending⟩ := hl
  rw [Text.lines_append hbefore]
  cases ending with
  | nothing => exact absurd rfl hending
  | feed =>
    have hchars : TextLine.chars ⟨content, .feed⟩ ++ after = content ++ '\n' :: after := by
      simp [TextLine.chars, Text.LineEnd.chars]
    rw [hchars, Text.lines_append_newline hcontent]
    by_cases hreturn : content.getLast? = some '\r'
    · obtain ⟨line, rfl⟩ := List.getLast?_eq_some_iff.mp hreturn
      refine ⟨line, ['\r'], ?_, rfl, by decide⟩
      rw [Text.dropReturn, if_pos hreturn, List.dropLast_concat]
    · refine ⟨content, [], ?_, (List.append_nil content).symm, by decide⟩
      rw [Text.dropReturn, if_neg hreturn]
  | returnFeed =>
    have hchars : TextLine.chars ⟨content, .returnFeed⟩ ++ after =
        (content ++ ['\r']) ++ '\n' :: after := by
      simp [TextLine.chars, Text.LineEnd.chars]
    have hreturn : '\n' ∉ content ++ ['\r'] := by simpa using hcontent
    rw [hchars, Text.lines_append_newline hreturn]
    refine ⟨content, [], ?_, (List.append_nil content).symm, by decide⟩
    rw [Text.dropReturn, if_pos List.getLast?_concat, List.dropLast_concat]

/-- In the place of a line, one that says the same does the same. -/
theorem readLines_append_cons {line line' : Chars}
    (h : ∀ inBlock, readStatement inBlock line' = readStatement inBlock line) (d : Draft)
    (ls rs : List Chars) : readLines d (ls ++ line' :: rs) = readLines d (ls ++ line :: rs) := by
  induction ls generalizing d with
  | nil =>
    have hline : d.readLine line' = d.readLine line := by
      rw [Draft.readLine, h, Draft.readLine]
    rw [List.nil_append, List.nil_append, readLines, readLines, hline]
  | cons l ls ih => rw [List.cons_append, List.cons_append, readLines, readLines, ih]

/-- **One edit** of the layout of a document does not change its outcome. -/
theorem LayoutEdit.parse_eq {text text' : Chars} (h : LayoutEdit text text') :
    parse text' = parse text := by
  obtain ⟨hbefore, hl, hl', hedit⟩ := h
  obtain ⟨line, b, hlines, hcontent, hb⟩ := exists_lines_append_line hbefore hl _
  obtain ⟨line', b', hlines', hcontent', hb'⟩ := exists_lines_append_line hbefore hl' _
  rw [parse, parse, hlines, hlines']
  refine readLines_append_cons (fun inBlock => ?_) {} _ _
  rw [← readStatement_append_blanks hb inBlock line,
    ← readStatement_append_blanks hb' inBlock line', ← hcontent, ← hcontent',
    hedit.readStatement_eq]

/-- **The layout of a document does not matter.** After any number of edits of its lines that
replace blanks by blanks, pad or trim them, change the blanks between their tokens or their endings,
or put notes behind them, a document compiles to the identical outcome. -/
theorem parse_eq_of_layoutEdits {text text' : Chars}
    (h : Relation.ReflTransGen LayoutEdit text text') : parse text' = parse text := by
  induction h with
  | refl => rfl
  | tail _ hedit ih => rw [hedit.parse_eq, ih]

/-- A line that is indented, with other blanks in quotes and outside, another ending and a note. -/
theorem parse_eq_of_layoutEdits_amulet :
    Relation.ReflTransGen LayoutEdit "Show\nClass  \"A B\"\n".toList
      "Show\n Class\t\"A\tB\"#\"\r\n".toList ∧
    parse "Show\n Class\t\"A\tB\"#\"\r\n".toList = parse "Show\nClass  \"A B\"\n".toList := by
  have hedit : ∀ {l l' : TextLine}, IsWholeLine l → IsWholeLine l' → LineEdit l l' →
      LayoutEdit ("Show\n".toList ++ (l.chars ++ [])) ("Show\n".toList ++ (l'.chars ++ [])) :=
    .line (by decide)
  have h : Relation.ReflTransGen LayoutEdit "Show\nClass  \"A B\"\n".toList
      "Show\n Class\t\"A\tB\"#\"\r\n".toList :=
    .head (hedit (by decide) (by decide) (@LineEdit.gap "Class".toList "  ".toList "\t".toList
        "\"A B\"".toList .feed (by decide) (by decide) (by decide) (by decide) (by decide))) <|
    .head (hedit (by decide) (by decide) (@LineEdit.blank "Class\t\"A".toList "B\"".toList ' ' '\t'
        .feed (by decide) (by decide))) <|
    .head (hedit (by decide) (by decide) (@LineEdit.start [] " ".toList "Class\t\"A\tB\"".toList
        .feed (by decide) (by decide))) <|
    .head (hedit (by decide) (by decide) (@LineEdit.ending " Class\t\"A\tB\"".toList .feed
        .returnFeed)) <|
    .single (hedit (by decide) (by decide) (@LineEdit.note " Class\t\"A\tB\"".toList .returnFeed
        "\"".toList (by decide) (by decide)))
  exact ⟨h, parse_eq_of_layoutEdits h⟩

end LootLedger.Filter
