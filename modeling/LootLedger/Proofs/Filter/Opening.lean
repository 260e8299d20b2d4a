import LootLedger.Proofs.Filter.Provenance
import LootLedger.Proofs.Filter.Tokens

/-!
# The line that opens a rule

A rule is reported by the line that opens it. The rules of a document and its opening lines go
together one by one: rule number `k` was opened by opening line number `k`, however many lines were
refused in between and whatever ended the rules before it. And what is left of an opening line
without blanks and comments is the bare word `Show` or `Hide`.

## Main definitions

* `Filter.openingLines`: the numbers of the lines that open a block

## Main results

* `Filter.opening?_eq_some_iff_trim_codeOf`: a line opens a block if its code is the keyword
* `Filter.getElem?_openingLines`: which line opened a rule
-/

namespace LootLedger.Filter

open Text (Chars isBlank)

/-! ### What an opening line says -/

/-- Trimming the line first makes no difference to its trimmed code. -/
theorem trim_codeOf (line : Chars) :
    Text.trim (codeOf line) = Text.trim (withoutComment (Text.trim (spaced line))) := by
  obtain ⟨before, after, hbefore, hafter, hs⟩ := Text.exists_eq_append_trim (spaced line)
  have hsign {b : Chars} (hb : ∀ c ∈ b, isBlank c = true) : '#' ∉ b := fun hc =>
    absurd (hb _ hc) (by decide)
  have hcode : codeOf line =
      before ++ withoutCommentFrom false (Text.trim (spaced line) ++ after) := by
    conv_lhs => rw [codeOf, hs, withoutComment]
    rw [withoutCommentFrom_append (isCode_of_notMem (hsign hbefore) false),
      quotedAfter_of_blanks hbefore]
  rw [hcode, Text.trim_blanks_append hbefore, withoutComment]
  by_cases h : IsCode false (Text.trim (spaced line))
  · rw [withoutCommentFrom_append h, isCode_of_notMem (hsign hafter), h,
      Text.trim_append_blanks hafter]
  · rw [withoutCommentFrom_append_of_not_isCode h]

/-- A word is its own first piece, and nothing follows it. -/
theorem takeWhile_space_of_isWord {w : Chars} (h : Text.IsWord w) :
    w.takeWhile (· ≠ ' ') = w ∧ w.dropWhile (· ≠ ' ') = [] := by
  have hne : ∀ c ∈ w, decide (c ≠ ' ') = true := by
    intro c hc
    refine decide_eq_true fun hspace => ?_
    have hblank := h.isBlank_eq_false c hc
    rw [hspace] at hblank
    exact absurd hblank (by decide)
  exact ⟨List.takeWhile_eq_self_iff.mpr hne, List.dropWhile_eq_nil_iff.mpr hne⟩

/-- **A line opens a block exactly if its code is the bare keyword.** -/
theorem opening?_eq_some_iff_trim_codeOf {line : Chars} {v : Visibility} :
    opening? line = some v ↔ Text.trim (codeOf line) = v.keyword.toList := by
  have hword := v.isKeyword.isWord
  rw [opening?_eq_some_iff, trim_codeOf, shapeOf]
  split
  · next hblank =>
    refine iff_of_false nofun fun h => hword.ne_nil ?_
    rw [← h, hblank]
    rfl
  · next s hcomment =>
    refine iff_of_false nofun fun h => hword.ne_nil ?_
    rw [← h, hcomment]
    rfl
  · constructor
    · intro h
      obtain ⟨hfirst, hrest⟩ := Shape.code.inj h
      generalize hcode : Text.trim (withoutComment (Text.trim (spaced line))) = code at hfirst hrest
      have htrim : Text.trim code = code := by
        rw [← hcode]
        rcases Text.trim_eq_nil_or_isTrimmed (withoutComment (Text.trim (spaced line))) with
          hnil | htrimmed
        · rw [hnil, Text.trim_nil]
        · exact htrimmed.trim
      rw [← htrim, ← List.takeWhile_append_dropWhile (p := (· ≠ ' ')) (l := code),
        Text.trim_append_blanks (Text.trim_eq_nil_iff.mp hrest), hfirst, hword.isTrimmed.trim]
    · intro h
      obtain ⟨hfirst, hrest⟩ := takeWhile_space_of_isWord hword
      simp only [h, hfirst, hrest, Text.trim_nil]

/-! ### Rule by rule -/

/-- The numbers of the lines that open a block. -/
def openingLines (lines : List Chars) : List Nat :=
  lines.findIdxs fun line => (opening? line).isSome

/-- The first lines of the rules after one more line: one more if the line opens a rule. -/
theorem map_head?_lines_readLine {lines : List Chars} {d : Draft} (h : d.ReadFrom lines)
    (line : Chars) : (d.readLine line).rules.map (·.lines.head?) =
      d.rules.map (·.lines.head?) ++
        ([line].findIdxs (fun l => (opening? l).isSome) d.nextLine).map some := by
  cases d.step line with
  | quiet hopening _ hrules _ =>
    rw [hrules, List.findIdxs_singleton, hopening]
    exact (List.append_nil _).symm
  | opening v hopening _ hrules _ =>
    rw [hrules, List.findIdxs_singleton, hopening, List.map_append]
    rfl
  | growing rule rule' hopening _ hopen hgrows hrules _ =>
    have hmem : rule ∈ d.rules := by
      rw [Draft.rules_of_current hopen]
      exact List.mem_append_right _ List.mem_cons_self
    obtain ⟨first, -, hfirst, -, -⟩ := (h.rules rule hmem).opening
    have hhead : rule'.lines.head? = rule.lines.head? := by
      rw [hgrows.lines_eq, List.head?_append, hfirst, Option.some_or]
    rw [hrules, List.findIdxs_singleton, hopening, Draft.rules_of_current hopen, List.map_append,
      List.map_append, List.map_singleton, List.map_singleton, hhead]
    exact (List.append_nil _).symm

/-- **The rules of a run are opened by its opening lines**, in order. -/
theorem map_head?_lines_readAll (lines : List Chars) :
    (Draft.readAll {} lines).rules.map (·.lines.head?) = (openingLines lines).map some := by
  induction lines using List.reverseRecOn with
  | nil => rfl
  | append_singleton lines line ih =>
    rw [Draft.readAll_concat, map_head?_lines_readLine (Draft.readFrom_readAll lines), ih,
      openingLines, openingLines, List.findIdxs_append, List.map_append, Draft.nextLine_readAll,
      Nat.zero_add]

/-- **Which line opened a rule**: rule number `k` of a document was opened by its opening line
number `k`. -/
theorem getElem?_openingLines {text : Chars} {k : Nat} {rule : Rule}
    (h : (parse text).rules[k]? = some rule) :
    (openingLines (Text.lines text))[k]? = rule.lines.head? := by
  have hheads := congrArg (·[k]?) (map_head?_lines_readAll
    ((Text.lines text).take (parse text).lineKinds.length))
  simp only [← rules_parse, List.getElem?_map, h, Option.map_some] at hheads
  obtain ⟨n, hn, hhead⟩ := Option.map_eq_some_iff.mp hheads.symm
  rw [← hhead, ← hn, openingLines, openingLines]
  conv_lhs => rw [← List.take_append_drop (parse text).lineKinds.length (Text.lines text),
    List.findIdxs_append]
  exact List.getElem?_append_left (List.getElem?_eq_some_iff.mp hn).1

end LootLedger.Filter
