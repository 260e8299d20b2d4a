import LootLedger.Proofs.Filter.Refusal
import LootLedger.Proofs.Filter.Tokens
import LootLedger.Proofs.Text.EditDistance

/-!
# Unknown keywords and what is suggested for them

A line whose first word is no keyword is refused, and the refusal may name the keyword that was
meant. Which one is a matter of edits: the keyword that the fewest of them make of the word, the
first in the list if there are several, and none if it takes more than three. The word itself is
never suggested, since it would have to be a keyword.

A known keyword is never called unknown, whatever is wrong with its line: it is refused for its
arguments or for its place.

## Main definitions

* `Filter.IsCommentLine`: a line that is a comment from its first character on
* `Filter.IsNearestKeyword`: the first of the keywords nearest to a word

## Main results

* `Filter.isSome_suggestion?_iff`, `Filter.isNearestKeyword_of_suggestion?`: what is suggested
* `Filter.readStatement_suggestsNearest`: what is said of the first word of a line
-/

namespace LootLedger.Filter

open Text (Chars IsNear)

/-! ### The nearest keyword -/

/-- The keyword is the first of those nearest to the word: some number of edits makes it of the
word, but no keyword before it, and fewer edits make no keyword at all. -/
def IsNearestKeyword (word : Chars) (k : String) : Prop :=
  ∃ before after n, keywords = before ++ k :: after ∧ IsNear n word k.toList ∧
    (∀ k' ∈ before, ¬ IsNear n word k'.toList) ∧
    ∀ k' ∈ keywords, ∀ m < n, ¬ IsNear m word k'.toList

/-- The keyword that is considered is the first at the least distance. -/
theorem exists_suggestion?_eq (word : Chars) : ∃ before k after,
    keywords = before ++ k :: after ∧
    (∀ k' ∈ before, Text.editDistance word k.toList < Text.editDistance word k'.toList) ∧
    (∀ k' ∈ keywords, Text.editDistance word k.toList ≤ Text.editDistance word k'.toList) ∧
    suggestion? word = if 0 < Text.editDistance word k.toList ∧
      Text.editDistance word k.toList ≤ maxSuggestionDistance then some k else none := by
  unfold suggestion?
  cases hchosen : firstLeast (·.2) (keywords.map fun k => (k, Text.editDistance word k.toList)) with
  | none => exact absurd (firstLeast_eq_none_iff.mp hchosen) (by simp [keywords, blockKeywords])
  | some chosen =>
    obtain ⟨_, _, hsplit, hbefore, hafter⟩ := exists_of_firstLeast hchosen
    obtain ⟨before, _, hkeywords, rfl, hrest⟩ := List.map_eq_append_iff.mp hsplit
    obtain ⟨k, after, rfl, rfl, rfl⟩ := List.map_eq_cons_iff.mp hrest
    rw [List.forall_mem_map] at hbefore hafter
    refine ⟨before, k, after, hkeywords, hbefore, fun k' hk' => ?_, rfl⟩
    rw [hkeywords, List.mem_append, List.mem_cons] at hk'
    rcases hk' with hk' | rfl | hk'
    · exact (hbefore k' hk').le
    · exact le_rfl
    · exact Nat.not_lt.mp (hafter k' hk')

section

variable {word : Chars}

/-- **What is suggested** is the first of the nearest keywords. -/
theorem isNearestKeyword_of_suggestion? {k : String} (h : suggestion? word = some k) :
    IsNearestKeyword word k := by
  obtain ⟨before, k', after, hkeywords, hbefore, hleast, hsuggestion⟩ := exists_suggestion?_eq word
  rw [h] at hsuggestion
  split at hsuggestion
  · obtain rfl := Option.some.inj hsuggestion
    refine ⟨before, after, _, hkeywords, Text.isNear_iff.mpr le_rfl, fun k' hk' => ?_,
      fun k' hk' m hm => ?_⟩
    · rw [Text.isNear_iff]
      exact Nat.not_le.mpr (hbefore k' hk')
    · rw [Text.isNear_iff]
      exact Nat.not_le.mpr (hm.trans_le (hleast k' hk'))
  · cases hsuggestion

/-- **Something is suggested** for a word that is no keyword if three edits make one of it. -/
theorem isSome_suggestion?_iff (h : String.ofList word ∉ keywords) :
    (suggestion? word).isSome = true ↔ ∃ k ∈ keywords, IsNear 3 word k.toList := by
  obtain ⟨before, k, after, hkeywords, -, hleast, hsuggestion⟩ := exists_suggestion?_eq word
  have hk : k ∈ keywords := by rw [hkeywords]; exact List.mem_append_right _ List.mem_cons_self
  have hpos : 0 < Text.editDistance word k.toList := by
    refine Nat.pos_of_ne_zero fun hzero => h ?_
    rw [Text.editDistance_eq_zero_iff.mp hzero, String.ofList_toList]
    exact hk
  have hsome : (suggestion? word).isSome = true ↔ Text.editDistance word k.toList ≤ 3 := by
    rw [hsuggestion, maxSuggestionDistance]
    split
    · next hnear => exact iff_of_true rfl hnear.2
    · next hfar => exact iff_of_false nofun fun hnear => hfar ⟨hpos, hnear⟩
  rw [hsome]
  constructor
  · exact fun hnear => ⟨k, hk, Text.isNear_iff.mpr hnear⟩
  · rintro ⟨k', hk', hnear⟩
    exact (hleast k' hk').trans (Text.isNear_iff.mp hnear)

-- Two edits make either of these words of it, and showing comes first.
example : suggestion? "Hiow".toList = some Visibility.display.keyword := by decide +kernel

end

/-! ### Lines -/

/-- The line is a comment: its first character that is not blank is a number sign. -/
def IsCommentLine (line : Chars) : Prop :=
  (Text.trimLeft line).head? = some '#'

instance (line : Chars) : Decidable (IsCommentLine line) :=
  inferInstanceAs (Decidable (_ = _))

theorem trimLeft_spaced (line : Chars) :
    Text.trimLeft (spaced line) = spaced (Text.trimLeft line) := by
  have hblank : Text.isBlank ∘ (fun c => if Text.isBlank c then ' ' else c) = Text.isBlank := by
    funext c
    rw [Function.comp_apply]
    split
    · next hc => rw [hc]; decide
    · rfl
  rw [Text.trimLeft, spaced, List.dropWhile_map, hblank, ← spaced, ← Text.trimLeft]

theorem isCommentLine_of_shapeOf {line : Chars} (h : shapeOf line = .comment) :
    IsCommentLine line := by
  unfold shapeOf at h
  split at h
  · cases h
  · next hs =>
    have hhead := Text.head?_trimLeft_of_trim (congrArg List.head? hs)
    rw [trimLeft_spaced, spaced, List.head?_map] at hhead
    obtain ⟨c, hc, hsign⟩ := Option.map_eq_some_iff.mp hhead
    split at hsign
    · exact absurd hsign (by decide)
    · rw [IsCommentLine, hc, hsign]
  · cases h

/-- A line that is neither empty nor a comment has a first word. -/
theorem exists_shapeOf_eq_code {line : Chars} (hempty : ¬ IsEmptyLine line)
    (hcomment : ¬ IsCommentLine line) : ∃ word arguments, shapeOf line = .code word arguments ∧
      Text.words (codeOf line) = word :: Text.words arguments := by
  rcases shapeOf_cases line with ⟨-, hblank⟩ | ⟨-, ⟨hshape, -⟩ | ⟨word, arguments, hshape, hwords, -⟩⟩
  · exact absurd hblank hempty
  · exact absurd (isCommentLine_of_shapeOf hshape) hcomment
  · exact ⟨word, arguments, hshape, hwords⟩

/-- **What is said of the first word of a line.** If it is no keyword, the line is refused for it
and the nearest keyword is suggested, as long as three edits lead there. If it is one, the line is
never refused for that. -/
theorem readStatement_suggestsNearest (inBlock : Bool) {line : Chars} (hempty : ¬ IsEmptyLine line)
    (hcomment : ¬ IsCommentLine line) :
    ∃ word arguments, Text.words (codeOf line) = word :: arguments ∧
      (String.ofList word ∉ keywords → ∃ suggestion,
        readStatement inBlock line =
          .error (.unknownKeyword (String.ofList word) suggestion) ∧
        (suggestion.isSome = true ↔ ∃ k ∈ keywords, IsNear 3 word k.toList) ∧
        ∀ k ∈ suggestion, IsNearestKeyword word k) ∧
      (String.ofList word ∈ keywords → ∀ w suggestion,
        readStatement inBlock line ≠ .error (.unknownKeyword w suggestion)) := by
  obtain ⟨word, arguments, hshape, hwords⟩ := exists_shapeOf_eq_code hempty hcomment
  refine ⟨word, Text.words arguments, hwords, fun hunknown => ?_, fun hknown w suggestion h => ?_⟩
  · refine ⟨suggestion? word, ?_, isSome_suggestion?_iff hunknown,
      fun k hk => isNearestKeyword_of_suggestion? hk⟩
    rw [readStatement_of_shapeOf inBlock hshape, readCode_of_notMem_keywords hunknown]
  · rw [readStatement_of_shapeOf inBlock hshape] at h
    rcases refusedFor_readCode hknown inBlock arguments _ h with hp | ⟨-, hp | hp⟩ <;> cases hp

theorem readStatement_suggestsNearest_hiow :
    ¬ IsEmptyLine "\tHiow 5 # Show".toList ∧ ¬ IsCommentLine "\tHiow 5 # Show".toList ∧
      "Hiow" ∉ keywords ∧ ∃ suggestion,
        readStatement true "\tHiow 5 # Show".toList = .error (.unknownKeyword "Hiow" suggestion) ∧
        (suggestion.isSome = true ↔ ∃ k ∈ keywords, IsNear 3 "Hiow".toList k.toList) ∧
        ∀ k ∈ suggestion, IsNearestKeyword "Hiow".toList k := by
  have hempty : ¬ IsEmptyLine "\tHiow 5 # Show".toList := by decide
  have hcomment : ¬ IsCommentLine "\tHiow 5 # Show".toList := by decide
  have hunknown : "Hiow" ∉ keywords := by decide
  have hcode : Text.words (codeOf "\tHiow 5 # Show".toList) = ["Hiow".toList, "5".toList] := by
    decide
  obtain ⟨word, arguments, hwords, hsaid, -⟩ :=
    readStatement_suggestsNearest true hempty hcomment
  obtain ⟨rfl, -⟩ := List.cons.inj (hcode.symm.trans hwords)
  exact ⟨hempty, hcomment, hunknown, hsaid hunknown⟩

end LootLedger.Filter
