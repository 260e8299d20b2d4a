import LootLedger.Category.MapName
import LootLedger.Proofs.Text.Marker
import Mathlib.Data.List.TakeWhile

/-!
# Base names of maps in type lines

A type line has words in front of the base name and a text behind it. Neither may make a listed base
name be found that is not in the name itself, and a longer name that ends with a shorter one must not
come about by a word in front.

Behind the name nothing begins: every listed name ends with the word for maps, so in a text with that
word at one place it ends there. In front nothing begins either. Names begin with a capital, and
words have theirs at the start only, so a name that reached into a word would begin with the whole
word; and no listed name has such a word for its first.

## Main definitions

* `MapName.firstWord`: what stands before the first space
* `MapName.IsPlace`: the place that a map is named for
* `MapName.frontWords`: the affix words and the word for quality

## Main results

* `MapName.apart_base`, `MapName.apart_mapWord`: words in front of listed names
* `MapName.infix_inFront_iff_suffix`: which listed names a type line contains
-/

namespace LootLedger.MapName

open Text (Chars)

/-! ### Names and words -/

/-- The text up to the first space. -/
def firstWord (name : Chars) : Chars :=
  name.takeWhile (· ≠ ' ')

theorem firstWord_append {w : Chars} (h : ' ' ∉ w) (s : Chars) : firstWord (w ++ ' ' :: s) = w := by
  rw [firstWord, List.takeWhile_append_of_pos]
  · simp
  · intro c hc
    refine decide_eq_true ?_
    rintro rfl
    exact h hc

/-- The word for maps. -/
def mapWord : Chars :=
  ['M', 'a', 'p']

theorem toList_mapEnd : " Map".toList = ' ' :: mapWord := by decide

/-- The name of a map says the place, and then that it is a map. The place does not say it. -/
structure IsPlace (place name : Chars) : Prop where
  eq : name = place ++ ' ' :: mapWord
  plain : ¬ mapWord <:+: place

theorem IsPlace.mapWord_infix_name {place name : Chars} (h : IsPlace place name) :
    mapWord <:+: name :=
  ⟨place ++ [' '], [], by simp [h.eq]⟩

/-- The affix words as texts. -/
def affixTexts : List Chars :=
  affixWords.map String.toList

/-- The words that stand in front of names: those of affixes, and the one for quality. -/
def frontWords : List Chars :=
  "Superior".toList :: affixTexts

theorem mem_frontWords_of_mem_affixTexts {w : Chars} (h : w ∈ affixTexts) : w ∈ frontWords :=
  List.mem_cons_of_mem _ h

/-- A word in front of names has a capital at most at its start, no space in it, and does not begin
with the word for maps. -/
structure IsFrontWord (w : Chars) : Prop where
  space : ' ' ∉ w
  small : ∀ c ∈ w.tail, c.isUpper = false
  plain : ¬ mapWord <+: w

theorem isFrontWord_of_mem {w : Chars} (h : w ∈ frontWords) : IsFrontWord w := by
  have htable : ∀ w ∈ frontWords,
      ' ' ∉ w ∧ w.tail.any Char.isUpper = false ∧ ¬ mapWord <+: w := by
    decide +kernel
  obtain ⟨hspace, hsmall, hplain⟩ := htable w h
  exact ⟨hspace, fun c hc => Bool.eq_false_iff.mpr (List.any_eq_false.mp hsmall c hc), hplain⟩

/-- What comes before the word for maps in a listed name. -/
def placeOf (name : Chars) : Chars :=
  name.take (name.length - (mapWord.length + 1))

/-- Listed names begin with a capital, and with no word that stands in front of names; and they say
only at the end that they are maps. -/
theorem bases_table : ∀ b ∈ bases, b.toList.head?.any Char.isUpper = true ∧
    firstWord b.toList ∉ frontWords ∧ b.toList = placeOf b.toList ++ ' ' :: mapWord ∧
      ¬ mapWord <:+: placeOf b.toList := by
  decide +kernel

theorem isPlace_placeOf {b : String} (h : b ∈ bases) : IsPlace (placeOf b.toList) b.toList :=
  ⟨(bases_table b h).2.2.1, (bases_table b h).2.2.2⟩

/-! ### Words in front -/

/-- A name that begins with a capital does not begin inside a word. -/
theorem IsFrontWord.apart {w name : Chars} (h : IsFrontWord w) {d : Char} (hd : d ∈ name.head?)
    (hupper : d.isUpper = true) (hfront : ¬ w ++ [' '] <+: name)
    (hname : ¬ name <+: w ++ [' ']) : Text.Apart (w ++ [' ']) name := by
  obtain ⟨name, rfl⟩ := List.head?_eq_some_iff.mp hd
  have hspace : d ≠ ' ' := by
    rintro rfl
    cases hupper
  cases w with
  | nil => exact Text.apart_cons List.not_mem_nil hfront hname
  | cons c w =>
    refine Text.apart_cons ?_ hfront hname
    intro hmem
    obtain hmem | hmem := List.mem_append.mp hmem
    · rw [h.small d hmem] at hupper
      cases hupper
    · exact hspace (List.mem_singleton.mp hmem)

/-- The word for maps is in no word in front. -/
theorem apart_mapWord {w : Chars} (h : w ∈ frontWords) : Text.Apart (w ++ [' ']) mapWord := by
  have hword := isFrontWord_of_mem h
  have hspace : ' ' ∉ mapWord := by decide
  have hmem : ' ' ∈ w ++ [' '] := List.mem_append_right w (List.mem_singleton_self ' ')
  refine hword.apart (d := 'M') rfl rfl (fun hle => hspace (hle.mem hmem)) fun hle => ?_
  obtain heq | hle := List.prefix_concat_iff.mp hle
  · exact hspace (heq ▸ hmem)
  · exact hword.plain hle

/-- **No listed name** begins in a word in front. -/
theorem apart_base {w : Chars} (h : w ∈ frontWords) {b : String} (hb : b ∈ bases) :
    Text.Apart (w ++ [' ']) b.toList := by
  have hword := isFrontWord_of_mem h
  obtain ⟨hcapital, hfirst, -⟩ := bases_table b hb
  obtain ⟨d, hd, hupper⟩ := (Option.any_eq_true _ _).mp hcapital
  refine hword.apart hd hupper ?_ ?_
  · rintro ⟨s, hs⟩
    rw [List.append_assoc, List.singleton_append] at hs
    rw [← hs, firstWord_append hword.space] at hfirst
    exact hfirst h
  · intro hle
    have hmap : mapWord <:+: w ++ [' '] := (isPlace_placeOf hb).mapWord_infix_name.trans hle.isInfix
    rw [← List.append_nil (w ++ [' ']), (apart_mapWord h).infix_append_iff] at hmap
    exact absurd (List.infix_nil.mp hmap) (by decide)

/-! ### Listed names in a type line -/

/-- **Which listed names a type line contains:** those with which the name in it ends. -/
theorem infix_inFront_iff_suffix {words : List Chars} (hwords : ∀ w ∈ words, w ∈ frontWords)
    {place name behind : Chars} (hname : IsPlace place name) (hbehind : ¬ mapWord <:+: behind)
    {b : String} (hb : b ∈ bases) :
    b.toList <:+: Text.inFront words (name ++ behind) ↔ b.toList <:+ name := by
  rw [Text.infix_inFront_iff fun w hw => apart_base (hwords w hw) hb]
  constructor
  · intro h
    have hspaced {s : Chars} (hs : ¬ mapWord <:+: s) : ¬ ' ' :: mapWord <:+: s :=
      fun hle => hs ((List.suffix_cons ' ' mapWord).isInfix.trans hle)
    rw [(isPlace_placeOf hb).eq, hname.eq] at h ⊢
    rw [List.append_assoc] at h
    exact List.suffix_append_self_iff.mpr <| Text.suffix_of_append_marker_infix (by decide)
      (hspaced hname.plain) (hspaced hbehind) h
  · intro h
    exact h.isInfix.trans (List.prefix_append name behind).isInfix

end LootLedger.MapName
