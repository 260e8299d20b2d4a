import LootLedger.Category.Classify
import LootLedger.Proofs.Text.Marker
import LootLedger.Proofs.Text.Pieces
import Mathlib.Data.List.Find

/-!
# Quality words and categories

Quality words stand in front of a base type and do not change what the item is. Where an item reports
no base type its type line takes the place of one, and then classification meets the words in two
ways.

Most rules read the name without its quality words. They come off one at a time, and since none of
them begins another there is only one way to take them off. But some rules read the type line as it
is. Words in front of it hide a phrase that is looked for at the start, and bring one in that begins
with the space behind a word. There is one of each kind: the phrase for captured souls, and the one
for pieces, which is looked for with a space in front. A type line that begins with neither keeps its
category behind any quality words, and begins with neither again as soon as there is a word in front.

## Main definitions

* `Item.withTypeLine`: the item under another type line
* `BeginsPlain`: a type line that no word in front can change

## Main results

* `BaseName.withoutQuality_append`: a quality word comes off
* `BaseName.withoutQuality_withoutQuality`: and then there is none
* `Item.classify?_quality`: one quality word changes no category
* `Item.classify?_qualityWords`: nor do any number of them
-/

namespace LootLedger

open Text (Chars)

/-- The item under another type line. -/
def Item.withTypeLine (item : Item) (t : String) : Item :=
  { item with typeLine := t }

theorem Item.baseType_withTypeLine {item : Item} (h : item.givenBase = "") (t : String) :
    (item.withTypeLine t).baseType = t :=
  baseType_eq_typeLine h

/-- The text begins with neither of the phrases that tell souls and pieces. -/
structure BeginsPlain (t : String) : Prop where
  soul : Text.begins t "Captured Soul of " = false
  piece : Text.begins t "Piece of " = false

/-! ### Quality words -/

namespace BaseName

/-- No quality word is left in front. -/
theorem dropQuality?_withoutQualityChars (name : Chars) :
    dropQuality? (withoutQualityChars name) = none := by
  fun_induction withoutQualityChars name with
  | case1 _ _ _ ih => exact ih
  | case2 _ hnone => exact hnone

theorem withoutQualityChars_suffix (name : Chars) : withoutQualityChars name <:+ name := by
  fun_induction withoutQualityChars name with
  | case1 name rest hdrop ih =>
    obtain ⟨word, -, hrest⟩ := List.exists_of_findSome?_eq_some hdrop
    exact ih.trans ⟨word.toList, (Text.eq_append_of_dropPrefix? hrest).symm⟩
  | case2 => exact List.suffix_rfl

theorem withoutQuality_withoutQuality (name : String) :
    withoutQuality (withoutQuality name) = withoutQuality name := by
  have hnone := dropQuality?_withoutQualityChars name.toList
  rw [withoutQuality, withoutQuality, String.toList_ofList, withoutQualityChars]
  split
  · next hrest => rw [hrest] at hnone; cases hnone
  · rfl

section

variable {w : String} (hw : w ∈ qualityPrefixes)

include hw

/-- A quality word has no space in it and one behind it, and is not the word for maps. -/
theorem exists_toList_eq_concat :
    ∃ word : Chars, w.toList = word ++ [' '] ∧ ' ' ∉ word ∧ word ≠ "Map".toList := by
  have htable : ∀ w ∈ qualityPrefixes, w.toList = w.toList.dropLast ++ [' '] ∧
      ' ' ∉ w.toList.dropLast ∧ w.toList.dropLast ≠ "Map".toList := by
    decide +kernel
  exact ⟨w.toList.dropLast, htable w hw⟩

/-- The word at the start is the one that is dropped, as none begins another. -/
theorem dropQuality?_append (s : Chars) : dropQuality? (w.toList ++ s) = some s := by
  have htable : ∀ w ∈ qualityPrefixes, ∀ w' ∈ qualityPrefixes,
      w'.toList <+: w.toList → w' = w := by
    decide +kernel
  cases hdrop : dropQuality? (w.toList ++ s) with
  | none =>
    have hnone := List.findSome?_eq_none_iff.mp hdrop w hw
    rw [Text.dropPrefix?_append] at hnone
    cases hnone
  | some rest =>
    obtain ⟨w', hw', hrest⟩ := List.exists_of_findSome?_eq_some hdrop
    have heq := Text.eq_append_of_dropPrefix? hrest
    have hsame : w' = w := by
      obtain hle | hle := List.prefix_or_prefix_of_prefix ⟨rest, heq.symm⟩
        (List.prefix_append w.toList s)
      · exact htable w hw w' hw' hle
      · exact (htable w' hw' w hw hle).symm
    rw [hsame] at heq
    rw [List.append_cancel_left heq]

/-- **A quality word comes off.** -/
theorem withoutQuality_append (t : String) : withoutQuality (w ++ t) = withoutQuality t := by
  have hdrop : dropQuality? (w ++ t).toList = some t.toList := by
    rw [String.toList_append, dropQuality?_append hw]
  rw [withoutQuality, withoutQualityChars, withoutQuality]
  split
  · next hrest => rw [Option.some.inj (hdrop.symm.trans hrest)]
  · next hnone => rw [hnone] at hdrop; cases hdrop

theorem equipment?_append (t : String) : equipment? (w ++ t) = equipment? t := by
  rw [equipment?, withoutQuality_append hw, equipment?]

/-- Neither phrase begins in a quality word, so a text behind one begins with neither. -/
theorem beginsPlain_append (t : String) : BeginsPlain (w ++ t) := by
  have htable : ∀ w ∈ qualityPrefixes, w.toList ≠ [] ∧
      Text.Apart w.toList "Captured Soul of ".toList ∧
      Text.Apart w.toList "Piece of ".toList := by
    decide +kernel
  obtain ⟨hne, hsoul, hpiece⟩ := htable w hw
  exact ⟨hsoul.begins_append hne t, hpiece.begins_append hne t⟩

end

end BaseName

theorem BeginsPlain.qualityWords {t : String} (h : BeginsPlain t) {words : List String}
    (hwords : ∀ w ∈ words, w ∈ BaseName.qualityPrefixes) :
    BeginsPlain (words.foldr (· ++ ·) t) := by
  cases words with
  | nil => exact h
  | cons w words => exact BaseName.beginsPlain_append (hwords w List.mem_cons_self) _

/-! ### Rules that read the type line -/

namespace Classification

variable {w t : String} (hw : w ∈ BaseName.qualityPrefixes)

include hw

/-- No mark begins in a quality word. -/
theorem ofMarker?_append (t : String) : ofMarker? (w ++ t) = ofMarker? t := by
  have htable : ∀ w ∈ BaseName.qualityPrefixes, ∀ entry ∈ BaseName.typeMarkers,
      Text.Apart w.toList entry.1.toList := by
    decide +kernel
  have hfind : (BaseName.typeMarkers.find? fun entry => Text.contains (w ++ t) entry.1) =
      BaseName.typeMarkers.find? fun entry => Text.contains t entry.1 :=
    List.find?_congr fun entry hentry => (htable w hw entry hentry).contains_append t
  rw [ofMarker?, hfind, ofMarker?]

theorem ofRarity?_append (item : Item) (ht : BeginsPlain t) (base : String) :
    ofRarity? (item.withTypeLine (w ++ t)) base = ofRarity? (item.withTypeLine t) base := by
  have hsoul : Text.begins (w ++ t) "Captured Soul of " = Text.begins t "Captured Soul of " := by
    rw [(BaseName.beginsPlain_append hw t).soul, ht.soul]
  simp only [ofRarity?, Item.withTypeLine, hsoul]
  rfl

/-- The quality word is one more piece of the type line, and not the one that tells maps. -/
theorem contains_mapWord_append (t : String) :
    (Text.splitAtChar ' ' (w ++ t).toList).contains "Map".toList =
      (Text.splitAtChar ' ' t.toList).contains "Map".toList := by
  obtain ⟨word, hword, hspace, hmap⟩ := BaseName.exists_toList_eq_concat hw
  have hpieces : Text.splitAtChar ' ' (w ++ t).toList = word :: Text.splitAtChar ' ' t.toList := by
    rw [String.toList_append, hword, List.append_assoc, List.singleton_append,
      Text.splitAtChar_append_cons, Text.splitAtChar_of_notMem hspace, List.singleton_append]
  rw [hpieces, List.contains_cons, beq_false_of_ne hmap.symm, Bool.false_or]

/-- The phrase for pieces begins with a space, so it may begin at the end of a quality word. Then the
rest of it is at the start of what follows. -/
theorem contains_piece_append (ht : BeginsPlain t) :
    Text.contains (w ++ t) " Piece of " = Text.contains t " Piece of " := by
  obtain ⟨word, hword, hspace, -⟩ := BaseName.exists_toList_eq_concat hw
  have hphrase : " Piece of ".toList = ' ' :: "Piece of ".toList := by decide
  have hstart : ¬ ' ' :: "Piece of ".toList <+: ' ' :: t.toList := by
    rw [List.cons_prefix_cons]
    exact fun h => Text.begins_eq_false_iff.mp ht.piece h.2
  rw [Bool.eq_iff_iff, Text.contains_iff, Text.contains_iff, String.toList_append, hword,
    List.append_assoc, List.singleton_append, hphrase,
    (Text.apart_of_notMem hspace _).infix_append_iff, List.infix_cons_iff]
  exact or_iff_right hstart

/-- What is excluded: a word in front completes the phrase. -/
example : Text.contains "Superior Piece of Anger" " Piece of " = true ∧
    Text.contains "Piece of Anger" " Piece of " = false := by decide

theorem ofShape?_append (item : Item) (ht : BeginsPlain t) (base : String) :
    ofShape? (item.withTypeLine (w ++ t)) base = ofShape? (item.withTypeLine t) base := by
  simp only [ofShape?, Item.withTypeLine, contains_mapWord_append hw t,
    contains_piece_append hw ht]
  rfl

theorem ofEquipment?_append (item : Item) (t base : String) :
    ofEquipment? (item.withTypeLine (w ++ t)) base = ofEquipment? (item.withTypeLine t) base := by
  simp only [ofEquipment?, Item.withTypeLine, BaseName.equipment?_append hw t]

end Classification

/-! ### Items -/

namespace Item

/-- **One quality word** in front of the type line changes no category. -/
theorem classify?_quality {item : Item} {w t : String} (hbase : item.givenBase = "")
    (ht : BeginsPlain t) (hw : w ∈ BaseName.qualityPrefixes) :
    (item.withTypeLine (w ++ t)).classify? = (item.withTypeLine t).classify? := by
  have hmarker : Classification.ofMarker? (item.withTypeLine (w ++ t)).typeLine =
      Classification.ofMarker? (item.withTypeLine t).typeLine :=
    Classification.ofMarker?_append hw t
  rw [classify?, classify?, hmarker, baseType_withTypeLine hbase, baseType_withTypeLine hbase,
    BaseName.withoutQuality_append hw, Classification.ofRarity?_append hw item ht,
    Classification.ofShape?_append hw item ht, Classification.ofEquipment?_append hw item]

/-- **Quality words do not change what an item is.** This holds for any number of them in any order,
for items without a base type whose type line begins with neither of the two phrases that words in
front hide or complete. -/
theorem classify?_qualityWords {item : Item} {t : String} {words : List String}
    (hbase : item.givenBase = "") (ht : BeginsPlain t)
    (hwords : ∀ w ∈ words, w ∈ BaseName.qualityPrefixes) :
    (item.withTypeLine (words.foldr (· ++ ·) t)).classify? = (item.withTypeLine t).classify? := by
  induction words with
  | nil => rfl
  | cons w words ih =>
    rw [List.forall_mem_cons] at hwords
    rw [List.foldr_cons, classify?_quality hbase (ht.qualityWords hwords.2) hwords.1,
      ih hwords.2]

/-- A ring between affixes. -/
theorem classify?_qualityWords_ring :
    let item : Item := { rarity := .magic }
    let t := "Glinting Two-Stone Ring of the Lynx"
    let words := ["Synthesised ", "Superior ", "Superior "]
    item.givenBase = "" ∧ BeginsPlain t ∧ (∀ w ∈ words, w ∈ BaseName.qualityPrefixes) ∧
      (item.withTypeLine (words.foldr (· ++ ·) t)).classify? =
        (item.withTypeLine t).classify? := by
  intro item t words
  have ht : BeginsPlain t := ⟨by decide, by decide⟩
  have hwords : ∀ w ∈ words, w ∈ BaseName.qualityPrefixes := by decide
  exact ⟨rfl, ht, hwords, classify?_qualityWords rfl ht hwords⟩

end Item

end LootLedger
