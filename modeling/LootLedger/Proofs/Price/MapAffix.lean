import LootLedger.Price.Identifier
import LootLedger.Proofs.Category.MapName
import LootLedger.Proofs.Text.Pieces

/-!
# Magic maps without their affixes

The type line of a magic map has affix words in front of the base name and the text of a suffix
behind it. The base name is found in two ways. One that is listed is searched for in the whole line,
and of several that are contained the longest is taken. If there is none, the line is cut behind the
first word for maps, and affix words are dropped from its front.

Both ways find the same place in the line, since the word for maps is in it only once: at the end of
the name.

## Main definitions

* `Item.upToMap`, `Item.dropAffixes`: the two cuts
* `MapName.IsUnlisted`: a name of a map that is in no table

## Main results

* `Item.IsAffixed.unaffixedMap_of_mem`, `Item.IsAffixed.unaffixedMap_of_isUnlisted`: the two ways
* `Item.mapBase_of_isAffixed`: a magic map is listed under its base name
-/

namespace LootLedger

open Text (Chars)

namespace MapName

/-- A name for a map that is in no table: a place and the word for maps, which is not in the place.
It does not begin with an affix word, and no listed name is in it. -/
structure IsUnlisted (name : String) : Prop where
  place : ∃ place, name = place ++ " Map" ∧ Text.contains place "Map" = false
  firstWord : firstWord name.toList ∉ affixTexts
  unlisted : ∀ b ∈ bases, Text.contains name b = false

/-- A name by which a map can go: one that is listed, or one that is in no table. -/
def IsBaseName (name : String) : Prop :=
  name ∈ bases ∨ IsUnlisted name

theorem IsBaseName.exists_isPlace {name : String} (h : IsBaseName name) :
    ∃ place, IsPlace place name.toList := by
  obtain h | h := h
  · exact ⟨_, isPlace_placeOf h⟩
  · obtain ⟨place, rfl, hplain⟩ := h.place
    exact ⟨place.toList, by rw [String.toList_append, toList_mapEnd],
      Text.contains_eq_false_iff.mp hplain⟩

theorem IsBaseName.firstWord_notMem {name : String} (h : IsBaseName name) :
    MapName.firstWord name.toList ∉ affixTexts := by
  obtain h | h := h
  · exact fun hmem => (bases_table name h).2.1 (mem_frontWords_of_mem_affixTexts hmem)
  · exact h.firstWord

end MapName

namespace Item

/-! ### The cuts -/

/-- The text up to the first word for maps, or all of it. -/
def upToMap (s : Chars) : Chars :=
  match Text.splitOnce? " Map".toList s with
  | some (before, _) => before ++ " Map".toList
  | none => s

/-- The text without affix words in front. -/
def dropAffixes (s : Chars) : Chars :=
  Text.joinWith ' ' (dropAffixWords (Text.splitAtChar ' ' s))

theorem withoutMapAffixes_eq (typeLine : String) :
    withoutMapAffixes typeLine = String.ofList (dropAffixes (upToMap typeLine.toList)) := rfl

theorem upToMap_append {s : Chars} (h : ¬ MapName.mapWord <:+: s) (t : Chars) :
    upToMap (s ++ (' ' :: MapName.mapWord ++ t)) = s ++ ' ' :: MapName.mapWord := by
  have hs : ¬ ' ' :: MapName.mapWord <:+: s :=
    fun hle => h ((List.suffix_cons ' ' MapName.mapWord).isInfix.trans hle)
  rw [upToMap, MapName.toList_mapEnd, Text.splitOnce?_append (by decide) hs]

theorem dropAffixWords_of_mem {w : Chars} (h : w ∈ MapName.affixTexts) (l : Chars)
    (ls : List Chars) : dropAffixWords (w :: l :: ls) = dropAffixWords (l :: ls) :=
  if_pos (List.contains_iff_mem.mpr h)

theorem dropAffixWords_of_notMem {w : Chars} (h : w ∉ MapName.affixTexts) (ls : List Chars) :
    dropAffixWords (w :: ls) = w :: ls := by
  cases ls with
  | nil => rfl
  | cons l ls => exact if_neg fun hmem => h (List.contains_iff_mem.mp hmem)

/-- An affix word and the space behind it are dropped. -/
theorem dropAffixes_append {w : Chars} (hw : w ∈ MapName.affixTexts) (s : Chars) :
    dropAffixes (w ++ ' ' :: s) = dropAffixes s := by
  have hspace : ' ' ∉ w :=
    (MapName.isFrontWord_of_mem (MapName.mem_frontWords_of_mem_affixTexts hw)).space
  obtain ⟨l, ls, hl⟩ := List.exists_cons_of_ne_nil (@Text.splitAtChar_ne_nil ' ' s)
  rw [dropAffixes, Text.splitAtChar_append_cons, Text.splitAtChar_of_notMem hspace,
    List.singleton_append, hl, dropAffixWords_of_mem hw, ← hl, dropAffixes]

theorem dropAffixes_inFront {words : List Chars} (h : ∀ w ∈ words, w ∈ MapName.affixTexts)
    (s : Chars) : dropAffixes (Text.inFront words s) = dropAffixes s := by
  induction words with
  | nil => rfl
  | cons w words ih =>
    rw [List.forall_mem_cons] at h
    rw [Text.inFront_cons, dropAffixes_append h.1, ih h.2]

/-- A text that begins with another word stays. -/
theorem dropAffixes_eq_self {s : Chars} (h : MapName.firstWord s ∉ MapName.affixTexts) :
    dropAffixes s = s := by
  obtain ⟨ls, hls⟩ : ∃ ls, Text.splitAtChar ' ' s = MapName.firstWord s :: ls :=
    Text.exists_splitAtChar_eq_cons s
  rw [dropAffixes, hls, dropAffixWords_of_notMem h, ← hls, Text.joinWith_splitAtChar]

/-! ### The two ways -/

/-- The listed names that a type line contains. -/
def listedIn (typeLine : String) : List String :=
  MapName.bases.filter (Text.contains typeLine)

theorem mem_listedIn {typeLine b : String} :
    b ∈ listedIn typeLine ↔ b ∈ MapName.bases ∧ b.toList <:+: typeLine.toList := by
  rw [listedIn, List.mem_filter, Text.contains_iff]

theorem unaffixedMap_eq {item : Item} (h : item.givenBase = "") :
    item.unaffixedMap = (lastGreatest String.utf8ByteSize (listedIn item.typeLine)).getD
      (withoutMapAffixes item.typeLine) := by
  simp [unaffixedMap, listedIn, h]

/-- An identified magic map without a base type. Its type line has affix words in front of a name,
with single spaces between them, and behind the name a text without the word for maps. -/
structure IsAffixed (item : Item) (words : List String) (name behind : String) : Prop where
  rarity : item.rarity = .magic
  identified : item.identified = true
  givenBase : item.givenBase = ""
  typeLine : item.typeLine = " ".intercalate (words ++ [name]) ++ behind
  words : ∀ w ∈ words, w ∈ MapName.affixWords
  behind : Text.contains behind "Map" = false

namespace IsAffixed

variable {item : Item} {words : List String} {name behind : String}

theorem toList_typeLine (h : item.IsAffixed words name behind) :
    item.typeLine.toList =
      Text.inFront (words.map String.toList) (name.toList ++ behind.toList) := by
  rw [h.typeLine, String.toList_append, Text.toList_intercalate_concat, Text.inFront_append]

theorem mem_affixTexts (h : item.IsAffixed words name behind) :
    ∀ w ∈ words.map String.toList, w ∈ MapName.affixTexts := by
  intro text htext
  obtain ⟨w, hw, rfl⟩ := List.mem_map.mp htext
  exact List.mem_map_of_mem (h.words w hw)

/-- The listed names in the type line are those with which the name in it ends. -/
theorem mem_listedIn_iff (h : item.IsAffixed words name behind) {place : Chars}
    (hplace : MapName.IsPlace place name.toList) {b : String} :
    b ∈ listedIn item.typeLine ↔ b ∈ MapName.bases ∧ b.toList <:+ name.toList := by
  rw [mem_listedIn, h.toList_typeLine]
  refine and_congr_right fun hb => MapName.infix_inFront_iff_suffix ?_ hplace ?_ hb
  · exact fun w hw => MapName.mem_frontWords_of_mem_affixTexts (h.mem_affixTexts w hw)
  · exact Text.contains_eq_false_iff.mp h.behind

/-- **A listed name** is the longest one in the type line. -/
theorem unaffixedMap_of_mem (h : item.IsAffixed words name behind) (hname : name ∈ MapName.bases) :
    item.unaffixedMap = name := by
  have hlisted {b : String} := h.mem_listedIn_iff (MapName.isPlace_placeOf hname) (b := b)
  have hgreatest : lastGreatest String.utf8ByteSize (listedIn item.typeLine) = some name := by
    refine lastGreatest_eq_some (hlisted.mpr ⟨hname, List.suffix_rfl⟩) fun b hb => ?_
    by_cases hne : b = name
    · exact .inl hne
    · exact .inr (Text.utf8ByteSize_lt_of_infix (hlisted.mp hb).2.isInfix hne)
  rw [unaffixedMap_eq h.givenBase, hgreatest, Option.getD_some]

/-- **A name in no table** is what is left when both ends are cut off. -/
theorem unaffixedMap_of_isUnlisted (h : item.IsAffixed words name behind)
    (hname : MapName.IsUnlisted name) : item.unaffixedMap = name := by
  obtain ⟨place, hplace⟩ := MapName.IsBaseName.exists_isPlace (.inr hname)
  have hnone : listedIn item.typeLine = [] := by
    refine List.eq_nil_iff_forall_not_mem.mpr fun b hb => ?_
    obtain ⟨hbase, hsuffix⟩ := (h.mem_listedIn_iff hplace).mp hb
    exact Text.contains_eq_false_iff.mp (hname.unlisted b hbase) hsuffix.isInfix
  have hcut : upToMap item.typeLine.toList =
      Text.inFront (words.map String.toList) name.toList := by
    have hplain : ¬ MapName.mapWord <:+: Text.inFront (words.map String.toList) place := by
      rw [Text.infix_inFront_iff fun w hw =>
        MapName.apart_mapWord (MapName.mem_frontWords_of_mem_affixTexts (h.mem_affixTexts w hw))]
      exact hplace.plain
    rw [h.toList_typeLine, hplace.eq, List.append_assoc, Text.inFront_append,
      upToMap_append hplain, Text.inFront_append]
  rw [unaffixedMap_eq h.givenBase, hnone, lastGreatest, Option.getD_none, withoutMapAffixes_eq,
    hcut, dropAffixes_inFront h.mem_affixTexts, dropAffixes_eq_self hname.firstWord,
    String.ofList_toList]

theorem unaffixedMap_eq_name (h : item.IsAffixed words name behind)
    (hname : MapName.IsBaseName name) : item.unaffixedMap = name := by
  obtain hname | hname := hname
  · exact h.unaffixedMap_of_mem hname
  · exact h.unaffixedMap_of_isUnlisted hname

end IsAffixed

/-! ### The mark of blighted maps -/

theorem dropFront_eq_self {front name : String} (h : ¬ front.toList <+: name.toList) :
    dropFront front name = name := by
  rw [dropFront, Text.dropPrefix?_eq_none_iff.mpr h]

/-- A name with or without the mark of blighted maps, as the map is blighted or not. -/
def blightedName (blighted : Bool) (name : String) : String :=
  if blighted then blightedMark ++ name else name

/-- The base name of a map before the mark of blighted maps is seen to. -/
def unmarkedBase (item : Item) : String :=
  if item.rarity = .magic && item.identified then item.unaffixedMap else item.baseType

theorem mapBase_eq (item : Item) :
    item.mapBase = blightedName item.blightedMap (dropFront blightedMark item.unmarkedBase) := rfl

theorem unmarkedBase_of_magic {item : Item} (hrarity : item.rarity = .magic)
    (hidentified : item.identified = true) : item.unmarkedBase = item.unaffixedMap := by
  simp [unmarkedBase, hrarity, hidentified]

theorem unmarkedBase_of_not_magic {item : Item}
    (h : ¬ (item.rarity = .magic ∧ item.identified = true)) :
    item.unmarkedBase = item.baseType := by
  rw [unmarkedBase, if_neg]
  simpa using h

/-- The mark is an affix word, so a base name does not begin with it. -/
theorem dropFront_blightedMark {name : String} (h : MapName.IsBaseName name) :
    dropFront blightedMark name = name := by
  refine dropFront_eq_self ?_
  rintro ⟨s, hs⟩
  have hmark : blightedMark.toList = "Blighted".toList ++ [' '] := by decide
  refine h.firstWord_notMem ?_
  rw [← hs, hmark, List.append_assoc, List.singleton_append, MapName.firstWord_append (by decide)]
  exact List.mem_map_of_mem (by decide)

/-! ### Magic maps -/

/-- A map of normal rarity that goes by a name, with the icon, the tier and the blight of an item. -/
structure IsPlainMap (plain : Item) (name : String) (item : Item) : Prop where
  rarity : plain.rarity = .normal
  givenBase : plain.givenBase = ""
  typeLine : plain.typeLine = name
  icon : plain.icon = item.icon
  mapTier : plain.mapTier = item.mapTier
  blightedMap : plain.blightedMap = item.blightedMap

theorem IsPlainMap.mapBase_eq {plain item : Item} {name : String}
    (h : plain.IsPlainMap name item) (hname : MapName.IsBaseName name) :
    plain.mapBase = blightedName item.blightedMap name := by
  have hbase : plain.unmarkedBase = name := by
    rw [unmarkedBase_of_not_magic (by simp [h.rarity]), baseType_eq_typeLine h.givenBase,
      h.typeLine]
  rw [Item.mapBase_eq, hbase, dropFront_blightedMark hname, h.blightedMap]

/-- **Magic maps are listed without their affixes.** However many affix words stand in front of the
name of an identified magic map, and whatever text without the word for maps stands behind it, the
base name is that name, with the mark of blighted maps if it is one. So the map is listed like one of
normal rarity that goes by the name. -/
theorem mapBase_of_isAffixed {item plain : Item} {words : List String} {name behind : String}
    (h : item.IsAffixed words name behind) (hname : MapName.IsBaseName name)
    (hplain : plain.IsPlainMap name item) :
    item.mapBase = (if item.blightedMap then "Blighted " ++ name else name) ∧
      item.mapId? = plain.mapId? := by
  have hbase : item.mapBase = blightedName item.blightedMap name := by
    rw [mapBase_eq, unmarkedBase_of_magic h.rarity h.identified, h.unaffixedMap_eq_name hname,
      dropFront_blightedMark hname]
  refine ⟨hbase, ?_⟩
  rw [mapId?, mapId?, hbase, hplain.mapBase_eq hname, hplain.icon, hplain.mapTier]

/-- A blighted map that is in no table, with two words in front and a suffix. -/
theorem mapBase_of_isAffixed_tangle :
    let item : Item := { typeLine := "Twinned Blighted Vile Tangle Map of Toughness",
                         rarity := .magic, icon := "mn=5", mapTier := 10, blightedMap := true }
    let plain : Item := { typeLine := "Vile Tangle Map", icon := "mn=5", mapTier := 10,
                          blightedMap := true, corrupted := true }
    item.IsAffixed ["Twinned", "Blighted"] "Vile Tangle Map" " of Toughness" ∧
      MapName.IsBaseName "Vile Tangle Map" ∧ plain.IsPlainMap "Vile Tangle Map" item ∧
      item.mapBase = "Blighted Vile Tangle Map" ∧ item.mapId? = plain.mapId? := by
  intro item plain
  have h : item.IsAffixed ["Twinned", "Blighted"] "Vile Tangle Map" " of Toughness" :=
    ⟨rfl, rfl, rfl, by decide, by decide, by decide⟩
  have hname : MapName.IsBaseName "Vile Tangle Map" :=
    .inr ⟨⟨"Vile Tangle", by decide, by decide⟩, by decide, by decide +kernel⟩
  have hplain : plain.IsPlainMap "Vile Tangle Map" item := ⟨rfl, rfl, rfl, rfl, rfl, rfl⟩
  obtain ⟨hbase, hid⟩ := mapBase_of_isAffixed h hname hplain
  exact ⟨h, hname, hplain, hbase, hid⟩

end Item

end LootLedger
