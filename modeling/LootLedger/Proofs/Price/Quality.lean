import LootLedger.Proofs.Category.Quality
import LootLedger.Proofs.Price.MapAffix

/-!
# The word for quality in type lines

An item of quality has a word for it in front of its type line. A price table does not list quality
words, so identifiers should not have them either. Each builder sees to that in its own way. The one
for gems takes the word off if it is there, and the one for equipment takes off quality words until
none is left.

The one for maps takes none off. The word does no harm if the base name is searched for in the type
line, since no listed name begins in it. In all other cases it stays in the identifier: the name is
then the type line, or what is left of it behind affix words, and the word for quality is no affix
word, so it even keeps affix words behind it from being dropped.

## Main definitions

* `Item.QualityIsNeutral`: the word for quality in front of a type line changes no identifier

## Main results

* `Item.gemId_quality`, `Item.baseId?_quality`: gems and base types
* `Item.mapId?_quality_iff`: maps
* `Item.qualityIsNeutral_iff`: when the word makes no difference at all
-/

namespace LootLedger

open Text (Chars)

/-- The word for quality in front of a type line. -/
def qualityMark : String :=
  "Superior "

theorem toList_qualityMark : qualityMark.toList = "Superior".toList ++ [' '] := by decide

theorem toList_quality_append (t : String) :
    (qualityMark ++ t).toList = "Superior".toList ++ ' ' :: t.toList := by
  rw [String.toList_append, toList_qualityMark, List.append_assoc, List.singleton_append]

namespace Item

variable {item : Item} {t : String}

/-! ### Gems and base types -/

theorem dropFront_append (front name : String) : dropFront front (front ++ name) = name := by
  rw [dropFront, String.toList_append, Text.dropPrefix?_append]
  exact String.ofList_toList

/-- **Gems** are listed without the word. -/
theorem gemId_quality (hbase : item.givenBase = "") (ht : Text.begins t qualityMark = false) :
    (item.withTypeLine (qualityMark ++ t)).gemId = (item.withTypeLine t).gemId := by
  have hname : dropFront "Superior " (item.withTypeLine (qualityMark ++ t)).baseType =
      dropFront "Superior " (item.withTypeLine t).baseType := by
    rw [baseType_withTypeLine hbase, baseType_withTypeLine hbase, ← qualityMark,
      dropFront_append, dropFront_eq_self (Text.begins_eq_false_iff.mp ht)]
  rw [gemId, gemId, hname]
  rfl

/-- **Base types** are listed without the word. -/
theorem baseId?_quality (hbase : item.givenBase = "") :
    (item.withTypeLine (qualityMark ++ t)).baseId? = (item.withTypeLine t).baseId? := by
  have hname : (item.withTypeLine (qualityMark ++ t)).equipmentBase =
      (item.withTypeLine t).equipmentBase := by
    simp [equipmentBase, withTypeLine, hbase,
      BaseName.withoutQuality_append (w := qualityMark) List.mem_cons_self]
  rw [baseId?, baseId?, hname]
  rfl

/-! ### Maps whose name is searched for -/

/-- No listed name begins in the word for quality. -/
theorem listedIn_quality (t : String) : listedIn (qualityMark ++ t) = listedIn t := by
  refine List.filter_congr fun b hb => ?_
  have hapart := MapName.apart_base List.mem_cons_self hb
  rw [← toList_qualityMark] at hapart
  exact hapart.contains_append t

/-! ### Maps whose name is cut out -/

theorem joinWith_dropAffixWords_suffix (words : List Chars) :
    Text.joinWith ' ' (dropAffixWords words) <:+ Text.joinWith ' ' words := by
  fun_induction dropAffixWords words with
  | case1 w w' words _ ih =>
    exact ih.trans ((List.suffix_cons ' ' _).trans (List.suffix_append w _))
  | case2 => exact List.suffix_rfl
  | case3 => exact List.suffix_rfl

theorem length_dropAffixes_le (s : Chars) : (dropAffixes s).length ≤ s.length := by
  have h := (joinWith_dropAffixWords_suffix (Text.splitAtChar ' ' s)).length_le
  rwa [Text.joinWith_splitAtChar] at h

theorem upToMap_prefix_self (s : Chars) : upToMap s <+: s := by
  rw [upToMap]
  split
  · next before rest hsplit =>
    exact ⟨rest, (Text.eq_append_of_splitOnce? hsplit).symm⟩
  · exact List.prefix_rfl

theorem upToMap_ne_nil {s : Chars} (h : s ≠ []) : upToMap s ≠ [] := by
  rw [upToMap]
  split
  · exact List.append_ne_nil_of_right_ne_nil _ (by decide)
  · exact h

/-- The word for quality is no affix word, so nothing behind it is dropped. -/
theorem dropAffixes_quality (s : Chars) :
    dropAffixes ("Superior".toList ++ ' ' :: s) = "Superior".toList ++ ' ' :: s := by
  refine dropAffixes_eq_self ?_
  rw [MapName.firstWord_append (by decide)]
  decide +kernel

/-- Nor is anything dropped where the text itself begins with the word for maps. -/
theorem dropAffixes_upToMap_eq_self {s : Chars} (h : MapName.mapWord <+: s) :
    dropAffixes (upToMap s) = upToMap s := by
  refine dropAffixes_eq_self fun hmem => ?_
  have htable : ∀ w ∈ MapName.affixTexts, ¬ w <+: MapName.mapWord := by decide +kernel
  have hfirst : MapName.firstWord (upToMap s) <+: s :=
    (List.takeWhile_prefix _).trans (upToMap_prefix_self s)
  obtain hle | hle := List.prefix_or_prefix_of_prefix h hfirst
  · exact (MapName.isFrontWord_of_mem (MapName.mem_frontWords_of_mem_affixTexts hmem)).plain hle
  · exact htable _ hmem hle

/-- Where the word for maps does not follow at once, the first one is found behind the word for
quality. -/
theorem upToMap_quality {s : Chars} (h : ¬ MapName.mapWord <+: s) :
    upToMap ("Superior".toList ++ ' ' :: s) = "Superior".toList ++ ' ' :: upToMap s := by
  have hnone : Text.dropPrefix? (' ' :: MapName.mapWord) (' ' :: s) = none := by
    rw [Text.dropPrefix?_eq_none_iff, List.cons_prefix_cons]
    exact fun hle => h hle.2
  rw [upToMap, upToMap, MapName.toList_mapEnd, Text.splitOnce?_append_of_notMem (by decide),
    Text.splitOnce?, hnone]
  cases Text.splitOnce? (' ' :: MapName.mapWord) s with
  | none => rfl
  | some parts =>
    obtain ⟨before, rest⟩ := parts
    simp

theorem length_dropFront_le (front name : String) : (dropFront front name).length ≤ name.length := by
  rw [dropFront]
  split
  · next rest hdrop =>
    rw [String.length_ofList, ← String.length_toList, Text.eq_append_of_dropPrefix? hdrop,
      List.length_append]
    exact Nat.le_add_left _ _
  · exact Nat.le_refl _

/-- A text that begins with the word for maps is not cut before it. -/
theorem exists_upToMap_eq_cons {s : Chars} (h : MapName.mapWord <+: s) :
    ∃ rest, upToMap s = 'M' :: rest := by
  obtain ⟨t, rfl⟩ := h
  have hne : MapName.mapWord ++ t ≠ [] := List.append_ne_nil_of_left_ne_nil (by decide) t
  obtain ⟨c, rest, hrest⟩ := List.exists_cons_of_ne_nil (upToMap_ne_nil hne)
  have hle := upToMap_prefix_self (MapName.mapWord ++ t)
  rw [hrest, MapName.mapWord, List.cons_append, List.cons_prefix_cons] at hle
  exact ⟨rest, by rw [hrest, hle.1]⟩

theorem toList_superior : "Superior".toList = 'S' :: "uperior".toList := by decide

theorem not_prefix_of_ne {c d : Char} (h : c ≠ d) (s s' : Chars) : ¬ c :: s <+: d :: s' :=
  fun hle => h (List.cons_prefix_cons.mp hle).1

theorem not_blightedMark_prefix_quality (s : Chars) :
    ¬ blightedMark.toList <+: "Superior".toList ++ s := by
  rw [show blightedMark.toList = 'B' :: "lighted ".toList by decide, toList_superior,
    List.cons_append]
  exact not_prefix_of_ne (by decide) _ _

/-- **A name with the word for quality in front** is never the one without it: it is longer. -/
theorem dropFront_quality_ne {name name' : String} {s : Chars}
    (hname : name.toList = "Superior".toList ++ s) (hlt : name'.length < name.length) :
    dropFront blightedMark name ≠ dropFront blightedMark name' := by
  have hplain : ¬ blightedMark.toList <+: name.toList := hname ▸ not_blightedMark_prefix_quality s
  have hle := length_dropFront_le blightedMark name'
  rw [dropFront_eq_self hplain]
  intro heq
  rw [← heq] at hle
  omega

/-- **What is cut out** with the word for quality in front is never what is cut out without. -/
theorem dropFront_withoutMapAffixes_ne (t : String) :
    dropFront blightedMark (withoutMapAffixes (qualityMark ++ t)) ≠
      dropFront blightedMark (withoutMapAffixes t) := by
  rw [withoutMapAffixes_eq, withoutMapAffixes_eq, toList_quality_append]
  by_cases hmap : MapName.mapWord <+: t.toList
  · -- The cut is right behind both words, but in the text alone it may be anywhere. So the lengths
    -- say nothing, and the first letters do.
    obtain ⟨s, hs⟩ := exists_upToMap_eq_cons hmap
    rw [dropAffixes_upToMap_eq_self hmap, hs]
    obtain ⟨rest, hrest⟩ := hmap
    rw [← hrest, ← List.cons_append, upToMap_append (by decide), dropAffixes_quality,
      dropFront_eq_self (by rw [String.toList_ofList]; exact not_blightedMark_prefix_quality _),
      dropFront_eq_self (by rw [String.toList_ofList]; exact not_prefix_of_ne (by decide) _ _)]
    intro heq
    have hheads := congrArg (fun name => name.toList.head?) heq
    simp only [String.toList_ofList, toList_superior, List.cons_append, List.head?_cons] at hheads
    exact absurd hheads (by decide)
  · rw [upToMap_quality hmap, dropAffixes_quality]
    refine dropFront_quality_ne String.toList_ofList ?_
    have hle := length_dropAffixes_le (upToMap t.toList)
    rw [String.length_ofList, String.length_ofList, List.length_append, List.length_cons]
    omega

/-! ### Maps -/

theorem blightedName_inj {blighted : Bool} {name name' : String} :
    blightedName blighted name = blightedName blighted name' ↔ name = name' := by
  cases blighted with
  | false => exact Iff.rfl
  | true => exact String.append_right_inj blightedMark

/-- Maps that differ in the type line are listed alike if they have the same base name. -/
theorem mapId?_withTypeLine_iff (h : (seriesOfIcon? item.icon).isSome = true) (s t : String) :
    (item.withTypeLine s).mapId? = (item.withTypeLine t).mapId? ↔
      dropFront blightedMark (item.withTypeLine s).unmarkedBase =
        dropFront blightedMark (item.withTypeLine t).unmarkedBase := by
  obtain ⟨series, hseries⟩ := Option.isSome_iff_exists.mp h
  have hid (t : String) : (item.withTypeLine t).mapId? =
      some (blightedName item.blightedMap (dropFront blightedMark
        (item.withTypeLine t).unmarkedBase) ++ " T" ++ numeral item.mapTier.toNat ++ " " ++
          series) :=
    congrArg (Option.map _) hseries
  rw [hid, hid, Option.some.injEq]
  simp only [String.append_left_inj, blightedName_inj]

/-- What is searched for is found whether the word is there or not, and what is cut out never is. -/
theorem unaffixedMap_quality_iff (hbase : item.givenBase = "") :
    dropFront blightedMark (item.withTypeLine (qualityMark ++ t)).unaffixedMap =
        dropFront blightedMark (item.withTypeLine t).unaffixedMap ↔
      ∃ b ∈ MapName.bases, Text.contains t b = true := by
  have hsearch (t : String) : (item.withTypeLine t).unaffixedMap =
      (lastGreatest String.utf8ByteSize (listedIn t)).getD (withoutMapAffixes t) :=
    unaffixedMap_eq hbase
  rw [hsearch, hsearch, listedIn_quality]
  cases hfound : lastGreatest String.utf8ByteSize (listedIn t) with
  | none =>
    rw [lastGreatest_eq_none_iff, listedIn, List.filter_eq_nil_iff] at hfound
    rw [Option.getD_none, Option.getD_none]
    refine iff_of_false (dropFront_withoutMapAffixes_ne t) ?_
    rintro ⟨b, hb, hcontains⟩
    exact hfound b hb hcontains
  | some b =>
    have hb := List.mem_filter.mp (mem_of_lastGreatest hfound)
    exact iff_of_true rfl ⟨b, hb.1, hb.2⟩

/-- **When a map is listed without the word:** exactly if it is an identified magic map and the rest
of the type line has a listed name in it. -/
theorem mapId?_quality_iff (hbase : item.givenBase = "")
    (hseries : (seriesOfIcon? item.icon).isSome = true) :
    (item.withTypeLine (qualityMark ++ t)).mapId? = (item.withTypeLine t).mapId? ↔
      item.rarity = .magic ∧ item.identified = true ∧
        ∃ b ∈ MapName.bases, Text.contains t b = true := by
  rw [mapId?_withTypeLine_iff hseries, ← and_assoc]
  by_cases hmagic : item.rarity = .magic ∧ item.identified = true
  · have hcut (t : String) :
        (item.withTypeLine t).unmarkedBase = (item.withTypeLine t).unaffixedMap :=
      unmarkedBase_of_magic hmagic.1 hmagic.2
    rw [hcut, hcut, unaffixedMap_quality_iff hbase]
    exact (and_iff_right hmagic).symm
  · have hline (t : String) : (item.withTypeLine t).unmarkedBase = t := by
      have hbare : (item.withTypeLine t).unmarkedBase = (item.withTypeLine t).baseType :=
        unmarkedBase_of_not_magic hmagic
      rw [hbare, baseType_withTypeLine hbase]
    rw [hline, hline]
    refine iff_of_false (dropFront_quality_ne (toList_quality_append t) ?_) fun h => hmagic h.1
    rw [String.length_append]
    exact Nat.lt_add_of_pos_left (by decide)

/-! ### All identifiers -/

/-- The word for quality in front of a type line changes no identifier: not that of a gem, not that of
a base type, and not that of a map which is no unique and shows its series. -/
structure QualityIsNeutral (item : Item) (t : String) : Prop where
  gem : (item.withTypeLine (qualityMark ++ t)).gemId = (item.withTypeLine t).gemId
  base : (item.withTypeLine (qualityMark ++ t)).baseId? = (item.withTypeLine t).baseId?
  map : item.rarity ≠ .unique → (seriesOfIcon? item.icon).isSome = true →
    (item.withTypeLine (qualityMark ++ t)).mapId? = (item.withTypeLine t).mapId?

/-- **When quality makes no difference.** Without a base type, and with no quality word in front of
the rest of the type line, the word for quality never changes the identifier of a gem or a base type.
It leaves that of a map as it is exactly if the map is magic and identified and a listed name is in
the type line; in all other cases it stays in the name. -/
theorem qualityIsNeutral_iff (item : Item) {t : String} (hbase : item.givenBase = "")
    (ht : ∀ mark ∈ BaseName.qualityPrefixes, Text.begins t mark = false) :
    (item.withTypeLine (qualityMark ++ t)).gemId = (item.withTypeLine t).gemId ∧
      (item.withTypeLine (qualityMark ++ t)).baseId? = (item.withTypeLine t).baseId? ∧
      (QualityIsNeutral item t ↔
        (item.rarity ≠ .unique → (seriesOfIcon? item.icon).isSome = true →
          item.rarity = .magic ∧ item.identified = true ∧
            ∃ b ∈ MapName.bases, Text.contains t b = true)) := by
  have hgem := gemId_quality hbase (ht qualityMark (by decide))
  have hequipment := baseId?_quality (t := t) hbase
  refine ⟨hgem, hequipment, ?_⟩
  constructor
  · intro h hunique hseries
    exact (mapId?_quality_iff hbase hseries).mp (h.map hunique hseries)
  · intro h
    exact ⟨hgem, hequipment, fun hunique hseries =>
      (mapId?_quality_iff hbase hseries).mpr (h hunique hseries)⟩

/-- A magic map with a listed name between affixes. -/
theorem qualityIsNeutral_strand :
    let item : Item := { rarity := .magic, icon := "mn=5", mapTier := 3 }
    let t := "Fecund Strand Map of Exposure"
    item.givenBase = "" ∧ (∀ mark ∈ BaseName.qualityPrefixes, Text.begins t mark = false) ∧
      (item.withTypeLine (qualityMark ++ t)).gemId = (item.withTypeLine t).gemId ∧
      (item.withTypeLine (qualityMark ++ t)).baseId? = (item.withTypeLine t).baseId? ∧
      QualityIsNeutral item t := by
  intro item t
  have ht : ∀ mark ∈ BaseName.qualityPrefixes, Text.begins t mark = false := by decide
  obtain ⟨hgem, hequipment, hneutral⟩ := qualityIsNeutral_iff item rfl ht
  exact ⟨rfl, ht, hgem, hequipment,
    hneutral.mpr fun _ _ => ⟨rfl, rfl, "Strand Map", by decide, by decide⟩⟩

/-- **A plain map keeps the word**, and is not listed like the one without it. -/
theorem not_qualityIsNeutral_plain :
    let item : Item := { icon := "mn=5", mapTier := 3 }
    item.givenBase = "" ∧
      (∀ mark ∈ BaseName.qualityPrefixes, Text.begins "Strand Map" mark = false) ∧
      ¬ QualityIsNeutral item "Strand Map" := by
  intro item
  refine ⟨rfl, by decide, fun h => ?_⟩
  exact absurd (h.map (by decide) (by decide)) (by decide)

end Item

end LootLedger
