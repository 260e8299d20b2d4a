import LootLedger.Price.Identifier
import LootLedger.Proofs.Text.Ending

/-!
# Identifiers tell goods apart

An identifier is put together from parts with spaces between them, and nothing is escaped. The base
name in it is any text, so it may look like the parts that follow: a map may be called by a name, a
tier and a series. What is told apart is therefore told apart from the end.

At the end of the identifier of a map is its series, which is one of a few names. Some of them have
spaces, but none ends with a space and another one. In front of it is the tier behind the letter of
tiers, which is not a digit. At the end of the identifier of a base type is the mark of an
influence, which has no digits, or no mark. In front of it is the level behind a space. The base name
is what remains.

## Main definitions

* `Item.pricedInfluence?`: the influence that counts for the price of a base type

## Main results

* `PriceName.append_series_inj`: the series at the end of a text
* `Item.mapIdOf_inj`, `Item.baseIdOf_inj`: identifiers from their parts
* `Item.ids_eq_iff`: which items share an identifier
-/

namespace LootLedger

open Text (Chars)

/-! ### Series at the end -/

namespace PriceName

/-- The names of series. -/
def seriesNames : List String :=
  mapSeries.map (·.2)

theorem mem_seriesNames_of_seriesOfIcon? {icon series : String}
    (h : Item.seriesOfIcon? icon = some series) : series ∈ seriesNames := by
  obtain ⟨entry, hentry, rfl⟩ := Option.map_eq_some_iff.mp h
  exact List.mem_map_of_mem (List.mem_of_find?_eq_some hentry)

/-- No name of a series ends with a space and another one. -/
theorem not_suffix_of_mem_seriesNames : ∀ series ∈ seriesNames, ∀ series' ∈ seriesNames,
    ¬ ' ' :: series.toList <:+ series'.toList := by
  decide +kernel

/-- **The series at the end of a text** can be told. -/
theorem append_series_inj {s t : Chars} {series series' : String} (h : series ∈ seriesNames)
    (h' : series' ∈ seriesNames) :
    s ++ ' ' :: series.toList = t ++ ' ' :: series'.toList ↔ s = t ∧ series = series' := by
  rw [Text.append_cons_inj_of_not_suffix (not_suffix_of_mem_seriesNames series' h' series h)
    (not_suffix_of_mem_seriesNames series h series' h'), String.toList_inj]

end PriceName

namespace Item

/-! ### Maps -/

/-- The identifier of a map from its parts. -/
def mapIdOf (base : String) (tier : UInt32) (series : String) : String :=
  base ++ " T" ++ numeral tier.toNat ++ " " ++ series

theorem mapId?_eq_some_iff {item : Item} {id : String} :
    item.mapId? = some id ↔
      ∃ series, seriesOfIcon? item.icon = some series ∧
        mapIdOf item.mapBase item.mapTier series = id :=
  Option.map_eq_some_iff

theorem toList_mapIdOf (base : String) (tier : UInt32) (series : String) :
    (mapIdOf base tier series).toList =
      (base.toList ++ [' ']) ++ 'T' :: Text.digits tier.toNat ++ ' ' :: series.toList := by
  simp [mapIdOf, numeral]

/-- **The identifier of a map** shows its base name, its tier and its series. -/
theorem mapIdOf_inj {base base' : String} {tier tier' : UInt32} {series series' : String}
    (h : series ∈ PriceName.seriesNames) (h' : series' ∈ PriceName.seriesNames) :
    mapIdOf base tier series = mapIdOf base' tier' series' ↔
      base = base' ∧ tier = tier' ∧ series = series' := by
  rw [← String.toList_inj, toList_mapIdOf, toList_mapIdOf, PriceName.append_series_inj h h',
    Text.append_cons_digits_inj (by decide), List.append_cancel_right_eq, String.toList_inj,
    UInt32.toNat_inj, and_assoc]

/-! ### Base types -/

/-- The influence that counts for the price of a base type. -/
def pricedInfluence? (item : Item) : Option Influence :=
  if item.influenced .shaper then some .shaper
  else if item.influenced .elder then some .elder
  else none

/-- The mark of an influence, or no mark. -/
def markOf : Option Influence → String
  | some i => " " ++ i.name
  | none => ""

theorem influenceMark_eq (item : Item) : item.influenceMark = markOf item.pricedInfluence? := by
  rw [influenceMark, pricedInfluence?]
  split
  · rfl
  · split <;> rfl

theorem markOf_inj {i j : Option Influence} : markOf i = markOf j ↔ i = j := by
  have hall : ∀ i ∈ none :: Influence.all.map some, ∀ j ∈ none :: Influence.all.map some,
      markOf i = markOf j → i = j := by
    decide
  have hmem (i : Option Influence) : i ∈ none :: Influence.all.map some := by
    cases i with
    | none => exact List.mem_cons_self
    | some i => exact List.mem_cons_of_mem _ (List.mem_map_of_mem i.mem_all)
  exact ⟨hall i (hmem i) j (hmem j), congrArg markOf⟩

theorem isDigit_of_mem_markOf (i : Option Influence) :
    ∀ c ∈ (markOf i).toList, Text.isDigit c = false := by
  have hall : (markOf i).toList.all (fun c => !Text.isDigit c) = true := by
    cases i with
    | none => rfl
    | some i => cases i <;> decide
  intro c hc
  simpa using List.all_eq_true.mp hall c hc

/-- The identifier of a base type from its parts. -/
def baseIdOf (base : String) (level : Nat) (influence : Option Influence) : String :=
  base ++ " " ++ numeral level ++ markOf influence

theorem baseId?_of_le {item : Item} (h : PriceName.minBaseLevel ≤ item.itemLevel.toNat) :
    item.baseId? = some (baseIdOf item.equipmentBase
      (min item.itemLevel.toNat PriceName.maxBaseLevel) item.pricedInfluence?) := by
  rw [baseId?, if_neg (Nat.not_lt.mpr h), influenceMark_eq, baseIdOf]

theorem toList_baseIdOf (base : String) (level : Nat) (influence : Option Influence) :
    (baseIdOf base level influence).toList =
      (base.toList ++ ' ' :: Text.digits level) ++ (markOf influence).toList := by
  simp [baseIdOf, numeral]

/-- **The identifier of a base type** shows its name, the level and the influence. -/
theorem baseIdOf_inj {base base' : String} {level level' : Nat}
    {influence influence' : Option Influence} :
    baseIdOf base level influence = baseIdOf base' level' influence' ↔
      base = base' ∧ level = level' ∧ influence = influence' := by
  rw [← String.toList_inj, toList_baseIdOf, toList_baseIdOf,
    Text.append_inj_of_getLast? (Text.isDigit_of_mem_getLast? _ _ _)
      (Text.isDigit_of_mem_getLast? _ _ _) (isDigit_of_mem_markOf _) (isDigit_of_mem_markOf _),
    Text.append_cons_digits_inj (by decide), String.toList_inj, String.toList_inj, markOf_inj,
    and_assoc]

/-! ### Items -/

/-- **Which items share an identifier.** Two maps that have an identifier have the same one if and
only if their base names, their tiers and their series are the same. Two items from level 82 up have
identifiers as base types, and these are the same if and only if their base names without words for
quality, their levels up to 86 and the influences that count are. Base names can be any texts. -/
theorem ids_eq_iff (item item' : Item) :
    (∀ id id', item.mapId? = some id → item'.mapId? = some id' →
      (id = id' ↔ item.mapBase = item'.mapBase ∧ item.mapTier = item'.mapTier ∧
        seriesOfIcon? item.icon = seriesOfIcon? item'.icon)) ∧
    (82 ≤ item.itemLevel.toNat → 82 ≤ item'.itemLevel.toNat →
      ∃ id id', item.baseId? = some id ∧ item'.baseId? = some id' ∧
        (id = id' ↔ item.equipmentBase = item'.equipmentBase ∧
          min item.itemLevel.toNat 86 = min item'.itemLevel.toNat 86 ∧
          item.pricedInfluence? = item'.pricedInfluence?)) := by
  constructor
  · intro id id' hid hid'
    obtain ⟨series, hseries, rfl⟩ := mapId?_eq_some_iff.mp hid
    obtain ⟨series', hseries', rfl⟩ := mapId?_eq_some_iff.mp hid'
    rw [mapIdOf_inj (PriceName.mem_seriesNames_of_seriesOfIcon? hseries)
      (PriceName.mem_seriesNames_of_seriesOfIcon? hseries'), hseries, hseries', Option.some.injEq]
  · intro h h'
    exact ⟨_, _, baseId?_of_le h, baseId?_of_le h', baseIdOf_inj⟩

/-- A map whose name looks like the identifier of another map, and two rings above the highest level
that is told apart, of which one has more influences than count. -/
theorem ids_eq_iff_lookalike :
    let map : Item := { typeLine := "Pit Map T3 Legion", icon := "mn=5", mapTier := 1 }
    let map' : Item := { typeLine := "Pit Map", icon := "mn=4", mapTier := 3 }
    let ring : Item := { typeLine := "Opal Ring", itemLevel := 100, influenced := (· = .elder) }
    let ring' : Item := { typeLine := "Opal Ring", itemLevel := 86, influenced := (· ≠ .shaper) }
    (∃ id id', map.mapId? = some id ∧ map'.mapId? = some id' ∧ id ≠ id') ∧
      82 ≤ ring.itemLevel.toNat ∧ 82 ≤ ring'.itemLevel.toNat ∧ ring.baseId? = ring'.baseId? := by
  intro map map' ring ring'
  have hid : map.mapId? = some (mapIdOf map.mapBase 1 "Blight") :=
    mapId?_eq_some_iff.mpr ⟨"Blight", by decide, rfl⟩
  have hid' : map'.mapId? = some (mapIdOf map'.mapBase 3 "Legion") :=
    mapId?_eq_some_iff.mpr ⟨"Legion", by decide, rfl⟩
  have hbase : map.mapBase ≠ map'.mapBase := by decide
  have hring : 82 ≤ ring.itemLevel.toNat := by decide
  have hring' : 82 ≤ ring'.itemLevel.toNat := by decide
  have hmaps := (ids_eq_iff map map').1 _ _ hid hid'
  obtain ⟨id, id', hsome, hsome', hrings⟩ := (ids_eq_iff ring ring').2 hring hring'
  have heq : id = id' := hrings.mpr ⟨rfl, by decide, by decide⟩
  exact ⟨⟨_, _, hid, hid', fun h => hbase (hmaps.mp h).1⟩, hring, hring', by
    rw [hsome, hsome', heq]⟩

end Item

end LootLedger
