import LootLedger.Cli.Log
import LootLedger.Proofs.Category.Rules
import LootLedger.Proofs.Price.Monotone
import LootLedger.Proofs.Price.Precedence
import Mathlib.Order.Bounds.Basic

/-!
# The price of helmets

A helmet is listed twice over: for itself, and for each of its enchants. The listing of an enchant
counts in the place of that of the helmet, not on top of it, so a helmet is worth the best of them
all.

What it is listed as for itself depends on the rarity. Uniques and relics go by their names, all
others by their base types. No rarity is left over, since a helmet is known by its base type, and gear
has no other rarities. So a helmet always has a value, and there is never one that nothing is known
of.

## Main definitions

* `Item.IsHelmet`: the item is classified as a helmet
* `Item.HelmetBase`: the value of a helmet for itself
* `Item.IsHelmetValue`: the value of a helmet

## Main results

* `Item.HelmetBase.unique`: a helmet has one value for itself
* `Item.IsHelmet.worth?_eq`: the worth of a helmet
* `priceOf?_helmet_iff`: a helmet is worth the larger of its own value and the best enchant
-/

namespace LootLedger

/-- The values of some identifiers in a section. -/
def PriceTable.valuesOf (table : PriceTable ℚ) (place : MarketSection) (ids : List String) : Set ℚ :=
  {v | v ∈ ids.map (table.value place.key)}

namespace Item

/-- The item is classified as a helmet. -/
def IsHelmet (item : Item) : Prop :=
  item.classify?.map (·.category) = some .helmets

/-- The value of a helmet for itself. One with a name is listed under it. If that name leaves open
which of several helmets it is, half way between the least and the greatest value of these counts. The
others are listed under their base types, but only from level 82 up. -/
inductive HelmetBase (item : Item) (table : PriceTable ℚ) : ℚ → Prop
  | candidates {ids : List String} {least greatest : ℚ} (named : item.IsNamed)
      (ids_eq : item.candidateIds? = some ids)
      (isLeast : IsLeast (table.valuesOf .uniqueArmour ids) least)
      (isGreatest : IsGreatest (table.valuesOf .uniqueArmour ids) greatest) :
      HelmetBase item table ((least + greatest) / 2)
  | name (named : item.IsNamed) (ids_eq : item.candidateIds? = none) :
      HelmetBase item table (table.value MarketSection.uniqueArmour.key item.uniqueId)
  | baseType {id : String} (named : ¬ item.IsNamed) (le_level : 82 ≤ item.itemLevel.toNat)
      (id_eq : item.baseId? = some id) :
      HelmetBase item table (table.value MarketSection.baseType.key id)
  | low (named : ¬ item.IsNamed) (level_lt : item.itemLevel.toNat < 82) : HelmetBase item table 0

/-- The value of a helmet: the larger of its value for itself and of the greatest value of an enchant.
Without enchants the latter is nothing. -/
def IsHelmetValue (item : Item) (table : PriceTable ℚ) (v : ℚ) : Prop :=
  ∃ base enchant, item.HelmetBase table base ∧
    IsGreatest (insert 0 (table.valuesOf .helmetEnchant item.enchantMods)) enchant ∧
    v = max base enchant

variable {item : Item} {table : PriceTable ℚ}

/-! ### The values are determined -/

/-- **A helmet has one value for itself.** -/
theorem HelmetBase.unique {v w : ℚ} (hv : item.HelmetBase table v) (hw : item.HelmetBase table w) :
    v = w := by
  cases hv with
  | candidates named ids_eq isLeast isGreatest =>
    cases hw with
    | candidates _ ids_eq' isLeast' isGreatest' =>
      obtain rfl := Option.some.inj (ids_eq.symm.trans ids_eq')
      rw [isLeast.unique isLeast', isGreatest.unique isGreatest']
    | name _ ids_eq' => cases ids_eq.symm.trans ids_eq'
    | baseType named' => exact absurd named named'
    | low named' => exact absurd named named'
  | name named ids_eq =>
    cases hw with
    | candidates _ ids_eq' => cases ids_eq.symm.trans ids_eq'
    | name => rfl
    | baseType named' => exact absurd named named'
    | low named' => exact absurd named named'
  | baseType named le_level id_eq =>
    cases hw with
    | candidates named' => exact absurd named' named
    | name named' => exact absurd named' named
    | baseType _ _ id_eq' => rw [Option.some.inj (id_eq.symm.trans id_eq')]
    | low _ level_lt => exact absurd le_level (Nat.not_le.mpr level_lt)
  | low named level_lt =>
    cases hw with
    | candidates named' => exact absurd named' named
    | name named' => exact absurd named' named
    | baseType _ le_level => exact absurd le_level (Nat.not_le.mpr level_lt)
    | low => rfl

theorem IsHelmetValue.unique {v w : ℚ} (hv : item.IsHelmetValue table v)
    (hw : item.IsHelmetValue table w) : v = w := by
  obtain ⟨base, enchant, hbase, henchant, rfl⟩ := hv
  obtain ⟨base', enchant', hbase', henchant', rfl⟩ := hw
  rw [hbase.unique hbase', henchant.unique henchant']

/-! ### The worth of a helmet -/

/-- The worth of a helmet for itself. -/
def helmetWorth (item : Item) : Worth :=
  if item.IsNamed then
    match item.candidateIds? with
    | some ids => .midpoint .uniqueArmour ids
    | none => .listed .uniqueArmour item.uniqueId
  else item.baseWorth

theorem ofUnique?_of_helmets {c : Classification} (h : c.category = .helmets) :
    MarketSection.ofUnique? c = some .uniqueArmour := by
  simp [MarketSection.ofUnique?, Classification.isJewel, h, Category.jewels, Category.weapons,
    Category.armours]

theorem exaltedWorth_of_helmets {c : Classification} (h : c.category = .helmets)
    (hnamed : item.IsNamed) :
    item.exaltedWorth (some c) = .enchanted item.helmetWorth item.enchantMods := by
  have hmaps : c.category ≠ .maps := by
    rw [h]
    decide
  rw [exaltedWorth, if_neg hmaps, uniqueWorth?, ofUnique?_of_helmets h, helmetWorth, if_pos hnamed]
  exact if_pos h

/-- A helmet that rolls with the rarities of equipment is asked for no name of anything else. -/
theorem classifiedWorth?_of_helmets {c : Classification} (h : c.category = .helmets)
    (hclassic : item.rarity.isClassic = true) (hnamed : ¬ item.IsNamed) :
    item.classifiedWorth? c = .ok (.enchanted item.helmetWorth item.enchantMods) := by
  have hother : item.rarity ≠ .currency ∧ item.rarity ≠ .divinationCard ∧
      item.rarity ≠ .prophecy := by
    refine ⟨?_, ?_, ?_⟩ <;>
      · intro hr
        rw [hr] at hclassic
        cases hclassic
  simp [classifiedWorth?, h, hother, hclassic, Classification.isGem, Classification.isEquipment,
    Category.armours, withEnchants, helmetWorth, hnamed]

namespace IsHelmet

/-- A helmet has a rarity that equipment rolls with, or is a relic. -/
theorem rarity (h : item.IsHelmet) : item.rarity.isClassic = true ∨ item.rarity = .relic := by
  obtain ⟨c, hc, hcategory⟩ := Option.map_eq_some_iff.mp h
  exact rarity_of_not_isGoods hc (hcategory ▸ by decide)

/-- A helmet is neither a thing for a quest nor a beast. -/
theorem not_isWorthless (h : item.IsHelmet) : ¬ item.IsWorthless := by
  rintro (hquest | hbeast)
  · obtain hclassic | hrelic := h.rarity
    · rw [hquest] at hclassic
      cases hclassic
    · cases hquest.symm.trans hrelic
  · cases h.symm.trans hbeast

/-- **The worth of a helmet** always compares it with its enchants. -/
theorem worth?_eq (h : item.IsHelmet) (horb : item.typeLine ≠ priceUnit)
    (hwatch : item.typeLine ≠ "Ivory Watchstone") :
    item.worth? = .ok (.enchanted item.helmetWorth item.enchantMods) := by
  obtain ⟨c, hc, hcategory⟩ := Option.map_eq_some_iff.mp h
  by_cases hnamed : item.IsNamed
  · rw [worth?_of_isNamed h.not_isWorthless horb hnamed, hc,
      exaltedWorth_of_helmets hcategory hnamed]
  · have hclassic := h.rarity.resolve_right fun hrelic => hnamed (.inr hrelic)
    rw [worth?_eq_ordinaryWorth? h.not_isWorthless horb hnamed hwatch, hc]
    exact classifiedWorth?_of_helmets hcategory hclassic hnamed

end IsHelmet

/-! ### Its value -/

theorem candidateIds?_ne_nil {ids : List String} (h : item.candidateIds? = some ids) :
    ids ≠ [] := by
  have htable : ∀ entry ∈ PriceName.unidentifiedVariants, entry.2 ≠ [] := by decide
  rw [candidateIds?] at h
  split at h
  · cases h
  · exact htable _ (mem_of_lookup h)

/-- Half way between the least and the greatest of some values. -/
theorem exists_eval_midpoint (table : PriceTable ℚ) (place : MarketSection) {ids : List String}
    (h : ids ≠ []) :
    ∃ least greatest, IsLeast (table.valuesOf place ids) least ∧
      IsGreatest (table.valuesOf place ids) greatest ∧
      (Worth.midpoint place ids).eval table = (least + greatest) / 2 := by
  obtain ⟨id, ids, rfl⟩ := List.exists_cons_of_ne_nil h
  let values := ids.map (table.value place.key)
  have hleast : (table.value place.key id :: values).min? =
      some (values.foldl min (table.value place.key id)) := List.min?_cons'
  have hgreatest : (table.value place.key id :: values).max? =
      some (values.foldl max (table.value place.key id)) := List.max?_cons'
  exact ⟨_, _, List.min?_eq_some_iff.mp hleast, List.max?_eq_some_iff.mp hgreatest, rfl⟩

/-- The worth of a helmet for itself has the value that it should have. -/
theorem helmetBase_helmetWorth (item : Item) (table : PriceTable ℚ) :
    item.HelmetBase table (item.helmetWorth.eval table) := by
  rw [helmetWorth]
  split
  · next hnamed =>
    split
    · next ids hids =>
      obtain ⟨least, greatest, hleast, hgreatest, heval⟩ :=
        exists_eval_midpoint table .uniqueArmour (candidateIds?_ne_nil hids)
      rw [heval]
      exact .candidates hnamed hids hleast hgreatest
    · next hids => exact .name hnamed hids
  · next hnamed =>
    rw [baseWorth]
    by_cases hlevel : item.itemLevel.toNat < 82
    · have hid : item.baseId? = none := if_pos hlevel
      rw [hid]
      have hnothing : Worth.nothing.eval table = 0 := Nat.cast_zero
      rw [hnothing]
      exact .low hnamed hlevel
    · obtain ⟨id, hid⟩ : ∃ id, item.baseId? = some id := ⟨_, if_neg hlevel⟩
      rw [hid]
      exact .baseType hnamed (Nat.not_lt.mp hlevel) hid

theorem isHelmetValue_eval (item : Item) (table : PriceTable ℚ) :
    item.IsHelmetValue table
      ((Worth.enchanted item.helmetWorth item.enchantMods).eval table) := by
  let values := item.enchantMods.map (table.value MarketSection.helmetEnchant.key)
  have hgreatest : ((0 : ℚ) :: values).max? = some (values.foldl max 0) := List.max?_cons'
  have hset : insert 0 (table.valuesOf .helmetEnchant item.enchantMods) =
      {v | v ∈ (0 : ℚ) :: values} := by
    ext v
    simp [PriceTable.valuesOf, values]
  refine ⟨_, values.foldl max 0, helmetBase_helmetWorth item table, ?_, ?_⟩
  · rw [hset]
    exact List.max?_eq_some_iff.mp hgreatest
  · rw [Worth.eval]
    exact congrArg (fun zero => max _ (values.foldl max zero)) Nat.cast_zero

end Item

/-- **A helmet is worth the larger of its own value and the best enchant.** It has a value in every
table, and pricing it gives nothing to report: it is never left without a rule. -/
theorem priceOf?_helmet_iff (item : Item) (h : item.IsHelmet) (horb : item.typeLine ≠ "Chaos Orb")
    (hwatch : item.typeLine ≠ "Ivory Watchstone") :
    (∀ table : PriceTable ℚ, ∃ v, priceOf? table item = .ok v) ∧
      (∀ (table : PriceTable ℚ) (v : ℚ),
        priceOf? table item = .ok v ↔ item.IsHelmetValue table v) ∧
      Cli.Event.valued item = [] := by
  have hworth := h.worth?_eq horb hwatch
  have hprice (table : PriceTable ℚ) : priceOf? table item =
      .ok ((Worth.enchanted item.helmetWorth item.enchantMods).eval table) := by
    rw [priceOf?, hworth]
    rfl
  refine ⟨fun table => ⟨_, hprice table⟩, fun table v => ?_, ?_⟩
  · rw [hprice, Except.ok.injEq]
    constructor
    · rintro rfl
      exact item.isHelmetValue_eval table
    · exact (item.isHelmetValue_eval table).unique
  · obtain ⟨c, hc, -⟩ := Option.map_eq_some_iff.mp h
    simp [Cli.Event.valued, Cli.Event.classified, hc, hworth]

/-- A relic whose name leaves open which of three helmets it is, with two enchants. -/
theorem priceOf?_helmet_iff_relic :
    let item : Item := { name := "Volkuur's Guidance", typeLine := "Deicide Mask", rarity := .relic,
                         identified := false, enchantMods := ["Arc", "Cleave"] }
    let table : PriceTable ℚ :=
      { date := .epoch
        sections := [("UniqueArmour", [("Volkuur's Guidance (Cold)", 30)]),
                     ("HelmetEnchant", [("Cleave", 20)])] }
    item.IsHelmet ∧ item.typeLine ≠ "Chaos Orb" ∧ item.typeLine ≠ "Ivory Watchstone" ∧
      item.HelmetBase table 15 ∧ priceOf? table item = .ok 20 ∧ item.IsHelmetValue table 20 ∧
      Cli.Event.valued item = [] := by
  intro item table
  have hhelmet : item.classify?.map (·.category) = some .helmets := by decide +kernel
  have horb : item.typeLine ≠ "Chaos Orb" := by decide
  have hwatch : item.typeLine ≠ "Ivory Watchstone" := by decide
  have hvalue : priceOf? table item = .ok 20 := by decide +kernel
  have hbase : item.helmetWorth.eval table = 15 := by decide +kernel
  obtain ⟨-, hiff, hlog⟩ := priceOf?_helmet_iff item hhelmet horb hwatch
  exact ⟨hhelmet, horb, hwatch, hbase ▸ item.helmetBase_helmetWorth table, hvalue,
    (hiff table 20).mp hvalue, hlog⟩

end LootLedger
