import LootLedger.Proofs.Category.Map
import LootLedger.Proofs.Price.Precedence

/-!
# Which items cannot be valued

What an item is worth is decided by a chain of questions, and one link of it can fail: a map is
listed under its series, and the series is read off its icon. The questions before that one catch
all that is valued otherwise. What is left are maps that are no uniques, do not go by the name of
something else, and have an icon in which no known series shows.

The lemmas follow the chain from its last part to the whole. Each says exactly when its part fails
and with what, so the next one need not look into it.

## Main definitions

* `Item.IsUnknownMap`: a map that cannot be valued

## Main results

* `Item.worth?_eq_error_iff`: which items have no worth
* `priceOf?_fails_iff`: which items have no value, whatever the table
-/

namespace LootLedger

namespace Item

variable {item : Item} {e : UnknownMapSeries}

/-- No known series shows in the icon. -/
def HasUnknownSeries (item : Item) : Prop :=
  ∀ entry ∈ PriceName.mapSeries, ¬ entry.1.toList <:+: item.icon.toList

/-- A map that cannot be valued: it has a rarity that equipment rolls with but is no unique, its type
line is not the name of anything else, and no known series shows in its icon. -/
structure IsUnknownMap (item : Item) : Prop where
  isMap : item.IsMap
  rarity : item.rarity = .normal ∨ item.rarity = .magic ∨ item.rarity = .rare
  ne_orb : item.typeLine ≠ "Chaos Orb"
  ne_watchstone : item.typeLine ≠ "Ivory Watchstone"
  series : item.HasUnknownSeries

/-! ### The chain -/

theorem mapId?_eq_none_iff : item.mapId? = none ↔ item.HasUnknownSeries := by
  simp only [mapId?, seriesOfIcon?, Option.map_eq_none_iff, List.find?_eq_none, Text.contains,
    Text.hasInfix_iff, HasUnknownSeries]

theorem classifiedWorth?_eq_error_iff {c : Classification} :
    item.classifiedWorth? c = .error e ↔
      c.category = .maps ∧ item.rarity ≠ .currency ∧ item.HasUnknownSeries ∧ e = ⟨item.icon⟩ := by
  rw [← mapId?_eq_none_iff]
  by_cases hmaps : c.category = .maps
  · by_cases hcurrency : item.rarity = .currency
    · simp [classifiedWorth?, hmaps, hcurrency]
    · cases hid : item.mapId? with
      | some id => simp [classifiedWorth?, hmaps, hcurrency, hid]
      | none => simp [classifiedWorth?, hmaps, hcurrency, hid, eq_comm]
  · -- Only the branch of maps can fail.
    simp only [classifiedWorth?, hmaps, if_false, false_and, iff_false]
    intro h
    repeat' split at h
    all_goals cases h

theorem ordinaryWorth?_eq_error_iff {c : Option Classification} :
    item.ordinaryWorth? c = .error e ↔
      c.map (·.category) = some .maps ∧ item.rarity ≠ .currency ∧ item.HasUnknownSeries ∧
        e = ⟨item.icon⟩ := by
  cases c with
  | none => simp [ordinaryWorth?]
  | some c => simp [ordinaryWorth?, classifiedWorth?_eq_error_iff]

/-- A map of an ordinary rarity is none of what is worth nothing, and has no name of its own. -/
theorem IsUnknownMap.asked (h : item.IsUnknownMap) : ¬ item.IsWorthless ∧ ¬ item.IsNamed := by
  have hrarity : item.rarity ≠ .quest ∧ item.rarity ≠ .unique ∧ item.rarity ≠ .relic := by
    obtain h | h | h := h.rarity <;> rw [h] <;> decide
  refine ⟨?_, fun hnamed => hnamed.elim hrarity.2.1 hrarity.2.2⟩
  rintro (hquest | hbeast)
  · exact hrarity.1 hquest
  · cases h.isMap.symm.trans hbeast

/-- **Which items have no worth.** The answers that come before the last question never fail. -/
theorem worth?_eq_error_iff : item.worth? = .error e ↔ item.IsUnknownMap ∧ e = ⟨item.icon⟩ := by
  constructor
  · intro h
    have hless : ¬ item.IsWorthless := fun hless => by cases worth?_of_isWorthless hless ▸ h
    have horb : item.typeLine ≠ priceUnit := fun horb => by cases worth?_of_isUnit hless horb ▸ h
    have hnamed : ¬ item.IsNamed := fun hnamed => by
      cases worth?_of_isNamed hless horb hnamed ▸ h
    have hwatch : item.typeLine ≠ "Ivory Watchstone" := fun hwatch => by
      cases worth?_of_watchstone hless hnamed hwatch ▸ h
    rw [worth?_eq_ordinaryWorth? hless horb hnamed hwatch, ordinaryWorth?_eq_error_iff] at h
    obtain ⟨hmaps, -, hseries, he⟩ := h
    have hrarity : item.rarity = .normal ∨ item.rarity = .magic ∨ item.rarity = .rare := by
      have hmap := IsMap.rarity hmaps
      obtain ⟨hunique, hrelic⟩ := not_or.mp hnamed
      revert hunique hrelic hmap
      cases item.rarity <;> simp [Rarity.isClassic, Rarity.frame]
    exact ⟨⟨hmaps, hrarity, horb, hwatch, hseries⟩, he⟩
  · rintro ⟨hunknown, he⟩
    have hcurrency : item.rarity ≠ .currency := by
      obtain h | h | h := hunknown.rarity <;> rw [h] <;> decide
    obtain ⟨hless, hnamed⟩ := hunknown.asked
    rw [worth?_eq_ordinaryWorth? hless hunknown.ne_orb hnamed hunknown.ne_watchstone,
      ordinaryWorth?_eq_error_iff]
    exact ⟨hunknown.isMap, hcurrency, hunknown.series, he⟩

end Item

/-! ### Values -/

theorem priceOf?_eq_error_iff [Money V] {table : PriceTable V} {item : Item}
    {e : UnknownMapSeries} :
    priceOf? table item = .error e ↔ item.IsUnknownMap ∧ e = ⟨item.icon⟩ := by
  rw [← Item.worth?_eq_error_iff, priceOf?]
  cases item.worth? <;> simp [Except.map]

/-- **Which items have no value.** An item has no value in a table exactly if it is a map of an
unknown series, and the failure names its icon. So a table has no say in it, and no gem, currency,
card, quest item, prophecy, unique or relic fails. -/
theorem priceOf?_fails_iff [Money V] (item : Item) :
    (∀ (table : PriceTable V) (e : UnknownMapSeries),
      priceOf? table item = .error e ↔ item.IsUnknownMap ∧ e = ⟨item.icon⟩) ∧
    (∀ (table table' : PriceTable V) (e : UnknownMapSeries),
      priceOf? table item = .error e ↔ priceOf? table' item = .error e) ∧
    ¬ (item.rarity ∈ [.gem, .currency, .divinationCard, .quest, .prophecy, .unique, .relic] ∧
      ∃ (table : PriceTable V) (e : UnknownMapSeries), priceOf? table item = .error e) := by
  refine ⟨fun _ _ => priceOf?_eq_error_iff,
    fun _ _ _ => priceOf?_eq_error_iff.trans priceOf?_eq_error_iff.symm, ?_⟩
  rintro ⟨hrarity, table, e, h⟩
  obtain ⟨hunknown, -⟩ := priceOf?_eq_error_iff.mp h
  obtain hr | hr | hr := hunknown.rarity <;> simp [hr] at hrarity

end LootLedger
