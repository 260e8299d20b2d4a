import LootLedger.Price.Worth

/-!
# What decides the worth of an item

The worth of an item is found by asking one thing after another, and the first that applies decides:
whether it can be worth anything, whether it is money, whether it goes by a name of its own, whether
it is a watchstone, and only then what its category says. An item can be several of these at once,
so the order matters. There is one lemma for each place at which the questions can end, so that no
statement on prices goes through the list of questions again.

## Main definitions

* `Item.IsWorthless`: the item is worth nothing, whatever it is called
* `Item.IsNamed`: the item goes by a name of its own

## Main results

* `Item.worth?_of_isWorthless`, `Item.worth?_of_isUnit`, `Item.worth?_of_isNamed`,
  `Item.worth?_of_watchstone`, `Item.worth?_eq_ordinaryWorth?`: the places at which the questions end
-/

namespace LootLedger.Item

variable {item : Item}

/-- The item belongs to a quest, or it is a captured beast. Neither is ever worth anything. -/
def IsWorthless (item : Item) : Prop :=
  item.rarity = .quest ∨ item.classify?.map (·.category) = some .capturedBeast

instance (item : Item) : Decidable item.IsWorthless :=
  inferInstanceAs (Decidable (_ ∨ _))

/-- Uniques and relics go by names of their own. -/
def IsNamed (item : Item) : Prop :=
  item.rarity = .unique ∨ item.rarity = .relic

instance (item : Item) : Decidable item.IsNamed :=
  inferInstanceAs (Decidable (_ ∨ _))

theorem isWorthless_iff :
    (item.rarity = .quest || item.classify?.map (·.category) = some .capturedBeast) = true ↔
      item.IsWorthless := by
  simp only [IsWorthless, Bool.or_eq_true, decide_eq_true_eq]

theorem isNamed_iff : (item.rarity = .unique || item.rarity = .relic) = true ↔ item.IsNamed := by
  simp only [IsNamed, Bool.or_eq_true, decide_eq_true_eq]

theorem worth?_of_isWorthless (h : item.IsWorthless) : item.worth? = .ok .nothing := by
  rw [worth?, worthAs?, if_pos (isWorthless_iff.mpr h)]

theorem worth?_of_isUnit (h : ¬ item.IsWorthless) (hunit : item.typeLine = priceUnit) :
    item.worth? = .ok (.units item.stackSize.toNat) := by
  rw [worth?, worthAs?, if_neg (mt isWorthless_iff.mp h), if_pos hunit]

theorem worth?_of_isNamed (h : ¬ item.IsWorthless) (hunit : item.typeLine ≠ priceUnit)
    (hnamed : item.IsNamed) : item.worth? = .ok (item.exaltedWorth item.classify?) := by
  rw [worth?, worthAs?, if_neg (mt isWorthless_iff.mp h), if_neg hunit,
    if_pos (isNamed_iff.mpr hnamed)]

theorem worth?_of_watchstone (h : ¬ item.IsWorthless) (hnamed : ¬ item.IsNamed)
    (hwatch : item.typeLine = "Ivory Watchstone") :
    item.worth? = .ok (.listed .watchstone item.watchstoneId) := by
  have hunit : item.typeLine ≠ priceUnit := by
    rw [hwatch]
    decide
  rw [worth?, worthAs?, if_neg (mt isWorthless_iff.mp h), if_neg hunit,
    if_neg (mt isNamed_iff.mp hnamed), if_pos hwatch]

/-- **What is left** is decided by the category. -/
theorem worth?_eq_ordinaryWorth? (h : ¬ item.IsWorthless) (hunit : item.typeLine ≠ priceUnit)
    (hnamed : ¬ item.IsNamed) (hwatch : item.typeLine ≠ "Ivory Watchstone") :
    item.worth? = item.ordinaryWorth? item.classify? := by
  rw [worth?, worthAs?, if_neg (mt isWorthless_iff.mp h), if_neg hunit,
    if_neg (mt isNamed_iff.mp hnamed), if_neg hwatch]

end LootLedger.Item
