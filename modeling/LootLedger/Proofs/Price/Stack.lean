import LootLedger.Proofs.Category.Rules
import LootLedger.Proofs.Price.Monotone
import LootLedger.Proofs.Price.Precedence

/-!
# The price of stacks

How many things lie on a stack is asked for by no question on the way to the worth of an item. The
number only appears in the worth itself, at one place or at none, and where it does it multiplies. So
stacks of one kind have the same worth but for that number, and it remains to say which kinds have it
in their worth: those that a snapshot lists one by one. These are fragments, incubators, seeds,
currency and cards, unless something else about them decides first.

## Main definitions

* `Worth.withCount`: the worth with another number of things
* `StackRule`: how a price changes with the number of things, `StackRule.Holds`
* `Item.stackRule`: the rule for an item

## Main results

* `Item.worth?_withStackSize`: stacks of one kind differ in the number only
* `Worth.Follows.holds`, `Item.follows_stackRule`: from the rule to the worth, and from it to prices
* `priceOf?_stack`: stacks multiply or do not count
-/

namespace LootLedger

/-! ### The number in a worth -/

/-- The worth with another number of things in it. -/
def Worth.withCount (n : Nat) : Worth → Worth
  | .units _ => .units n
  | .stack place id _ => .stack place id n
  | .nothing => .nothing
  | .unvalued => .unvalued
  | .listed place id => .listed place id
  | .midpoint place ids => .midpoint place ids
  | .enchanted base enchants => .enchanted base enchants

namespace Item

/-- So many of the item on a stack. -/
def withStackSize (item : Item) (n : UInt32) : Item :=
  { item with stackSize := n }

variable {item : Item} {c : Classification}

theorem withCount_baseWorth (item : Item) (n : Nat) :
    item.baseWorth.withCount n = item.baseWorth := by
  rw [baseWorth]
  split <;> rfl

/-- Equipment is not counted, be it a helmet or not. -/
theorem withCount_withEnchants_baseWorth (item : Item) (c : Classification) (n : Nat) :
    (item.withEnchants c item.baseWorth).withCount n = item.withEnchants c item.baseWorth := by
  rw [withEnchants]
  split
  · rfl
  · exact withCount_baseWorth item n

/-- Uniques and relics are not counted. -/
theorem withCount_exaltedWorth (item : Item) (c : Option Classification) (n : Nat) :
    (item.exaltedWorth c).withCount n = item.exaltedWorth c := by
  cases c with
  | none => rfl
  | some c =>
    rw [exaltedWorth]
    split
    · rfl
    rw [uniqueWorth?]
    cases MarketSection.ofUnique? c with
    | none => rfl
    | some place =>
      rw [Option.map_some]
      dsimp only
      rw [withEnchants]
      split
      · rfl
      · split <;> rfl

theorem classifiedWorth?_withStackSize (item : Item) (c : Classification) (n : UInt32) :
    (item.withStackSize n).classifiedWorth? c =
      (item.classifiedWorth? c).map (Worth.withCount n.toNat) := by
  rw [classifiedWorth?, classifiedWorth?]
  simp only [apply_ite (Except.map (Worth.withCount n.toNat))]
  -- No question asks for the number, so both lists of questions are gone through together.
  refine ite_congr rfl (fun _ => rfl) fun _ => ?_
  refine ite_congr rfl (fun _ => rfl) fun _ => ?_
  refine ite_congr rfl (fun _ => ?_) fun _ => ?_
  · have hmap : (item.withStackSize n).mapId? = item.mapId? := rfl
    rw [hmap]
    cases item.mapId? <;> rfl
  refine ite_congr rfl (fun _ => rfl) fun _ => ?_
  refine ite_congr rfl (fun _ => rfl) fun _ => ?_
  refine ite_congr rfl (fun _ => rfl) fun _ => ?_
  refine ite_congr rfl (fun _ => ?_) fun _ => ?_
  · exact congrArg _ (withCount_withEnchants_baseWorth item c n.toNat).symm
  exact ite_congr rfl (fun _ => rfl) fun _ => rfl

/-- **Stacks of one kind** differ in the number only. -/
theorem worth?_withStackSize (item : Item) (n : UInt32) :
    (item.withStackSize n).worth? = item.worth?.map (Worth.withCount n.toNat) := by
  by_cases hless : item.IsWorthless
  · have hless' : (item.withStackSize n).IsWorthless := hless
    rw [worth?_of_isWorthless hless, worth?_of_isWorthless hless']
    rfl
  have hless' : ¬ (item.withStackSize n).IsWorthless := hless
  by_cases hunit : item.typeLine = priceUnit
  · rw [worth?_of_isUnit hless hunit, worth?_of_isUnit hless' hunit]
    rfl
  by_cases hnamed : item.IsNamed
  · rw [worth?_of_isNamed hless hunit hnamed, worth?_of_isNamed hless' hunit hnamed]
    exact congrArg _ (withCount_exaltedWorth item item.classify? n.toNat).symm
  by_cases hwatch : item.typeLine = "Ivory Watchstone"
  · rw [worth?_of_watchstone hless hnamed hwatch, worth?_of_watchstone hless' hnamed hwatch]
    rfl
  have hclass : (item.withStackSize n).classify? = item.classify? := rfl
  rw [worth?_eq_ordinaryWorth? hless hunit hnamed hwatch,
    worth?_eq_ordinaryWorth? hless' hunit hnamed hwatch, hclass]
  cases item.classify? with
  | none => rfl
  | some c => exact classifiedWorth?_withStackSize item c n

end Item

/-! ### Rules -/

/-- How a price changes with the number of things. -/
inductive StackRule
  /-- Any number is worth nothing. -/
  | worthless
  /-- The number is the price. -/
  | units
  /-- Every one adds as much. -/
  | counted
  /-- All are worth as much as one. -/
  | single
  deriving DecidableEq

/-- Prices by the number of things are as the rule says. -/
def StackRule.Holds (price : UInt32 → ℚ) : StackRule → Prop
  | worthless => ∀ n, price n = 0
  | units => ∀ n, price n = n.toNat
  | counted => ∀ n, price n = n.toNat * price 1
  | single => ∀ n, price n = price 1

/-- The worth has the number of things in it as the rule says. -/
def Worth.Follows (worth : Worth) : StackRule → Prop
  | .worthless => worth = .nothing
  | .units => ∃ n, worth = .units n
  | .counted => ∃ place id n, worth = .stack place id n
  | .single => ∀ n, worth.withCount n = worth

/-- **From the worth to prices.** -/
theorem Worth.Follows.holds {worth : Worth} {rule : StackRule} (h : worth.Follows rule)
    (table : PriceTable ℚ) : rule.Holds fun n => (worth.withCount n.toNat).eval table := by
  cases rule with
  | worthless =>
    obtain rfl := h
    exact fun _ => Nat.cast_zero
  | units =>
    obtain ⟨_, rfl⟩ := h
    exact fun _ => rfl
  | counted =>
    obtain ⟨place, id, _, rfl⟩ := h
    intro n
    have hone : ((1 : UInt32).toNat : ℚ) = 1 := Nat.cast_one
    calc table.value place.key id * (n.toNat : ℚ)
        = n.toNat * table.value place.key id := mul_comm _ _
      _ = n.toNat * (table.value place.key id * (1 : UInt32).toNat) := by rw [hone, mul_one]
  | single =>
    intro n
    dsimp only
    rw [h n.toNat, h (1 : UInt32).toNat]

namespace Item

/-- The categories of which a snapshot lists a single piece. -/
def stackedCategories : List Category :=
  [.mapFragments, .incubator, .harvestSeed]

/-- The item is listed by the piece, and nothing else about it decides first. -/
def IsCounted (item : Item) : Prop :=
  ¬ item.IsNamed ∧ item.typeLine ≠ "Ivory Watchstone" ∧
    ((∃ category ∈ stackedCategories, item.classify?.map (·.category) = some category) ∨
      item.rarity = .currency ∨ item.rarity = .divinationCard)

instance (item : Item) : Decidable item.IsCounted :=
  inferInstanceAs (Decidable (_ ∧ _ ∧ _))

/-- The rule for an item. -/
def stackRule (item : Item) : StackRule :=
  if item.IsWorthless then .worthless
  else if item.typeLine = "Chaos Orb" then .units
  else if item.IsCounted then .counted
  else .single

variable {item : Item} {c : Classification}

/-- What is listed by the piece. No map is, and no card is a map. -/
theorem exists_stack_of_counted
    (h : c.category ∈ stackedCategories ∨ item.rarity = .currency ∨
      item.rarity = .divinationCard ∧ c.category ≠ .maps) :
    ∃ place id n, item.classifiedWorth? c = .ok (.stack place id n) := by
  rw [classifiedWorth?]
  split
  · exact ⟨_, _, _, rfl⟩
  next hfragments =>
  split
  · exact ⟨_, _, _, rfl⟩
  next hcounted =>
  simp only [Bool.or_eq_true, decide_eq_true_eq, not_or] at hcounted
  obtain hstacked | hcurrency | ⟨hcard, hmaps⟩ := h
  · simp [stackedCategories, hfragments, hcounted] at hstacked
  · exact absurd hcurrency hcounted.1.1
  · rw [if_neg hmaps, if_pos hcard]
    exact ⟨_, _, _, rfl⟩

theorem IsCounted.exists_stack (h : item.IsCounted) :
    ∃ place id n, item.ordinaryWorth? item.classify? = .ok (.stack place id n) := by
  obtain ⟨-, -, ⟨category, hmem, hcategory⟩ | hrarity⟩ := h
  · obtain ⟨c, hc, rfl⟩ := Option.map_eq_some_iff.mp hcategory
    rw [hc]
    exact exists_stack_of_counted (.inl hmem)
  · have hframe : ¬ (item.rarity.isClassic = true ∨ item.rarity = .relic) := by
      obtain h | h := hrarity <;> rw [h] <;> decide
    obtain ⟨c, hc, hgoods⟩ := exists_classify?_isGoods hframe
    rw [hc]
    exact exists_stack_of_counted (.inr (hrarity.imp_right fun hcard => ⟨hcard, hgoods.ne_maps⟩))

/-- All else is listed as a whole. -/
theorem withCount_of_not_counted (hstacked : c.category ∉ stackedCategories)
    (hcurrency : item.rarity ≠ .currency) (hcard : item.rarity ≠ .divinationCard) {worth : Worth}
    (h : item.classifiedWorth? c = .ok worth) (n : Nat) : worth.withCount n = worth := by
  simp only [stackedCategories, List.mem_cons, List.not_mem_nil, or_false, not_or] at hstacked
  obtain ⟨hfragments, hincubator, hseed⟩ := hstacked
  rw [classifiedWorth?, if_neg hfragments, if_neg (by simp [hcurrency, hincubator, hseed]),
    if_neg hcard] at h
  split at h
  · split at h <;> cases h
    rfl
  split at h
  · cases h; rfl
  split at h
  · cases h; rfl
  split at h
  · cases h
    exact withCount_withEnchants_baseWorth item c n
  split at h <;> cases h <;> rfl

/-- **From the rule to the worth.** -/
theorem follows_stackRule {worth : Worth} (h : item.worth? = .ok worth) :
    worth.Follows item.stackRule := by
  rw [stackRule]
  split
  · next hless =>
    rw [worth?_of_isWorthless hless] at h
    exact (Except.ok.inj h).symm
  next hless =>
  split
  · next hunit =>
    rw [worth?_of_isUnit hless hunit] at h
    exact ⟨_, (Except.ok.inj h).symm⟩
  next hunit =>
  split
  · next hcounted =>
    obtain ⟨place, id, n, hstack⟩ := hcounted.exists_stack
    rw [worth?_eq_ordinaryWorth? hless hunit hcounted.1 hcounted.2.1, hstack] at h
    exact ⟨place, id, n, (Except.ok.inj h).symm⟩
  next hcounted =>
  by_cases hnamed : item.IsNamed
  · rw [worth?_of_isNamed hless hunit hnamed] at h
    obtain rfl := Except.ok.inj h
    exact withCount_exaltedWorth item item.classify?
  by_cases hwatch : item.typeLine = "Ivory Watchstone"
  · rw [worth?_of_watchstone hless hnamed hwatch] at h
    obtain rfl := Except.ok.inj h
    exact fun _ => rfl
  rw [worth?_eq_ordinaryWorth? hless hunit hnamed hwatch] at h
  cases hclass : item.classify? with
  | none =>
    rw [hclass] at h
    obtain rfl := Except.ok.inj h
    exact fun _ => rfl
  | some c =>
    rw [hclass] at h
    obtain ⟨hstacked, hrarity⟩ := not_or.mp fun hlisted => hcounted ⟨hnamed, hwatch, hlisted⟩
    obtain ⟨hcurrency, hcard⟩ := not_or.mp hrarity
    exact withCount_of_not_counted (fun hmem => hstacked ⟨_, hmem, congrArg _ hclass⟩) hcurrency
      hcard h

end Item

/-- **Stacks multiply or do not count.** If an item has a price, so has every stack of it, and the
prices follow one of four rules. What is worthless stays so. Otherwise money counts for itself, in
every table. Otherwise what is listed by the piece is worth as many times as much as one, and all
else is worth as much as one. -/
theorem priceOf?_stack (item : Item) (table : PriceTable ℚ) {v : ℚ}
    (h : priceOf? table item = .ok v) :
    ∃ price : UInt32 → ℚ, (∀ n, priceOf? table (item.withStackSize n) = .ok (price n)) ∧
      item.stackRule.Holds price := by
  rw [priceOf?] at h
  cases hworth : item.worth? with
  | error e =>
    rw [hworth] at h
    cases h
  | ok worth =>
    refine ⟨_, fun n => ?_, (Item.follows_stackRule hworth).holds table⟩
    rw [priceOf?, Item.worth?_withStackSize, hworth]
    rfl

/-- Three scarabs, which come with the frame of currency too. -/
theorem priceOf?_stack_scarabs :
    let item : Item := { typeLine := "Gilded Ambush Scarab", rarity := .currency, stackSize := 3 }
    let table : PriceTable ℚ :=
      { date := .epoch, sections := [("Scarab", [("Gilded Ambush Scarab", 4)])] }
    priceOf? table item = .ok 12 ∧ item.stackRule = .counted ∧
      ∃ price : UInt32 → ℚ, (∀ n, priceOf? table (item.withStackSize n) = .ok (price n)) ∧
        ∀ n, price n = n.toNat * price 1 := by
  intro item table
  have hvalue : priceOf? table item = .ok 12 := by decide +kernel
  have hrule : item.stackRule = .counted := by decide +kernel
  obtain ⟨price, hprice, hholds⟩ := priceOf?_stack item table hvalue
  rw [hrule] at hholds
  exact ⟨hvalue, hrule, price, hprice, hholds⟩

end LootLedger
