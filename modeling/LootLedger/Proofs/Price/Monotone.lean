import LootLedger.Proofs.Price.Failure
import Mathlib.Algebra.Order.Field.Rat
import Mathlib.Data.List.Forall2

/-!
# Values follow the table

A table only supplies numbers, and a worth combines them by sums, halves, multiples, minima and
maxima. None of these turns the order of values around, so a table in which everything is worth at
least as much makes every item worth at least as much, and a table without negative values makes no
item worth less than nothing. This is about exact numbers: doubles round.

Both statements are one induction on the worth. Its invariant is a relation between the values in
two reckonings that all operations keep. The order of the numbers is such a relation, and so is the
one that only asks whether the second number is negative.

## Main definitions

* `Money.IsKept`: a relation between two reckonings that their operations keep
* `PriceTable.IsBelow`: nothing is worth more in the one table than in the other
* `PriceTable.HasNoNegative`: no listed value is negative

## Main results

* `Worth.eval_kept`: what is kept by the operations is kept by the value of a worth
* `priceOf?_follows`: values follow the table, and are not negative if the table is not
-/

namespace LootLedger

/-! ### Reckoning -/

/-- Reckoning with exact numbers. -/
instance : Money ℚ where
  units n := n
  add x y := x + y
  mul x y := x * y
  half x := x / 2
  lesser x y := min x y
  larger x y := max x y

/-- A relation between the values in two reckonings that their operations keep. Values are only
multiplied by numbers of units. -/
structure Money.IsKept [Money V] [Money W] (R : V → W → Prop) : Prop where
  units (n : ℕ) : R (Money.units n) (Money.units n)
  add {v v' w w'} : R v w → R v' w' → R (Money.add v v') (Money.add w w')
  times {v w} (n : ℕ) :
    R v w → R (Money.mul v (Money.units n)) (Money.mul w (Money.units n))
  half {v w} : R v w → R (Money.half v) (Money.half w)
  lesser {v v' w w'} : R v w → R v' w' → R (Money.lesser v v') (Money.lesser w w')
  larger {v v' w w'} : R v w → R v' w' → R (Money.larger v v') (Money.larger w w')

theorem Money.isKept_le : Money.IsKept (fun v w : ℚ => v ≤ w) where
  units _ := le_rfl
  add := add_le_add
  times n h := mul_le_mul_of_nonneg_right h (Nat.cast_nonneg n)
  half h := div_le_div_of_nonneg_right h zero_le_two
  lesser := min_le_min
  larger := max_le_max

theorem Money.isKept_nonneg : Money.IsKept (fun _ w : ℚ => 0 ≤ w) where
  units := Nat.cast_nonneg
  add := add_nonneg
  times n h := mul_nonneg h (Nat.cast_nonneg n)
  half h := div_nonneg h zero_le_two
  lesser := le_min
  larger h _ := le_max_of_le_left h

/-! ### Worths -/

/-- What an operation keeps is kept when it combines the values of several identifiers. -/
theorem foldl_kept {R : V → W → Prop} {op : V → V → V} {op' : W → W → W}
    (hop : ∀ {v v' w w'}, R v w → R v' w' → R (op v v') (op' w w'))
    {f : String → V} {g : String → W} (hfg : ∀ id, R (f id) (g id)) {v : V} {w : W} (h : R v w)
    (ids : List String) : R ((ids.map f).foldl op v) ((ids.map g).foldl op' w) := by
  have hids : List.Forall₂ R (ids.map f) (ids.map g) := by
    simp [hfg, List.forall₂_map_left_iff, List.forall₂_map_right_iff, List.forall₂_same]
  have hstep : Relator.LiftFun R (Relator.LiftFun R R) op op' := fun _ _ h _ _ h' => hop h h'
  exact List.rel_foldl hstep h hids

section

variable [Money V] [Money W] {R : V → W → Prop} {table : PriceTable V} {table' : PriceTable W}

/-- **What the operations keep is kept by values.** -/
theorem Worth.eval_kept (hR : Money.IsKept R)
    (h : ∀ key id, R (table.value key id) (table'.value key id)) (worth : Worth) :
    R (worth.eval table) (worth.eval table') := by
  induction worth with
  | nothing | unvalued => exact hR.units 0
  | units count => exact hR.units count
  | listed place id => exact h place.key id
  | stack place id count => exact hR.times count (h place.key id)
  | midpoint place ids =>
    cases ids with
    | nil => exact hR.units 0
    | cons id ids =>
      have hid := h place.key id
      have hleast := foldl_kept hR.lesser (h place.key) hid ids
      have hgreatest := foldl_kept hR.larger (h place.key) hid ids
      exact hR.half (hR.add hleast hgreatest)
  | enchanted base enchants ih =>
    have hbest := foldl_kept hR.larger (h MarketSection.helmetEnchant.key) (hR.units 0) enchants
    exact hR.larger ih hbest

/-- Two tables fail on the same items, with the same failure, and otherwise give values between which
every relation holds that holds between the tables and is kept by the operations. -/
theorem priceOf?_kept (hR : Money.IsKept R)
    (h : ∀ key id, R (table.value key id) (table'.value key id)) (item : Item) :
    (∃ e, priceOf? table item = .error e ∧ priceOf? table' item = .error e) ∨
      ∃ v w, priceOf? table item = .ok v ∧ priceOf? table' item = .ok w ∧ R v w := by
  simp only [priceOf?]
  cases item.worth? with
  | error e => exact .inl ⟨e, rfl, rfl⟩
  | ok worth => exact .inr ⟨_, _, rfl, rfl, worth.eval_kept hR h⟩

end

/-! ### Tables -/

namespace PriceTable

theorem lookup?_insert_self (table : PriceTable V) (key id : String) (v : V) :
    (table.insert key id v).lookup? key id = some v := by
  simp [lookup?, insert]

/-- Setting a value leaves all others as they are. -/
theorem lookup?_insert_of_ne (table : PriceTable V) {key id key' id' : String} (v : V)
    (h : key' ≠ key ∨ id' ≠ id) :
    (table.insert key id v).lookup? key' id' = table.lookup? key' id' := by
  by_cases hkey : key' = key
  · subst hkey
    have hid : id' ≠ id := by simpa using h
    cases hsection : table.sections.lookup key' <;>
      simp [lookup?, insert, hsection, lookup_put_of_ne hid]
  · simp [lookup?, insert, lookup_put_of_ne hkey]

/-- Nothing is worth more in the first table than in the second. -/
def IsBelow (table table' : PriceTable ℚ) : Prop :=
  ∀ key id, table.value key id ≤ table'.value key id

/-- Raising a value makes nothing worth less. -/
theorem isBelow_insert {table : PriceTable ℚ} {key id : String} {v : ℚ}
    (h : table.value key id ≤ v) : table.IsBelow (table.insert key id v) := by
  intro key' id'
  by_cases hplace : key' = key ∧ id' = id
  · obtain ⟨rfl, rfl⟩ := hplace
    simpa [value, lookup?_insert_self] using h
  · rw [value, value, lookup?_insert_of_ne table v (by tauto)]

/-- No listed value is negative. -/
def HasNoNegative (table : PriceTable ℚ) : Prop :=
  ∀ entries ∈ table.sections, ∀ entry ∈ entries.2, 0 ≤ entry.2

/-- What is not listed is worth nothing, which is not negative either. -/
theorem HasNoNegative.value_nonneg {table : PriceTable ℚ} (h : table.HasNoNegative)
    (key id : String) : 0 ≤ table.value key id := by
  rw [value]
  cases hlookup : table.lookup? key id with
  | none => exact le_rfl
  | some v =>
    obtain ⟨entries, hentries, hv⟩ := Option.bind_eq_some_iff.mp hlookup
    exact h _ (mem_of_lookup hentries) _ (mem_of_lookup hv)

end PriceTable

theorem Worth.eval_nonneg {table : PriceTable ℚ} (h : table.HasNoNegative) (worth : Worth) :
    0 ≤ worth.eval table :=
  @eval_kept ℚ ℚ _ _ _ table table Money.isKept_nonneg h.value_nonneg worth

/-- **Values follow the table.** In a table in which nothing is worth less, an item fails as before
or is not worth less, and in a table without negative values no item is worth less than nothing. -/
theorem priceOf?_follows (item : Item) :
    (∀ table table' : PriceTable ℚ, table.IsBelow table' →
      (∃ e, priceOf? table item = .error e ∧ priceOf? table' item = .error e) ∨
        ∃ v w, priceOf? table item = .ok v ∧ priceOf? table' item = .ok w ∧ v ≤ w) ∧
    ∀ (table : PriceTable ℚ) (v : ℚ), table.HasNoNegative → priceOf? table item = .ok v → 0 ≤ v := by
  refine ⟨fun table table' h => priceOf?_kept Money.isKept_le h item, fun table v h hv => ?_⟩
  rw [priceOf?] at hv
  cases hworth : item.worth? with
  | error e =>
    rw [hworth] at hv
    cases hv
  | ok worth =>
    rw [hworth] at hv
    obtain rfl : worth.eval table = v := Except.ok.inj hv
    exact worth.eval_nonneg h

/-- A flask that is not identified, before and after one of its variants rises. -/
theorem priceOf?_follows_flask :
    let item : Item := { name := "Vessel of Vinktar", typeLine := "Topaz Flask", rarity := .unique,
                         identified := false }
    let variant := "Vessel of Vinktar (Penetration)"
    let table : PriceTable ℚ :=
      { date := .epoch, sections := [("UniqueFlask", [(variant, 30)])] }
    let table' := table.insert "UniqueFlask" variant 50
    table.IsBelow table' ∧ table.HasNoNegative ∧ priceOf? table item = .ok 15 ∧ (0 : ℚ) ≤ 15 ∧
      ((∃ e, priceOf? table item = .error e ∧ priceOf? table' item = .error e) ∨
        ∃ v w, priceOf? table item = .ok v ∧ priceOf? table' item = .ok w ∧ v ≤ w) := by
  intro item variant table table'
  have hbelow : table.IsBelow table' := PriceTable.isBelow_insert (by decide +kernel)
  have hnonneg : table.HasNoNegative := by simp [table, PriceTable.HasNoNegative]
  have hvalue : priceOf? table item = .ok 15 := by decide +kernel
  exact ⟨hbelow, hnonneg, hvalue, (priceOf?_follows item).2 _ _ hnonneg hvalue,
    (priceOf?_follows item).1 _ _ hbelow⟩

end LootLedger
