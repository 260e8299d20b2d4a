import LootLedger.Filter.Verdict
import LootLedger.Price.Worth
import LootLedger.Proofs.Price.Monotone
import LootLedger.Proofs.Text.Numeral
import Mathlib.Logic.Relation

/-!
# Delve sockets are invisible

The sockets of a delve resonator are listed among the socket groups of an item, and nothing that is
decided about the item may depend on them: neither the rule that a filter finds for it and the style
it gets, nor what it is worth.

There is no one place where delve groups are dropped. Links are counted, sockets are pooled, and
groups are looked at one by one, each by a function of its own. So the argument goes through all
that reads the socket groups. `Item.withoutDelve` takes the delve groups out, and every function of
an item gives the same for what is left. Most of them do not read the socket groups at all.

Two items that differ in delve groups only, wherever these stand, are the same item without them.

## Main definitions

* `DelveEdit`: one delve group put in or taken out
* `Item.withoutDelve`: an item without its delve groups

## Main results

* `Filter.verdict?_withoutDelve`, `priceOf?_withoutDelve`: verdicts and prices without delve groups
* `delve_invisible`: any number of delve groups put in and taken out make no difference
-/

namespace LootLedger

/-! ### Delve groups put in and taken out -/

/-- One delve group put in among the socket groups, or taken out, at any place. -/
inductive DelveEdit : List String → List String → Prop
  | insert (before after : List String) :
      DelveEdit (before ++ after) (before ++ delveGroup :: after)
  | delete (before after : List String) :
      DelveEdit (before ++ delveGroup :: after) (before ++ after)

/-- A delve group is no linked group, wherever it stands. -/
theorem filter_append_delveGroup_cons (before after : List String) :
    (before ++ delveGroup :: after).filter (· ≠ delveGroup) =
      (before ++ after).filter (· ≠ delveGroup) := by
  rw [List.filter_append, List.filter_cons_of_neg (by simp), List.filter_append]

theorem DelveEdit.filter_eq {groups groups' : List String} (h : DelveEdit groups groups') :
    groups'.filter (· ≠ delveGroup) = groups.filter (· ≠ delveGroup) := by
  cases h with
  | insert before after => exact filter_append_delveGroup_cons before after
  | delete before after => exact (filter_append_delveGroup_cons before after).symm

theorem filter_eq_of_delveEdits {groups groups' : List String}
    (h : Relation.ReflTransGen DelveEdit groups groups') :
    groups'.filter (· ≠ delveGroup) = groups.filter (· ≠ delveGroup) := by
  induction h with
  | refl => rfl
  | tail _ hedit ih => rw [hedit.filter_eq, ih]

/-! ### Socket groups -/

namespace Item

variable (item : Item)

/-- The item without its delve groups. -/
def withoutDelve : Item :=
  { item with sockets := item.linkedGroups }

/-- Items that differ in delve groups only are the same without them. -/
theorem withoutDelve_eq_of_delveEdits {groups : List String}
    (h : Relation.ReflTransGen DelveEdit item.sockets groups) :
    ({ item with sockets := groups } : Item).withoutDelve = item.withoutDelve :=
  congrArg (fun sockets => { item with sockets }) (filter_eq_of_delveEdits h)

@[simp] theorem linkedGroups_withoutDelve :
    item.withoutDelve.linkedGroups = item.linkedGroups := by
  simp [linkedGroups, withoutDelve]

@[simp] theorem largestLink_withoutDelve : item.withoutDelve.largestLink = item.largestLink := by
  rw [largestLink, linkedGroups_withoutDelve, largestLink]

@[simp] theorem socketCount_withoutDelve : item.withoutDelve.socketCount = item.socketCount := by
  rw [socketCount, linkedGroups_withoutDelve, socketCount]

@[simp] theorem abyssSocketCount_withoutDelve :
    item.withoutDelve.abyssSocketCount = item.abyssSocketCount := by
  rw [abyssSocketCount, linkedGroups_withoutDelve, abyssSocketCount]

end Item

/-! ### Verdicts -/

namespace Filter

@[simp] theorem NumericField.value_withoutDelve (field : NumericField) (item : Item) :
    field.value item.withoutDelve = field.value item := by
  cases field with
  | linkedSockets => exact item.largestLink_withoutDelve
  | _ => rfl

@[simp] theorem TextField.values_withoutDelve (field : TextField) (item : Item) :
    field.values item.withoutDelve = field.values item := by
  cases field <;> rfl

@[simp] theorem FlagField.value_withoutDelve (field : FlagField) (item : Item) :
    field.value item.withoutDelve = field.value item := by
  cases field <;> rfl

@[simp] theorem socketsFit_withoutDelve (mode : SocketMode) (op : Comparison)
    (specs : List SocketSpec) (item : Item) :
    socketsFit mode op specs item.withoutDelve = socketsFit mode op specs item := by
  cases mode <;> simp only [socketsFit, Item.linkedGroups_withoutDelve]

@[simp] theorem Condition.matches_withoutDelve (c : Condition) (areaLevel : Nat) (item : Item) :
    c.matches areaLevel item.withoutDelve = c.matches areaLevel item := by
  cases c with
  | numeric field op value =>
    exact congrArg (op.holds · value.toNat) (field.value_withoutDelve item)
  | text field exact values =>
    exact congrArg (List.any · (holdsAny exact values)) (field.values_withoutDelve item)
  | sockets mode op specs => exact socketsFit_withoutDelve mode op specs item
  | flag field value => exact congrArg (fun b => decide (b = value)) (field.value_withoutDelve item)
  | influence mode influences => cases mode <;> rfl
  | _ => rfl

@[simp] theorem Rule.matches_withoutDelve (rule : Rule) (areaLevel : Nat) (item : Item) :
    rule.matches areaLevel item.withoutDelve = rule.matches areaLevel item := by
  simp only [Rule.matches, Condition.matches_withoutDelve]

theorem verdictFrom?_withoutDelve (rules : List Rule) (areaLevel : Nat) (item : Item)
    (index : Nat) (style : Style) (last : Option Verdict) :
    verdictFrom? areaLevel item.withoutDelve index style last rules =
      verdictFrom? areaLevel item index style last rules := by
  induction rules generalizing index style last with
  | nil => rfl
  | cons rule rules ih => simp only [verdictFrom?, Rule.matches_withoutDelve, ih]

/-- **The verdict on an item** is the one on it without delve groups, down to the style. -/
@[simp] theorem verdict?_withoutDelve (rules : List Rule) (areaLevel : Nat) (item : Item) :
    verdict? rules areaLevel item.withoutDelve = verdict? rules areaLevel item :=
  verdictFrom?_withoutDelve rules areaLevel item 0 {} none

end Filter

/-! ### Prices -/

namespace Item

variable (item : Item)

@[simp] theorem uniqueId_withoutDelve : item.withoutDelve.uniqueId = item.uniqueId := by
  simp only [uniqueId, largestLink_withoutDelve, abyssSocketCount_withoutDelve]
  rfl

theorem uniqueWorth?_withoutDelve (c : Classification) :
    item.withoutDelve.uniqueWorth? c = item.uniqueWorth? c := by
  simp only [uniqueWorth?, uniqueId_withoutDelve]
  rfl

theorem exaltedWorth_withoutDelve (c : Option Classification) :
    item.withoutDelve.exaltedWorth c = item.exaltedWorth c := by
  cases c with
  | none => rfl
  | some c =>
    simp only [exaltedWorth, uniqueWorth?_withoutDelve]
    rfl

/-- Of what an item is worth only the identifiers of uniques depend on its sockets. -/
@[simp] theorem worth?_withoutDelve : item.withoutDelve.worth? = item.worth? := by
  have hclass : item.withoutDelve.classify? = item.classify? := rfl
  have hordinary : ∀ c, item.withoutDelve.ordinaryWorth? c = item.ordinaryWorth? c := fun _ => rfl
  simp only [worth?, worthAs?, hclass, exaltedWorth_withoutDelve, hordinary]
  rfl

end Item

/-- **The price of an item** is the one of it without delve groups. -/
@[simp] theorem priceOf?_withoutDelve [Money V] (table : PriceTable V) (item : Item) :
    priceOf? table item.withoutDelve = priceOf? table item := by
  rw [priceOf?, Item.worth?_withoutDelve, priceOf?]

/-! ### Two items -/

/-- **Delve sockets are invisible.** However many delve groups are put in among the socket groups of
an item and taken out, and wherever they stand, the item gets the same verdict from every rule list,
the same value or failure from every price table, and the same socket counts. -/
theorem delve_invisible [Money V] (item : Item) {groups : List String}
    (h : Relation.ReflTransGen DelveEdit item.sockets groups) (rules : List Filter.Rule)
    (areaLevel : Nat) (table : PriceTable V) :
    let item' : Item := { item with sockets := groups }
    Filter.verdict? rules areaLevel item' = Filter.verdict? rules areaLevel item ∧
      priceOf? table item' = priceOf? table item ∧
      item'.largestLink = item.largestLink ∧
      item'.socketCount = item.socketCount ∧
      item'.abyssSocketCount = item.abyssSocketCount := by
  intro item'
  have hsame : item'.withoutDelve = item.withoutDelve := item.withoutDelve_eq_of_delveEdits h
  refine ⟨?_, ?_, ?_, ?_, ?_⟩
  · rw [← Filter.verdict?_withoutDelve, hsame, Filter.verdict?_withoutDelve]
  · rw [← priceOf?_withoutDelve, hsame, priceOf?_withoutDelve]
  · rw [← item'.largestLink_withoutDelve, hsame, Item.largestLink_withoutDelve]
  · rw [← item'.socketCount_withoutDelve, hsame, Item.socketCount_withoutDelve]
  · rw [← item'.abyssSocketCount_withoutDelve, hsame, Item.abyssSocketCount_withoutDelve]

/-- A unique that is listed by its links and abyssal sockets, with a delve group moved and another
one put in. -/
theorem delve_invisible_shroud :
    let item : Item := { name := "Shroud of the Lightless", typeLine := "Carnal Armour",
                         rarity := .unique, sockets := ["ARGBB", "DV", "A"] }
    let groups := ["DV", "ARGBB", "A", "DV"]
    let rules : List Filter.Rule :=
      [{ visibility := .display, lines := [0],
         conditions := [.sockets .unlinked .exactEqual [⟨none, "AARGBB"⟩],
           .numeric .linkedSockets .equal 5] }]
    let table : PriceTable ℚ :=
      { date := .epoch,
        sections := [("UniqueArmour", [("Shroud of the Lightless 5L 2 Abyssal", 30)])] }
    let item' : Item := { item with sockets := groups }
    Relation.ReflTransGen DelveEdit item.sockets groups ∧
      (Filter.verdict? rules 68 item).isSome = true ∧ priceOf? table item = .ok 30 ∧
      Filter.verdict? rules 68 item' = Filter.verdict? rules 68 item ∧
      priceOf? table item' = priceOf? table item ∧
      item'.largestLink = item.largestLink ∧
      item'.socketCount = item.socketCount ∧
      item'.abyssSocketCount = item.abyssSocketCount := by
  intro item groups rules table item'
  have h : Relation.ReflTransGen DelveEdit item.sockets groups :=
    .head (.delete ["ARGBB"] ["A"]) <| .head (.insert [] ["ARGBB", "A"]) <|
    .single (.insert ["DV", "ARGBB", "A"] [])
  have hclass : item.classify? = some { category := .bodyArmours } := by
    have hname : BaseName.withoutQuality "Carnal Armour" = "Carnal Armour" := by
      rw [BaseName.withoutQuality, BaseName.withoutQualityChars]
      decide
    have hbase : item.baseType = "Carnal Armour" := by decide
    have hline : item.typeLine = "Carnal Armour" := rfl
    simp only [Item.classify?, Classification.ofEquipment?, BaseName.equipment?, hbase, hline,
      hname]
    decide +kernel
  have hid : item.uniqueId = "Shroud of the Lightless 5L 2 Abyssal" := by
    have hlinks : item.largestLink = 5 := by decide
    have hcount : item.abyssSocketCount = 2 := by decide
    simp only [Item.uniqueId, hlinks, hcount, numeral,
      Text.digits_of_lt_ten (show 5 < 10 by decide), Text.digits_of_lt_ten (show 2 < 10 by decide)]
    decide +kernel
  have hworth : item.worth? = .ok (.listed .uniqueArmour item.uniqueId) := by
    rw [Item.worth?, hclass]
    rfl
  have hprice : priceOf? table item = .ok 30 := by
    rw [priceOf?, hworth, hid]
    decide +kernel
  exact ⟨h, by decide +kernel, hprice, delve_invisible item h rules 68 table⟩

end LootLedger
