import LootLedger.Text.Number

/-!
# Rarities and influences

The frame of an item. Frames 0 to 3 are the classic rarities that equipment rolls with and that
a filter can name; frames 4 to 9 mark families of items without a rarity of their own. An
influence is a named origin of special affixes, of which an item may carry several.

## Main definitions

* `Rarity`, `Rarity.frame`, `Rarity.ofFrame?`, `Rarity.ofFilterName?`
* `Influence`, `Influence.all`, `Influence.ofName?`
-/

namespace LootLedger

/-- The frame of an item. -/
inductive Rarity
  | normal
  | magic
  | rare
  | unique
  | gem
  | currency
  | divinationCard
  | quest
  | prophecy
  | relic
  deriving DecidableEq, Repr, Inhabited

namespace Rarity

/-- All rarities in the order of their frames. -/
def all : List Rarity :=
  [normal, magic, rare, unique, gem, currency, divinationCard, quest, prophecy, relic]

/-- The frame number. -/
def frame : Rarity → Nat
  | normal => 0
  | magic => 1
  | rare => 2
  | unique => 3
  | gem => 4
  | currency => 5
  | divinationCard => 6
  | quest => 7
  | prophecy => 8
  | relic => 9

/-- The rarity with a frame number. -/
def ofFrame? (n : Nat) : Option Rarity :=
  all[n]?

/-- The name on display. -/
def name : Rarity → String
  | normal => "Normal"
  | magic => "Magic"
  | rare => "Rare"
  | unique => "Unique"
  | gem => "Gem"
  | currency => "Currency"
  | divinationCard => "Divination Card"
  | quest => "Quest"
  | prophecy => "Prophecy"
  | relic => "Relic"

/-- One of the four rarities that equipment rolls with. -/
def isClassic (r : Rarity) : Bool :=
  r.frame ≤ 3

/-- The rarity that a filter names. Only the classic rarities have such a name, and the case of
its letters does not matter. -/
def ofFilterName? (s : Text.Chars) : Option Rarity :=
  [normal, magic, rare, unique].find? fun r => Text.equalIgnoringCase r.name.toList s

@[simp] theorem ofFrame?_frame (r : Rarity) : ofFrame? r.frame = some r := by
  cases r <;> rfl

end Rarity

/-- A named origin of special affixes. -/
inductive Influence
  | shaper
  | elder
  | crusader
  | redeemer
  | hunter
  | warlord
  deriving DecidableEq, Repr

namespace Influence

/-- All influences, in display order. -/
def all : List Influence :=
  [shaper, elder, crusader, redeemer, hunter, warlord]

/-- The name on display and in filters. -/
def name : Influence → String
  | shaper => "Shaper"
  | elder => "Elder"
  | crusader => "Crusader"
  | redeemer => "Redeemer"
  | hunter => "Hunter"
  | warlord => "Warlord"

/-- The name in item documents. -/
def key : Influence → String
  | shaper => "shaper"
  | elder => "elder"
  | crusader => "crusader"
  | redeemer => "redeemer"
  | hunter => "hunter"
  | warlord => "warlord"

/-- The influence with a name, whatever the case of its letters. -/
def ofName? (s : Text.Chars) : Option Influence :=
  all.find? fun i => Text.equalIgnoringCase i.name.toList s

/-- The influence with a key in item documents, which is in lower case. -/
def ofKey? (s : String) : Option Influence :=
  all.find? fun i => i.key = s

theorem mem_all (i : Influence) : i ∈ all := by
  cases i <;> decide

/-- A set of influences, as the list of its members in display order. -/
def setOf (present : Influence → Bool) : List Influence :=
  all.filter present

end Influence

end LootLedger
