import LootLedger.Item.Document
import LootLedger.Proofs.Json.Record
import LootLedger.Proofs.Json.RoundTrip
import LootLedger.Proofs.Outcome
import Mathlib.Data.List.Pairwise

/-!
# Written items are read back

An item is written with every field that has a value, under the first of the field's names. Reading
would take much else: other names, an object for a list of influences, single sockets for linked
groups. What has to be shown is that it takes the written form for nothing else, and that it needs
no default but that of the secret name, the one field which may be left out.

## Main definitions

* `Item.IsGivenBy`: fields that hold what is written for an item

## Main results

* `Item.ofName_eq_some_iff`: which field a name belongs to
* `Item.ofJsonWithin?_toJson`: the document of an item is read as the item
* `Item.ofJson?_written`: so is its text, in either layout
-/

namespace LootLedger.Item

/-! ### Names of fields -/

theorem Field.mem_all (f : Field) : f ∈ Field.all := by
  cases f <;> decide

theorem Field.nodup_all : Field.all.Nodup := by
  decide

theorem Field.nodup_names : (Field.all.flatMap Field.names).Nodup := by
  decide +kernel

/-- No two fields share a name. -/
theorem Field.eq_of_mem_names {f g : Field} {s : String} (hf : s ∈ f.names) (hg : s ∈ g.names) :
    f = g := by
  have hdisjoint := (List.nodup_flatMap.mp nodup_names).2
  have hsymm : Std.Symm (Function.onFun List.Disjoint Field.names) :=
    ⟨fun _ _ h _ hs ht => h ht hs⟩
  by_contra hne
  exact hdisjoint.forall f.mem_all g.mem_all hne hf hg

/-- A name belongs to the field that has it. -/
theorem ofName_eq_some_iff {s : String} {f : Field} : schema.ofName s = some f ↔ s ∈ f.names := by
  have hfound {g : Field} (h : schema.ofName s = some g) : s ∈ g.names :=
    List.contains_iff_mem.mp (List.find?_some (p := fun g : Field => g.names.contains s) h)
  constructor
  · exact hfound
  · intro hf
    have hsome : (schema.ofName s).isSome :=
      List.find?_isSome.mpr ⟨f, f.mem_all, List.contains_iff_mem.mpr hf⟩
    obtain ⟨g, hg⟩ := Option.isSome_iff_exists.mp hsome
    rw [hg, Field.eq_of_mem_names (hfound hg) hf]

theorem ofName_key (f : Field) : schema.ofName f.key = some f := by
  rw [ofName_eq_some_iff]
  cases f <;> decide

/-! ### Values of fields -/

theorem toNat_le_max32 (n : UInt32) : n.toNat ≤ Text.max32 :=
  Nat.le_sub_one_of_lt n.toNat_lt

theorem uint32?_numberJson (n : UInt32) : Json.uint32? (numberJson n) = some n := by
  change (if n.toNat ≤ Text.max32 then some n.toNat else none).map UInt32.ofNat = some n
  rw [if_pos (toNat_le_max32 n), Option.map_some, UInt32.ofNat_toNat]

theorem list?_textsJson (xs : List String) : Json.list? Json.text? (textsJson xs) = some xs :=
  mapM_map_eq_pure _ _ fun _ _ => rfl

theorem rarity?_frame (r : Rarity) : rarity? (.int r.frame) = some r := by
  cases r <;> rfl

/-- A list of texts is nested no deeper than itself. -/
theorem representable_texts {α : Type} (depth : Nat) (g : α → String) (xs : List α) :
    Json.representable (depth + 1) (.array (xs.map fun x => .text (g x))) := by
  rw [Json.representable]
  induction xs with
  | nil => rfl
  | cons x xs ih =>
    rw [List.map_cons, Json.representableAll, ih]
    rfl

theorem sockets?_textsJson (depth : Nat) (xs : List String) :
    sockets? (depth + 1) (textsJson xs) = some xs := by
  have hshape : Json.representable (depth + 1) (textsJson xs) = true :=
    representable_texts depth id xs
  unfold sockets?
  rw [hshape]
  change (Json.list? Json.text? (textsJson xs)).or _ = some xs
  rw [list?_textsJson, Option.some_or]

theorem ofKey?_key (i : Influence) : Influence.ofKey? i.key = some i := by
  cases i <;> decide

/-- A set is what its list holds. -/
theorem contains_setOf (present : Influence → Bool) :
    (fun i => (Influence.setOf present).contains i) = present := by
  funext i
  rw [Bool.eq_iff_iff, List.contains_iff_mem, Influence.setOf, List.mem_filter]
  exact and_iff_right i.mem_all

theorem influences?_influences (depth : Nat) (item : Item) :
    influences? (depth + 1) (.array (item.influences.map fun i => .text i.key)) =
      some item.influenced := by
  have hlist : Json.list? influence? (.array (item.influences.map fun i => .text i.key)) =
      some item.influences :=
    mapM_map_eq_pure _ _ fun i _ => ofKey?_key i
  unfold influences?
  rw [representable_texts]
  change ((Json.list? influence? (.array (item.influences.map fun i => .text i.key))).map
    fun is i => is.contains i).or _ = some item.influenced
  rw [hlist, Option.map_some, Option.some_or, influences, contains_setOf]

/-! ### Items -/

/-- The fields hold what is written for the item. -/
def IsGivenBy (item : Item) (fields : List (Field × Json)) : Prop :=
  ∀ f, fields.lookup f = item.fieldJson? f

namespace IsGivenBy

variable {item : Item} {fields : List (Field × Json)} (h : item.IsGivenBy fields)
include h

theorem defaulted? {f : Field} {j : Json} (hf : item.fieldJson? f = some j) {α : Type}
    (value : Json → Option α) (default : α) : Json.defaulted? fields f value default = value j :=
  Json.defaulted?_of_lookup ((h f).trans hf) value default

theorem text (f : Field) {s : String} (hf : item.fieldJson? f = some (.text s)) :
    Json.defaulted? fields f Json.text? "" = some s :=
  h.defaulted? hf _ _

theorem number (f : Field) {n : UInt32} (hf : item.fieldJson? f = some (numberJson n))
    (default : UInt32) : Json.defaulted? fields f Json.uint32? default = some n :=
  (h.defaulted? hf _ _).trans (uint32?_numberJson n)

theorem flag (f : Field) {b : Bool} (hf : item.fieldJson? f = some (.bool b)) (default : Bool) :
    Json.defaulted? fields f Json.bool? default = some b :=
  h.defaulted? hf _ _

theorem texts (f : Field) {xs : List String} (hf : item.fieldJson? f = some (textsJson xs)) :
    Json.defaulted? fields f (Json.list? Json.text?) [] = some xs :=
  (h.defaulted? hf _ _).trans (list?_textsJson xs)

/-- The secret name is the one field that may be left out. -/
theorem secretName :
    Json.defaulted? fields .secretName (Json.optional? Json.text?) none = some item.secretName := by
  have hlookup := h .secretName
  rw [fieldJson?] at hlookup
  rw [Json.defaulted?, hlookup]
  cases item.secretName <;> rfl

theorem rarity : Json.defaulted? fields .rarity rarity? .normal = some item.rarity :=
  (h.defaulted? rfl _ _).trans (rarity?_frame item.rarity)

theorem influences (depth : Nat) :
    Json.defaulted? fields .influences (influences? (depth + 1)) (fun _ => false) =
      some item.influenced :=
  (h.defaulted? rfl _ _).trans (influences?_influences depth item)

theorem sockets (depth : Nat) :
    Json.defaulted? fields .sockets (sockets? (depth + 1)) [] = some item.sockets :=
  (h.defaulted? rfl _ _).trans (sockets?_textsJson depth item.sockets)

end IsGivenBy

/-- **The document of an item is read as the item.** -/
theorem ofJsonWithin?_toJson (item : Item) (depth : Nat) :
    ofJsonWithin? (depth + 1) item.toJson = some item := by
  obtain ⟨fields, hfields, h⟩ : ∃ fields, schema.fields? item.toJson = some fields ∧
      item.IsGivenBy fields :=
    Json.Schema.exists_fields?_written item.fieldJson? ofName_key Field.nodup_all Field.mem_all
  rw [ofJsonWithin?, hfields]
  dsimp only [Option.bind_eq_bind, Option.bind_some]
  -- the fields one by one, in document order
  rw [h.text .name rfl, h.secretName, h.text .typeLine rfl, h.text .baseType rfl,
    h.text .itemClass rfl, h.text .icon rfl, h.rarity, h.number .itemLevel rfl,
    h.number .dropLevel rfl, h.number .quality rfl, h.number .width rfl, h.number .height rfl,
    h.flag .identified rfl, h.flag .corrupted rfl, h.flag .mirrored rfl, h.flag .replica rfl,
    h.flag .fractured rfl, h.flag .synthesised rfl, h.flag .veiled rfl, h.influences,
    h.flag .shapedMap rfl, h.flag .elderMap rfl, h.flag .blightedMap rfl, h.number .mapTier rfl,
    h.number .gemLevel rfl, h.number .stackSize rfl, h.sockets, h.texts .explicitMods rfl,
    h.texts .enchantMods rfl, h.texts .implicitMods rfl]
  rfl

/-! ### Texts of items -/

section

variable {P : Float → Prop}

theorem isPlain_numberJson (n : UInt32) : (numberJson n).IsPlain P :=
  .int (Json.isWord_natCast ((toNat_le_max32 n).trans (by decide)))

theorem isPlain_texts {α : Type} (g : α → String) (xs : List α) :
    (Json.array (xs.map fun x => .text (g x))).IsPlain P := by
  refine .array fun j hj => ?_
  obtain ⟨x, -, rfl⟩ := List.mem_map.mp hj
  exact .text _

theorem isPlain_fieldJson? {item : Item} {f : Field} {j : Json} (h : item.fieldJson? f = some j) :
    j.IsPlain P := by
  cases f with
  | name | typeLine | baseType | itemClass | icon =>
    obtain rfl := Option.some.inj h
    exact .text _
  | secretName =>
    obtain ⟨s, -, rfl⟩ := Option.map_eq_some_iff.mp h
    exact .text s
  | rarity =>
    obtain rfl := Option.some.inj h
    exact .int (Json.isWord_natCast (by cases item.rarity <;> decide))
  | itemLevel | dropLevel | quality | width | height | mapTier | gemLevel | stackSize =>
    obtain rfl := Option.some.inj h
    exact isPlain_numberJson _
  | identified | corrupted | mirrored | replica | fractured | synthesised | veiled | shapedMap
  | elderMap | blightedMap =>
    obtain rfl := Option.some.inj h
    exact .bool _
  | influences =>
    obtain rfl := Option.some.inj h
    exact isPlain_texts Influence.key item.influences
  | sockets | explicitMods | enchantMods | implicitMods =>
    obtain rfl := Option.some.inj h
    exact isPlain_texts id _

/-- An item has no doubles at all. -/
theorem isPlain_toJson (item : Item) : item.toJson.IsPlain P := by
  refine .object fun m hm => ?_
  obtain ⟨f, -, hf⟩ := List.mem_filterMap.mp hm
  obtain ⟨j, hj, rfl⟩ := Option.map_eq_some_iff.mp hf
  exact isPlain_fieldJson? hj

end

/-- **A written item is read back,** from its document and from the text of its document in either
layout. -/
theorem ofJson?_written (item : Item) :
    ofJson? item.toJson = some item ∧ (Json.parse? item.toJson.pretty).bind ofJson? = some item ∧
      (Json.parse? item.toJson.compact).bind ofJson? = some item := by
  -- the parts of an item that come in several shapes are not nested at all
  have hread : ofJson? item.toJson = some item := ofJsonWithin?_toJson item (shapeDepth - 1)
  have hreread : item.toJson.reread = item.toJson := item.isPlain_toJson.reread_eq
  refine ⟨hread, ?_, ?_⟩
  · rw [Json.parse?_pretty item.isPlain_toJson, hreread, Option.bind_some, hread]
  · rw [Json.parse?_compact item.isPlain_toJson, hreread, Option.bind_some, hread]

end LootLedger.Item
