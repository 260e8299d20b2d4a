import LootLedger.Proofs.Item.Document
import Mathlib.Logic.Relation

/-!
# The shapes of an item document

Items come with their members in any order, under any of the names of their fields, and among others
that mean nothing here. None of this makes a difference to the item: an edit of the members that
keeps to it leaves the same members with the same fields, up to their order, and a record is no more
than that. Names do make a difference when two of them meet: a field that is given twice makes the
document unreadable, be it by one name or by two.

## Main definitions

* `Item.MemberEdit`: one change of the members

## Main results

* `Item.MemberEdit.perm_named`: an edit keeps the members of the fields
* `Item.ofJsonWithin?_members`: edits do not change the item, and no field may be given twice
-/

namespace LootLedger.Item

/-- One change of the members of a document. -/
inductive MemberEdit : List (String × Json) → List (String × Json) → Prop
  /-- Another order. -/
  | permute {ms ms'} : ms.Perm ms' → MemberEdit ms ms'
  /-- Another name of the same field. -/
  | rename {before after j a b} {f : Field} : a ∈ f.names → b ∈ f.names →
      MemberEdit (before ++ (a, j) :: after) (before ++ (b, j) :: after)
  /-- One more member, with a name of no field. -/
  | add {before after j a} : (∀ f : Field, a ∉ f.names) →
      MemberEdit (before ++ after) (before ++ (a, j) :: after)
  /-- One member less, with a name of no field. -/
  | remove {before after j a} : (∀ f : Field, a ∉ f.names) →
      MemberEdit (before ++ (a, j) :: after) (before ++ after)

theorem ofName_eq_none {s : String} (h : ∀ f : Field, s ∉ f.names) : schema.ofName s = none :=
  Option.eq_none_iff_forall_ne_some.mpr fun f hf => h f (ofName_eq_some_iff.mp hf)

/-- A member with a name of no field is passed over. -/
theorem named_append_cons_of_unknown {a : String} (h : ∀ f : Field, a ∉ f.names) (j : Json)
    (before after : List (String × Json)) :
    schema.named (before ++ (a, j) :: after) = schema.named (before ++ after) := by
  rw [Json.Schema.named_append, Json.Schema.named_cons_of_none (ofName_eq_none h),
    Json.Schema.named_append]

/-- **An edit keeps the members of the fields,** up to their order. -/
theorem MemberEdit.perm_named {ms ms' : List (String × Json)} (h : MemberEdit ms ms') :
    (schema.named ms').Perm (schema.named ms) := by
  cases h with
  | permute h => exact h.symm.filterMap _
  | rename ha hb =>
    rw [Json.Schema.named_append, Json.Schema.named_append,
      Json.Schema.named_cons_of_some (ofName_eq_some_iff.mpr ha),
      Json.Schema.named_cons_of_some (ofName_eq_some_iff.mpr hb)]
  | add h => rw [named_append_cons_of_unknown h]
  | remove h => rw [named_append_cons_of_unknown h]

theorem perm_named_of_memberEdits {ms ms' : List (String × Json)}
    (h : Relation.ReflTransGen MemberEdit ms ms') :
    (schema.named ms').Perm (schema.named ms) := by
  induction h with
  | refl => exact .refl _
  | tail _ hedit ih => exact hedit.perm_named.trans ih

/-- An item depends on the members of the fields alone, and not on their order. -/
theorem ofJsonWithin?_congr (depth : Nat) {ms ms' : List (String × Json)}
    (h : (schema.named ms').Perm (schema.named ms)) :
    ofJsonWithin? depth (.object ms') = ofJsonWithin? depth (.object ms) := by
  refine Json.Schema.bind_fields?_congr (fun fields fields' hlookup => ?_) h
  have hfield {α : Type} (f : Field) (value : Json → Option α) (default : α) :
      Json.defaulted? fields f value default = Json.defaulted? fields' f value default :=
    Json.defaulted?_congr (hlookup f) value default
  simp only [hfield]

/-- **All shapes of a document are one item.** Whatever was edited among the members, the document
is read as the same item, or refused as before; and it is refused whenever two members are for one
field. -/
theorem ofJsonWithin?_members (depth : Nat) :
    (∀ ms ms', Relation.ReflTransGen MemberEdit ms ms' →
        ofJsonWithin? depth (.object ms') = ofJsonWithin? depth (.object ms)) ∧
      ∀ (f : Field) (a b : String) (j k : Json) (before between after : List (String × Json)),
        a ∈ f.names → b ∈ f.names → ofJsonWithin? depth
          (.object (before ++ (a, j) :: (between ++ (b, k) :: after))) = none := by
  constructor
  · intro ms ms' h
    exact ofJsonWithin?_congr depth (perm_named_of_memberEdits h)
  · intro f a b j k before between after ha hb
    have hfields := Json.Schema.fields?_eq_none (ofName_eq_some_iff.mpr ha)
      (ofName_eq_some_iff.mpr hb) j k before between after
    rw [ofJsonWithin?, hfields]
    rfl

/-- A stack as the game reports it. -/
def reportedMembers : List (String × Json) :=
  [("id", .null), ("typeLine", .text "Chaos Orb"), ("frameType", .int 5), ("stackSize", .int 7)]

/-- The same stack as a stored row. -/
def storedMembers : List (String × Json) :=
  [("stack_size", .int 7), ("typeline", .text "Chaos Orb"), ("frametype", .int 5)]

/-- A reported stack and a stored one are the same item, and one type line is enough. -/
theorem ofJsonWithin?_members_stack :
    Relation.ReflTransGen MemberEdit reportedMembers storedMembers ∧
      ofJson? (.object storedMembers) = ofJson? (.object reportedMembers) ∧
      ofJson? (.object reportedMembers) =
        some { ofTypeLine "Chaos Orb" .currency with stackSize := 7 } ∧
      ofJson? (.object (("type_line", .text "Orb") :: storedMembers)) = none := by
  have h : Relation.ReflTransGen MemberEdit reportedMembers storedMembers :=
    .head (@MemberEdit.remove [] _ .null "id" fun f => by cases f <;> decide) <|
    .head (@MemberEdit.rename [] _ _ "typeLine" "typeline" .typeLine (by decide) (by decide)) <|
    .head (@MemberEdit.rename [_] _ _ "frameType" "frametype" .rarity (by decide) (by decide)) <|
    .head (@MemberEdit.rename [_, _] [] _ "stackSize" "stack_size" .stackSize (by decide)
      (by decide)) <|
    .single (.permute (@List.perm_append_comm _ [_, _] [_]))
  exact ⟨h, (ofJsonWithin?_members shapeDepth).1 _ _ h, rfl,
    (ofJsonWithin?_members shapeDepth).2 .typeLine "type_line" "typeline" _ _ [] [_] [_]
      (by decide) (by decide)⟩

end LootLedger.Item
