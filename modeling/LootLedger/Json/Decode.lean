import LootLedger.Decimal.Binary64
import LootLedger.Json.Value
import LootLedger.Text.Number

/-!
# Reading values out of a document

Decoders for scalars and for records. A record is an object whose members name fields, or an
array with the fields in their order. Each field has one or more names; a member that names no
field is passed over, and two members for one field make the document unreadable, whichever of
the field's names they use.

## Main definitions

* `Json.Schema`: the fields of a record, their order and their names
* `Json.Schema.fields?`: the value given for each field
* `Json.entries?`: an object as a map, the last of equal names winning
-/

namespace LootLedger.Json

/-! ### Scalars -/

/-- The text of a string. -/
def text? : Json → Option String
  | .text s => some s
  | _ => none

/-- The truth value. -/
def bool? : Json → Option Bool
  | .bool b => some b
  | _ => none

/-- A whole number of at most `limit`. -/
def nat? (limit : Nat) : Json → Option Nat
  | .int (.ofNat n) => if n ≤ limit then some n else none
  | _ => none

/-- A 32-bit number. -/
def uint32? (j : Json) : Option UInt32 :=
  (j.nat? Text.max32).map UInt32.ofNat

/-- A number, a whole number as the double nearest to it. -/
def float? : Json → Option Float
  | .float x => some x
  | .int n => Decimal.ofDecimal? (n < 0) n.natAbs 0
  | _ => none

/-- The elements of an array, each decoded. -/
def list? (element : Json → Option α) : Json → Option (List α)
  | .array xs => xs.mapM element
  | _ => none

/-- An optional value: null is absence. -/
def optional? (value : Json → Option α) : Json → Option (Option α)
  | .null => some none
  | j => (value j).map some

/-! ### Records -/

/-- The fields of a record: their order, and the field that a member's name belongs to. -/
structure Schema (F : Type) where
  order : List F
  ofName : String → Option F

/-- The members that name fields, with their fields; `none` if a field is given twice. -/
def Schema.ofMembers? {F : Type} [DecidableEq F] (schema : Schema F) :
    List (String × Json) → Option (List (F × Json))
  | [] => some []
  | (name, value) :: ms => do
    let rest ← schema.ofMembers? ms
    match schema.ofName name with
    | none => return rest
    | some f => if rest.any (·.1 = f) then none else return (f, value) :: rest

/-- The values given for the fields of a record. -/
def Schema.fields? {F : Type} [DecidableEq F] (schema : Schema F) :
    Json → Option (List (F × Json))
  | .object members => schema.ofMembers? members
  | .array values =>
    if values.length ≤ schema.order.length then some (schema.order.zip values) else none
  | _ => none

/-- The decoded value of a field that must be given. -/
def required? {F : Type} [DecidableEq F] (fields : List (F × Json)) (field : F)
    (value : Json → Option α) : Option α := do
  value (← fields.lookup field)

/-- The decoded value of a field, or the default if it is not given. -/
def defaulted? {F : Type} [DecidableEq F] (fields : List (F × Json)) (field : F)
    (value : Json → Option α) (default : α) : Option α :=
  match fields.lookup field with
  | none => some default
  | some j => value j

/-- The members of an object, each decoded, in written order. -/
def entries? (value : Json → Option α) : Json → Option (List (String × α))
  | .object members => members.mapM fun (name, j) => (value j).map (name, ·)
  | _ => none

end LootLedger.Json
