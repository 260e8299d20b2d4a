/-!
# JSON documents

A JSON document as a tree. Members of an object keep their written order and may repeat a name:
which of two equal names counts, or whether the document is refused, is the business of whoever
reads a value out of the tree.

A document can be well formed and still hold a scalar that stands for no value: a number beyond
the doubles, or a string with half of a surrogate pair. Such a part is `unrepresentable`. It does
no harm where nobody looks at it.

## Main definitions

* `Json`: the tree
* `Json.representable`: no part is unrepresentable, and nesting stays within a limit
-/

namespace LootLedger

/-- A JSON document. -/
inductive Json
  | null
  | bool (b : Bool)
  /-- A number written without fraction and exponent, within 64 bits. -/
  | int (n : Int)
  | float (x : Float)
  | text (s : String)
  | array (elements : List Json)
  | object (members : List (String × Json))
  /-- A well-formed part that stands for no value. -/
  | unrepresentable
  deriving Inhabited

namespace Json

mutual

/-- Every part stands for a value, and arrays and objects are nested at most `levels` deep. -/
def representable : Nat → Json → Bool
  | _, .unrepresentable => false
  | 0, .array _ => false
  | 0, .object _ => false
  | levels + 1, .array xs => representableAll levels xs
  | levels + 1, .object ms => representableMembers levels ms
  | _, _ => true

/-- Every element is representable. -/
def representableAll : Nat → List Json → Bool
  | _, [] => true
  | levels, x :: xs => representable levels x && representableAll levels xs

/-- Every member's value is representable. -/
def representableMembers : Nat → List (String × Json) → Bool
  | _, [] => true
  | levels, (_, x) :: ms => representable levels x && representableMembers levels ms

end

/-- The members of an object in ascending order of their names, equal names in written order. -/
def sortMembers (members : List (String × Json)) : List (String × Json) :=
  members.mergeSort fun a b => a.1 ≤ b.1

end Json

end LootLedger
