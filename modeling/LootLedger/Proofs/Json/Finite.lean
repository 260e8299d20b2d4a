import LootLedger.Json.Reader
import LootLedger.Proofs.Decimal.Stepwise
import LootLedger.Proofs.Outcome

/-!
# What is read is finite

A numeral beyond the doubles makes its part of the document unrepresentable, and there is no other
way to write an infinity. So all doubles of a document that was read are finite, however deep they
are nested. The induction is on the steps of the reader, for values, elements and members at once.

## Main definitions

* `Json.HasFiniteDoubles`: all doubles of a document are finite

## Main results

* `Json.hasFiniteDoubles_of_parse?`: documents that were read have finite doubles only
-/

namespace LootLedger.Json

open Text (Chars)

/-- All doubles of the document are finite. -/
inductive HasFiniteDoubles : Json → Prop
  | null : HasFiniteDoubles .null
  | bool (b : Bool) : HasFiniteDoubles (.bool b)
  | int (n : Int) : HasFiniteDoubles (.int n)
  | float {x : Float} (h : Decimal.IsFinite x) : HasFiniteDoubles (.float x)
  | text (s : String) : HasFiniteDoubles (.text s)
  | array {xs : List Json} (h : ∀ x ∈ xs, HasFiniteDoubles x) : HasFiniteDoubles (.array xs)
  | object {ms : List (String × Json)} (h : ∀ m ∈ ms, HasFiniteDoubles m.2) :
    HasFiniteDoubles (.object ms)
  | unrepresentable : HasFiniteDoubles .unrepresentable

/-! ### Numbers -/

theorem hasFiniteDoubles_floatValue {x : Option Float}
    (h : ∀ y, x = some y → Decimal.IsFinite y) : (floatValue x).HasFiniteDoubles := by
  cases x with
  | some y => exact .float (h y rfl)
  | none => exact .unrepresentable

theorem hasFiniteDoubles_number (negative : Bool) (whole : Chars) (fraction : Option Chars)
    (exponent : Option Int) : (number negative whole fraction exponent).HasFiniteDoubles := by
  rw [number]
  dsimp only
  have hfloat (word : Nat) (power : Int) :
      (floatValue (Decimal.ofWord? negative word power)).HasFiniteDoubles :=
    hasFiniteDoubles_floatValue fun _ => Decimal.isFinite_of_ofWord?
  split_ifs
  exacts [.int _, hfloat _ _, .int _, hfloat _ _]

theorem hasFiniteDoubles_of_readNumber? {s rest : Chars} {j : Json}
    (h : readNumber? s = some (j, rest)) : j.HasFiniteDoubles := by
  unfold readNumber? at h
  split at h
  obtain ⟨⟨whole, _⟩, -, h⟩ := Option.bind_eq_some_iff.mp h
  obtain ⟨⟨fraction, _⟩, -, h⟩ := Option.bind_eq_some_iff.mp h
  obtain ⟨⟨exponent, _⟩, -, h⟩ := Option.bind_eq_some_iff.mp h
  obtain ⟨rfl, -⟩ := Prod.mk.inj (Option.some.inj h)
  exact hasFiniteDoubles_number _ _ _ _

/-! ### Values -/

theorem hasFiniteDoubles_textValue (s : Option Chars) : (textValue s).HasFiniteDoubles := by
  cases s
  · exact .unrepresentable
  · exact .text _

theorem hasFiniteDoubles_objectOf {ms : List (Option String × Json)}
    (h : ∀ m ∈ ms, m.2.HasFiniteDoubles) : (objectOf ms).HasFiniteDoubles := by
  rw [objectOf]
  split
  · next members hmembers =>
    refine .object fun m hm => ?_
    obtain ⟨⟨name, j⟩, hmem, hname⟩ := exists_mem_of_mapM_eq_some hmembers hm
    obtain ⟨_, -, rfl⟩ := Option.map_eq_some_iff.mp hname
    exact h _ hmem
  · exact .unrepresentable

/-- What the three readers give in so many steps has finite doubles only. -/
structure ReadsFinite (steps : Nat) : Prop where
  value : ∀ {s j rest}, readValue? steps s = some (j, rest) → j.HasFiniteDoubles
  elements : ∀ {s xs rest}, readElements? steps s = some (xs, rest) → ∀ x ∈ xs, x.HasFiniteDoubles
  members : ∀ {s ms rest}, readMembers? steps s = some (ms, rest) → ∀ m ∈ ms, m.2.HasFiniteDoubles

namespace ReadsFinite

variable {steps : Nat} (ih : ReadsFinite steps)

include ih

theorem value_succ {s rest : Chars} {j : Json} (h : readValue? (steps + 1) s = some (j, rest)) :
    j.HasFiniteDoubles := by
  rw [readValue?] at h
  split at h
  · cases h
  · obtain ⟨_, -, h⟩ := Option.map_eq_some_iff.mp h
    obtain ⟨rfl, -⟩ := Prod.mk.inj h
    exact hasFiniteDoubles_textValue _
  · split at h
    · obtain ⟨rfl, -⟩ := Prod.mk.inj (Option.some.inj h)
      exact .array (by simp)
    · obtain ⟨_, hxs, h⟩ := Option.map_eq_some_iff.mp h
      obtain ⟨rfl, -⟩ := Prod.mk.inj h
      exact .array (ih.elements hxs)
  · split at h
    · obtain ⟨rfl, -⟩ := Prod.mk.inj (Option.some.inj h)
      exact .object (by simp)
    · obtain ⟨_, hms, h⟩ := Option.map_eq_some_iff.mp h
      obtain ⟨rfl, -⟩ := Prod.mk.inj h
      exact hasFiniteDoubles_objectOf (ih.members hms)
  · obtain ⟨_, -, h⟩ := Option.map_eq_some_iff.mp h
    obtain ⟨rfl, -⟩ := Prod.mk.inj h
    exact .null
  · obtain ⟨_, -, h⟩ := Option.map_eq_some_iff.mp h
    obtain ⟨rfl, -⟩ := Prod.mk.inj h
    exact .bool _
  · obtain ⟨_, -, h⟩ := Option.map_eq_some_iff.mp h
    obtain ⟨rfl, -⟩ := Prod.mk.inj h
    exact .bool _
  · exact hasFiniteDoubles_of_readNumber? h

theorem elements_succ {s rest : Chars} {xs : List Json}
    (h : readElements? (steps + 1) s = some (xs, rest)) : ∀ x ∈ xs, x.HasFiniteDoubles := by
  rw [readElements?] at h
  obtain ⟨⟨x, _⟩, hx, h⟩ := Option.bind_eq_some_iff.mp h
  have hx := ih.value hx
  dsimp only at h
  split at h
  · obtain ⟨⟨ys, _⟩, hys, h⟩ := Option.bind_eq_some_iff.mp h
    obtain ⟨rfl, -⟩ := Prod.mk.inj (Option.some.inj h)
    exact List.forall_mem_cons.mpr ⟨hx, ih.elements hys⟩
  · obtain ⟨rfl, -⟩ := Prod.mk.inj (Option.some.inj h)
    exact List.forall_mem_singleton.mpr hx
  · cases h

theorem members_succ {s rest : Chars} {ms : List (Option String × Json)}
    (h : readMembers? (steps + 1) s = some (ms, rest)) : ∀ m ∈ ms, m.2.HasFiniteDoubles := by
  rw [readMembers?] at h
  split at h
  · obtain ⟨⟨name, _⟩, -, h⟩ := Option.bind_eq_some_iff.mp h
    dsimp only at h
    split at h
    · obtain ⟨⟨x, _⟩, hx, h⟩ := Option.bind_eq_some_iff.mp h
      have hx := ih.value hx
      dsimp only at h
      split at h
      · obtain ⟨⟨ns, _⟩, hns, h⟩ := Option.bind_eq_some_iff.mp h
        obtain ⟨rfl, -⟩ := Prod.mk.inj (Option.some.inj h)
        exact List.forall_mem_cons.mpr ⟨hx, ih.members hns⟩
      · obtain ⟨rfl, -⟩ := Prod.mk.inj (Option.some.inj h)
        exact List.forall_mem_singleton.mpr hx
      · cases h
    · cases h
  · cases h

end ReadsFinite

theorem readsFinite (steps : Nat) : ReadsFinite steps := by
  induction steps with
  | zero => exact ⟨nofun, nofun, nofun⟩
  | succ steps ih => exact ⟨ih.value_succ, ih.elements_succ, ih.members_succ⟩

/-- **Documents that were read have finite doubles only.** -/
theorem hasFiniteDoubles_of_parse? {s : Chars} {j : Json} (h : parse? s = some j) :
    j.HasFiniteDoubles := by
  rw [parse?] at h
  obtain ⟨⟨value, rest⟩, hread, h⟩ := Option.bind_eq_some_iff.mp h
  dsimp only at h
  split at h
  · exact Option.some.inj h ▸ (readsFinite _).value hread
  · cases h

end LootLedger.Json
