import LootLedger.Proofs.Text.Numeral

/-!
# Texts taken apart from the end

Parts of a text that are put together without anything to mark them off are told apart again if the
end of the text shows where the last part begins. There are two ways in which it can. The last part
begins behind a character, and neither of two last parts ends with that character and the other one.
Or the last part is of one kind of characters, and what is in front of it ends in another kind.

In front of the last part anything may stand, the same character or another such part included.

## Main results

* `Text.append_cons_inj_of_not_suffix`, `Text.append_cons_inj_of_notMem`: behind a character
* `Text.append_inj_of_getLast?`: behind a character of another kind
* `Text.append_cons_digits_inj`: a number at the end
-/

namespace LootLedger.Text

variable {α : Type} {s t u v : List α} {c : α}

/-! ### Behind a character -/

/-- Where both last parts are cut off behind a character, they are the same or one ends with the
character and the other one. -/
theorem eq_nil_or_suffix_of_cons_eq_append {a : List α} (h : c :: u = a ++ c :: v) :
    a = [] ∨ c :: v <:+ u := by
  cases a with
  | nil => exact .inl rfl
  | cons d a => exact .inr ⟨a, (List.cons.inj h).2.symm⟩

/-- **A last part behind a character** can be told, if it ends with the character and the other
last part neither way. -/
theorem append_cons_inj_of_not_suffix (hu : ¬ c :: v <:+ u) (hv : ¬ c :: u <:+ v) :
    s ++ c :: u = t ++ c :: v ↔ s = t ∧ u = v := by
  constructor
  · intro h
    obtain ⟨a, rfl, ha⟩ | ⟨a, rfl, ha⟩ := List.append_eq_append_iff.mp h
    · obtain rfl := (eq_nil_or_suffix_of_cons_eq_append ha).resolve_right hu
      exact ⟨(List.append_nil s).symm, (List.cons.inj ha).2⟩
    · obtain rfl := (eq_nil_or_suffix_of_cons_eq_append ha).resolve_right hv
      exact ⟨List.append_nil t, (List.cons.inj ha).2.symm⟩
  · rintro ⟨rfl, rfl⟩
    rfl

/-- A last part behind the last such character can be told. -/
theorem append_cons_inj_of_notMem (hu : c ∉ u) (hv : c ∉ v) :
    s ++ c :: u = t ++ c :: v ↔ s = t ∧ u = v :=
  append_cons_inj_of_not_suffix (fun h => hu (h.subset List.mem_cons_self))
    fun h => hv (h.subset List.mem_cons_self)

/-! ### Behind a character of another kind -/

section

variable {p : α → Bool}

/-- A text that ends in one kind of characters has nothing of the other kind at its end. -/
theorem eq_nil_of_getLast?_append {a : List α} (hs : ∀ c ∈ (s ++ a).getLast?, p c = true)
    (ha : ∀ c ∈ a, p c = false) : a = [] := by
  by_contra hne
  have hlast : (s ++ a).getLast? = some (a.getLast hne) := by
    rw [List.getLast?_append, List.getLast?_eq_some_getLast hne]
    rfl
  have htrue := hs _ hlast
  rw [ha _ (List.getLast_mem hne)] at htrue
  cases htrue

/-- **A last part of one kind** can be told, if what is in front of it ends in the other kind. -/
theorem append_inj_of_getLast? (hs : ∀ c ∈ s.getLast?, p c = true)
    (ht : ∀ c ∈ t.getLast?, p c = true) (hu : ∀ c ∈ u, p c = false) (hv : ∀ c ∈ v, p c = false) :
    s ++ u = t ++ v ↔ s = t ∧ u = v := by
  constructor
  · intro h
    obtain ⟨a, rfl, rfl⟩ | ⟨a, rfl, rfl⟩ := List.append_eq_append_iff.mp h
    · obtain rfl := eq_nil_of_getLast?_append ht fun c hc => hu c (List.mem_append_left _ hc)
      exact ⟨(List.append_nil s).symm, rfl⟩
    · obtain rfl := eq_nil_of_getLast?_append hs fun c hc => hv c (List.mem_append_left _ hc)
      exact ⟨List.append_nil t, rfl⟩
  · rintro ⟨rfl, rfl⟩
    rfl

end

/-! ### Numbers at the end -/

theorem digits_injective : Function.Injective digits :=
  Function.LeftInverse.injective ofDigits_digits

/-- A text with a numeral at the end ends in a digit. -/
theorem isDigit_of_mem_getLast? (s : Chars) (c : Char) (n : Nat) :
    ∀ d ∈ (s ++ c :: digits n).getLast?, isDigit d = true := by
  intro d hd
  have hne : digits n ≠ [] := digits_ne_nil n
  rw [List.append_cons, List.getLast?_append, List.getLast?_eq_some_getLast hne] at hd
  obtain rfl : (digits n).getLast hne = d := Option.some.inj hd
  exact isDigit_of_mem_digits (List.getLast_mem hne)

/-- **A number behind a character** other than a digit can be told. -/
theorem append_cons_digits_inj {s t : Chars} {c : Char} (hc : isDigit c = false) {m n : Nat} :
    s ++ c :: digits m = t ++ c :: digits n ↔ s = t ∧ m = n := by
  have hplain (n : Nat) : c ∉ digits n := by
    intro hmem
    rw [isDigit_of_mem_digits hmem] at hc
    cases hc
  rw [append_cons_inj_of_notMem (hplain m) (hplain n), digits_injective.eq_iff]

end LootLedger.Text
