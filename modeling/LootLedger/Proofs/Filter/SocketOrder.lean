import LootLedger.Filter.Sockets
import LootLedger.Proofs.Text.Frequency

/-!
# The order of operators on socket groups

A sought group asks for several comparisons at once: one of the sizes, and one for each sought
colour. The sizes are compared as the operator says. The colours are compared by a rule of the
operator's own, which is again a comparison of numbers: `=` asks for as many, as `>=` does, and `<`
for no more, as `<=` does. Only `==` without a size asks for something else besides, namely that
there are no other colours.

So every question about two operators, or about two groups, comes down to numbers. A group that fits
still fits under another operator, or gives way to another group that fits, if each of the
comparisons goes over. That is one lemma, `Fits.imp`, and the rest is reading off which comparisons
of numbers go over.

## Main definitions

* `Filter.Comparison.onColours`: how an operator compares the numbers of sockets of a colour
* `Filter.SocketSpec.Fits`: the comparisons that a sought group asks for
* `Filter.Comparison.Refines`: an operator that asks for more of numbers than another one
* `Filter.Comparison.weakenings`: the operators that ask for more than others

## Main results

* `Filter.SocketSpec.fits_iff`: a group fits if all comparisons hold
* `Filter.SocketSpec.fits_inOrder`: which operators ask for more than others
-/

namespace LootLedger.Filter

open Text (Chars)

/-! ### Comparisons of numbers -/

namespace Comparison

/-- How the numbers of sockets of one colour are compared. -/
def onColours : Comparison → Comparison
  | less | lessEqual => lessEqual
  | equal | greaterEqual => greaterEqual
  | exactEqual => exactEqual
  | greater => greater

/-- Whatever compares under the first operator compares under the second. -/
def Refines (op op' : Comparison) : Prop :=
  ∀ m n, op.holds m n = true → op'.holds m n = true

/-- Pairs of operators of which the first asks for more than the second. -/
def weakenings : List (Comparison × Comparison) :=
  [(greater, greaterEqual), (less, lessEqual), (exactEqual, equal), (exactEqual, greaterEqual),
    (exactEqual, lessEqual), (equal, greaterEqual)]

/-- The first operator asks for more of sizes, and of the numbers of sockets of a colour. -/
theorem refines_of_mem_weakenings {op op' : Comparison} (h : (op, op') ∈ weakenings) :
    op.Refines op' ∧ op.onColours.Refines op'.onColours := by
  simp only [weakenings, List.mem_cons, Prod.mk.injEq, List.not_mem_nil, or_false] at h
  obtain ⟨rfl, rfl⟩ | ⟨rfl, rfl⟩ | ⟨rfl, rfl⟩ | ⟨rfl, rfl⟩ | ⟨rfl, rfl⟩ | ⟨rfl, rfl⟩ := h
  all_goals
    constructor
    all_goals
      intro m n hholds
      simp only [onColours, holds, decide_eq_true_eq] at hholds ⊢
      omega

/-- A number is not both above another one and at most that. -/
theorem not_greater_and_lessEqual (m n : Nat) :
    ¬ (greater.holds m n = true ∧ lessEqual.holds m n = true) := by
  simp only [holds, decide_eq_true_eq]
  omega

end Comparison

/-! ### The comparisons that a sought group asks for -/

namespace SocketSpec

/-- The comparisons of a group with a sought one. -/
structure Fits (spec : SocketSpec) (op : Comparison) (group : Chars) : Prop where
  size : ∀ n, spec.count = some n → op.holds group.length n = true
  colours : ∀ c ∈ spec.colours.toList,
    op.onColours.holds (group.count c) (spec.colours.toList.count c) = true
  /-- Colours alone under `==` are all that the group has. -/
  others : op = .exactEqual → spec.count = none → spec.colours ≠ "" →
    ∀ c ∈ group, c ∈ spec.colours.toList

/-- The colours are compared one by one, except that `==` without a size compares all of them. -/
theorem fits_eq (spec : SocketSpec) (op : Comparison) (group : Chars) :
    spec.fits op group = (spec.count.all (fun n => op.holds group.length n) &&
      (spec.colours = "" ||
        if op = .exactEqual ∧ spec.count = none then
          Text.frequencies group == Text.frequencies spec.colours.toList
        else (Text.frequencies spec.colours.toList).all fun e =>
          op.onColours.holds (Text.frequencyOf (Text.frequencies group) e.1) e.2)) := by
  obtain ⟨count, colours⟩ := spec
  cases op with
  | exactEqual => cases count <;> rfl
  | _ => rfl

/-- **A group fits** if all comparisons hold. -/
theorem fits_iff {spec : SocketSpec} {op : Comparison} {group : Chars} :
    spec.fits op group = true ↔ spec.Fits op group := by
  have hsize : (spec.count.all fun n => op.holds group.length n) = true ↔
      ∀ n, spec.count = some n → op.holds group.length n = true := by
    cases spec.count <;> simp
  have hnone (hnil : spec.colours = "") : ∀ c, c ∉ spec.colours.toList := by
    simp [hnil]
  rw [fits_eq, Bool.and_eq_true, Bool.or_eq_true, decide_eq_true_eq, hsize]
  by_cases hexact : op = .exactEqual ∧ spec.count = none
  · -- Without colours nothing is compared, and with colours they are all that the group may have.
    have hperm : (Text.frequencies group == Text.frequencies spec.colours.toList) = true ↔
        (∀ c ∈ spec.colours.toList, op.onColours.holds (group.count c)
          (spec.colours.toList.count c) = true) ∧ ∀ c ∈ group, c ∈ spec.colours.toList := by
      rw [beq_iff_eq, Text.frequencies_eq_iff_perm, Text.perm_iff_forall_mem_count_eq, hexact.1]
      simp only [Comparison.onColours, Comparison.holds, decide_eq_true_eq]
    rw [if_pos hexact, hperm]
    constructor
    · rintro ⟨hs, hnil | ⟨hcolours, hothers⟩⟩
      · exact ⟨hs, fun c hc => absurd hc (hnone hnil c), fun _ _ hne => absurd hnil hne⟩
      · exact ⟨hs, hcolours, fun _ _ _ => hothers⟩
    · intro h
      refine ⟨h.size, or_iff_not_imp_left.mpr fun hne => ⟨h.colours, ?_⟩⟩
      exact h.others hexact.1 hexact.2 hne
  · have hall : ((Text.frequencies spec.colours.toList).all fun e =>
        op.onColours.holds (Text.frequencyOf (Text.frequencies group) e.1) e.2) = true ↔
          ∀ c ∈ spec.colours.toList, op.onColours.holds (group.count c)
            (spec.colours.toList.count c) = true := by
      simp only [List.all_eq_true, Text.frequencyOf_frequencies]
      exact Text.forall_mem_frequencies_iff (P := fun c n =>
        op.onColours.holds (group.count c) n = true)
    rw [if_neg hexact, hall]
    constructor
    · rintro ⟨hs, hcolours⟩
      refine ⟨hs, fun c hc => ?_, fun hop hcount => absurd ⟨hop, hcount⟩ hexact⟩
      exact hcolours.elim (fun hnil => absurd hc (hnone hnil c)) fun h => h c hc
    · intro h
      exact ⟨h.size, .inr h.colours⟩

/-! ### Comparisons that go over -/

/-- **A group gives way to another one**, and an operator to another one, if each comparison goes
over. Only `==` cannot be the other operator, since it asks for something else. -/
theorem Fits.imp {spec : SocketSpec} {op op' : Comparison} {group group' : Chars}
    (h : spec.Fits op group) (hop' : op' ≠ .exactEqual)
    (hsize : ∀ n, spec.count = some n → op.holds group.length n = true →
      op'.holds group'.length n = true)
    (hcolours : ∀ c n, op.onColours.holds (group.count c) n = true →
      op'.onColours.holds (group'.count c) n = true) :
    spec.Fits op' group' where
  size n hn := hsize n hn (h.size n hn)
  colours c hc := hcolours c _ (h.colours c hc)
  others heq := absurd heq hop'

/-- An operator that asks for more of numbers asks for more of groups. -/
theorem fits_of_mem_weakenings {spec : SocketSpec} {op op' : Comparison} {group : Chars}
    (hmem : (op, op') ∈ Comparison.weakenings) (h : spec.fits op group = true) :
    spec.fits op' group = true := by
  obtain ⟨hsize, hcolours⟩ := Comparison.refines_of_mem_weakenings hmem
  have hop' : op' ≠ .exactEqual := by
    rintro rfl
    have hnone : ∀ p ∈ Comparison.weakenings, p.2 ≠ .exactEqual := by decide
    exact hnone _ hmem rfl
  rw [fits_iff] at h ⊢
  exact h.imp hop' (fun n _ => hsize _ n) fun c n => hcolours _ n

/-- A sought group without a size and without colours fits everything. -/
theorem fits_of_asks_nothing {spec : SocketSpec} (hcount : spec.count = none)
    (hcolours : spec.colours = "") (op : Comparison) (group : Chars) :
    spec.fits op group = true := by
  simp [fits, hcount, hcolours]

/-- **Which operators ask for more than others.** For every group and every sought one, `>` asks
for more than `>=`, `<` for more than `<=`, and `==` for more than `=`, `>=` and `<=`; and `=` asks
for more than `>=`. A group fits under `>` and under `<=` both only if nothing is asked of it. -/
theorem fits_inOrder (spec : SocketSpec) (group : Chars) :
    (spec.fits .greater group → spec.fits .greaterEqual group) ∧
      (spec.fits .less group → spec.fits .lessEqual group) ∧
      (spec.fits .exactEqual group →
        spec.fits .equal group ∧ spec.fits .greaterEqual group ∧ spec.fits .lessEqual group) ∧
      (spec.fits .equal group → spec.fits .greaterEqual group) ∧
      (spec.fits .greater group ∧ spec.fits .lessEqual group ↔
        spec.count = none ∧ spec.colours = "") := by
  refine ⟨?_, ?_, ?_, ?_, ?_⟩
  · exact fits_of_mem_weakenings (by decide)
  · exact fits_of_mem_weakenings (by decide)
  · intro h
    refine ⟨?_, ?_, ?_⟩
    · exact fits_of_mem_weakenings (by decide) h
    · exact fits_of_mem_weakenings (by decide) h
    · exact fits_of_mem_weakenings (by decide) h
  · exact fits_of_mem_weakenings (by decide)
  · constructor
    · rintro ⟨habove, hbelow⟩
      rw [fits_iff] at habove hbelow
      constructor
      · refine Option.eq_none_iff_forall_ne_some.mpr fun n hn => ?_
        exact Comparison.not_greater_and_lessEqual _ _ ⟨habove.size n hn, hbelow.size n hn⟩
      · rw [← String.toList_eq_nil_iff, List.eq_nil_iff_forall_not_mem]
        intro c hc
        exact Comparison.not_greater_and_lessEqual _ _ ⟨habove.colours c hc, hbelow.colours c hc⟩
    · rintro ⟨hcount, hcolours⟩
      exact ⟨fits_of_asks_nothing hcount hcolours _ _, fits_of_asks_nothing hcount hcolours _ _⟩

/-- A group of three with exactly two red sockets. -/
theorem fits_inOrder_two_red :
    let spec : SocketSpec := ⟨some 3, "RR"⟩
    let group := "RGR".toList
    spec.fits .exactEqual group = true ∧
      (spec.fits .equal group = true ∧ spec.fits .greaterEqual group = true ∧
        spec.fits .lessEqual group = true) ∧
      ¬ (spec.fits .greater group = true ∧ spec.fits .lessEqual group = true) := by
  intro spec group
  have hfits : spec.fits .exactEqual group = true := by decide
  obtain ⟨-, -, hexact, -, hboth⟩ := fits_inOrder spec group
  exact ⟨hfits, hexact hfits, fun h => absurd (hboth.mp h).1 (by decide)⟩

end SocketSpec

end LootLedger.Filter
