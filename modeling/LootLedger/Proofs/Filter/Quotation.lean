import LootLedger.Proofs.Filter.OpenBlock
import LootLedger.Proofs.Filter.Rendering.Condition

/-!
# Texts in quotes

Quotes are to make a text an argument as it stands, with its spaces and its number signs. Behind an
operator they do: whatever the texts are, the condition holds just these.

In front of all texts, where no operator is needed, they do not. Quotes are taken off before an
operator is looked for, and so the first text must not look like one. Where it begins with an
operator, the line says the same as one with that operator in front of what is left of the text.

## Main definitions

* `Filter.TextSubject`: what a list of texts can be asked of
* `Filter.TextSubject.line`: texts in quotes behind a keyword and perhaps an operator

## Main results

* `Filter.TextSubject.agreeInBlock_line`: an operator in the first quotes is read as one in front
* `Filter.TextSubject.addsInBlock_quotations`: when texts in quotes are taken as they stand
-/

namespace LootLedger.Filter

open Text (Chars joinWith)

/-- What a list of texts can be asked of: a field of the item, or the prophecy it holds. -/
inductive TextSubject
  | field (field : TextField)
  | prophecy
  deriving DecidableEq, Repr

namespace TextSubject

/-- The family of the conditions on the subject. -/
def kind : TextSubject → ConditionKind
  | field f => .text f
  | prophecy => .prophecy

/-- That the subject contains one of the texts, or is one of them if `exact`. -/
def condition : TextSubject → Bool → List String → Condition
  | field f => .text f
  | prophecy => .prophecy

/-- The texts in quotes, behind an operator if there is one. -/
def arguments (op : Option Comparison) (values : List String) : List Argument :=
  op.toList.map Comparison.argument ++ values.map quotation

/-- A line that asks for texts in quotes. -/
def line (subject : TextSubject) (op : Option Comparison) (values : List String) : Chars :=
  writtenLine subject.kind.keyword (arguments op values)

example : (field .baseType).line (some .exactEqual) ["Onyx Amulet", "#1"] =
    "BaseType == \"Onyx Amulet\" \"#1\"".toList := by
  decide

section

variable (subject : TextSubject) {op : Option Comparison} {values : List String}

theorem read_eq_map_textList (s : Chars) : subject.kind.read s =
    (textList subject.kind.keyword s).map fun found => subject.condition found.1 found.2 := by
  cases subject <;> exact bind_pure_eq_map _ _

theorem condition_inj {exact exact' : Bool} {values' : List String} :
    subject.condition exact values = subject.condition exact' values' ↔
      (exact, values) = (exact', values') := by
  cases subject <;> simp [condition]

theorem isWritable_arguments (op : Option Comparison) (h : ∀ v ∈ values, IsQuotable v.toList) :
    ∀ a ∈ arguments op values, a.IsWritable := by
  intro a ha
  rcases List.mem_append.mp ha with ha | ha
  · obtain ⟨op', -, rfl⟩ := List.mem_map.mp ha
    exact op'.isWritable_argument
  · obtain ⟨v, hv, rfl⟩ := List.mem_map.mp ha
    exact h v hv

theorem quotedTokens_arguments (op : Option Comparison) (h : ∀ v ∈ values, IsQuotable v.toList) :
    quotedTokens (joinWith ' ' ((arguments op values).map Argument.chars)) =
      .ok ((op.toList.map fun op => op.symbol.toList) ++ values.map String.toList) := by
  rw [Filter.quotedTokens_arguments (isWritable_arguments op h), arguments, List.map_append,
    List.map_map, List.map_map]
  rfl

/-- The texts of a line are read by the one reader of lists of texts. -/
theorem readStatement_line (op : Option Comparison) (h : ∀ v ∈ values, IsQuotable v.toList) :
    readStatement true (subject.line op values) =
      ((textList subject.kind.keyword
        (joinWith ' ' ((arguments op values).map Argument.chars))).map
          fun found => subject.condition found.1 found.2).map .condition := by
  have hreadable := areReadable_of_isWritable (isWritable_arguments op h)
  rw [line, readStatement_of_shapeOf true (shapeOf_writtenLine subject.kind.isKeyword hreadable),
    readCode_conditionKind, if_pos rfl, read_eq_map_textList]

theorem addsInBlock_line_iff (h : ∀ v ∈ values, IsQuotable v.toList) (exact : Bool) :
    AddsInBlock (subject.line op values) (subject.condition exact values) ↔
      textList subject.kind.keyword (joinWith ' ' ((arguments op values).map Argument.chars)) =
        .ok (exact, values) := by
  rw [addsInBlock_iff, readStatement_line subject op h]
  cases textList subject.kind.keyword (joinWith ' ' ((arguments op values).map Argument.chars)) with
  | error problem => exact ⟨nofun, nofun⟩
  | ok found => simp [Except.map, condition_inj]

/-- Without an operator in front, texts are read as they stand if the first begins with none. -/
theorem textList_quotations_iff (keyword : String) (h : AreQuotable values) :
    textList keyword (joinWith ' ' ((arguments none values).map Argument.chars)) =
        .ok (false, values) ↔
      ∀ v ∈ values.head?, ∀ c ∈ v.toList.head?, c ∉ operatorChars := by
  obtain ⟨v, vs, rfl⟩ := List.exists_cons_of_ne_nil h.1
  have htokens : quotedTokens (joinWith ' ' ((arguments none (v :: vs)).map Argument.chars)) =
      .ok (v.toList :: vs.map String.toList) :=
    quotedTokens_arguments none h.2
  have hstrings : (v.toList :: vs.map String.toList).map String.ofList = v :: vs := by
    simp [Function.comp_def]
  have hhead : (∀ w ∈ (v :: vs).head?, ∀ c ∈ w.toList.head?, c ∉ operatorChars) ↔
      Comparison.split? v.toList = none := by
    rw [Comparison.split?_eq_none_iff]
    exact ⟨fun h => h v rfl, fun h w hw => Option.some.inj hw ▸ h⟩
  rw [hhead]
  constructor
  · intro hread
    obtain ⟨tokens, htokens', -, hvalues⟩ := exists_tokens_of_textList hread
    obtain rfl := Except.ok.inj (htokens.symm.trans htokens')
    have hinj : Function.Injective (List.map String.ofList) :=
      List.map_injective_iff.mpr fun _ _ => String.ofList_injective
    exact snd_leadingOperator_detachOperator_eq_iff.mp (hinj (hvalues.symm.trans hstrings.symm))
  · intro hsplit
    have hplain := leadingOperator_detachOperator_of_split?_eq_none (vs.map String.toList) hsplit
    rw [textList, htokens]
    simp only [bind, Except.bind, hplain, if_neg (List.cons_ne_nil _ _), hstrings]
    rfl

/-- **An operator in the first quotes** is read as one in front of what is left of the text. -/
theorem agreeInBlock_line (op : Comparison) {rest : String}
    (hrest : ∀ c ∈ rest.toList.head?, c ∉ operatorChars)
    (h : ∀ v ∈ rest :: values, IsQuotable v.toList) :
    AgreeInBlock (subject.line none ((op.symbol ++ rest) :: values))
      (subject.line (some op) (rest :: values)) := by
  obtain ⟨hrestQuotable, hvalues⟩ := List.forall_mem_cons.mp h
  obtain ⟨c, t, hct⟩ := List.exists_cons_of_ne_nil hrestQuotable.ne_nil
  have hc : c ∉ operatorChars := hrest c (by rw [hct]; rfl)
  have hwhole : ∀ v ∈ (op.symbol ++ rest) :: values, IsQuotable v.toList := by
    refine List.forall_mem_cons.mpr ⟨?_, hvalues⟩
    rw [String.toList_append]
    exact op.isKeyword_symbol.isQuotable.append hrestQuotable
  refine agreeInBlock_of_readStatement_eq ?_
  rw [readStatement_line subject none hwhole, readStatement_line subject (some op) h]
  have hplain : quotedTokens
      (joinWith ' ' ((arguments none ((op.symbol ++ rest) :: values)).map Argument.chars)) =
        .ok ((op.symbol.toList ++ c :: t) :: values.map String.toList) := by
    rw [quotedTokens_arguments none hwhole, ← hct, ← String.toList_append]
    rfl
  have hfront : quotedTokens
      (joinWith ' ' ((arguments (some op) (rest :: values)).map Argument.chars)) =
        .ok (op.symbol.toList :: (c :: t) :: values.map String.toList) := by
    rw [quotedTokens_arguments (some op) h, ← hct]
    rfl
  simp only [textList, hplain, hfront, bind, Except.bind, detachOperator_symbol_append op hc,
    detachOperator_symbol]

/-- **Texts in quotes are taken as they stand** behind the operator for whole texts. Without an
operator they are if the first of them begins with none. -/
theorem addsInBlock_quotations (h : AreQuotable values) :
    AddsInBlock (subject.line (some .exactEqual) values) (subject.condition true values) ∧
      (AddsInBlock (subject.line none values) (subject.condition false values) ↔
        ∀ v ∈ values.head?, ∀ c ∈ v.toList.head?, c ∉ operatorChars) := by
  rw [addsInBlock_line_iff subject h.2, addsInBlock_line_iff subject h.2]
  exact ⟨textList_arguments _ true h, textList_quotations_iff _ h⟩

end

theorem addsInBlock_quotations_signs :
    AreQuotable ["A # B", "=x"] ∧
      AddsInBlock ((field .baseType).line (some .exactEqual) ["A # B", "=x"])
        (.text .baseType true ["A # B", "=x"]) ∧
      AddsInBlock ((field .baseType).line none ["A # B", "=x"])
        (.text .baseType false ["A # B", "=x"]) := by
  have hquotable : AreQuotable ["A # B", "=x"] := by decide
  obtain ⟨hexact, hplain⟩ := addsInBlock_quotations (field .baseType) hquotable
  refine ⟨hquotable, hexact, hplain.mpr fun v hv c hc => ?_⟩
  obtain rfl : "A # B" = v := Option.some.inj hv
  obtain rfl : 'A' = c := Option.some.inj hc
  decide

/-- The equals sign in the quotes is lost: the class asked for is another one. -/
theorem not_addsInBlock_equalRings :
    AreQuotable ["=Rings"] ∧
      ¬ AddsInBlock ((field .itemClass).line none ["=Rings"])
        (.text .itemClass false ["=Rings"]) := by
  refine ⟨by decide, fun h => ?_⟩
  have hline : readStatement true ((field .itemClass).line none ["=Rings"]) =
      .ok (.condition (.text .itemClass false ["Rings"])) := by rfl
  rw [addsInBlock_iff, hline] at h
  exact absurd h (by decide)

end TextSubject

end LootLedger.Filter
