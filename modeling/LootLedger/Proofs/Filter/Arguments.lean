import LootLedger.Filter.Arguments
import LootLedger.Proofs.Filter.Statement
import LootLedger.Proofs.Text.Numeral

/-!
# Arguments written and read

An operator that stands as a token of its own in front of the arguments is always read as that
operator, whatever follows it. So arguments are best written with their operator, even where it
could be left out: a text that itself looks like an operator, or begins with one, is then safe
behind it.

Operators are written with three characters. A text that begins with none of them is no part of an
operator in front of it, whether there is a blank between the two or not.

Numbers and texts are read back from what is written for them, and texts that are read can be
written: they are not empty and have no quotes.

## Main definitions

* `Filter.operatorChars`: the characters of operators
* `Filter.Comparison.argument`, `Filter.numeral`, `Filter.quotation`: operators, numbers and texts
  as arguments

## Main results

* `Filter.Comparison.split?_eq_none_iff`: the texts that begin with no operator
* `Filter.leadingOperator_detachOperator_symbol`: an operator in front is read
* `Filter.operatorAndNumber_arguments`, `Filter.textList_arguments`, `Filter.boolean_arguments`:
  what is written is read back
* `Filter.areQuotable_of_textList`: what is read can be written
-/

namespace LootLedger.Filter

open Text (Chars joinWith IsWord OnlySpaces)

/-! ### Operators -/

theorem Comparison.split?_symbol (op : Comparison) :
    split? op.symbol.toList = some (op, []) := by
  cases op <;> decide

theorem Comparison.eq_append_of_split? {token rest : Chars} {op : Comparison}
    (h : split? token = some (op, rest)) : token = op.symbol.toList ++ rest := by
  obtain ⟨op', -, h⟩ := List.exists_of_findSome?_eq_some h
  obtain ⟨rest', hrest, h⟩ := Option.map_eq_some_iff.mp h
  obtain ⟨rfl, rfl⟩ := Prod.mk.inj h
  exact Text.eq_append_of_dropPrefix? hrest

theorem Comparison.eq_symbol_of_ofSymbol? {token : Chars} {op : Comparison}
    (h : ofSymbol? token = some op) : token = op.symbol.toList := by
  have htoken := List.find?_some h
  exact (of_decide_eq_true htoken).symm

/-- The characters that operators are written with. -/
def operatorChars : Chars :=
  ['<', '>', '=']

theorem Comparison.mem_operatorChars {op : Comparison} {c : Char} (h : c ∈ op.symbol.toList) :
    c ∈ operatorChars := by
  have hall : (op.symbol.toList.all operatorChars.contains) = true := by cases op <;> decide
  simpa using List.all_eq_true.mp hall c h

theorem Comparison.symbol_ne_nil (op : Comparison) : op.symbol.toList ≠ [] := by
  cases op <;> decide

/-- An operator in front of a text is split off whole: what follows does not make it a longer
one. -/
theorem Comparison.split?_symbol_append (op : Comparison) {t : Chars}
    (ht : ∀ c ∈ t.head?, c ∉ operatorChars) : split? (op.symbol.toList ++ t) = some (op, t) := by
  cases t with
  | nil => rw [List.append_nil, split?_symbol]
  | cons c t =>
    have hc : c ≠ '<' ∧ c ≠ '>' ∧ c ≠ '=' := by simpa [operatorChars] using ht c rfl
    cases op <;>
      simp [split?, all, symbol, Text.dropPrefix?, Ne.symm hc.2.2]

/-- A text begins with an operator if its first character is of one. -/
theorem Comparison.split?_eq_none_iff {t : Chars} :
    split? t = none ↔ ∀ c ∈ t.head?, c ∉ operatorChars := by
  constructor
  · intro h c hc hmem
    obtain ⟨s, rfl⟩ : ∃ s, t = c :: s := List.head?_eq_some_iff.mp hc
    simp only [split?, List.findSome?_eq_none_iff, Option.map_eq_none_iff] at h
    simp only [operatorChars, List.mem_cons, List.not_mem_nil, or_false] at hmem
    obtain rfl | rfl | rfl := hmem
    · exact absurd (h .less (by decide)) (by simp [symbol, Text.dropPrefix?])
    · exact absurd (h .greater (by decide)) (by simp [symbol, Text.dropPrefix?])
    · exact absurd (h .equal (by decide)) (by simp [symbol, Text.dropPrefix?])
  · intro h
    cases hsplit : split? t with
    | none => rfl
    | some found =>
      obtain ⟨op, rest⟩ := found
      rw [eq_append_of_split? hsplit, List.head?_append_of_ne_nil _ op.symbol_ne_nil] at h
      obtain ⟨c, s, hsymbol⟩ := List.exists_cons_of_ne_nil op.symbol_ne_nil
      rw [hsymbol] at h
      exact absurd (mem_operatorChars (hsymbol ▸ List.mem_cons_self)) (h c rfl)

/-- A text behind an operator is not part of it. -/
theorem Comparison.ofSymbol?_symbol_append_cons (op : Comparison) {c : Char}
    (hc : c ∉ operatorChars) (t : Chars) : ofSymbol? (op.symbol.toList ++ c :: t) = none := by
  cases h : ofSymbol? (op.symbol.toList ++ c :: t) with
  | none => rfl
  | some op' =>
    have hsymbol := eq_symbol_of_ofSymbol? h
    exact absurd (mem_operatorChars (hsymbol ▸ List.mem_append_right _ List.mem_cons_self)) hc

theorem leadingOperator_symbol (op : Comparison) (tokens : List Chars) :
    leadingOperator (op.symbol.toList :: tokens) = (some op, tokens) := by
  rw [leadingOperator, Comparison.ofSymbol?_symbol]

theorem detachOperator_symbol (op : Comparison) (tokens : List Chars) :
    detachOperator (op.symbol.toList :: tokens) = op.symbol.toList :: tokens := by
  rw [detachOperator, Comparison.split?_symbol]

/-- An operator written against a token is cut off. -/
theorem detachOperator_symbol_append (op : Comparison) {c : Char} (hc : c ∉ operatorChars)
    (t : Chars) (tokens : List Chars) : detachOperator ((op.symbol.toList ++ c :: t) :: tokens) =
      op.symbol.toList :: (c :: t) :: tokens := by
  have hsplit := op.split?_symbol_append (t := c :: t) fun d hd => by
    obtain rfl : c = d := Option.some.inj hd
    exact hc
  rw [detachOperator, hsplit]

/-- **An operator in front is read**, whatever follows it. -/
theorem leadingOperator_detachOperator_symbol (op : Comparison) (tokens : List Chars) :
    leadingOperator (detachOperator (op.symbol.toList :: tokens)) = (some op, tokens) := by
  rw [detachOperator_symbol, leadingOperator_symbol]

/-- Without an operator in front the tokens stay as they are. -/
theorem leadingOperator_detachOperator_of_split?_eq_none {token : Chars} (tokens : List Chars)
    (h : Comparison.split? token = none) :
    leadingOperator (detachOperator (token :: tokens)) = (none, token :: tokens) := by
  have hsymbol : Comparison.ofSymbol? token = none := by
    cases hop : Comparison.ofSymbol? token with
    | none => rfl
    | some op =>
      rw [Comparison.eq_symbol_of_ofSymbol? hop, Comparison.split?_symbol] at h
      cases h
  rw [detachOperator, h]
  simp only [leadingOperator, hsymbol]

/-- Tokens come back whole from the search for an operator if they begin with none. -/
theorem snd_leadingOperator_detachOperator_eq_iff {token : Chars} {tokens : List Chars} :
    (leadingOperator (detachOperator (token :: tokens))).2 = token :: tokens ↔
      Comparison.split? token = none := by
  constructor
  · intro h
    cases hsplit : Comparison.split? token with
    | none => rfl
    | some found =>
      obtain ⟨op, rest⟩ := found
      obtain rfl := Comparison.eq_append_of_split? hsplit
      cases rest with
      | nil =>
        rw [List.append_nil, leadingOperator_detachOperator_symbol] at h
        exact absurd h.symm (List.cons_ne_self _ _)
      | cons c rest =>
        rw [detachOperator, hsplit] at h
        dsimp only at h
        rw [leadingOperator_symbol] at h
        exact absurd (by simpa using (List.cons.inj h).1) op.symbol_ne_nil
  · intro h
    rw [leadingOperator_detachOperator_of_split?_eq_none tokens h]

theorem mem_of_mem_leadingOperator {tokens : List Chars} {t : Chars}
    (h : t ∈ (leadingOperator tokens).2) : t ∈ tokens := by
  unfold leadingOperator at h
  split at h
  · exact h
  · split at h
    · exact List.mem_cons_of_mem _ h
    · exact h

/-- What stands behind an operator is a token, or the rest of one. -/
theorem forall_leadingOperator_detachOperator {P : Chars → Prop}
    (hrest : ∀ s t, t ≠ [] → P (s ++ t) → P t) {tokens : List Chars} (h : ∀ t ∈ tokens, P t) :
    ∀ t ∈ (leadingOperator (detachOperator tokens)).2, P t := by
  cases tokens with
  | nil => intro t ht; cases ht
  | cons token tokens =>
    intro t ht
    rw [detachOperator] at ht
    split at ht
    · next op c rest hsplit =>
      rw [leadingOperator_symbol] at ht
      rcases List.mem_cons.mp ht with rfl | ht
      · have htoken := h token List.mem_cons_self
        rw [Comparison.eq_append_of_split? hsplit] at htoken
        exact hrest _ _ (List.cons_ne_nil _ _) htoken
      · exact h t (List.mem_cons_of_mem _ ht)
    · exact h t (mem_of_mem_leadingOperator ht)

theorem IsQuotable.of_append {s t : Chars} (hne : t ≠ []) (h : IsQuotable (s ++ t)) :
    IsQuotable t where
  ne_nil := hne
  quote_notMem := fun hq => h.quote_notMem (List.mem_append_right s hq)
  onlySpaces := h.onlySpaces.subset (List.subset_append_right s t)

/-! ### Operators, numbers and texts as arguments -/

/-- An operator as an argument. -/
def Comparison.argument (op : Comparison) : Argument :=
  .bare op.symbol.toList

/-- A number as an argument. -/
def numeral (n : Nat) : Argument :=
  .bare (Text.digits n)

/-- A name as an argument. -/
def word (s : String) : Argument :=
  .bare s.toList

/-- A text as an argument. -/
def quotation (s : String) : Argument :=
  .quoted s.toList

theorem Comparison.isKeyword_symbol (op : Comparison) : IsKeyword op.symbol.toList := by
  cases op <;> decide

theorem Comparison.isWritable_argument (op : Comparison) : op.argument.IsWritable :=
  op.isKeyword_symbol

theorem isWritable_numeral (n : Nat) : (numeral n).IsWritable := by
  have hdigit : ∀ c ∈ Text.digits n, Text.isDigit c = true := fun c => Text.isDigit_of_mem_digits
  have h : IsKeyword (Text.digits n) :=
    ⟨⟨Text.digits_ne_nil n, fun c hc => Text.isBlank_eq_false_of_isDigit (hdigit c hc)⟩,
      fun hc => absurd (hdigit _ hc) (by decide), fun hc => absurd (hdigit _ hc) (by decide)⟩
  exact h

/-- A list of texts as a condition holds it: not empty, and all of them can be written. -/
def AreQuotable (values : List String) : Prop :=
  values ≠ [] ∧ ∀ v ∈ values, IsQuotable v.toList

instance (values : List String) : Decidable (AreQuotable values) :=
  inferInstanceAs (Decidable (_ ∧ _))

/-! ### Reading what is written -/

/-- The words of bare arguments. -/
theorem words_arguments {as : List Argument} (h : ∀ a ∈ as, IsWord a.chars) :
    Text.words (joinWith ' ' (as.map Argument.chars)) = as.map Argument.chars :=
  Text.words_joinWith (by simpa using h)

theorem quotedTokens_arguments {as : List Argument} (h : ∀ a ∈ as, a.IsWritable) :
    quotedTokens (joinWith ' ' (as.map Argument.chars)) = .ok (as.map Argument.token) := by
  rw [quotedTokens, Argument.splitQuoted_joinWith fun a ha => (h a ha).isOneToken]
  rfl

theorem number_digits (n : UInt32) : number (Text.digits n.toNat) = .ok n := by
  have hle : n.toNat ≤ Text.max32 := Nat.le_sub_one_of_lt n.toNat_lt
  rw [number, Text.readNat?_digits hle]
  exact congrArg Except.ok (UInt32.ofNat_toNat)

theorem operatorAndNumber_arguments (keyword : String) (op : Comparison) (n : UInt32) :
    operatorAndNumber keyword
      (joinWith ' ' ([op.argument, numeral n.toNat].map Argument.chars)) = .ok (op, n) := by
  have hop : IsWord op.argument.chars := IsKeyword.isWord op.isWritable_argument
  have hn : IsWord (numeral n.toNat).chars := IsKeyword.isWord (isWritable_numeral n.toNat)
  rw [operatorAndNumber, words_arguments (by simpa using ⟨hop, hn⟩)]
  simp only [List.map_cons, List.map_nil, Comparison.argument, numeral, Argument.chars,
    detachOperator_symbol, Comparison.ofSymbol?_symbol, number_digits]
  rfl

/-- The operator before texts of which one has to occur, or to be the whole. -/
def textOperator (exact : Bool) : Comparison :=
  if exact then .exactEqual else .equal

theorem textList_arguments (keyword : String) (exact : Bool) {values : List String}
    (h : AreQuotable values) :
    textList keyword (joinWith ' '
      (((textOperator exact).argument :: values.map quotation).map Argument.chars)) =
        .ok (exact, values) := by
  have hwritable : ∀ a ∈ (textOperator exact).argument :: values.map quotation, a.IsWritable := by
    simpa using ⟨Comparison.isWritable_argument _, h.2⟩
  have htokens : ((textOperator exact).argument :: values.map quotation).map Argument.token =
      (textOperator exact).symbol.toList :: values.map String.toList := by
    simp [Comparison.argument, quotation, Argument.token, Function.comp_def]
  have hstrings : (values.map String.toList).map String.ofList = values := by
    simp [Function.comp_def]
  have hne : values.map String.toList ≠ [] := by simpa using h.1
  rw [textList, quotedTokens_arguments hwritable, htokens]
  cases exact with
  | false =>
    simp only [textOperator, bind, Except.bind, leadingOperator_detachOperator_symbol,
      Bool.false_eq_true, if_false, if_neg hne, hstrings]
    rfl
  | true =>
    simp only [textOperator, bind, Except.bind, leadingOperator_detachOperator_symbol,
      if_true, if_neg hne, hstrings]
    rfl

/-- A truth value as an argument. -/
def truthValue (value : Bool) : Argument :=
  .bare (if value then "True" else "False").toList

theorem isWritable_truthValue (value : Bool) : (truthValue value).IsWritable := by
  have h : IsKeyword (if value then "True" else "False").toList := by cases value <;> decide
  exact h

theorem boolean_arguments (keyword : String) (value : Bool) :
    boolean keyword (joinWith ' ' ([truthValue value].map Argument.chars)) = .ok value := by
  cases value <;> rfl

/-! ### What is read can be written -/

theorem isQuotable_of_mem_quotedTokens {arguments : Chars} {tokens : List Chars}
    (hs : OnlySpaces arguments) (h : quotedTokens arguments = .ok tokens) :
    ∀ t ∈ tokens, IsQuotable t := by
  unfold quotedTokens at h
  dsimp only at h
  split at h
  · cases h
  · obtain rfl := Except.ok.inj h
    exact isQuotable_of_mem_splitQuoted hs

theorem isQuotable_of_mem_leadingOperator {tokens : List Chars} (h : ∀ t ∈ tokens, IsQuotable t) :
    ∀ t ∈ (leadingOperator (detachOperator tokens)).2, IsQuotable t :=
  forall_leadingOperator_detachOperator (fun _ _ hne h => h.of_append hne) h

theorem areQuotable_map_ofList {tokens : List Chars} (hne : tokens ≠ [])
    (h : ∀ t ∈ tokens, IsQuotable t) : AreQuotable (tokens.map String.ofList) := by
  refine ⟨by simpa using hne, fun v hv => ?_⟩
  obtain ⟨t, ht, rfl⟩ := List.mem_map.mp hv
  rw [String.toList_ofList]
  exact h t ht

/-- Texts that are read are the tokens behind the operator. -/
theorem exists_tokens_of_textList {keyword : String} {arguments : Chars} {exact : Bool}
    {values : List String} (h : textList keyword arguments = .ok (exact, values)) :
    ∃ tokens, quotedTokens arguments = .ok tokens ∧
      (leadingOperator (detachOperator tokens)).2 ≠ [] ∧
      values = (leadingOperator (detachOperator tokens)).2.map String.ofList := by
  obtain ⟨tokens, htokens, h⟩ := exists_of_bind_eq_ok h
  refine ⟨tokens, htokens, ?_⟩
  generalize leadingOperator (detachOperator tokens) = split at h
  obtain ⟨op, rest⟩ := split
  by_cases hne : rest = []
  · subst hne
    rcases op with _ | op
    · cases h
    · cases op <;> cases h
  · refine ⟨hne, ?_⟩
    simp only [if_neg hne] at h
    rcases op with _ | op
    · cases h
      rfl
    · cases op <;> cases h <;> rfl

theorem areQuotable_of_textList {keyword : String} {arguments : Chars} {exact : Bool}
    {values : List String} (hs : OnlySpaces arguments)
    (h : textList keyword arguments = .ok (exact, values)) : AreQuotable values := by
  obtain ⟨tokens, htokens, hne, hvalues⟩ := exists_tokens_of_textList h
  rw [hvalues]
  exact areQuotable_map_ofList hne
    (isQuotable_of_mem_leadingOperator (isQuotable_of_mem_quotedTokens hs htokens))

end LootLedger.Filter
