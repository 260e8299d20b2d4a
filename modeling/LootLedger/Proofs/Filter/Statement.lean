import LootLedger.Filter.Document
import LootLedger.Proofs.Filter.Line
import LootLedger.Proofs.Outcome

/-!
# What a line says

A keyword decides by itself which reader its arguments go to: the keywords of blocks, conditions
and actions are all different, so each of them is looked up as what it is. `readCode_cases` is the
inverse: all that an accepted line can be.

## Main definitions

* `Filter.opening?`: the visibility of the block that a line opens

## Main results

* `Filter.readCode_visibility`, `Filter.readCode_continueKeyword`, `Filter.readCode_conditionKind`,
  `Filter.readCode_actionKind`: each keyword goes to its reader
* `Filter.readCode_of_notMem_keywords`: any other word is unknown
* `Filter.readCode_cases`: what an accepted line can be
* `Filter.readStatement_eq_block_iff`: the lines that open a block
-/

namespace LootLedger.Filter

open Text (Chars)

/-! ### Keywords -/

theorem ConditionKind.mem_all (kind : ConditionKind) : kind ∈ all := by
  cases kind with
  | numeric field => cases field <;> decide
  | text field => cases field <;> decide
  | flag field => cases field <;> decide
  | sockets mode => cases mode <;> decide
  | _ => decide

theorem ActionKind.mem_all (kind : ActionKind) : kind ∈ all := by
  cases kind with
  | alertSound positional => cases positional <;> decide
  | _ => decide

theorem isKeyword_iff {keyword : Chars} : IsKeyword keyword ↔ keyword ≠ [] ∧
    keyword.all (fun c => !Text.isBlank c && c != '"' && c != '#') = true := by
  simp only [List.all_eq_true, Bool.and_eq_true, Bool.not_eq_true', bne_iff_ne]
  constructor
  · rintro ⟨⟨hne, hblank⟩, hquote, hsign⟩
    exact ⟨hne, fun c hc => ⟨⟨hblank c hc, fun h => hquote (h ▸ hc)⟩, fun h => hsign (h ▸ hc)⟩⟩
  · rintro ⟨hne, hall⟩
    exact ⟨⟨hne, fun c hc => (hall c hc).1.1⟩, fun hc => (hall _ hc).1.2 rfl,
      fun hc => (hall _ hc).2 rfl⟩

instance (keyword : Chars) : Decidable (IsKeyword keyword) :=
  decidable_of_iff _ isKeyword_iff.symm

theorem Visibility.isKeyword (v : Visibility) : IsKeyword v.keyword.toList := by
  cases v <;> decide

theorem ConditionKind.isKeyword (kind : ConditionKind) : IsKeyword kind.keyword.toList := by
  have h : ∀ kind ∈ all, IsKeyword kind.keyword.toList := by decide +kernel
  exact h kind kind.mem_all

theorem ActionKind.isKeyword (kind : ActionKind) : IsKeyword kind.keyword.toList := by
  have h : ∀ kind ∈ all, IsKeyword kind.keyword.toList := by decide +kernel
  exact h kind kind.mem_all

theorem ConditionKind.ofKeyword?_keyword (kind : ConditionKind) :
    ofKeyword? kind.keyword.toList = some kind := by
  have h : ∀ kind ∈ all, ofKeyword? kind.keyword.toList = some kind := by decide +kernel
  exact h kind kind.mem_all

theorem ActionKind.ofKeyword?_keyword (kind : ActionKind) :
    ofKeyword? kind.keyword.toList = some kind := by
  have h : ∀ kind ∈ all, ofKeyword? kind.keyword.toList = some kind := by decide +kernel
  exact h kind kind.mem_all

theorem ConditionKind.keyword_of_ofKeyword? {word : Chars} {kind : ConditionKind}
    (h : ofKeyword? word = some kind) : word = kind.keyword.toList := by
  have := List.find?_some h
  exact (of_decide_eq_true this).symm

theorem ActionKind.keyword_of_ofKeyword? {word : Chars} {kind : ActionKind}
    (h : ofKeyword? word = some kind) : word = kind.keyword.toList := by
  have := List.find?_some h
  exact (of_decide_eq_true this).symm

/-! ### From a keyword to its reader -/

/-- The word opens or ends a block. -/
def IsBlockKeyword (word : Chars) : Prop :=
  word = Visibility.display.keyword.toList ∨ word = Visibility.conceal.keyword.toList ∨
    word = "Continue".toList

instance (word : Chars) : Decidable (IsBlockKeyword word) :=
  inferInstanceAs (Decidable (_ ∨ _ ∨ _))

theorem ConditionKind.not_isBlockKeyword (kind : ConditionKind) :
    ¬ IsBlockKeyword kind.keyword.toList := by
  have h : ∀ kind ∈ all, ¬ IsBlockKeyword kind.keyword.toList := by decide +kernel
  exact h kind kind.mem_all

theorem ActionKind.not_isBlockKeyword (kind : ActionKind) :
    ¬ IsBlockKeyword kind.keyword.toList := by
  have h : ∀ kind ∈ all, ¬ IsBlockKeyword kind.keyword.toList := by decide +kernel
  exact h kind kind.mem_all

theorem ActionKind.condition_ofKeyword? (kind : ActionKind) :
    ConditionKind.ofKeyword? kind.keyword.toList = none := by
  have h : ∀ kind ∈ all, ConditionKind.ofKeyword? kind.keyword.toList = none := by decide +kernel
  exact h kind kind.mem_all

theorem readCode_visibility (inBlock : Bool) (v : Visibility) (arguments : Chars) :
    readCode inBlock v.keyword.toList arguments =
      readBareLine v.keyword arguments (.block v) := by
  cases v <;> rfl

theorem readCode_continueKeyword (inBlock : Bool) (arguments : Chars) :
    readCode inBlock "Continue".toList arguments =
      (readBareLine "Continue" arguments .continue).bind fun s =>
        if inBlock then .ok s else .error .continueOutsideRule :=
  rfl

/-- **The keyword of a condition** goes to its reader in a block, and is refused elsewhere. -/
theorem readCode_conditionKind (inBlock : Bool) (kind : ConditionKind) (arguments : Chars) :
    readCode inBlock kind.keyword.toList arguments =
      if inBlock then (kind.read arguments).map .condition
      else .error (.noOpenRule kind.keyword) := by
  have hblock := kind.not_isBlockKeyword
  rw [IsBlockKeyword, not_or, not_or] at hblock
  rw [readCode, if_neg hblock.1, if_neg hblock.2.1, if_neg hblock.2.2, kind.ofKeyword?_keyword]
  dsimp only
  rw [bind_pure_eq_map]

/-- **The keyword of an action** goes to its reader in a block, and is refused elsewhere. -/
theorem readCode_actionKind (inBlock : Bool) (kind : ActionKind) (arguments : Chars) :
    readCode inBlock kind.keyword.toList arguments =
      if inBlock then (kind.read arguments).map .action
      else .error (.noOpenRule kind.keyword) := by
  have hblock := kind.not_isBlockKeyword
  rw [IsBlockKeyword, not_or, not_or] at hblock
  rw [readCode, if_neg hblock.1, if_neg hblock.2.1, if_neg hblock.2.2, kind.condition_ofKeyword?,
    kind.ofKeyword?_keyword]
  dsimp only
  rw [bind_pure_eq_map]

/-- A bare keyword opens a block, wherever it stands. -/
theorem readCode_block (inBlock : Bool) (v : Visibility) :
    readCode inBlock v.keyword.toList [] = .ok (.block v) :=
  readCode_visibility inBlock v []

/-- A bare keyword ends an open block. -/
theorem readCode_continue : readCode true "Continue".toList [] = .ok .continue := rfl

theorem readCode_condition {kind : ConditionKind} {arguments : Chars} {c : Condition}
    (h : kind.read arguments = .ok c) :
    readCode true kind.keyword.toList arguments = .ok (.condition c) := by
  rw [readCode_conditionKind, if_pos rfl, h]
  rfl

theorem readCode_action {kind : ActionKind} {arguments : Chars} {a : Action}
    (h : kind.read arguments = .ok a) :
    readCode true kind.keyword.toList arguments = .ok (.action a) := by
  rw [readCode_actionKind, if_pos rfl, h]
  rfl

theorem ConditionKind.ofKeyword?_eq_none_iff {word : Chars} :
    ofKeyword? word = none ↔ ∀ kind : ConditionKind, word ≠ kind.keyword.toList := by
  simp only [ofKeyword?, List.find?_eq_none, decide_eq_true_eq, ne_comm]
  exact ⟨fun h kind => h kind kind.mem_all, fun h kind _ => h kind⟩

theorem ActionKind.ofKeyword?_eq_none_iff {word : Chars} :
    ofKeyword? word = none ↔ ∀ kind : ActionKind, word ≠ kind.keyword.toList := by
  simp only [ofKeyword?, List.find?_eq_none, decide_eq_true_eq, ne_comm]
  exact ⟨fun h kind => h kind kind.mem_all, fun h kind _ => h kind⟩

/-- The keywords are those of the families and the ones that open or end a block. -/
theorem ofList_mem_keywords_iff {word : Chars} : String.ofList word ∈ keywords ↔
    (∃ kind : ConditionKind, word = kind.keyword.toList) ∨
    (∃ kind : ActionKind, word = kind.keyword.toList) ∨ IsBlockKeyword word := by
  have hword {k : String} : String.ofList word = k ↔ word = k.toList :=
    ⟨fun h => h ▸ String.toList_ofList.symm, fun h => h ▸ String.ofList_toList⟩
  have hcondition : String.ofList word ∈ conditionKeywords ↔
      ∃ kind : ConditionKind, word = kind.keyword.toList := by
    simp [conditionKeywords, eq_comm, hword, ConditionKind.mem_all]
  have haction : String.ofList word ∈ actionKeywords ↔
      ∃ kind : ActionKind, word = kind.keyword.toList := by
    simp [actionKeywords, eq_comm, hword, ActionKind.mem_all]
  have hblock : String.ofList word ∈ blockKeywords ↔ IsBlockKeyword word := by
    simp only [blockKeywords, IsBlockKeyword, List.mem_cons, List.not_mem_nil, or_false, hword]
  rw [keywords, List.mem_append, List.mem_append, hcondition, haction, hblock, or_assoc]

/-- **A word that is no keyword** is unknown, whatever follows it. -/
theorem readCode_of_notMem_keywords {word : Chars} (h : String.ofList word ∉ keywords)
    (inBlock : Bool) (arguments : Chars) : readCode inBlock word arguments =
      .error (.unknownKeyword (String.ofList word) (suggestion? word)) := by
  rw [ofList_mem_keywords_iff, not_or, not_or, not_exists, not_exists] at h
  obtain ⟨hcondition, haction, hblock⟩ := h
  rw [IsBlockKeyword, not_or, not_or] at hblock
  rw [readCode, if_neg hblock.1, if_neg hblock.2.1, if_neg hblock.2.2,
    ConditionKind.ofKeyword?_eq_none_iff.mpr hcondition]
  dsimp only
  rw [ActionKind.ofKeyword?_eq_none_iff.mpr haction]

theorem readStatement_of_shapeOf {line keyword arguments : Chars} (inBlock : Bool)
    (h : shapeOf line = .code keyword arguments) :
    readStatement inBlock line = readCode inBlock keyword arguments := by
  rw [readStatement, h]

theorem readStatement_visibility (inBlock : Bool) (v : Visibility) :
    readStatement inBlock v.keyword.toList = .ok (.block v) := by
  have hshape : shapeOf v.keyword.toList = .code v.keyword.toList [] :=
    @shapeOf_cons_joinWith _ [] v.isKeyword (List.forall_mem_nil _)
      (List.forall_mem_nil _) rfl
  rw [readStatement_of_shapeOf inBlock hshape, readCode_block]

theorem readStatement_continue : readStatement true "Continue".toList = .ok .continue := by
  have hshape : shapeOf "Continue".toList = .code "Continue".toList [] := by decide
  rw [readStatement_of_shapeOf true hshape, readCode_continue]

/-! ### Lines that open a block -/

/-- The visibility of the block that a line opens. -/
def opening? (line : Chars) : Option Visibility :=
  match shapeOf line with
  | .code keyword [] => [Visibility.display, .conceal].find? fun v => v.keyword.toList = keyword
  | _ => none

theorem opening?_eq_some_iff {line : Chars} {v : Visibility} :
    opening? line = some v ↔ shapeOf line = .code v.keyword.toList [] := by
  constructor
  · intro h
    unfold opening? at h
    split at h
    · next keyword hshape =>
      have hv : v.keyword.toList = keyword := by simpa using List.find?_some h
      rw [hshape, hv]
    · cases h
  · intro h
    rw [opening?, h]
    cases v <;> decide

/-! ### What an accepted line can be -/

theorem readBareLine_eq_ok {keyword : String} {arguments : Chars} {s s' : Statement}
    (h : readBareLine keyword arguments s = .ok s') : Text.words arguments = [] ∧ s' = s := by
  unfold readBareLine at h
  split at h
  · next hwords => exact ⟨hwords, (Except.ok.inj h).symm⟩
  · cases h

/-- **What an accepted keyword can say.** It opens a block, or else it stands in an open one and
ends it or adds what its reader makes of its arguments. -/
theorem readCode_cases {inBlock : Bool} {word arguments : Chars} {s : Statement}
    (h : readCode inBlock word arguments = .ok s) :
    (∃ v : Visibility, word = v.keyword.toList ∧ Text.words arguments = [] ∧ s = .block v) ∨
    inBlock = true ∧
      (word = "Continue".toList ∧ Text.words arguments = [] ∧ s = .continue ∨
      (∃ (kind : ConditionKind) (c : Condition), word = kind.keyword.toList ∧
        kind.read arguments = .ok c ∧ s = .condition c) ∨
      ∃ (kind : ActionKind) (a : Action), word = kind.keyword.toList ∧
        kind.read arguments = .ok a ∧ s = .action a) := by
  by_cases hmem : String.ofList word ∈ keywords
  · rcases ofList_mem_keywords_iff.mp hmem with ⟨kind, rfl⟩ | ⟨kind, rfl⟩ | rfl | rfl | rfl
    · rw [readCode_conditionKind] at h
      split at h
      · next hin =>
        obtain ⟨c, hc, rfl⟩ := map_eq_ok_iff.mp h
        exact .inr ⟨hin, .inr (.inl ⟨kind, c, rfl, hc, rfl⟩)⟩
      · cases h
    · rw [readCode_actionKind] at h
      split at h
      · next hin =>
        obtain ⟨a, ha, rfl⟩ := map_eq_ok_iff.mp h
        exact .inr ⟨hin, .inr (.inr ⟨kind, a, rfl, ha, rfl⟩)⟩
      · cases h
    · rw [readCode_visibility] at h
      obtain ⟨hwords, rfl⟩ := readBareLine_eq_ok h
      exact .inl ⟨.display, rfl, hwords, rfl⟩
    · rw [readCode_visibility] at h
      obtain ⟨hwords, rfl⟩ := readBareLine_eq_ok h
      exact .inl ⟨.conceal, rfl, hwords, rfl⟩
    · rw [readCode_continueKeyword] at h
      obtain ⟨s', hs', h⟩ := exists_of_bind_eq_ok h
      obtain ⟨hwords, rfl⟩ := readBareLine_eq_ok hs'
      split at h
      · next hin => exact .inr ⟨hin, .inl ⟨rfl, hwords, (Except.ok.inj h).symm⟩⟩
      · cases h
  · rw [readCode_of_notMem_keywords hmem] at h
    cases h

/-- What can be said in a block only. -/
def Statement.needsBlock : Statement → Bool
  | .continue | .condition _ | .action _ => true
  | .blank | .comment | .block _ => false

theorem inBlock_of_needsBlock {inBlock : Bool} {line : Chars} {s : Statement}
    (h : readStatement inBlock line = .ok s) (hs : s.needsBlock = true) : inBlock = true := by
  unfold readStatement at h
  split at h
  · obtain rfl := Except.ok.inj h
    cases hs
  · obtain rfl := Except.ok.inj h
    cases hs
  · rcases readCode_cases h with ⟨v, -, -, rfl⟩ | ⟨hin, -⟩
    · cases hs
    · exact hin

/-- **A line opens a block wherever it stands**, and no other line does. -/
theorem readStatement_eq_block_iff {inBlock : Bool} {line : Chars} {v : Visibility} :
    readStatement inBlock line = .ok (.block v) ↔ opening? line = some v := by
  rw [opening?_eq_some_iff]
  constructor
  · intro h
    unfold readStatement at h
    split at h
    · cases h
    · cases h
    · next keyword arguments hshape =>
      rcases readCode_cases h with ⟨v', hword, hwords, hv⟩ | ⟨-, ⟨-, -, hs⟩ | ⟨_, _, -, -, hs⟩ |
        ⟨_, _, -, -, hs⟩⟩
      · obtain rfl := Statement.block.inj hv
        rcases eq_nil_or_isTrimmed_of_shapeOf hshape with hnil | htrim
        · rw [hshape, hword, hnil]
        · exact absurd hwords htrim.words_ne_nil
      all_goals cases hs
  · intro h
    rw [readStatement_of_shapeOf inBlock h, readCode_block]

theorem opening?_eq_none {inBlock : Bool} {line : Chars}
    (h : ∀ v, readStatement inBlock line ≠ .ok (.block v)) : opening? line = none :=
  Option.eq_none_iff_forall_ne_some.mpr fun v hv => h v (readStatement_eq_block_iff.mpr hv)

end LootLedger.Filter
