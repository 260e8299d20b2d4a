import LootLedger.Proofs.Filter.Statement

/-!
# What a keyword is refused for

The reader of a keyword has been chosen by the keyword, so it never doubts it. Whatever it refuses,
it refuses for one of the arguments or for their number, and where the reason names a keyword it is
the keyword of the line. Readers are built of few parts, and each part is said to refuse for such
reasons only, whatever keyword it works for.

What else a keyword can be refused for is its place: most of them stand in a block.

## Main definitions

* `Filter.Problem.IsOfArguments`: a problem with the arguments of a keyword
* `Filter.Problem.IsOfKeyword`: a problem with its arguments or with its place

## Main results

* `Filter.ConditionKind.refusedFor_read`, `Filter.ActionKind.refusedFor_read`: the readers refuse
  for problems with the arguments of their keyword
* `Filter.refusedFor_readCode`: what a keyword is refused for
-/

namespace LootLedger.Filter

open Text (Chars)

/-- The problem is with the arguments of the keyword. -/
@[simp] def Problem.IsOfArguments (keyword : String) : Problem → Prop
  | unexpectedEndOfLine k | argumentCount k _ _ | invalidArgument k _ => k = keyword
  | invalidNumber _ | invalidBoolean _ | invalidRarity _ | invalidOperator _ | unterminatedString
  | invalidSocketSpec _ | invalidInfluence _ | invalidColor _ => True
  | unknownKeyword _ _ | noOpenRule _ | continueOutsideRule | invalidSocketMode _
  | areaLevelNotSet => False

section

variable (keyword : String) (arguments token : Chars)

/-! ### Parts of readers -/

@[simp] theorem refusedFor_number :
    RefusedFor (Problem.IsOfArguments keyword) (number token) := by
  rw [number]
  split <;> simp

@[simp] theorem refusedFor_quotedTokens :
    RefusedFor (Problem.IsOfArguments keyword) (quotedTokens arguments) := by
  simp [quotedTokens]

@[simp] theorem refusedFor_operatorAndNumber :
    RefusedFor (Problem.IsOfArguments keyword) (operatorAndNumber keyword arguments) := by
  rw [operatorAndNumber]
  split
  · simp
  · simp
  · split <;> simp
  · simp

@[simp] theorem refusedFor_textList :
    RefusedFor (Problem.IsOfArguments keyword) (textList keyword arguments) := by
  rw [textList, refusedFor_bind_iff]
  refine ⟨refusedFor_quotedTokens keyword arguments, fun tokens _ => ?_⟩
  dsimp only
  split <;> simp

@[simp] theorem refusedFor_boolean :
    RefusedFor (Problem.IsOfArguments keyword) (boolean keyword arguments) := by
  rw [boolean]
  generalize leadingOperator (detachOperator (Text.words arguments)) = found
  obtain ⟨op, values⟩ := found
  rcases values with _ | ⟨value, _ | _⟩ <;> dsimp only <;> split <;> simp

@[simp] theorem refusedFor_oneOf (allowed : List String) :
    RefusedFor (Problem.IsOfArguments keyword) (oneOf keyword allowed token) := by
  rw [oneOf]
  split <;> simp

@[simp] theorem refusedFor_readBareLine (statement : Statement) :
    RefusedFor (Problem.IsOfArguments keyword) (readBareLine keyword arguments statement) := by
  rw [readBareLine]
  split <;> simp

/-! ### Conditions -/

@[simp] theorem refusedFor_rarityName :
    RefusedFor (Problem.IsOfArguments keyword) (rarityName token) := by
  rw [rarityName]
  split <;> simp

@[simp] theorem refusedFor_influenceName :
    RefusedFor (Problem.IsOfArguments keyword) (influenceName token) := by
  rw [influenceName]
  split <;> simp

@[simp] theorem refusedFor_socketSpec :
    RefusedFor (Problem.IsOfArguments keyword) (socketSpec token) := by
  rw [socketSpec]
  split <;> simp

@[simp] theorem refusedFor_readRarity :
    RefusedFor (Problem.IsOfArguments keyword) (readRarity keyword arguments) := by
  rw [readRarity]
  split <;> simp [RefusedFor.mapM]

@[simp] theorem refusedFor_readSockets (mode : SocketMode) :
    RefusedFor (Problem.IsOfArguments keyword) (readSockets keyword mode arguments) := by
  simp [readSockets, RefusedFor.mapM]

@[simp] theorem refusedFor_readExplicitMods :
    RefusedFor (Problem.IsOfArguments keyword) (readExplicitMods keyword arguments) := by
  rw [readExplicitMods, refusedFor_bind_iff]
  refine ⟨refusedFor_quotedTokens keyword arguments, fun tokens _ => ?_⟩
  split <;> simp

@[simp] theorem refusedFor_readInfluence :
    RefusedFor (Problem.IsOfArguments keyword) (readInfluence keyword arguments) := by
  rw [readInfluence, refusedFor_bind_iff]
  refine ⟨refusedFor_quotedTokens keyword arguments, fun tokens _ => ?_⟩
  dsimp only
  split <;> simp [RefusedFor.mapM]

/-! ### Actions -/

@[simp] theorem refusedFor_component :
    RefusedFor (Problem.IsOfArguments keyword) (component token) := by
  simp [component]

@[simp] theorem refusedFor_readColour :
    RefusedFor (Problem.IsOfArguments keyword) (readColour keyword arguments) := by
  rw [readColour]
  split <;> simp

@[simp] theorem refusedFor_readFontSize :
    RefusedFor (Problem.IsOfArguments keyword) (readFontSize keyword arguments) := by
  rw [readFontSize]
  split <;> simp

@[simp] theorem refusedFor_readAlertSound (positional : Bool) :
    RefusedFor (Problem.IsOfArguments keyword) (readAlertSound keyword positional arguments) := by
  rw [readAlertSound]
  split <;> simp

@[simp] theorem refusedFor_readSoundFile :
    RefusedFor (Problem.IsOfArguments keyword) (readSoundFile keyword arguments) := by
  rw [readSoundFile, refusedFor_bind_iff]
  refine ⟨refusedFor_quotedTokens keyword arguments, fun tokens _ => ?_⟩
  split <;> simp

@[simp] theorem refusedFor_readBare (action : Action) :
    RefusedFor (Problem.IsOfArguments keyword) (readBare keyword action arguments) := by
  rw [readBare]
  split <;> simp

@[simp] theorem refusedFor_iconSize :
    RefusedFor (Problem.IsOfArguments keyword) (iconSize keyword token) := by
  unfold iconSize
  split <;> simp

@[simp] theorem refusedFor_readIcon :
    RefusedFor (Problem.IsOfArguments keyword) (readIcon keyword arguments) := by
  rw [readIcon]
  split <;> simp

@[simp] theorem refusedFor_readEffect :
    RefusedFor (Problem.IsOfArguments keyword) (readEffect keyword arguments) := by
  rw [readEffect]
  split <;> simp [effectColour]

end

/-! ### Keywords -/

/-- **The reader of a condition** refuses for the arguments of its keyword. -/
theorem ConditionKind.refusedFor_read (kind : ConditionKind) (arguments : Chars) :
    RefusedFor (Problem.IsOfArguments kind.keyword) (kind.read arguments) := by
  cases kind <;> simp [read]

/-- **The reader of an action** refuses for the arguments of its keyword. -/
theorem ActionKind.refusedFor_read (kind : ActionKind) (arguments : Chars) :
    RefusedFor (Problem.IsOfArguments kind.keyword) (kind.read arguments) := by
  cases kind <;> simp [read]

/-- The problem is with the arguments of the keyword, or it stands in no block and has to. -/
def Problem.IsOfKeyword (inBlock : Bool) (keyword : String) (p : Problem) : Prop :=
  p.IsOfArguments keyword ∨ inBlock = false ∧ (p = .continueOutsideRule ∨ p = .noOpenRule keyword)

theorem isOfKeyword_of_isOfArguments {α : Type} {keyword : String} {x : Except Problem α}
    (h : RefusedFor (Problem.IsOfArguments keyword) x) (inBlock : Bool) :
    RefusedFor (Problem.IsOfKeyword inBlock keyword) x :=
  h.mono fun _ => .inl

/-- **What a keyword is refused for**, wherever it stands and whatever follows it. -/
theorem refusedFor_readCode {word : Chars} (h : String.ofList word ∈ keywords) (inBlock : Bool)
    (arguments : Chars) : RefusedFor (Problem.IsOfKeyword inBlock (String.ofList word))
      (readCode inBlock word arguments) := by
  have hbare (keyword : String) (s : Statement) := isOfKeyword_of_isOfArguments
    (refusedFor_readBareLine keyword arguments s) inBlock
  rcases ofList_mem_keywords_iff.mp h with ⟨kind, rfl⟩ | ⟨kind, rfl⟩ | rfl | rfl | rfl <;>
    rw [String.ofList_toList]
  · rw [readCode_conditionKind]
    split
    · exact refusedFor_map_iff.mpr (isOfKeyword_of_isOfArguments (kind.refusedFor_read _) _)
    · next hout => simp [Problem.IsOfKeyword, hout]
  · rw [readCode_actionKind]
    split
    · exact refusedFor_map_iff.mpr (isOfKeyword_of_isOfArguments (kind.refusedFor_read _) _)
    · next hout => simp [Problem.IsOfKeyword, hout]
  · exact readCode_visibility inBlock .display arguments ▸ hbare _ _
  · exact readCode_visibility inBlock .conceal arguments ▸ hbare _ _
  · rw [readCode_continueKeyword]
    refine refusedFor_bind_iff.mpr ⟨hbare _ _, fun s _ => ?_⟩
    split
    · exact refusedFor_ok s
    · next hout => simp [Problem.IsOfKeyword, hout]

end LootLedger.Filter
