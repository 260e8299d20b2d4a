import LootLedger.Proofs.Filter.WellFormed

/-!
# Actions written out

Every well-formed action can be written as a line that says it. A displayed font size stands for
several requested ones, so there are several such lines, one for each requested size that is
displayed as it. A sound is written as it stands, and as any quotes in it need not be closed, only
its own number signs are known to begin no comment; what may follow it has none.

## Main definitions

* `Filter.Action.arguments`, `Filter.Action.IsLine`: what is written, and the lines of an action

## Main results

* `Filter.Action.read_arguments`: the reader of an action reads its arguments back
* `Filter.Action.readStatement_of_isLine`: every line of an action is read back
* `Filter.Action.exists_isLine`: there is such a line
-/

namespace LootLedger.Filter

open Text (Chars joinWith IsWord OnlySpaces)

/-! ### What is written -/

/-- The size of an icon as written. -/
def IconSize.argument : IconSize → Argument
  | large => .bare ['0']
  | medium => .bare ['1']
  | small => .bare ['2']

/-- The components of a colour as arguments. -/
def Colour.arguments (colour : Colour) : List Argument :=
  [numeral colour.red.toNat, numeral colour.green.toNat, numeral colour.blue.toNat,
    numeral colour.alpha.toNat]

/-- The arguments of an action; a font size is written as a requested one. -/
def Action.arguments (requested : UInt32) : Action → List Argument
  | .backgroundColor colour | .borderColor colour | .textColor colour => colour.arguments
  | .fontSize _ => [numeral requested.toNat]
  | .alertSound sound none _ => [word sound]
  | .alertSound sound (some volume) _ => [word sound, numeral volume]
  | .customAlertSound file => [quotation file]
  | .disableDropSound | .enableDropSound => []
  | .noMinimapIcon => [.bare ['-', '1']]
  | .minimapIcon size colour shape => [size.argument, word colour, word shape]
  | .playEffect colour false => [word colour]
  | .playEffect colour true => [word colour, word "Temp"]

/-- A line of an action. A font size may be written as any requested one that is displayed as it. -/
def Action.IsLine (a : Action) (line : Chars) : Prop :=
  ∃ requested : UInt32, (∀ size, a = .fontSize size → displayFontSize requested.toNat = size) ∧
    line = writtenLine a.keyword (a.arguments requested)

/-! ### Actions read back -/

theorem component_digits (n : UInt8) : component (Text.digits n.toNat) = .ok n := by
  have hle : n.toUInt32.toNat ≤ 255 := by
    have := n.toNat_lt
    rw [UInt8.toNat_toUInt32]
    omega
  rw [← UInt8.toNat_toUInt32 n, component, number_digits]
  simp only [bind, Except.bind, if_pos hle]
  exact congrArg Except.ok n.toUInt8_toUInt32

theorem isWord_numeral (n : Nat) : IsWord (numeral n).chars :=
  IsKeyword.isWord (isWritable_numeral n)

theorem readColour_arguments (keyword : String) (colour : Colour) :
    readColour keyword (joinWith ' ' (colour.arguments.map Argument.chars)) = .ok colour := by
  have hwords : ∀ a ∈ colour.arguments, IsWord a.chars := by
    simp [Colour.arguments, isWord_numeral]
  rw [readColour, words_arguments hwords]
  simp only [Colour.arguments, List.map_cons, List.map_nil, numeral, Argument.chars,
    component_digits]
  rfl

theorem oneOf_of_mem {allowed : List String} {s : String} (keyword : String) (h : s ∈ allowed) :
    oneOf keyword allowed s.toList = .ok s := by
  unfold oneOf
  cases hfind : allowed.find? fun t => decide (t.toList = s.toList) with
  | none =>
    have := List.find?_eq_none.mp hfind s h
    simp at this
  | some t =>
    have ht := List.find?_some hfind
    exact congrArg Except.ok (String.toList_inj.mp (of_decide_eq_true ht))

theorem readFontSize_arguments (keyword : String) {requested : UInt32} {size : Nat}
    (h : displayFontSize requested.toNat = size) :
    readFontSize keyword (joinWith ' ' ([numeral requested.toNat].map Argument.chars)) =
      .ok (.fontSize size) := by
  rw [readFontSize, words_arguments (by simp [isWord_numeral])]
  simp only [List.map_cons, List.map_nil, numeral, Argument.chars, number_digits, ← h]
  rfl

theorem readAlertSound_arguments (keyword : String) (positional : Bool) {sound : String}
    (volume : Option Nat) (hsound : IsSound sound.toList) (hvolume : ∀ v ∈ volume, v ≤ maxVolume)
    (requested : UInt32) :
    readAlertSound keyword positional (joinWith ' '
      (((Action.alertSound sound volume positional).arguments requested).map Argument.chars)) =
        .ok (.alertSound sound volume positional) := by
  have hword : IsWord (word sound).chars := hsound.isWord
  cases volume with
  | none =>
    rw [readAlertSound, Action.arguments, words_arguments (by simpa using hword)]
    simp only [List.map_cons, List.map_nil, word, Argument.chars, String.ofList_toList]
  | some v =>
    have hle : v ≤ 300 := hvolume v rfl
    have hlt : v < UInt32.size := Nat.lt_of_le_of_lt hle (by decide)
    have hv : (UInt32.ofNat v).toNat = v := UInt32.toNat_ofNat_of_lt' hlt
    have hnumber : number (Text.digits v) = .ok (UInt32.ofNat v) := by
      have := number_digits (UInt32.ofNat v)
      rwa [hv] at this
    rw [readAlertSound, Action.arguments,
      words_arguments (by simpa using ⟨hword, isWord_numeral v⟩)]
    simp only [List.map_cons, List.map_nil, word, numeral, Argument.chars, String.ofList_toList,
      bind, Except.bind, hnumber, hv, if_neg (Nat.not_lt.mpr (show v ≤ maxVolume from hle))]
    rfl

theorem readSoundFile_arguments (keyword : String) {file : String}
    (h : IsQuotable file.toList) :
    readSoundFile keyword (joinWith ' ' ([quotation file].map Argument.chars)) =
      .ok (.customAlertSound file) := by
  have hwritable : ∀ a ∈ [quotation file], a.IsWritable := List.forall_mem_singleton.mpr h
  rw [readSoundFile, quotedTokens_arguments hwritable]
  simp only [List.map_cons, List.map_nil, quotation, Argument.token, bind, Except.bind,
    String.ofList_toList]
  rfl

/-- The names of the language are keywords in form. -/
theorem isKeyword_of_mem_iconNames {s : String} (h : s ∈ "None" :: iconColours ++ iconShapes) :
    IsKeyword s.toList := by
  have hall : ∀ s ∈ "None" :: iconColours ++ iconShapes, IsKeyword s.toList := by decide
  exact hall s h

theorem IconSize.isWritable_argument (size : IconSize) : size.argument.IsWritable := by
  cases size with
  | large => exact (by decide : IsKeyword ['0'])
  | medium => exact (by decide : IsKeyword ['1'])
  | small => exact (by decide : IsKeyword ['2'])

theorem readIcon_arguments (keyword : String) (size : IconSize) {colour shape : String}
    (hcolour : colour ∈ iconColours) (hshape : shape ∈ iconShapes) :
    readIcon keyword
      (joinWith ' ' ([size.argument, word colour, word shape].map Argument.chars)) =
        .ok (.minimapIcon size colour shape) := by
  have hc : IsWord (word colour).chars :=
    (isKeyword_of_mem_iconNames (List.mem_append_left _ (List.mem_cons_of_mem _ hcolour))).isWord
  have hs : IsWord (word shape).chars :=
    (isKeyword_of_mem_iconNames (List.mem_append_right _ hshape)).isWord
  have hsize : IsWord size.argument.chars := by
    have h := size.isWritable_argument
    cases size <;> exact IsKeyword.isWord h
  rw [readIcon, words_arguments (by simpa using ⟨hsize, hc, hs⟩)]
  cases size <;>
  · simp only [List.map_cons, List.map_nil, IconSize.argument, word, Argument.chars, iconSize,
      oneOf_of_mem keyword hcolour, oneOf_of_mem keyword hshape]
    rfl

theorem readEffect_arguments (keyword : String) (temporary : Bool) {colour : String}
    (h : colour ∈ "None" :: iconColours) (requested : UInt32) :
    readEffect keyword (joinWith ' '
      (((Action.playEffect colour temporary).arguments requested).map Argument.chars)) =
        .ok (.playEffect colour temporary) := by
  have hc : IsWord (word colour).chars :=
    (isKeyword_of_mem_iconNames (List.mem_append_left _ h)).isWord
  have htemp : IsWord (word "Temp").chars := (by decide : IsKeyword "Temp".toList).isWord
  cases temporary with
  | false =>
    rw [readEffect, Action.arguments, words_arguments (by simpa using hc)]
    simp only [List.map_cons, List.map_nil, word, Argument.chars, effectColour,
      oneOf_of_mem keyword h]
    rfl
  | true =>
    rw [readEffect, Action.arguments, words_arguments (by simpa using ⟨hc, htemp⟩)]
    simp only [List.map_cons, List.map_nil, word, Argument.chars, effectColour, if_true,
      oneOf_of_mem keyword h]
    rfl

/-- **The arguments of a well-formed action are read back**, whichever requested size a font size
is written as. -/
theorem Action.read_arguments {a : Action} (h : a.WellFormed) {requested : UInt32}
    (hsize : ∀ size, a = .fontSize size → displayFontSize requested.toNat = size) :
    a.kind.read (joinWith ' ' ((a.arguments requested).map Argument.chars)) = .ok a := by
  cases a with
  | backgroundColor colour =>
    simp only [kind, ActionKind.read, arguments, readColour_arguments]
    rfl
  | borderColor colour =>
    simp only [kind, ActionKind.read, arguments, readColour_arguments]
    rfl
  | textColor colour =>
    simp only [kind, ActionKind.read, arguments, readColour_arguments]
    rfl
  | fontSize size => exact readFontSize_arguments _ (hsize size rfl)
  | alertSound sound volume positional =>
    exact readAlertSound_arguments _ positional volume h.1 h.2 requested
  | customAlertSound file => exact readSoundFile_arguments _ h
  | disableDropSound => rfl
  | enableDropSound => rfl
  | noMinimapIcon => rfl
  | minimapIcon size colour shape => exact readIcon_arguments _ size h.1 h.2
  | playEffect colour temporary => exact readEffect_arguments _ temporary h requested

/-- The arguments of a well-formed action come back from a line. -/
theorem Action.areReadable_arguments {a : Action} (h : a.WellFormed) (requested : UInt32) :
    AreReadable (a.arguments requested) := by
  have hcolour : ∀ colour : Colour, ∀ b ∈ colour.arguments, b.IsWritable := by
    simp [Colour.arguments, isWritable_numeral]
  cases a with
  | backgroundColor colour => exact areReadable_of_isWritable (hcolour colour)
  | borderColor colour => exact areReadable_of_isWritable (hcolour colour)
  | textColor colour => exact areReadable_of_isWritable (hcolour colour)
  | fontSize size =>
    exact areReadable_of_isWritable (List.forall_mem_singleton.mpr (isWritable_numeral _))
  | alertSound sound volume positional =>
    -- quotes in a sound need not be closed, so only its own number signs are known to be safe
    obtain ⟨⟨hword, hcode⟩, -⟩ := h
    cases volume with
    | none =>
      exact ⟨List.forall_mem_singleton.mpr hword.isTrimmed,
        List.forall_mem_singleton.mpr hword.onlySpaces, hcode⟩
    | some v =>
      have hv := isWritable_numeral v
      have hsign : '#' ∉ ' ' :: (numeral v).chars :=
        List.not_mem_cons_of_ne_of_not_mem (by decide) (IsKeyword.sign_notMem hv)
      exact ⟨by simpa [arguments] using ⟨hword.isTrimmed, hv.isTrimmed⟩,
        by simpa [arguments] using ⟨hword.onlySpaces, hv.onlySpaces⟩,
        isCode_append.mpr ⟨hcode, isCode_of_notMem hsign _⟩⟩
  | customAlertSound file =>
    exact areReadable_of_isWritable (List.forall_mem_singleton.mpr h)
  | disableDropSound => exact areReadable_of_isWritable (List.forall_mem_nil _)
  | enableDropSound => exact areReadable_of_isWritable (List.forall_mem_nil _)
  | noMinimapIcon =>
    have hminus : (Argument.bare ['-', '1']).IsWritable := (by decide : IsKeyword ['-', '1'])
    exact areReadable_of_isWritable (List.forall_mem_singleton.mpr hminus)
  | minimapIcon size colour shape =>
    have hc : (word colour).IsWritable :=
      isKeyword_of_mem_iconNames (List.mem_append_left _ (List.mem_cons_of_mem _ h.1))
    have hs : (word shape).IsWritable :=
      isKeyword_of_mem_iconNames (List.mem_append_right _ h.2)
    exact areReadable_of_isWritable (by simpa [arguments] using ⟨size.isWritable_argument, hc, hs⟩)
  | playEffect colour temporary =>
    have hc : (word colour).IsWritable := isKeyword_of_mem_iconNames (List.mem_append_left _ h)
    have htemp : (word "Temp").IsWritable := (by decide : IsKeyword "Temp".toList)
    cases temporary with
    | false => exact areReadable_of_isWritable (List.forall_mem_singleton.mpr hc)
    | true => exact areReadable_of_isWritable (by simpa [arguments] using ⟨hc, htemp⟩)

/-- **A line of a well-formed action is read back.** -/
theorem Action.readStatement_of_isLine {a : Action} (h : a.WellFormed) {line : Chars}
    (hline : a.IsLine line) : readStatement true line = .ok (.action a) := by
  obtain ⟨requested, hsize, rfl⟩ := hline
  have hshape := shapeOf_writtenLine a.kind.isKeyword (areReadable_arguments h requested)
  rw [keyword, readStatement_of_shapeOf true hshape]
  exact readCode_action (read_arguments h hsize)

theorem Action.onlySpaces_of_isLine {a : Action} (h : a.WellFormed) {line : Chars}
    (hline : a.IsLine line) : OnlySpaces line := by
  obtain ⟨requested, -, rfl⟩ := hline
  exact onlySpaces_writtenLine a.kind.isKeyword (areReadable_arguments h requested)

/-- A well-formed action can be written. -/
theorem Action.exists_isLine {a : Action} (h : a.WellFormed) : ∃ line, a.IsLine line := by
  by_cases hfont : ∃ size, a = .fontSize size
  · obtain ⟨size, rfl⟩ := hfont
    obtain ⟨requested, hrequested⟩ := h
    refine ⟨_, requested, fun size' hsize' => ?_, rfl⟩
    rw [hrequested, Action.fontSize.inj hsize']
  · exact ⟨_, 0, fun size hsize => absurd ⟨size, hsize⟩ hfont, rfl⟩

end LootLedger.Filter
