import LootLedger.Proofs.Filter.WellFormed

/-!
# Conditions written out

Every well-formed condition can be written as a line that says it: its keyword, and its arguments
with a space between each two. Operators are always written, texts are written in quotes, and names
and numbers without. A sought socket group with neither size nor colours has no letters at all; it
was read from a size of zero with one letter, and is written as that.

## Main definitions

* `Filter.SocketSpec.written`, `Filter.Condition.arguments`: what is written
* `Filter.Condition.line`: the line of a condition

## Main results

* `Filter.Condition.read_arguments`: the reader of a condition reads its arguments back
* `Filter.Condition.readStatement_line`: the line of a condition is read back
-/

namespace LootLedger.Filter

open Text (Chars joinWith IsWord OnlySpaces)

/-! ### What is written -/

/-- A sought socket group as written. -/
def SocketSpec.written (spec : SocketSpec) : Chars :=
  match spec.count, spec.colours.toList with
  | none, [] => ['0', 'R']
  | none, colours => colours
  | some n, colours => Text.digits n ++ colours

/-- The arguments of a condition. -/
def Condition.arguments : Condition → List Argument
  | .numeric _ op value | .areaLevel op value => [op.argument, numeral value.toNat]
  | .rarity op value => [op.argument, word value.name]
  | .rarityIn values => values.map fun r => word r.name
  | .text _ exact values | .prophecy exact values =>
    (textOperator exact).argument :: values.map quotation
  | .sockets _ op specs => op.argument :: specs.map fun spec => .bare spec.written
  | .flag _ value => [truthValue value]
  | .explicitMods op threshold mods =>
    op.argument :: numeral threshold.toNat :: mods.map quotation
  | .influence .none _ => [word "None"]
  | .influence .any influences => influences.map fun i => word i.name
  | .influence .all influences =>
    Comparison.exactEqual.argument :: influences.map fun i => word i.name

/-- The line of a condition. -/
def Condition.line (c : Condition) : Chars :=
  writtenLine c.keyword c.arguments

/-! ### Names and socket groups read back -/

theorem rarityName_name {r : Rarity} (h : r.isClassic = true) :
    rarityName r.name.toList = .ok r := by
  cases r with
  | normal => rfl
  | magic => rfl
  | rare => rfl
  | unique => rfl
  | _ => exact absurd h (by decide)

theorem influenceName_name (i : Influence) : influenceName i.name.toList = .ok i := by
  cases i <;> rfl

/-- The letters of socket colours can begin a line, and are no digits. -/
theorem isKeyword_of_forall_mem_socketColours {colours : Chars} (hne : colours ≠ [])
    (h : ∀ c ∈ colours, c ∈ socketColours) : IsKeyword colours := by
  have hall : socketColours.all (fun c => !Text.isBlank c && c != '"' && c != '#') = true := by
    decide
  exact isKeyword_iff.mpr
    ⟨hne, List.all_eq_true.mpr fun c hc => List.all_eq_true.mp hall c (h c hc)⟩

/-- A sought socket group is read back. -/
theorem SocketSpec.parse?_written {spec : SocketSpec} (h : spec.WellFormed) :
    parse? spec.written = some spec := by
  obtain ⟨count, colours⟩ := spec
  obtain ⟨hcount, hlength, hcolours⟩ := h
  dsimp only at hcount hlength hcolours
  cases count with
  | none =>
    cases hlist : colours.toList with
    | nil =>
      obtain rfl : colours = "" := String.toList_inj.mp hlist
      rfl
    | cons c cs =>
      have hwritten : written ⟨none, colours⟩ = [] ++ colours.toList := by
        rw [written, hlist, List.nil_append]
      have hne : [] ++ colours.toList ≠ [] := by simp [hlist]
      have hmeans := Means.unsized colours.toList
      rw [String.ofList_toList] at hmeans
      rw [hwritten, parse?_append_iff (List.forall_mem_nil _) hcolours]
      exact ⟨⟨hne, List.forall_mem_nil _, hcolours, .inl rfl⟩, hmeans⟩
  | some n =>
    have hn : n ≤ maxSockets := hcount n rfl
    have hmeans := Means.sized (Text.isNumeralOf_digits n) (hlength n rfl)
    rw [String.ofList_toList] at hmeans
    rw [written, parse?_append_iff (fun _ => Text.isDigit_of_mem_digits) hcolours]
    exact ⟨isToken_digits hn hcolours, hmeans⟩

theorem socketSpec_written {spec : SocketSpec} (h : spec.WellFormed) :
    socketSpec spec.written = .ok spec := by
  rw [socketSpec, SocketSpec.parse?_written h]

/-! ### Arguments that can be written -/

theorem SocketSpec.isKeyword_written {spec : SocketSpec} (h : spec.WellFormed) :
    IsKeyword spec.written := by
  obtain ⟨count, colours⟩ := spec
  cases count with
  | none =>
    cases hlist : colours.toList with
    | nil =>
      have hwritten : written ⟨none, colours⟩ = ['0', 'R'] := by rw [written, hlist]
      rw [hwritten]
      decide
    | cons c cs =>
      have hwritten : written ⟨none, colours⟩ = c :: cs := by rw [written, hlist]
      rw [hwritten]
      exact isKeyword_of_forall_mem_socketColours (List.cons_ne_nil c cs) (hlist ▸ h.mem_colours)
  | some n =>
    have hn : IsKeyword (Text.digits n) := isWritable_numeral n
    have hwritten : written ⟨some n, colours⟩ = Text.digits n ++ colours.toList := by rw [written]
    rw [hwritten]
    by_cases hnil : colours.toList = []
    · rwa [hnil, List.append_nil]
    · exact hn.append (isKeyword_of_forall_mem_socketColours hnil h.mem_colours)

theorem isKeyword_rarityName {r : Rarity} (h : r.isClassic = true) : IsKeyword r.name.toList := by
  have hall : ∀ r ∈ Rarity.all, r.isClassic = true → IsKeyword r.name.toList := by decide
  exact hall r (by cases r <;> decide) h

theorem isKeyword_influenceName (i : Influence) : IsKeyword i.name.toList := by
  have hall : ∀ i ∈ Influence.all, IsKeyword i.name.toList := by decide
  exact hall i i.mem_all

/-- The arguments of a well-formed condition can be written and read back. -/
theorem Condition.isWritable_of_mem_arguments {c : Condition} (h : c.WellFormed) :
    ∀ a ∈ c.arguments, a.IsWritable := by
  have hop := Comparison.isWritable_argument
  have hquoted : ∀ values : List String, AreQuotable values →
      ∀ a ∈ values.map quotation, a.IsWritable := by
    intro values hv
    exact List.forall_mem_map.mpr hv.2
  have hnames : ∀ influences : List Influence,
      ∀ a ∈ influences.map (fun i => word i.name), a.IsWritable := fun influences =>
    List.forall_mem_map.mpr fun i _ => isKeyword_influenceName i
  cases c with
  | numeric field op value => simpa [arguments] using ⟨hop op, isWritable_numeral _⟩
  | areaLevel op value => simpa [arguments] using ⟨hop op, isWritable_numeral _⟩
  | rarity op value => simpa [arguments] using ⟨hop op, isKeyword_rarityName h⟩
  | rarityIn values => exact List.forall_mem_map.mpr fun r hr => isKeyword_rarityName (h.2 r hr)
  | text field exact values => exact List.forall_mem_cons.mpr ⟨hop _, hquoted values h⟩
  | prophecy exact values => exact List.forall_mem_cons.mpr ⟨hop _, hquoted values h⟩
  | sockets mode op specs =>
    refine List.forall_mem_cons.mpr ⟨hop op, List.forall_mem_map.mpr fun spec hspec => ?_⟩
    exact SocketSpec.isKeyword_written (h.2 spec hspec)
  | flag field value => simpa [arguments] using isWritable_truthValue value
  | explicitMods op threshold mods =>
    exact List.forall_mem_cons.mpr ⟨hop op, List.forall_mem_cons.mpr
      ⟨isWritable_numeral _, hquoted mods h⟩⟩
  | influence mode influences =>
    cases mode with
    | none =>
      have hnone : (word "None").IsWritable := (by decide : IsKeyword "None".toList)
      simpa [arguments] using hnone
    | any => exact hnames influences
    | all => exact List.forall_mem_cons.mpr ⟨hop _, hnames influences⟩

/-! ### Conditions read back -/

theorem readRarity_operator (keyword : String) (op : Comparison) {r : Rarity}
    (h : r.isClassic = true) :
    readRarity keyword (joinWith ' ' ([op.argument, word r.name].map Argument.chars)) =
      .ok (.rarity op r) := by
  have hop : IsWord op.argument.chars := IsKeyword.isWord op.isWritable_argument
  have hr : IsWord (word r.name).chars := (isKeyword_rarityName h).isWord
  rw [readRarity, words_arguments (by simpa using ⟨hop, hr⟩)]
  simp only [List.map_cons, List.map_nil, Comparison.argument, word, Argument.chars,
    leadingOperator_detachOperator_symbol, rarityName_name h]
  rfl

theorem readRarity_names (keyword : String) {values : List Rarity} (hne : values ≠ [])
    (h : ∀ r ∈ values, r.isClassic = true) :
    readRarity keyword
      (joinWith ' ' ((values.map fun r => word r.name).map Argument.chars)) =
        .ok (.rarityIn values) := by
  have hwords : ∀ a ∈ values.map (fun r => word r.name), IsWord a.chars :=
    List.forall_mem_map.mpr fun r hr => (isKeyword_rarityName (h r hr)).isWord
  have hchars : (values.map fun r => word r.name).map Argument.chars =
      values.map fun r => r.name.toList := by
    simp [word, Argument.chars, Function.comp_def]
  have hmapM := mapM_map_eq_pure rarityName (fun r => r.name.toList)
    fun r hr => rarityName_name (h r hr)
  rw [readRarity, words_arguments hwords, hchars]
  obtain ⟨r, rs, rfl⟩ := List.exists_cons_of_ne_nil hne
  have hsplit : Comparison.split? r.name.toList = none := by cases r <;> decide
  rw [List.map_cons] at hmapM ⊢
  rw [leadingOperator_detachOperator_of_split?_eq_none _ hsplit]
  simp only [hmapM]
  rfl

theorem readSockets_arguments (keyword : String) (mode : SocketMode) (op : Comparison)
    {specs : List SocketSpec} (h : (Condition.sockets mode op specs).WellFormed) :
    readSockets keyword mode
      (joinWith ' ' ((Condition.sockets mode op specs).arguments.map Argument.chars)) =
        .ok (.sockets mode op specs) := by
  have htokens : (Condition.sockets mode op specs).arguments.map Argument.token =
      op.symbol.toList :: specs.map SocketSpec.written := by
    simp [Condition.arguments, Comparison.argument, Argument.token, Function.comp_def]
  have hmapM := mapM_map_eq_pure socketSpec SocketSpec.written
    fun spec hspec => socketSpec_written (h.2 spec hspec)
  have hne : specs.map SocketSpec.written ≠ [] := by simpa using h.1
  rw [readSockets, quotedTokens_arguments (Condition.isWritable_of_mem_arguments h), htokens]
  simp only [bind, Except.bind, leadingOperator_detachOperator_symbol, if_neg hne]
  simp only [hmapM]
  rfl

theorem readExplicitMods_arguments (keyword : String) (op : Comparison) (threshold : UInt32)
    {mods : List String} (h : (Condition.explicitMods op threshold mods).WellFormed) :
    readExplicitMods keyword
      (joinWith ' ' ((Condition.explicitMods op threshold mods).arguments.map Argument.chars)) =
        .ok (.explicitMods op threshold mods) := by
  have htokens : (Condition.explicitMods op threshold mods).arguments.map Argument.token =
      op.symbol.toList :: Text.digits threshold.toNat :: mods.map String.toList := by
    simp [Condition.arguments, Comparison.argument, numeral, quotation, Argument.token,
      Function.comp_def]
  have hstrings : (mods.map String.toList).map String.ofList = mods := by simp [Function.comp_def]
  have hne : mods.map String.toList ≠ [] := by simpa using h.1
  rw [readExplicitMods, quotedTokens_arguments (Condition.isWritable_of_mem_arguments h), htokens]
  simp only [bind, Except.bind, leadingOperator_detachOperator_symbol, number_digits, if_neg hne,
    hstrings]
  rfl

theorem readInfluence_of_names (keyword : String) {arguments : Chars} {tokens : List Chars}
    {op : Option Comparison} {influences : List Influence} (hne : influences ≠ [])
    (htokens : quotedTokens arguments = .ok tokens)
    (hop : leadingOperator tokens = (op, influences.map fun i => i.name.toList)) :
    readInfluence keyword arguments =
      .ok (.influence (if op = some .exactEqual then .all else .any) influences) := by
  have hmapM := mapM_map_eq_pure influenceName (fun i => i.name.toList)
    fun i (_ : i ∈ influences) => influenceName_name i
  have hnone : ∀ i : Influence, ¬ Text.equalIgnoringCase i.name.toList "none".toList = true := by
    intro i
    cases i <;> decide
  rw [readInfluence, htokens]
  simp only [bind, Except.bind, hop]
  obtain ⟨i, is, rfl⟩ := List.exists_cons_of_ne_nil hne
  cases is with
  | nil =>
    rw [List.map_cons, List.map_nil] at hmapM ⊢
    simp only [if_neg (hnone i), hmapM]
    rfl
  | cons j js =>
    rw [List.map_cons, List.map_cons] at hmapM ⊢
    simp only [hmapM]
    rfl

theorem readInfluence_arguments (keyword : String) {mode : InfluenceMode}
    {influences : List Influence} (h : (Condition.influence mode influences).WellFormed) :
    readInfluence keyword
      (joinWith ' ' ((Condition.influence mode influences).arguments.map Argument.chars)) =
        .ok (.influence mode influences) := by
  have htokens := quotedTokens_arguments (Condition.isWritable_of_mem_arguments h)
  have hnames : (influences.map fun i => word i.name).map Argument.token =
      influences.map fun i => i.name.toList := by
    simp [word, Argument.token, Function.comp_def]
  cases mode with
  | none =>
    obtain rfl : influences = [] := h.mpr rfl
    rfl
  | any =>
    have hne : influences ≠ [] := fun hnil => absurd (h.mp hnil) (by decide)
    refine @readInfluence_of_names keyword _ _ none _ hne htokens ?_
    rw [Condition.arguments, hnames]
    obtain ⟨i, is, rfl⟩ := List.exists_cons_of_ne_nil hne
    have hsymbol : Comparison.ofSymbol? i.name.toList = none := by cases i <;> decide
    rw [List.map_cons, leadingOperator, hsymbol]
  | all =>
    have hne : influences ≠ [] := fun hnil => absurd (h.mp hnil) (by decide)
    refine @readInfluence_of_names keyword _ _ (some .exactEqual) _ hne htokens ?_
    rw [Condition.arguments, List.map_cons, hnames]
    exact leadingOperator_symbol .exactEqual _

/-- **The arguments of a well-formed condition are read back.** -/
theorem Condition.read_arguments {c : Condition} (h : c.WellFormed) :
    c.kind.read (joinWith ' ' (c.arguments.map Argument.chars)) = .ok c := by
  cases c with
  | numeric field op value =>
    simp only [kind, ConditionKind.read, arguments, operatorAndNumber_arguments]
    rfl
  | areaLevel op value =>
    simp only [kind, ConditionKind.read, arguments, operatorAndNumber_arguments]
    rfl
  | rarity op value => exact readRarity_operator _ op h
  | rarityIn values => exact readRarity_names _ h.1 h.2
  | text field exact values =>
    simp only [kind, ConditionKind.read, arguments, textList_arguments _ _ h]
    rfl
  | prophecy exact values =>
    simp only [kind, ConditionKind.read, arguments, textList_arguments _ _ h]
    rfl
  | sockets mode op specs => exact readSockets_arguments _ mode op h
  | flag field value =>
    simp only [kind, ConditionKind.read, arguments, boolean_arguments]
    rfl
  | explicitMods op threshold mods => exact readExplicitMods_arguments _ op threshold h
  | influence mode influences => exact readInfluence_arguments _ h

/-- **The line of a well-formed condition is read back.** -/
theorem Condition.readStatement_line {c : Condition} (h : c.WellFormed) :
    readStatement true c.line = .ok (.condition c) := by
  have hreadable := areReadable_of_isWritable (isWritable_of_mem_arguments h)
  rw [line, keyword, readStatement_of_shapeOf true (shapeOf_writtenLine c.kind.isKeyword hreadable)]
  exact readCode_condition (read_arguments h)

example : (Condition.influence .all [.shaper, .elder]).line =
    "HasInfluence == Shaper Elder".toList := by
  decide

theorem Condition.onlySpaces_line {c : Condition} (h : c.WellFormed) : OnlySpaces c.line :=
  onlySpaces_writtenLine c.kind.isKeyword
    (areReadable_of_isWritable (isWritable_of_mem_arguments h))

end LootLedger.Filter
