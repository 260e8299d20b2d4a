import LootLedger.Proofs.Filter.Arguments
import LootLedger.Proofs.Filter.Run
import LootLedger.Proofs.Filter.SocketToken

/-!
# Compiled rules are well formed

A compiled rule holds only what its readers let through. Its lists are not empty, so no condition
is met by everything; its texts are not empty and have no quotes; its names, numbers and colours
are the ones that the language has. Nothing else is promised: a sound may be any word without a
comment, and quotes may be part of it.

The arguments that a reader gets are those that `shapeOf` makes, whose blanks are spaces and which
have no comment. From there on it is one lemma for each reader. A draft keeps well-formed rules,
since a line that is refused changes none of them and one that is accepted adds something well
formed to the open one.

## Main definitions

* `Filter.Condition.WellFormed`, `Filter.Action.WellFormed`, `Filter.Rule.WellFormed`

## Main results

* `Filter.ConditionKind.wellFormed_of_read`, `Filter.ActionKind.wellFormed_of_read`: one reader
* `Filter.wellFormed_of_mem_parse`: every compiled rule is well formed
-/

namespace LootLedger.Filter

open Text (Chars IsWord OnlySpaces)

/-- A sought socket group that can be written. -/
structure SocketSpec.WellFormed (spec : SocketSpec) : Prop where
  count_le : ∀ n ∈ spec.count, n ≤ maxSockets
  /-- A size with a single letter is short for that many of them. -/
  length_ne_one : ∀ n ∈ spec.count, spec.colours.toList.length ≠ 1
  mem_colours : ∀ c ∈ spec.colours.toList, c ∈ socketColours

/-- A sound: a word that does not begin a comment. -/
structure IsSound (sound : Chars) : Prop where
  isWord : IsWord sound
  isCode : IsCode false sound

/-- What every condition of a compiled rule fulfils. -/
def Condition.WellFormed : Condition → Prop
  | .numeric _ _ _ | .areaLevel _ _ | .flag _ _ => True
  | .rarity _ value => value.isClassic = true
  | .rarityIn values => values ≠ [] ∧ ∀ r ∈ values, r.isClassic = true
  | .text _ _ values | .prophecy _ values | .explicitMods _ _ values => AreQuotable values
  | .sockets _ _ specs => specs ≠ [] ∧ ∀ spec ∈ specs, spec.WellFormed
  | .influence mode influences => influences = [] ↔ mode = .none

/-- What every action of a compiled rule fulfils. -/
def Action.WellFormed : Action → Prop
  | .fontSize size => ∃ requested : UInt32, displayFontSize requested.toNat = size
  | .alertSound sound volume _ => IsSound sound.toList ∧ ∀ v ∈ volume, v ≤ maxVolume
  | .customAlertSound file => IsQuotable file.toList
  | .minimapIcon _ colour shape => colour ∈ iconColours ∧ shape ∈ iconShapes
  | .playEffect colour _ => colour ∈ "None" :: iconColours
  | .backgroundColor _ | .borderColor _ | .textColor _ | .disableDropSound | .enableDropSound
  | .noMinimapIcon => True

/-- All conditions and actions of the rule are well formed. -/
structure Rule.WellFormed (rule : Rule) : Prop where
  conditions : ∀ c ∈ rule.conditions, c.WellFormed
  actions : ∀ a ∈ rule.actions, a.WellFormed

/-- The sizes that a font is displayed in are those from 25 to 50. -/
theorem Action.wellFormed_fontSize_iff {size : Nat} :
    WellFormed (.fontSize size) ↔ 25 ≤ size ∧ size ≤ 50 := by
  constructor
  · rintro ⟨requested, rfl⟩
    simp only [displayFontSize]
    omega
  · rintro ⟨hle, hge⟩
    -- the least request that is rounded up to the size
    have hlt : 18 + (54 * (size - 25) + 22) / 50 < UInt32.size := by
      simp only [UInt32.size]
      omega
    refine ⟨UInt32.ofNat (18 + (54 * (size - 25) + 22) / 50), ?_⟩
    rw [UInt32.toNat_ofNat_of_lt' hlt]
    simp only [displayFontSize]
    omega

/-! ### Names and socket groups -/

theorem isClassic_of_rarityName {token : Chars} {r : Rarity} (h : rarityName token = .ok r) :
    r.isClassic = true := by
  have hmem : ∀ r ∈ [Rarity.normal, .magic, .rare, .unique], r.isClassic = true := by decide
  unfold rarityName at h
  split at h
  · next r' hr =>
    obtain rfl := Except.ok.inj h
    exact hmem r' (List.mem_of_find?_eq_some hr)
  · cases h

theorem SocketSpec.wellFormed_of_parse? {token : Chars} {spec : SocketSpec}
    (h : parse? token = some spec) : spec.WellFormed := by
  obtain ⟨htoken, hmeans⟩ := parse?_eq_some_iff.mp h
  have hcolours := htoken.mem_colours
  have hsize := htoken.size
  generalize token.takeWhile Text.isDigit = digits at hmeans hsize
  generalize token.dropWhile Text.isDigit = colours at hmeans hcolours
  cases hmeans with
  | unsized => exact ⟨by simp, by simp, by simpa using hcolours⟩
  | @ofColour _ n c =>
    refine ⟨by simp, by simp, fun d hd => ?_⟩
    rw [String.toList_ofList] at hd
    rw [(List.mem_replicate.mp hd).2]
    exact hcolours c (List.mem_singleton_self c)
  | @sized _ _ n hnumeral hlength =>
    have hle : n ≤ maxSockets := le_of_isNumeralOf hsize hnumeral
    refine ⟨fun m hm => Option.some.inj hm ▸ hle, fun _ _ => ?_, ?_⟩
    · simpa using hlength
    · simpa using hcolours

theorem wellFormed_of_socketSpec {token : Chars} {spec : SocketSpec}
    (h : socketSpec token = .ok spec) : spec.WellFormed := by
  unfold socketSpec at h
  split at h
  · next spec' hspec =>
    obtain rfl := Except.ok.inj h
    exact SocketSpec.wellFormed_of_parse? hspec
  · cases h

/-- A list of values that a reader makes of tokens, one of each. -/
theorem ne_nil_of_mapM_eq_ok {α : Type} {f : Chars → Except Problem α} {P : α → Prop}
    (hf : ∀ t a, f t = .ok a → P a) {tokens : List Chars} {values : List α} (hne : tokens ≠ [])
    (h : tokens.mapM f = .ok values) : values ≠ [] ∧ ∀ a ∈ values, P a := by
  obtain ⟨hlength, hall⟩ := forall_of_mapM_eq_ok hf h
  refine ⟨List.ne_nil_of_length_pos ?_, hall⟩
  rw [hlength]
  exact List.length_pos_of_ne_nil hne

/-! ### Conditions -/

theorem wellFormed_of_readRarity {keyword : String} {arguments : Chars} {c : Condition}
    (h : readRarity keyword arguments = .ok c) : c.WellFormed := by
  unfold readRarity at h
  split at h
  · cases h
  · obtain ⟨r, hr, rfl⟩ := exists_of_bind_pure_eq_ok h
    exact isClassic_of_rarityName hr
  · cases h
  · next values hvalues =>
    obtain ⟨rs, hrs, rfl⟩ := exists_of_bind_pure_eq_ok h
    exact ne_nil_of_mapM_eq_ok (fun _ _ => isClassic_of_rarityName) (fun hnil => by simp_all) hrs

theorem wellFormed_of_readSockets {keyword : String} {mode : SocketMode} {arguments : Chars}
    {c : Condition} (h : readSockets keyword mode arguments = .ok c) : c.WellFormed := by
  obtain ⟨tokens, -, h⟩ := exists_of_bind_eq_ok h
  generalize leadingOperator (detachOperator tokens) = split at h
  obtain ⟨op, rest⟩ := split
  by_cases hne : rest = []
  · subst hne
    cases h
  · simp only [if_neg hne] at h
    obtain ⟨specs, hspecs, rfl⟩ := exists_of_bind_pure_eq_ok h
    exact ne_nil_of_mapM_eq_ok (fun _ _ => wellFormed_of_socketSpec) hne hspecs

theorem wellFormed_of_readExplicitMods {keyword : String} {arguments : Chars} {c : Condition}
    (hs : OnlySpaces arguments) (h : readExplicitMods keyword arguments = .ok c) :
    c.WellFormed := by
  obtain ⟨tokens, htokens, h⟩ := exists_of_bind_eq_ok h
  have hq := isQuotable_of_mem_leadingOperator (isQuotable_of_mem_quotedTokens hs htokens)
  generalize leadingOperator (detachOperator tokens) = split at h hq
  split at h
  · cases h
  · next mods hmods =>
    obtain rfl := Except.ok.inj h
    exact areQuotable_map_ofList hmods hq
  · next op threshold mods =>
    obtain ⟨n, -, h⟩ := exists_of_bind_eq_ok h
    by_cases hne : mods = []
    · subst hne
      cases h
    · simp only [if_neg hne] at h
      obtain rfl := Except.ok.inj h
      exact areQuotable_map_ofList hne fun t ht => hq t (List.mem_cons_of_mem _ ht)

theorem wellFormed_of_readInfluence {keyword : String} {arguments : Chars} {c : Condition}
    (h : readInfluence keyword arguments = .ok c) : c.WellFormed := by
  obtain ⟨tokens, -, h⟩ := exists_of_bind_eq_ok h
  generalize leadingOperator tokens = split at h
  obtain ⟨op, names⟩ := split
  have hnames : ∀ {c : Condition}, names ≠ [] → (do
      let influences ← names.mapM influenceName
      return Condition.influence
        (if op = some Comparison.exactEqual then .all else .any) influences) = .ok c →
          c.WellFormed := by
    intro c hne h
    obtain ⟨influences, hi, rfl⟩ := exists_of_bind_pure_eq_ok h
    have hne' := (ne_nil_of_mapM_eq_ok (P := fun _ => True) (fun _ _ _ => trivial) hne hi).1
    refine ⟨fun hnil => absurd hnil hne', fun hmode => ?_⟩
    split at hmode <;> cases hmode
  dsimp only at h
  split at h
  · cases h
  · split at h
    · obtain rfl := Except.ok.inj h
      exact ⟨fun _ => rfl, fun _ => rfl⟩
    · exact hnames (List.cons_ne_nil _ _) h
  · next hnil _ => exact hnames hnil h

/-- **An accepted condition is well formed.** -/
theorem ConditionKind.wellFormed_of_read {kind : ConditionKind} {arguments : Chars}
    {c : Condition} (hs : OnlySpaces arguments) (h : kind.read arguments = .ok c) :
    c.WellFormed := by
  cases kind with
  | numeric field =>
    obtain ⟨_, -, rfl⟩ := exists_of_bind_pure_eq_ok h
    trivial
  | text field =>
    obtain ⟨_, hv, rfl⟩ := exists_of_bind_pure_eq_ok h
    exact areQuotable_of_textList hs hv
  | flag field =>
    obtain ⟨_, -, rfl⟩ := exists_of_bind_pure_eq_ok h
    trivial
  | areaLevel =>
    obtain ⟨_, -, rfl⟩ := exists_of_bind_pure_eq_ok h
    trivial
  | rarity => exact wellFormed_of_readRarity h
  | prophecy =>
    obtain ⟨_, hv, rfl⟩ := exists_of_bind_pure_eq_ok h
    exact areQuotable_of_textList hs hv
  | sockets mode => exact wellFormed_of_readSockets h
  | explicitMods => exact wellFormed_of_readExplicitMods hs h
  | influence => exact wellFormed_of_readInfluence h

/-! ### Actions -/

theorem mem_of_oneOf {keyword : String} {allowed : List String} {token : Chars} {s : String}
    (h : oneOf keyword allowed token = .ok s) : s ∈ allowed := by
  unfold oneOf at h
  split at h
  · next s' hs =>
    obtain rfl := Except.ok.inj h
    exact List.mem_of_find?_eq_some hs
  · cases h

/-- The first word of arguments without a comment is a sound. -/
theorem isSound_of_words_eq_cons {arguments sound : Chars} {rest : List Chars}
    (hcode : IsCode false arguments) (h : Text.words arguments = sound :: rest) :
    IsSound sound := by
  obtain ⟨hword, before, after, hbefore, rfl⟩ := Text.words_eq_cons h
  rw [isCode_append, quotedAfter_of_blanks hbefore, isCode_append] at hcode
  exact ⟨hword, hcode.2.1⟩

theorem wellFormed_of_readFontSize {keyword : String} {arguments : Chars} {a : Action}
    (h : readFontSize keyword arguments = .ok a) : a.WellFormed := by
  unfold readFontSize at h
  split at h
  · cases h
  · obtain ⟨n, -, rfl⟩ := exists_of_bind_pure_eq_ok h
    exact ⟨n, rfl⟩
  · cases h

theorem wellFormed_of_readAlertSound {keyword : String} {positional : Bool} {arguments : Chars}
    {a : Action} (hcode : IsCode false arguments)
    (h : readAlertSound keyword positional arguments = .ok a) : a.WellFormed := by
  unfold readAlertSound at h
  split at h
  · cases h
  · next sound hwords =>
    obtain rfl := Except.ok.inj h
    exact ⟨by simpa using isSound_of_words_eq_cons hcode hwords, by simp⟩
  · next sound volume hwords =>
    obtain ⟨n, -, h⟩ := exists_of_bind_eq_ok h
    by_cases hloud : maxVolume < n.toNat
    · simp only [if_pos hloud] at h
      cases h
    · simp only [if_neg hloud] at h
      obtain rfl := Except.ok.inj h
      exact ⟨by simpa using isSound_of_words_eq_cons hcode hwords,
        by simpa using Nat.le_of_not_lt hloud⟩
  · cases h

theorem wellFormed_of_readSoundFile {keyword : String} {arguments : Chars} {a : Action}
    (hs : OnlySpaces arguments) (h : readSoundFile keyword arguments = .ok a) :
    a.WellFormed := by
  obtain ⟨tokens, htokens, h⟩ := exists_of_bind_eq_ok h
  have hq := isQuotable_of_mem_quotedTokens hs htokens
  split at h
  · cases h
  · next file =>
    obtain rfl := Except.ok.inj h
    simpa [Action.WellFormed] using hq file (List.mem_singleton_self file)
  · cases h

theorem wellFormed_of_readBare {keyword : String} (action : Action) {a : Action} {arguments : Chars}
    (haction : action.WellFormed) (h : readBare keyword action arguments = .ok a) :
    a.WellFormed := by
  unfold readBare at h
  split at h
  · exact Except.ok.inj h ▸ haction
  · cases h

theorem wellFormed_of_readIcon {keyword : String} {arguments : Chars} {a : Action}
    (h : readIcon keyword arguments = .ok a) : a.WellFormed := by
  unfold readIcon at h
  split at h
  · cases h
  · obtain rfl := Except.ok.inj h
    trivial
  · obtain ⟨size, -, h⟩ := exists_of_bind_eq_ok h
    obtain ⟨colour, hcolour, h⟩ := exists_of_bind_eq_ok h
    obtain ⟨shape, hshape, rfl⟩ := exists_of_bind_pure_eq_ok h
    exact ⟨mem_of_oneOf hcolour, mem_of_oneOf hshape⟩
  · cases h

theorem wellFormed_of_readEffect {keyword : String} {arguments : Chars} {a : Action}
    (h : readEffect keyword arguments = .ok a) : a.WellFormed := by
  unfold readEffect at h
  split at h
  · cases h
  · obtain ⟨colour, hcolour, rfl⟩ := exists_of_bind_pure_eq_ok h
    exact mem_of_oneOf hcolour
  · split at h
    · obtain ⟨colour, hcolour, rfl⟩ := exists_of_bind_pure_eq_ok h
      exact mem_of_oneOf hcolour
    · cases h
  · cases h

/-- **An accepted action is well formed.** -/
theorem ActionKind.wellFormed_of_read {kind : ActionKind} {arguments : Chars} {a : Action}
    (hs : OnlySpaces arguments) (hcode : IsCode false arguments)
    (h : kind.read arguments = .ok a) : a.WellFormed := by
  cases kind with
  | backgroundColor =>
    obtain ⟨_, -, rfl⟩ := exists_of_bind_pure_eq_ok h
    trivial
  | borderColor =>
    obtain ⟨_, -, rfl⟩ := exists_of_bind_pure_eq_ok h
    trivial
  | textColor =>
    obtain ⟨_, -, rfl⟩ := exists_of_bind_pure_eq_ok h
    trivial
  | fontSize => exact wellFormed_of_readFontSize h
  | alertSound positional => exact wellFormed_of_readAlertSound hcode h
  | customAlertSound => exact wellFormed_of_readSoundFile hs h
  | disableDropSound => exact wellFormed_of_readBare .disableDropSound trivial h
  | enableDropSound => exact wellFormed_of_readBare .enableDropSound trivial h
  | minimapIcon => exact wellFormed_of_readIcon h
  | playEffect => exact wellFormed_of_readEffect h

/-! ### Lines and documents -/

/-- What a line adds to its block is well formed. -/
def Statement.WellFormed : Statement → Prop
  | .condition c => c.WellFormed
  | .action a => a.WellFormed
  | .blank | .comment | .block _ | .continue => True

theorem wellFormed_of_readStatement {inBlock : Bool} {line : Chars} {s : Statement}
    (h : readStatement inBlock line = .ok s) : s.WellFormed := by
  unfold readStatement at h
  split at h
  · obtain rfl := Except.ok.inj h
    trivial
  · obtain rfl := Except.ok.inj h
    trivial
  · next keyword arguments hshape =>
    obtain ⟨hs, hcode⟩ := shapeOf_eq_code hshape
    rcases readCode_cases h with ⟨_, -, -, rfl⟩ | ⟨-, ⟨-, -, rfl⟩ | ⟨kind, c, -, hc, rfl⟩ |
      ⟨kind, a, hword, ha, rfl⟩⟩
    · trivial
    · trivial
    · exact kind.wellFormed_of_read hs hc
    · exact kind.wellFormed_of_read hs (hcode (hword ▸ kind.isKeyword.quote_notMem)) ha

theorem Rule.WellFormed.opened (v : Visibility) (line : Nat) :
    (Rule.opened v line).WellFormed where
  conditions := List.forall_mem_nil _
  actions := List.forall_mem_nil _

theorem Rule.WellFormed.continued {rule : Rule} (h : rule.WellFormed) (line : Nat) :
    (rule.continued line).WellFormed :=
  ⟨h.conditions, h.actions⟩

theorem Rule.WellFormed.addCondition {rule : Rule} (h : rule.WellFormed) {c : Condition}
    (hc : c.WellFormed) (line : Nat) : (rule.addCondition c line).WellFormed where
  conditions := List.forall_mem_append.mpr ⟨h.conditions, List.forall_mem_singleton.mpr hc⟩
  actions := h.actions

theorem Rule.WellFormed.addAction {rule : Rule} (h : rule.WellFormed) {a : Action}
    (ha : a.WellFormed) (line : Nat) : (rule.addAction a line).WellFormed where
  conditions := h.conditions
  actions := List.forall_mem_append.mpr ⟨h.actions, List.forall_mem_singleton.mpr ha⟩

/-- All rules of the draft are well formed. -/
def Draft.WellFormed (d : Draft) : Prop :=
  ∀ rule ∈ d.rules, rule.WellFormed

/-- **The step**: an accepted line keeps the rules well formed. -/
theorem Draft.WellFormed.apply {d : Draft} (hd : d.WellFormed) {s : Statement}
    (hs : s.WellFormed) : (d.apply s).WellFormed := by
  rw [WellFormed]
  cases s with
  | blank => exact hd
  | comment => exact hd
  | block v =>
    rw [rules_apply_block]
    exact List.forall_mem_append.mpr ⟨hd, List.forall_mem_singleton.mpr (.opened v _)⟩
  | «continue» =>
    rw [rules_apply_continue]
    exact forall_mem_ended_append_map hd fun r hr => hr.continued _
  | condition c =>
    rw [rules_apply_condition]
    exact forall_mem_ended_append_map hd fun r hr => hr.addCondition hs _
  | action a =>
    rw [rules_apply_action]
    exact forall_mem_ended_append_map hd fun r hr => hr.addAction hs _

theorem Draft.WellFormed.readLine {d : Draft} (hd : d.WellFormed) (line : Chars) :
    (d.readLine line).WellFormed := by
  cases h : readStatement d.current.isSome line with
  | ok s =>
    rw [readLine_of_ok h]
    exact hd.apply (wellFormed_of_readStatement h)
  | error problem =>
    rw [readLine_of_error h]
    exact hd

theorem Draft.wellFormed_readAll (lines : List Chars) :
    (Draft.readAll {} lines).WellFormed := by
  induction lines using List.reverseRecOn with
  | nil => intro rule hrule; cases hrule
  | append_singleton lines line ih =>
    rw [readAll_concat]
    exact ih.readLine line

/-- **Every compiled rule is well formed.** -/
theorem wellFormed_of_mem_parse {text : Chars} {rule : Rule} (h : rule ∈ (parse text).rules) :
    rule.WellFormed := by
  rw [parse_eq_finish] at h
  exact Draft.wellFormed_readAll _ rule h

end LootLedger.Filter
