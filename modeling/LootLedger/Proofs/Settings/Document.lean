import LootLedger.Proofs.Outcome
import LootLedger.Proofs.Toml.Document
import LootLedger.Settings.Document
import Mathlib.Data.List.Nodup

/-!
# Settings are read back, and changed one at a time

Settings are a table from the names of settings to values, with nothing else in it: what is set
under the names decides the settings (`Settings.eq_of_get?`). Both things that are done to settings
are told by that table. Writing puts the values that are set into the sections that their names say,
and reading finds them there again, so that every setting survives with whatever text it has.
Changing sets one name, if the value is one that the name can take, and leaves all other names
alone.

## Main definitions

* `Settings.decode?`, `Settings.Denotes`: what the text and the content of a settings file stand for
* `Setting.Takes`: the values that a setting can take, and what it makes of them
* `Settings.Replaces`: one setting is replaced and all others are kept

## Main results

* `Settings.decode?_text`: written settings are read back
* `Settings.change_eq_ok_iff`: what a change does, and when it is refused
-/

namespace LootLedger

/-! ### The table of settings -/

theorem Setting.mem_all (x : Setting) : x ∈ all := by
  cases x <;> decide

/-- Different settings have different names. -/
theorem Setting.ofName?_eq_some_iff {name : String} {x : Setting} :
    ofName? name = some x ↔ x.name = name := by
  have hself : ∀ x ∈ all, ofName? x.name = some x := by decide +kernel
  constructor
  · intro h
    rw [ofName?] at h
    simpa using List.find?_some h
  · rintro rfl
    exact hself x x.mem_all

theorem Setting.name_injective : Function.Injective name := fun _ _ h =>
  Option.some.inj ((ofName?_eq_some_iff.mpr h).symm.trans (ofName?_eq_some_iff.mpr rfl))

theorem Setting.ofName?_eq_none_iff {name : String} :
    ofName? name = none ↔ ∀ x : Setting, x.name ≠ name := by
  rw [Option.eq_none_iff_forall_ne_some]
  exact forall_congr' fun x => not_congr ofName?_eq_some_iff

namespace Settings

theorem eq_of_get? {s s' : Settings} (h : ∀ x, s'.get? x = s.get? x) : s' = s := by
  have htext : Function.Injective (Option.map Toml.Scalar.text) :=
    Option.map_injective fun _ _ => Toml.Scalar.text.inj
  have hbool : Function.Injective (Option.map Toml.Scalar.bool) :=
    Option.map_injective fun _ _ => Toml.Scalar.bool.inj
  obtain ⟨baseUrl, league, profile, color, filtersPath, ratesPath⟩ := s
  obtain ⟨baseUrl', league', profile', color', filtersPath', ratesPath'⟩ := s'
  rw [mk.injEq]
  exact ⟨htext (h .baseUrl), htext (h .league), htext (h .profile), hbool (h .color),
    htext (h .filtersPath), htext (h .ratesPath)⟩

/-! ### Reading back -/

/-- The version and the settings that a text says. -/
def decode? (text : String) : Option (Nat × Settings) :=
  (Toml.parse? text.toList).bind ofEntries?

theorem ofText?_eq_ok_iff {text : String} {s : Settings} :
    ofText? text = .ok s ↔ ∃ version ≤ Settings.version, decode? text = some (version, s) := by
  rw [ofText?, ← decode?]
  cases decode? text with
  | none => simp
  | some found =>
    obtain ⟨version, s'⟩ := found
    dsimp only
    split_ifs with hnew
    · simp only [Option.some.injEq, Prod.mk.injEq, false_iff]
      rintro ⟨_, hle, rfl, -⟩
      exact absurd hle (Nat.not_le_of_lt hnew)
    · simp only [Except.ok.injEq, Option.some.injEq, Prod.mk.injEq]
      constructor
      · rintro rfl
        exact ⟨version, Nat.le_of_not_lt hnew, rfl, rfl⟩
      · rintro ⟨_, -, rfl, rfl⟩
        rfl

/-- What is set in a list of settings, with the keys that they have in their sections. -/
def entriesAmong (s : Settings) (xs : List Setting) : List (String × Toml.Scalar) :=
  xs.filterMap fun x => (s.get? x).map (x.key, ·)

theorem fits_of_get? {s : Settings} {x : Setting} {v : Toml.Scalar} (h : s.get? x = some v) :
    v.Fits := by
  cases x <;> obtain ⟨_, -, rfl⟩ := Option.map_eq_some_iff.mp h <;> exact trivial

theorem map_fst_entriesAmong_sublist (s : Settings) (xs : List Setting) :
    ((s.entriesAmong xs).map Prod.fst).Sublist (xs.map Setting.key) := by
  induction xs with
  | nil => exact .slnil
  | cons x xs ih =>
    cases h : s.get? x with
    | none =>
      rw [entriesAmong, List.filterMap_cons_none (by rw [h]; rfl)]
      exact ih.cons _
    | some v =>
      rw [entriesAmong, List.filterMap_cons_some (by rw [h]; rfl)]
      exact ih.cons_cons _

theorem areWritable_entriesAmong (s : Settings) {xs : List Setting}
    (hnodup : (xs.map Setting.key).Nodup) : Toml.AreWritable (s.entriesAmong xs) where
  isBareKey := by
    have hbare : ∀ x ∈ Setting.all, Toml.IsBareKey x.key := by decide
    intro e he
    obtain ⟨x, -, h⟩ := List.mem_filterMap.mp he
    obtain ⟨v, -, rfl⟩ := Option.map_eq_some_iff.mp h
    exact hbare x x.mem_all
  fits := by
    intro e he
    obtain ⟨x, -, h⟩ := List.mem_filterMap.mp he
    obtain ⟨v, hv, rfl⟩ := Option.map_eq_some_iff.mp h
    exact fits_of_get? hv
  nodup := hnodup.sublist (s.map_fst_entriesAmong_sublist xs)

/-- A setting is found under its key among others with other keys, if it is set. -/
theorem lookup_entriesAmong (s : Settings) {xs : List Setting}
    (hnodup : (xs.map Setting.key).Nodup) {x : Setting} (hx : x ∈ xs) :
    ((s.entriesAmong xs).map Toml.entryOf).lookup x.key =
      (s.get? x).map Toml.Scalar.value := by
  have hkeys : ((s.entriesAmong xs).map Toml.entryOf).map Prod.fst =
      (s.entriesAmong xs).map Prod.fst := by
    rw [List.map_map]
    rfl
  cases h : s.get? x with
  | some v =>
    refine lookup_eq_some_of_mem ?_ (List.mem_map.mpr ⟨(x.key, v), ?_, rfl⟩)
    · rw [hkeys]
      exact hnodup.sublist (s.map_fst_entriesAmong_sublist xs)
    · exact List.mem_filterMap.mpr ⟨x, hx, by rw [h]; rfl⟩
  | none =>
    refine Toml.lookup_eq_none fun hmem => ?_
    rw [hkeys] at hmem
    obtain ⟨e, he, hkey⟩ := List.mem_map.mp hmem
    obtain ⟨y, hy, hentry⟩ := List.mem_filterMap.mp he
    obtain ⟨v, hv, rfl⟩ := Option.map_eq_some_iff.mp hentry
    obtain rfl := List.inj_on_of_nodup_map hnodup hy hx hkey
    cases h.symm.trans hv

/-- The settings of a section. -/
def ofSection (name : String) : List Setting :=
  Setting.all.filter fun x => x.section_ = name

theorem nodup_keys_ofSection {name : String} (h : name ∈ sections) :
    ((ofSection name).map Setting.key).Nodup := by
  have hall : ∀ name ∈ sections, ((ofSection name).map Setting.key).Nodup := by decide
  exact hall name h

theorem section_mem_sections (x : Setting) : x.section_ ∈ sections := by
  cases x <;> decide

theorem isWritable (s : Settings) : Toml.IsWritable [("version", .nat Settings.version)]
    (sections.map fun name => (name, s.entriesOf name)) where
  top := ⟨by decide, by simp [Toml.Scalar.Fits, Settings.version], by decide⟩
  isBareKey := by
    have hbare : ∀ name ∈ sections, Toml.IsBareKey name := by decide
    intro e he
    obtain ⟨name, hname, rfl⟩ := List.mem_map.mp he
    exact hbare name hname
  below := by
    intro e he
    obtain ⟨name, hname, rfl⟩ := List.mem_map.mp he
    exact s.areWritable_entriesAmong (nodup_keys_ofSection hname)
  nodup := by
    have hnames : ("version" :: sections).Nodup := by decide
    simpa [Function.comp_def] using hnames

/-- The entries of written settings. -/
def entries (s : Settings) : Toml.Entries :=
  ("version", .int Settings.version) ::
    sections.map fun name => (name, .table .whole ((s.entriesOf name).map Toml.entryOf))

theorem parse?_text (s : Settings) : Toml.parse? s.text.toList = some s.entries := by
  rw [text, String.toList_ofList, Toml.parse?_document s.isWritable, List.map_map]
  rfl

/-- A setting is found in its section, as it was set. -/
theorem setting?_entries (s : Settings) {x : Setting} {α : Type} {o : Option α}
    {write : α → Toml.Scalar} (hget : s.get? x = o.map write) {read : Toml → Option α}
    (hread : ∀ a, read (write a).value = some a) : setting? s.entries x read = some o := by
  have hsection : section? s.entries x.section_ =
      some ((s.entriesAmong (ofSection x.section_)).map Toml.entryOf) := by
    cases x <;> rfl
  have hmem : x ∈ ofSection x.section_ :=
    List.mem_filter.mpr ⟨x.mem_all, decide_eq_true rfl⟩
  rw [setting?, hsection, Option.bind_eq_bind, Option.bind_some, Toml.field?,
    s.lookup_entriesAmong (nodup_keys_ofSection (section_mem_sections x)) hmem, hget]
  cases o with
  | none => rfl
  | some a =>
    simp only [Option.map_some]
    rw [hread, Option.map_some]

/-- **Written settings are read back**, and the version with them. -/
theorem decode?_text (s : Settings) : decode? s.text = some (Settings.version, s) := by
  have hversion : Toml.field? s.entries "version" (Toml.nat? Text.max32) =
      some (some Settings.version) := rfl
  have htext {x : Setting} {o : Option String} (h : s.get? x = o.map .text) :
      setting? s.entries x Toml.text? = some o :=
    s.setting?_entries h fun _ => rfl
  have hbool : setting? s.entries .color Toml.bool? = some s.color :=
    s.setting?_entries (show s.get? .color = s.color.map .bool from rfl) fun _ => rfl
  rw [decode?, parse?_text, Option.bind_some, ofEntries?, hversion, htext (x := .baseUrl) rfl,
    htext (x := .league) rfl, htext (x := .profile) rfl, hbool, htext (x := .filtersPath) rfl,
    htext (x := .ratesPath) rfl]
  rfl

example : ({ league := some "Don't \"panic\"", color := some true } : Settings).text =
    "version = 1\n\n[rates]\nleague = \"\"\"Don't \"panic\"\"\"\"\n\n[filter]\n\n" ++
      "[output]\ncolor = true\n\n[storage]\n" := by
  decide +kernel

/-- The settings that the content of a settings file stands for. A file that is not there stands for
settings none of which is set; one that cannot be read, or is of a later version, for none. -/
def Denotes : Option Content → Settings → Prop
  | none, s => s = {}
  | some (.text text), s => ∃ version ≤ Settings.version, decode? text = some (version, s)
  | some (.bytes _), _ => False

/-- Settings denoted by a content are the only ones. -/
theorem Denotes.unique {content : Option Content} {s s' : Settings} (h : Denotes content s)
    (h' : Denotes content s') : s = s' := by
  rcases content with _ | text | bs
  · exact Eq.trans h (Eq.symm h')
  · exact Except.ok.inj ((ofText?_eq_ok_iff.mpr h).symm.trans (ofText?_eq_ok_iff.mpr h'))
  · exact h.elim

end Settings

/-! ### Changes -/

/-- The words for a truth value. -/
def Setting.truthWords : Bool → List String
  | true => ["true", "yes", "1", "on"]
  | false => ["false", "no", "0", "off"]

/-- The setting takes a word, and makes a value of it: the address of the service must be one of the
web and is taken as it is given, a truth value is named by a word whatever the case of its letters,
and other texts are taken without blanks around them, if anything is left then. -/
def Setting.Takes (word : String) : Setting → Toml.Scalar → Prop
  | .baseUrl, v => (Text.begins word "http://" ∨ Text.begins word "https://") ∧ v = .text word
  | .color, v => ∃ b,
    String.ofList (Text.lowerAscii word.toList) ∈ truthWords b ∧ v = .bool b
  | .league, v | .profile, v | .filtersPath, v | .ratesPath, v =>
    Text.trim word.toList ≠ [] ∧ v = .text (String.ofList (Text.trim word.toList))

theorem truthValue?_eq_some_iff {word : String} {b : Bool} : truthValue? word = some b ↔
    String.ofList (Text.lowerAscii word.toList) ∈ Setting.truthWords b := by
  have hdisjoint : ∀ w ∈ Setting.truthWords true, w ∉ Setting.truthWords false := by decide
  rw [truthValue?]
  split_ifs with htrue hfalse
  · have hmem := List.contains_iff_mem.mp htrue
    cases b with
    | true => exact iff_of_true rfl hmem
    | false => exact iff_of_false nofun (hdisjoint _ hmem)
  · have hmem := List.contains_iff_mem.mp hfalse
    cases b with
    | true => exact iff_of_false nofun fun h => hdisjoint _ h hmem
    | false => exact iff_of_true rfl hmem
  · cases b with
    | true => exact iff_of_false nofun (mt List.contains_iff_mem.mpr htrue)
    | false => exact iff_of_false nofun (mt List.contains_iff_mem.mpr hfalse)

/-- A setting takes one value of a word at most. -/
theorem Setting.Takes.unique {x : Setting} {word : String} {v v' : Toml.Scalar}
    (h : x.Takes word v) (h' : x.Takes word v') : v = v' := by
  cases x with
  | color =>
    obtain ⟨b, hb, rfl⟩ := h
    obtain ⟨b', hb', rfl⟩ := h'
    have hsame := (truthValue?_eq_some_iff.mpr hb).symm.trans (truthValue?_eq_some_iff.mpr hb')
    rw [Option.some.inj hsame]
  | _ => exact h.2.trans h'.2.symm

theorem Setting.value_eq_ok_iff {x : Setting} {word t : String} :
    x.value word = .ok t ↔
      Text.trim word.toList ≠ [] ∧ t = String.ofList (Text.trim word.toList) := by
  rw [value]
  split
  · next hnil => simp [hnil]
  · next hne =>
    rw [Except.ok.injEq]
    exact ⟨fun h => ⟨hne, h.symm⟩, fun h => h.2.symm⟩

namespace Settings

/-- One setting is replaced, and all others are kept. -/
structure Replaces (s : Settings) (x : Setting) (v : Toml.Scalar) (s' : Settings) : Prop where
  self : s'.get? x = some v
  others : ∀ y ≠ x, s'.get? y = s.get? y

/-- Replacing a setting leaves no choice. -/
theorem Replaces.unique {s s' s'' : Settings} {x : Setting} {v : Toml.Scalar}
    (h : s.Replaces x v s') (h' : s.Replaces x v s'') : s' = s'' := by
  refine eq_of_get? fun y => ?_
  by_cases hy : y = x
  · rw [hy, h.self, h'.self]
  · rw [h.others y hy, h'.others y hy]

/-- A change that is made sets a value that the setting takes. -/
theorem exists_of_set_eq_ok {s s' : Settings} {x : Setting} {word : String}
    (h : s.set x word = .ok s') : ∃ v, x.Takes word v ∧ s.Replaces x v s' := by
  cases x with
  | baseUrl =>
    rw [set] at h
    split_ifs at h with hurl
    obtain rfl := Except.ok.inj h
    exact ⟨_, ⟨hurl, rfl⟩, rfl, fun y hy => by cases y <;> simp_all [get?]⟩
  | color =>
    rw [set] at h
    split at h
    · next b hb =>
      obtain rfl := Except.ok.inj h
      exact ⟨_, ⟨b, truthValue?_eq_some_iff.mp hb, rfl⟩, rfl,
        fun y hy => by cases y <;> simp_all [get?]⟩
    · cases h
  | _ =>
    obtain ⟨t, ht, rfl⟩ := exists_of_bind_pure_eq_ok h
    obtain ⟨hne, rfl⟩ := Setting.value_eq_ok_iff.mp ht
    exact ⟨_, ⟨hne, rfl⟩, rfl, fun y hy => by cases y <;> simp_all [get?]⟩

/-- A value that the setting takes is set. -/
theorem exists_set_eq_ok (s : Settings) {x : Setting} {word : String} {v : Toml.Scalar}
    (h : x.Takes word v) : ∃ s', s.set x word = .ok s' := by
  cases x with
  | baseUrl => exact ⟨_, if_pos h.1⟩
  | color =>
    obtain ⟨b, hb, -⟩ := h
    rw [set, truthValue?_eq_some_iff.mpr hb]
    exact ⟨_, rfl⟩
  | _ =>
    rw [set, Setting.value_eq_ok_iff.mpr ⟨h.1, rfl⟩]
    exact ⟨_, rfl⟩

theorem set_eq_ok_iff {s s' : Settings} {x : Setting} {word : String} :
    s.set x word = .ok s' ↔ ∃ v, x.Takes word v ∧ s.Replaces x v s' := by
  refine ⟨exists_of_set_eq_ok, ?_⟩
  rintro ⟨v, htakes, hreplaces⟩
  obtain ⟨s'', hset⟩ := s.exists_set_eq_ok htakes
  obtain ⟨v', htakes', hreplaces'⟩ := exists_of_set_eq_ok hset
  obtain rfl := htakes.unique htakes'
  rw [hset, hreplaces.unique hreplaces']

/-- A change to a value that the setting takes is not refused. -/
theorem exists_change_eq_ok (s : Settings) {x : Setting} {word : String} {v : Toml.Scalar}
    (h : x.Takes word v) : ∃ s', s.change x.name word = .ok s' := by
  obtain ⟨s', hs'⟩ := s.exists_set_eq_ok h
  exact ⟨s', by rw [change, Setting.ofName?_eq_some_iff.mpr rfl]; exact hs'⟩

/-- **What a change does**, and when it is done. -/
theorem change_eq_ok_iff {s s' : Settings} {name word : String} :
    s.change name word = .ok s' ↔
      ∃ x : Setting, x.name = name ∧ ∃ v, x.Takes word v ∧ s.Replaces x v s' := by
  rw [change]
  cases hx : Setting.ofName? name with
  | none =>
    refine iff_of_false nofun ?_
    rintro ⟨x, hname, -⟩
    exact Setting.ofName?_eq_none_iff.mp hx x hname
  | some x =>
    have hname := Setting.ofName?_eq_some_iff.mp hx
    rw [set_eq_ok_iff]
    constructor
    · rintro ⟨v, h⟩
      exact ⟨x, hname, v, h⟩
    · rintro ⟨y, hy, h⟩
      obtain rfl : x = y := Option.some.inj (hx.symm.trans (Setting.ofName?_eq_some_iff.mpr hy))
      exact h

end Settings

end LootLedger
