import LootLedger.Http.Snapshot
import LootLedger.Proofs.Calendar.Timestamp
import LootLedger.Proofs.Json.Finite
import LootLedger.Proofs.Json.Record
import LootLedger.Proofs.Price.History
import LootLedger.Proofs.Store.Saving

/-!
# What a stored history is read back as

Not every history is read back as it was: a document cannot tell what is listed twice, keeps no
order of dates but the ascending one, and has no infinities. But all histories that there are can be
stored. What was read from a document can, because reading puts entries in order, drops repeated
ones and finds no infinity; a fetched table was read from a document as well; and inserting a table
that can be stored into a history that can be stored gives another such history.

A history that can be stored is read back with its dates, its sections and its identifiers, and with
each value as it is read back by itself. So it is the same history exactly if all of its values are
read back as themselves, and this is not so for all of them.

## Main definitions

* `mapValues?`: entries with a step taken along their values
* `PriceTable.IsStorable`, `PriceHistory.IsStorable`: what a document can tell
* `PriceTable.reread?`, `PriceHistory.reread?`: what is read back
* `PriceHistory.IsReadBack`: all values are read back as themselves

## Main results

* `PriceHistory.parse?_text`: what a history that can be stored is read back as
* `PriceHistory.reread?_eq_self_iff`: when it is read back as it was
* `PriceHistory.isReadBack_of_isShort`: it is if its values are short
* `PriceHistory.isStorable_of_parse?`: a history that was read can be stored
* `PriceHistory.IsStorable.insert`: and so it can with one more table
* `Http.isStorable_of_tableOf?`: a fetched table can be stored
-/

namespace LootLedger

open Json (HasFiniteDoubles)

/-- No section and no identifier of a section is listed twice, and all values are finite. -/
structure PriceTable.IsStorable (table : PriceTable Float) : Prop where
  keys : (table.sections.map Prod.fst).Nodup
  identifiers : ∀ s ∈ table.sections, (s.2.map Prod.fst).Nodup
  finite : ∀ s ∈ table.sections, ∀ e ∈ s.2, Decimal.IsFinite e.2

/-- The dates ascend strictly, and the tables can be stored. -/
structure PriceHistory.IsStorable (history : PriceHistory Float) : Prop where
  ascending : (history.tables.map Prod.fst).Pairwise (· < ·)
  tables : ∀ e ∈ history.tables, e.2.IsStorable

/-! ### Values -/

section

variable {A B K : Type} {f : A → Option B}

/-- The entries with a step taken along their values. -/
def mapValues? (f : A → Option B) (entries : List (K × A)) : Option (List (K × B)) :=
  entries.mapM fun e => (f e.2).map (e.1, ·)

theorem mapValues?_cons (e : K × A) (entries : List (K × A)) :
    mapValues? f (e :: entries) =
      (f e.2).bind fun b => (mapValues? f entries).map ((e.1, b) :: ·) := by
  rw [mapValues?, List.mapM_cons]
  cases f e.2 with
  | none => rfl
  | some b =>
    change (mapValues? f entries).bind _ = _
    cases mapValues? f entries <;> rfl

/-- The keys stay. -/
theorem map_fst_of_mapValues? {entries : List (K × A)} {entries' : List (K × B)}
    (h : mapValues? f entries = some entries') :
    entries'.map Prod.fst = entries.map Prod.fst := by
  induction entries generalizing entries' with
  | nil =>
    obtain rfl := Option.some.inj h
    rfl
  | cons e entries ih =>
    rw [mapValues?_cons] at h
    obtain ⟨b, -, h⟩ := Option.bind_eq_some_iff.mp h
    obtain ⟨rest, hrest, rfl⟩ := Option.map_eq_some_iff.mp h
    rw [List.map_cons, List.map_cons, ih hrest]

/-- What is found under a key is what the step makes of the value there. -/
theorem lookup_mapValues? [BEq K] {entries : List (K × A)} {entries' : List (K × B)}
    (h : mapValues? f entries = some entries') (key : K) :
    entries'.lookup key = (entries.lookup key).bind f := by
  induction entries generalizing entries' with
  | nil =>
    obtain rfl := Option.some.inj h
    rfl
  | cons e entries ih =>
    rw [mapValues?_cons] at h
    obtain ⟨b, hb, h⟩ := Option.bind_eq_some_iff.mp h
    obtain ⟨rest, hrest, rfl⟩ := Option.map_eq_some_iff.mp h
    rw [List.lookup_cons, List.lookup_cons, ih hrest]
    cases key == e.1
    · rfl
    · exact hb.symm

/-- Entries stay as they are exactly if each value does. -/
theorem mapValues?_eq_self_iff {f : A → Option A} {entries : List (K × A)} :
    mapValues? f entries = some entries ↔ ∀ e ∈ entries, f e.2 = some e.2 := by
  induction entries with
  | nil => exact iff_of_true rfl fun _ h => absurd h List.not_mem_nil
  | cons e entries ih =>
    rw [mapValues?_cons, List.forall_mem_cons, ← ih]
    constructor
    · intro h
      obtain ⟨a, ha, h⟩ := Option.bind_eq_some_iff.mp h
      obtain ⟨rest, hrest, heq⟩ := Option.map_eq_some_iff.mp h
      obtain ⟨hhead, rfl⟩ := List.cons.inj heq
      exact ⟨ha.trans (congrArg some (congrArg Prod.snd hhead)), hrest⟩
    · rintro ⟨hhead, hrest⟩
      rw [hhead, hrest]
      rfl

/-- What entries are read back as: each value as it is read back by itself. -/
theorem Json.entries?_reread (name : K → String) (value : Json → Option B) (write : A → Json)
    {entries : List (K × A)} (h : ∀ e ∈ entries, value (write e.2).reread = f e.2) :
    Json.entries? value (Json.object (entries.map fun e => (name e.1, write e.2))).reread =
      (mapValues? f entries).map (List.map fun e => (name e.1, e.2)) := by
  rw [Json.reread_object, List.map_map, Json.entries?, ← mapValues?]
  induction entries with
  | nil => rfl
  | cons e entries ih =>
    rw [List.forall_mem_cons] at h
    rw [List.map_cons, mapValues?_cons, mapValues?_cons, ih h.2]
    change (value (write e.2).reread).bind _ = _
    rw [h.1]
    cases f e.2 with
    | none => rfl
    | some b => cases mapValues? f entries <;> rfl

theorem Json.entries?_reread_self (value : Json → Option B) (write : A → Json)
    {entries : List (String × A)} (h : ∀ e ∈ entries, value (write e.2).reread = f e.2) :
    Json.entries? value (Json.object (entries.map fun e => (e.1, write e.2))).reread =
      mapValues? f entries := by
  refine (Json.entries?_reread id value write h).trans ?_
  cases mapValues? f entries with
  | none => rfl
  | some entries' => exact congrArg some (List.map_id' entries')

end

/-! ### Reading back -/

/-- A date is read back. -/
theorem Date.parse?_text (d : Date) : parse? d.text = some d := by
  have hread := read?_text d []
  rw [List.append_nil] at hread
  rw [parse?, hread]
  rfl

theorem Json.date?_text (d : Date) : Json.date? (.text (String.ofList d.text)) = some d := by
  have hchars : (String.ofList d.text).toList = d.text := String.toList_ofList
  rw [Json.date?, Json.text?, Option.bind_eq_bind, Option.bind_some, hchars, Date.parse?_text]

/-- A value is read back as its numeral is. -/
theorem Json.float?_reread (x : Float) : (Json.float x).reread.float? = Json.reread? x := by
  rw [Json.reread]
  cases Json.reread? x <;> rfl

namespace PriceTable

/-- The table that a table is read back as. -/
def reread? (table : PriceTable Float) : Option (PriceTable Float) :=
  (mapValues? (mapValues? Json.reread?) table.sections).map fun sections => { table with sections }

variable {table : PriceTable Float}

theorem isPlain_toJson (h : table.IsStorable) : table.toJson.IsPlain Decimal.IsFinite := by
  refine .object fun m hm => ?_
  simp only [List.mem_cons, List.not_mem_nil, or_false] at hm
  rcases hm with rfl | rfl
  · exact .text _
  · refine .object fun m hm => ?_
    obtain ⟨⟨key, entries⟩, hsection, rfl⟩ := List.mem_map.mp hm
    refine .object fun m hm => ?_
    obtain ⟨⟨id, value⟩, hentry, rfl⟩ := List.mem_map.mp hm
    exact .float (h.finite _ hsection _ hentry)

/-- The values of a section are read back one by one. -/
theorem section_reread {entries : List (String × Float)} (h : (entries.map Prod.fst).Nodup) :
    ((Json.object (entries.map fun e => (e.1, .float e.2))).reread.entries? Json.float?).map
      ofEntries = mapValues? Json.reread? entries := by
  rw [Json.entries?_reread_self Json.float? .float fun e _ => Json.float?_reread e.2]
  cases hread : mapValues? Json.reread? entries with
  | none => rfl
  | some entries' =>
    rw [Option.map_some, ofEntries_eq_self]
    rw [map_fst_of_mapValues? hread]
    exact h

theorem sections?_reread (h : table.IsStorable) :
    sections? (sectionsJson table.sections).reread =
      mapValues? (mapValues? Json.reread?) table.sections := by
  have hsections := Json.entries?_reread_self
    (fun section_ => (section_.entries? Json.float?).map ofEntries)
    (fun s : List (String × Float) => .object (s.map fun e => (e.1, .float e.2)))
    fun s hs => section_reread (h.identifiers s hs)
  rw [sections?, sectionsJson]
  refine (congrArg (Option.bind · _) hsections).trans ?_
  cases hread : mapValues? (mapValues? Json.reread?) table.sections with
  | none => rfl
  | some sections =>
    rw [Option.bind_some, ofEntries_eq_self]
    · rfl
    · rw [map_fst_of_mapValues? hread]
      exact h.keys

/-- **What a table is read back as.** -/
theorem ofJson?_reread (h : table.IsStorable) : ofJson? table.toJson.reread = table.reread? := by
  obtain ⟨fields, hfields, hdate, hsections⟩ : ∃ fields,
      schema.fields? table.toJson.reread = some fields ∧
      fields.lookup .date = some (.text (String.ofList table.date.text)) ∧
      fields.lookup .sections = some (sectionsJson table.sections).reread := ⟨_, rfl, rfl, rfl⟩
  rw [ofJson?, hfields]
  simp only [Option.bind_eq_bind, Option.bind_some, Json.required?_of_lookup hdate,
    Json.defaulted?_of_lookup hsections, Json.date?_text, sections?_reread h]
  rw [reread?]
  cases mapValues? (mapValues? Json.reread?) table.sections <;> rfl

theorem reread?_eq_self_iff : table.reread? = some table ↔
    ∀ s ∈ table.sections, ∀ e ∈ s.2, Json.reread? e.2 = some e.2 := by
  have hsections : table.reread? = some table ↔
      mapValues? (mapValues? Json.reread?) table.sections = some table.sections := by
    rw [reread?, Option.map_eq_some_iff]
    constructor
    · rintro ⟨sections, hread, heq⟩
      rw [hread, ← heq]
    · exact fun hread => ⟨_, hread, rfl⟩
  rw [hsections, mapValues?_eq_self_iff]
  exact forall₂_congr fun s _ => mapValues?_eq_self_iff

end PriceTable

namespace PriceHistory

/-- The history that a history is read back as. -/
def reread? (history : PriceHistory Float) : Option (PriceHistory Float) :=
  (mapValues? PriceTable.reread? history.tables).map PriceHistory.mk

/-- All values of the history are read back as themselves. -/
def IsReadBack (history : PriceHistory Float) : Prop :=
  ∀ e ∈ history.tables, ∀ s ∈ e.2.sections, ∀ v ∈ s.2, Json.reread? v.2 = some v.2

variable {history : PriceHistory Float}

theorem isPlain_toJson (h : history.IsStorable) : history.toJson.IsPlain Decimal.IsFinite := by
  refine .object fun m hm => ?_
  obtain rfl := List.mem_singleton.mp hm
  refine .object fun m hm => ?_
  obtain ⟨⟨date, table⟩, htable, rfl⟩ := List.mem_map.mp hm
  exact PriceTable.isPlain_toJson (h.tables _ htable)

theorem tables?_reread (h : history.IsStorable) :
    tables? (Json.object
      (history.tables.map fun e => (String.ofList e.1.text, e.2.toJson))).reread =
        history.reread? := by
  have hentries := Json.entries?_reread (fun d : Date => String.ofList d.text)
    PriceTable.ofJson? PriceTable.toJson
    fun e he => PriceTable.ofJson?_reread (h.tables e he)
  rw [tables?, reread?]
  refine (congrArg (Option.bind · _) hentries).trans ?_
  cases hread : mapValues? PriceTable.reread? history.tables with
  | none => rfl
  | some tables =>
    have hdated : (tables.map fun e => (String.ofList e.1.text, e.2)).mapM
        (fun e => (Date.parse? e.1.toList).map (·, e.2)) = some tables :=
      mapM_map_eq_pure _ _ fun e _ => by
        dsimp only
        rw [String.toList_ofList, Date.parse?_text]
        rfl
    have hascending := h.ascending
    rw [← map_fst_of_mapValues? hread] at hascending
    rw [Option.map_some, Option.bind_some]
    refine (congrArg (Option.bind · _) hdated).trans ?_
    rw [Option.bind_some, ofEntries_eq_self hascending]
    rfl

theorem ofJson?_reread (h : history.IsStorable) :
    ofJson? history.toJson.reread = history.reread? := by
  obtain ⟨fields, hfields, htables⟩ : ∃ fields, schema.fields? history.toJson.reread = some fields ∧
      fields.lookup () =
        some (Json.object
          (history.tables.map fun e => (String.ofList e.1.text, e.2.toJson))).reread :=
    ⟨_, rfl, rfl⟩
  rw [ofJson?, hfields]
  simp only [Option.bind_eq_bind, Option.bind_some, Json.defaulted?_of_lookup htables,
    tables?_reread h]

/-- **What a history that can be stored is read back as.** -/
theorem parse?_text (h : history.IsStorable) :
    StoredDocument.parse? (StoredDocument.text history) = history.reread? :=
  (StoredDocument.parse?_text (isPlain_toJson h)).trans (ofJson?_reread h)

/-- **A history is read back as it was** exactly if all of its values are. -/
theorem reread?_eq_self_iff : history.reread? = some history ↔ history.IsReadBack := by
  have htables : history.reread? = some history ↔
      mapValues? PriceTable.reread? history.tables = some history.tables := by
    rw [reread?, Option.map_eq_some_iff]
    constructor
    · rintro ⟨tables, hread, heq⟩
      rw [hread, ← heq]
    · exact fun hread => ⟨_, hread, rfl⟩
  rw [htables, mapValues?_eq_self_iff]
  exact forall₂_congr fun e _ => PriceTable.reread?_eq_self_iff

/-- It is read back as it was if it is so under every date. -/
theorem isReadBack_of_get?_eq (h : history.IsStorable) {history' : PriceHistory Float}
    (hread : history.reread? = some history')
    (heq : ∀ date, history'.get? date = history.get? date) : history.IsReadBack := by
  obtain ⟨tables, htables, rfl⟩ := Option.map_eq_some_iff.mp hread
  have hnodup := nodup_of_ascending h.ascending
  refine fun e he => PriceTable.reread?_eq_self_iff.mp ?_
  have hlookup : history.tables.lookup e.1 = some e.2 := lookup_eq_some_of_mem hnodup he
  calc e.2.reread? = (history.tables.lookup e.1).bind PriceTable.reread? := by rw [hlookup]; rfl
    _ = tables.lookup e.1 := (lookup_mapValues? htables e.1).symm
    _ = some e.2 := (heq e.1).trans hlookup

/-- **Short values are read back,** so a history that has no others is. -/
theorem isReadBack_of_isShort
    (h : ∀ e ∈ history.tables, ∀ s ∈ e.2.sections, ∀ v ∈ s.2, Json.IsShort v.2) :
    history.IsReadBack :=
  fun e he s hs v hv => Json.reread?_of_isShort (h e he s hs v hv)

/-! ### What can be stored -/

theorem isStorable_empty : (StoredDocument.empty : PriceHistory Float).IsStorable :=
  ⟨List.Pairwise.nil, fun _ h => absurd h List.not_mem_nil⟩

/-- **A history that can be stored can be with one more table.** -/
theorem IsStorable.insert (h : history.IsStorable) {table : PriceTable Float}
    (htable : table.IsStorable) : (history.insert table).IsStorable :=
  ⟨pairwise_place h.ascending, fun e he =>
    (eq_or_mem_of_mem_place he).elim (fun heq => heq ▸ htable) (h.tables e)⟩

theorem isStorable_ofEntries {entries : List (Date × PriceTable Float)}
    (h : ∀ e ∈ entries, e.2.IsStorable) : (ofEntries entries).IsStorable := by
  have hplace : ∀ tables : List (Date × PriceTable Float),
      (⟨tables⟩ : PriceHistory Float).IsStorable →
        (⟨entries.foldl (fun tables e => place e.1 e.2 tables) tables⟩ :
          PriceHistory Float).IsStorable := by
    induction entries with
    | nil => exact fun _ h => h
    | cons e rest ih =>
      rw [List.forall_mem_cons] at h
      exact fun tables htables => ih h.2 _
        ⟨pairwise_place htables.ascending, fun e' he' =>
          (eq_or_mem_of_mem_place he').elim (fun heq => heq ▸ h.1) (htables.tables e')⟩
  exact hplace [] isStorable_empty

end PriceHistory

/-! ### What was read -/

namespace Json

variable {A F : Type} {j : Json}

theorem isFinite_of_float? (hj : j.HasFiniteDoubles) {x : Float} (h : j.float? = some x) :
    Decimal.IsFinite x := by
  cases hj with
  | float hx => exact Option.some.inj h ▸ hx
  | int n => exact Decimal.isFinite_of_ofDecimal? h
  | _ => cases h

/-- The entries of an object come of its members. -/
theorem forall_of_entries? {P : A → Prop} {value : Json → Option A} (hj : j.HasFiniteDoubles)
    (hvalue : ∀ j a, HasFiniteDoubles j → value j = some a → P a) {entries : List (String × A)}
    (h : j.entries? value = some entries) : ∀ e ∈ entries, P e.2 := by
  cases hj with
  | object hms =>
    intro e he
    obtain ⟨⟨name, j⟩, hmem, hdecode⟩ := exists_mem_of_mapM_eq_some h he
    obtain ⟨a, ha, rfl⟩ := Option.map_eq_some_iff.mp hdecode
    exact hvalue j a (hms _ hmem) ha
  | _ => cases h

/-- The fields of a record come of its members. -/
theorem hasFiniteDoubles_of_fields? [DecidableEq F] {schema : Schema F} (hj : j.HasFiniteDoubles)
    {fields : List (F × Json)} (h : schema.fields? j = some fields) {f : F} {v : Json}
    (hv : fields.lookup f = some v) : v.HasFiniteDoubles := by
  have hmem := mem_of_lookup hv
  cases hj with
  | object hms =>
    rw [Schema.fields?, Schema.ofMembers?_eq] at h
    split at h
    · obtain rfl := Option.some.inj h
      obtain ⟨⟨name, j⟩, hm, hnamed⟩ := List.mem_filterMap.mp hmem
      obtain ⟨_, -, heq⟩ := Option.map_eq_some_iff.mp hnamed
      exact (Prod.mk.inj heq).2 ▸ hms _ hm
    · cases h
  | array hxs =>
    rw [Schema.fields?] at h
    split at h
    · obtain rfl := Option.some.inj h
      exact hxs _ (List.of_mem_zip hmem).2
    · cases h
  | _ => cases h

theorem forall_of_defaulted? [DecidableEq F] {P : A → Prop} {value : Json → Option A} {default : A}
    {fields : List (F × Json)} {f : F} {a : A}
    (hfields : ∀ v, fields.lookup f = some v → v.HasFiniteDoubles)
    (hvalue : ∀ j a, HasFiniteDoubles j → value j = some a → P a) (hdefault : P default)
    (h : defaulted? fields f value default = some a) : P a := by
  rw [defaulted?] at h
  split at h
  · exact Option.some.inj h ▸ hdefault
  · next v hv => exact hvalue v a (hfields v hv) h

end Json

/-- Sections that were read make a table that can be stored. -/
theorem PriceTable.isStorable_of_sections? {j : Json} (hj : j.HasFiniteDoubles)
    {sections : List (String × List (String × Float))} (h : sections? j = some sections)
    (date : Date) : (⟨date, sections⟩ : PriceTable Float).IsStorable := by
  obtain ⟨entries, hentries, h⟩ := Option.bind_eq_some_iff.mp h
  obtain rfl := Option.some.inj h
  have hsections := Json.forall_of_entries?
    (P := fun s : List (String × Float) => (s.map Prod.fst).Nodup ∧ ∀ e ∈ s, Decimal.IsFinite e.2)
    hj (fun j s hj hs => by
      obtain ⟨values, hvalues, rfl⟩ := Option.map_eq_some_iff.mp hs
      exact ⟨nodup_map_fst_ofEntries values, fun e he =>
        Json.forall_of_entries? hj (fun _ _ hj hx => Json.isFinite_of_float? hj hx) hvalues e
          (mem_of_mem_ofEntries he)⟩) hentries
  exact ⟨nodup_map_fst_ofEntries entries,
    fun s hs => (hsections s (mem_of_mem_ofEntries hs)).1,
    fun s hs => (hsections s (mem_of_mem_ofEntries hs)).2⟩

theorem PriceTable.isStorable_of_ofJson? {j : Json} (hj : j.HasFiniteDoubles)
    {table : PriceTable Float} (h : ofJson? j = some table) : table.IsStorable := by
  obtain ⟨fields, hfields, h⟩ := Option.bind_eq_some_iff.mp h
  obtain ⟨date, -, h⟩ := Option.bind_eq_some_iff.mp h
  obtain ⟨sections, hsections, h⟩ := Option.bind_eq_some_iff.mp h
  obtain rfl := Option.some.inj h
  refine Json.forall_of_defaulted?
    (P := fun sections => (⟨date, sections⟩ : PriceTable Float).IsStorable)
    (fun _ => Json.hasFiniteDoubles_of_fields? hj hfields)
    (fun _ _ hj hs => isStorable_of_sections? hj hs date) ?_ hsections
  exact ⟨List.nodup_nil, fun _ h => absurd h List.not_mem_nil, fun _ h => absurd h List.not_mem_nil⟩

namespace PriceHistory

variable {history : PriceHistory Float}

theorem isStorable_of_tables? {j : Json} (hj : j.HasFiniteDoubles) (h : tables? j = some history) :
    history.IsStorable := by
  obtain ⟨entries, hentries, h⟩ := Option.bind_eq_some_iff.mp h
  obtain ⟨dated, hdated, h⟩ := Option.bind_eq_some_iff.mp h
  obtain rfl := Option.some.inj h
  have htables := Json.forall_of_entries? hj
    (fun _ _ hj htable => PriceTable.isStorable_of_ofJson? hj htable) hentries
  refine isStorable_ofEntries fun e he => ?_
  obtain ⟨⟨name, table⟩, hmem, hdate⟩ := exists_mem_of_mapM_eq_some hdated he
  obtain ⟨_, -, rfl⟩ := Option.map_eq_some_iff.mp hdate
  exact htables _ hmem

/-- **A history that was read can be stored.** -/
theorem isStorable_of_parse? {text : String} (h : StoredDocument.parse? text = some history) :
    history.IsStorable := by
  obtain ⟨j, hj, h⟩ := Option.bind_eq_some_iff.mp h
  have hj := Json.hasFiniteDoubles_of_parse? hj
  obtain ⟨fields, hfields, h⟩ := Option.bind_eq_some_iff.mp h
  exact Json.forall_of_defaulted? (fun _ => Json.hasFiniteDoubles_of_fields? hj hfields)
    (fun _ _ hj htables => isStorable_of_tables? hj htables) isStorable_empty h

/-- A history that a file stands for can be stored. -/
theorem isStorable_of_denotes {content : Option Content}
    (h : StoredDocument.Denotes content history) : history.IsStorable := by
  rcases content with _ | text | bytes
  · exact (show history = StoredDocument.empty from h) ▸ isStorable_empty
  · exact isStorable_of_parse? h
  · exact h.elim

end PriceHistory

/-- **A fetched table can be stored,** and is of the date that it was fetched for. -/
theorem Http.isStorable_of_tableOf? {url : Url} {league : String} {date : Date}
    {outcome : Http.Outcome} {table : PriceTable Float}
    (h : Http.tableOf? url league date outcome = .ok table) :
    table.IsStorable ∧ table.date = date := by
  cases outcome with
  | failure f => cases h
  | response r =>
    rw [Http.tableOf?] at h
    split_ifs at h
    split at h
    · next sections hsections =>
      obtain rfl := Except.ok.inj h
      obtain ⟨j, hj, hsections⟩ := Option.bind_eq_some_iff.mp hsections
      exact ⟨PriceTable.isStorable_of_sections? (Json.hasFiniteDoubles_of_parse? hj) hsections date,
        rfl⟩
    · cases h

end LootLedger
