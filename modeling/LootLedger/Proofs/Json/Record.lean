import LootLedger.Entries
import LootLedger.Json.Decode
import Mathlib.Data.List.Nodup

/-!
# Records

A record is read in two stages. First each member goes to the field that its name belongs to, and a
member whose name belongs to none is passed over; then every field looks for its value. The second
stage sees neither the names nor the order of the members, and the first is refused exactly if two
members go to one field. So all that a record can say is the table of its named members, up to its
order.

## Main definitions

* `Json.Schema.named`: the members that name fields, with their fields

## Main results

* `Json.Schema.ofMembers?_eq`: an object is a record unless two members go to one field
* `Json.Schema.bind_fields?_congr`: objects with the same named members are the same record
* `Json.Schema.exists_fields?_written`: the fields of a written record are those that were written
-/

namespace LootLedger.Json

section Field

variable {F : Type} [DecidableEq F] {α : Type}

/-- The value of a field depends on what is found for the field, and on nothing else. -/
theorem defaulted?_congr {fields fields' : List (F × Json)} {f : F}
    (h : fields.lookup f = fields'.lookup f) (value : Json → Option α) (default : α) :
    defaulted? fields f value default = defaulted? fields' f value default := by
  rw [defaulted?, defaulted?, h]

theorem required?_of_lookup {fields : List (F × Json)} {f : F} {j : Json}
    (h : fields.lookup f = some j) (value : Json → Option α) :
    required? fields f value = value j := by
  rw [required?, h, Option.bind_eq_bind, Option.bind_some]

theorem defaulted?_of_lookup {fields : List (F × Json)} {f : F} {j : Json}
    (h : fields.lookup f = some j) (value : Json → Option α) (default : α) :
    defaulted? fields f value default = value j := by
  rw [defaulted?, h]

end Field

namespace Schema

variable {F : Type} {schema : Schema F}

/-- The members that name fields, with their fields. -/
def named (schema : Schema F) (ms : List (String × Json)) : List (F × Json) :=
  ms.filterMap fun (name, value) => (schema.ofName name).map (·, value)

theorem named_append (ms ms' : List (String × Json)) :
    schema.named (ms ++ ms') = schema.named ms ++ schema.named ms' :=
  List.filterMap_append

theorem named_cons_of_some {name : String} {f : F} (h : schema.ofName name = some f) (j : Json)
    (ms : List (String × Json)) : schema.named ((name, j) :: ms) = (f, j) :: schema.named ms :=
  List.filterMap_cons_some (congrArg (Option.map (·, j)) h)

theorem named_cons_of_none {name : String} (h : schema.ofName name = none) (j : Json)
    (ms : List (String × Json)) : schema.named ((name, j) :: ms) = schema.named ms :=
  List.filterMap_cons_none (congrArg (Option.map (·, j)) h)

section Read

variable [DecidableEq F]

/-- **An object is a record** unless two members go to one field. -/
theorem ofMembers?_eq (ms : List (String × Json)) : schema.ofMembers? ms =
    if ((schema.named ms).map Prod.fst).Nodup then some (schema.named ms) else none := by
  induction ms with
  | nil => rfl
  | cons m ms ih =>
    obtain ⟨name, value⟩ := m
    rw [ofMembers?, ih]
    cases hname : schema.ofName name with
    | none =>
      rw [named_cons_of_none hname]
      split <;> rfl
    | some f =>
      have hnodup : ((schema.named ((name, value) :: ms)).map Prod.fst).Nodup ↔
          f ∉ (schema.named ms).map Prod.fst ∧ ((schema.named ms).map Prod.fst).Nodup := by
        rw [named_cons_of_some hname, List.map_cons, List.nodup_cons]
      by_cases hrest : ((schema.named ms).map Prod.fst).Nodup
      · have hany : (schema.named ms).any (·.1 = f) ↔ f ∈ (schema.named ms).map Prod.fst := by
          simp only [List.any_eq_true, decide_eq_true_eq, List.mem_map]
        rw [if_pos hrest, Option.bind_eq_bind, Option.bind_some]
        by_cases hf : f ∈ (schema.named ms).map Prod.fst
        · rw [if_neg fun h => (hnodup.mp h).1 hf]
          exact if_pos (hany.mpr hf)
        · rw [if_pos (hnodup.mpr ⟨hf, hrest⟩), named_cons_of_some hname]
          exact if_neg (mt hany.mp hf)
      · rw [if_neg hrest, if_neg fun h => hrest (hnodup.mp h).2]
        rfl

/-- Two members for one field make an object unreadable. -/
theorem fields?_eq_none {a b : String} {f : F} (ha : schema.ofName a = some f)
    (hb : schema.ofName b = some f) (j k : Json) (before between after : List (String × Json)) :
    schema.fields? (.object (before ++ (a, j) :: (between ++ (b, k) :: after))) = none := by
  rw [fields?, ofMembers?_eq, if_neg]
  rw [named_append, named_cons_of_some ha, named_append, named_cons_of_some hb]
  intro hnodup
  rw [List.map_append, List.map_cons] at hnodup
  refine (List.nodup_cons.mp (List.nodup_append.mp hnodup).2.1).1 ?_
  simp

/-- **Objects with the same named members are the same record,** whatever is read out of it, as
long as it is read field by field. -/
theorem bind_fields?_congr {α : Type} {read : List (F × Json) → Option α}
    (hread : ∀ fields fields', (∀ f, fields.lookup f = fields'.lookup f) →
      read fields = read fields')
    {ms ms' : List (String × Json)} (h : (schema.named ms).Perm (schema.named ms')) :
    (schema.fields? (.object ms)).bind read = (schema.fields? (.object ms')).bind read := by
  have hkeys := (h.map Prod.fst).nodup_iff
  rw [fields?, fields?, ofMembers?_eq, ofMembers?_eq]
  by_cases hnodup : ((schema.named ms).map Prod.fst).Nodup
  · rw [if_pos hnodup, if_pos (hkeys.mp hnodup)]
    exact hread _ _ (lookup_eq_of_perm h hnodup)
  · rw [if_neg hnodup, if_neg (mt hkeys.mpr hnodup)]

end Read

/-! ### Written records -/

section Write

variable {key : F → String} (write : F → Option Json)

theorem named_filterMap (hkey : ∀ f, schema.ofName (key f) = some f) (fs : List F) :
    schema.named (fs.filterMap fun f => (write f).map (key f, ·)) =
      fs.filterMap fun f => (write f).map (f, ·) := by
  rw [named, List.filterMap_filterMap]
  refine congrArg (fun g => fs.filterMap g) (funext fun f => ?_)
  cases write f with
  | none => rfl
  | some j => exact congrArg (Option.map (·, j)) (hkey f)

theorem map_fst_filterMap (fs : List F) :
    (fs.filterMap fun f => (write f).map (f, ·)).map Prod.fst =
      fs.filter fun f => (write f).isSome := by
  rw [List.map_filterMap, ← List.filterMap_eq_filter]
  refine congrArg (fun g => fs.filterMap g) (funext fun f => ?_)
  cases h : write f <;> simp [Option.guard, h]

theorem mem_filterMap_iff {fs : List F} {f : F} {j : Json} (hf : f ∈ fs) :
    (f, j) ∈ (fs.filterMap fun f => (write f).map (f, ·)) ↔ write f = some j := by
  constructor
  · intro h
    obtain ⟨g, -, hg⟩ := List.mem_filterMap.mp h
    obtain ⟨k, hk, heq⟩ := Option.map_eq_some_iff.mp hg
    obtain ⟨rfl, rfl⟩ := Prod.mk.inj heq
    exact hk
  · intro h
    exact List.mem_filterMap.mpr ⟨f, hf, by rw [h]; rfl⟩

/-- **The fields of a written record are those that were written.** -/
theorem exists_fields?_written [DecidableEq F] (hkey : ∀ f, schema.ofName (key f) = some f)
    (hnodup : schema.order.Nodup) (hall : ∀ f, f ∈ schema.order) :
    ∃ fields, schema.fields?
        (.object (schema.order.filterMap fun f => (write f).map (key f, ·))) = some fields ∧
      ∀ f, fields.lookup f = write f := by
  have hkeys : ((schema.order.filterMap fun f => (write f).map (f, ·)).map Prod.fst).Nodup := by
    rw [map_fst_filterMap]
    exact hnodup.filter _
  refine ⟨schema.order.filterMap fun f => (write f).map (f, ·), ?_, fun f =>
    Option.ext fun j => ?_⟩
  · rw [fields?, ofMembers?_eq, named_filterMap write hkey, if_pos hkeys]
  · rw [← mem_filterMap_iff write (hall f)]
    exact ⟨mem_of_lookup, lookup_eq_some_of_mem hkeys⟩

end Write

end Schema

end LootLedger.Json
