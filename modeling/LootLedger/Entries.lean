/-!
# Tables of entries

A table is a list of keys with their values. Setting a key that is there keeps its place, so a
table lists its keys in the order in which they first appeared; looking a key up sees the first
entry for it.

## Main definitions

* `put`: the table with one entry set
* `ofEntries`: entries given in order, later ones replacing earlier ones
* `without`: the table without a key

## Main results

* `lookup_put_self`, `lookup_put_of_ne`: what is found after an entry was set
* `map_fst_put`, `nodup_map_fst_put`: which keys a table has after an entry was set
* `nodup_map_fst_ofEntries`, `ofEntries_eq_self`: what becomes of entries given in order
* `mem_of_lookup`, `lookup_eq_some_of_mem`, `isSome_lookup_iff`: entries of a table, and what is
  found in it
* `lookup_eq_of_perm`: the order of a table without repeated keys does not matter
-/

namespace LootLedger

/-- The entries with the one for `key` set to `value`, at its place if there is one. -/
def put [DecidableEq K] (key : K) (value : A) : List (K × A) → List (K × A)
  | [] => [(key, value)]
  | (k, a) :: rest => if k = key then (k, value) :: rest else (k, a) :: put key value rest

/-- Entries given in order, later ones replacing earlier ones for the same key. -/
def ofEntries [DecidableEq K] (entries : List (K × A)) : List (K × A) :=
  entries.foldl (fun table (key, value) => put key value table) []

@[simp] theorem lookup_put_self [DecidableEq K] [BEq K] [LawfulBEq K] (key : K) (value : A)
    (table : List (K × A)) : (put key value table).lookup key = some value := by
  induction table with
  | nil => simp [put]
  | cons e rest ih =>
    obtain ⟨k, a⟩ := e
    simp only [put]
    split
    · next h => simp [h]
    · next h =>
      have : (key == k) = false := by simpa using fun e => h e.symm
      simp [List.lookup_cons, this, ih]

theorem lookup_put_of_ne [DecidableEq K] [BEq K] [LawfulBEq K] {key k : K} (h : k ≠ key)
    (value : A) (table : List (K × A)) :
    (put key value table).lookup k = table.lookup k := by
  induction table with
  | nil =>
    have : (k == key) = false := by simpa using h
    simp [put, List.lookup_cons, this]
  | cons e rest ih =>
    obtain ⟨k', a⟩ := e
    simp only [put]
    split
    · next hk =>
      have : (k == k') = false := by rw [hk]; simpa using h
      simp [List.lookup_cons, this]
    · simp only [List.lookup_cons, ih]

/-- Setting an entry leaves the keys as they are, or puts a new key at the end. -/
theorem map_fst_put [DecidableEq K] (key : K) (value : A) (table : List (K × A)) :
    (put key value table).map Prod.fst =
      if key ∈ table.map Prod.fst then table.map Prod.fst else table.map Prod.fst ++ [key] := by
  induction table with
  | nil => rfl
  | cons e rest ih =>
    obtain ⟨k, a⟩ := e
    simp only [put, List.map_cons]
    by_cases hk : k = key
    · subst hk
      simp
    · have hcons : key ∈ k :: rest.map Prod.fst ↔ key ∈ rest.map Prod.fst := by
        rw [List.mem_cons]
        exact or_iff_right fun h => hk h.symm
      rw [if_neg hk, List.map_cons, ih]
      by_cases hmem : key ∈ rest.map Prod.fst
      · rw [if_pos hmem, if_pos (hcons.mpr hmem)]
      · rw [if_neg hmem, if_neg (mt hcons.mp hmem), List.cons_append]

theorem nodup_map_fst_put [DecidableEq K] {key : K} {value : A} {table : List (K × A)}
    (h : (table.map Prod.fst).Nodup) : ((put key value table).map Prod.fst).Nodup := by
  rw [map_fst_put]
  split
  · exact h
  · next hmem =>
    refine List.nodup_append.mpr ⟨h, by simp, fun a ha b hb hab => ?_⟩
    rw [List.mem_singleton.mp hb] at hab
    exact hmem (hab ▸ ha)

theorem eq_or_mem_of_mem_put [DecidableEq K] {key : K} {value : A} {table : List (K × A)}
    {e : K × A} (h : e ∈ put key value table) : e = (key, value) ∨ e ∈ table := by
  induction table with
  | nil => exact .inl (List.mem_singleton.mp h)
  | cons e' rest ih =>
    obtain ⟨k, a⟩ := e'
    rw [put] at h
    split at h
    · next hk =>
      rcases List.mem_cons.mp h with rfl | h
      · exact .inl (by rw [hk])
      · exact .inr (List.mem_cons_of_mem _ h)
    · rcases List.mem_cons.mp h with rfl | h
      · exact .inr List.mem_cons_self
      · exact (ih h).imp_right (List.mem_cons_of_mem _)

/-- A new key comes last. -/
theorem put_of_notMem [DecidableEq K] {key : K} {table : List (K × A)}
    (h : key ∉ table.map Prod.fst) (value : A) : put key value table = table ++ [(key, value)] := by
  induction table with
  | nil => rfl
  | cons e rest ih =>
    obtain ⟨k, a⟩ := e
    rw [List.map_cons, List.mem_cons, not_or] at h
    rw [put, if_neg (fun hk => h.1 hk.symm), ih h.2, List.cons_append]

/-- However the entries were given, no key is repeated. -/
theorem nodup_map_fst_ofEntries [DecidableEq K] (entries : List (K × A)) :
    ((ofEntries entries).map Prod.fst).Nodup :=
  List.foldlRecOn (motive := fun table : List (K × A) => (table.map Prod.fst).Nodup) entries _
    List.nodup_nil fun _ h _ _ => nodup_map_fst_put h

theorem mem_of_mem_ofEntries [DecidableEq K] {entries : List (K × A)} {e : K × A}
    (h : e ∈ ofEntries entries) : e ∈ entries := by
  have hsubset : ∀ e ∈ ofEntries entries, e ∈ entries :=
    List.foldlRecOn (motive := fun table => ∀ e ∈ table, e ∈ entries) entries _
      (fun _ h => by cases h) fun table ih entry hentry e he =>
        (eq_or_mem_of_mem_put he).elim (fun heq => heq ▸ hentry) (ih e)
  exact hsubset e h

/-- Entries without repeated keys are a table as they stand. -/
theorem ofEntries_eq_self [DecidableEq K] {entries : List (K × A)}
    (h : (entries.map Prod.fst).Nodup) : ofEntries entries = entries := by
  have happend (table : List (K × A)) (hnodup : ((table ++ entries).map Prod.fst).Nodup) :
      entries.foldl (fun table (key, value) => put key value table) table = table ++ entries := by
    clear h
    induction entries generalizing table with
    | nil => rw [List.foldl_nil, List.append_nil]
    | cons e rest ih =>
      obtain ⟨k, a⟩ := e
      have hnew : k ∉ table.map Prod.fst := by
        rw [List.map_append, List.map_cons] at hnodup
        exact fun hmem => (List.nodup_append.mp hnodup).2.2 k hmem k List.mem_cons_self rfl
      rw [List.append_cons] at hnodup ⊢
      rw [List.foldl_cons]
      dsimp only
      rw [put_of_notMem hnew]
      exact ih _ hnodup
  exact happend [] h

/-- In a table without repeated keys every entry is found. -/
theorem lookup_eq_some_of_mem [BEq K] [LawfulBEq K] {key : K} {value : A}
    {table : List (K × A)} (hkeys : (table.map Prod.fst).Nodup) (h : (key, value) ∈ table) :
    table.lookup key = some value := by
  obtain ⟨before, after, rfl⟩ := List.append_of_mem h
  rw [List.map_append, List.map_cons, List.nodup_append] at hkeys
  refine List.lookup_eq_some_iff.mpr ⟨before, after, rfl, fun e he => ?_⟩
  have hne := hkeys.2.2 e.1 (List.mem_map_of_mem he) key List.mem_cons_self
  simpa using fun h => hne h.symm

theorem mem_of_lookup [BEq K] [LawfulBEq K] {key : K} {value : A}
    {table : List (K × A)} (h : table.lookup key = some value) : (key, value) ∈ table := by
  obtain ⟨before, after, rfl, -⟩ := List.lookup_eq_some_iff.mp h
  exact List.mem_append_right _ List.mem_cons_self

theorem isSome_lookup_iff [BEq K] [LawfulBEq K] {key : K} {table : List (K × A)} :
    (table.lookup key).isSome ↔ key ∈ table.map Prod.fst := by
  simp only [List.lookup_isSome_iff, beq_iff_eq, List.mem_map]
  exact exists_congr fun e => and_congr_right fun _ => eq_comm

/-- The order of a table without repeated keys does not matter. -/
theorem lookup_eq_of_perm [BEq K] [LawfulBEq K] {table table' : List (K × A)}
    (h : table.Perm table') (hkeys : (table.map Prod.fst).Nodup) (key : K) :
    table.lookup key = table'.lookup key := by
  have hkeys' : (table'.map Prod.fst).Nodup := (h.map Prod.fst).nodup_iff.mp hkeys
  refine Option.ext fun value => ⟨fun hfound => ?_, fun hfound => ?_⟩
  · exact lookup_eq_some_of_mem hkeys' (h.mem_iff.mp (mem_of_lookup hfound))
  · exact lookup_eq_some_of_mem hkeys (h.mem_iff.mpr (mem_of_lookup hfound))

/-- The entries without those for `key`. -/
def without [DecidableEq K] (key : K) (entries : List (K × A)) : List (K × A) :=
  entries.filter fun e => e.1 ≠ key

@[simp] theorem lookup_without_self [DecidableEq K] [BEq K] [LawfulBEq K] (key : K)
    (table : List (K × A)) : (without key table).lookup key = none := by
  induction table with
  | nil => rfl
  | cons e rest ih =>
    obtain ⟨k, a⟩ := e
    simp only [without, List.filter] at ih ⊢
    split
    · next h =>
      have : (key == k) = false := by simpa using fun e => by simp [e] at h
      simpa [List.lookup_cons, this] using ih
    · exact ih

theorem lookup_without_of_ne [DecidableEq K] [BEq K] [LawfulBEq K] {key k : K} (h : k ≠ key)
    (table : List (K × A)) : (without key table).lookup k = table.lookup k := by
  induction table with
  | nil => rfl
  | cons e rest ih =>
    obtain ⟨k', a⟩ := e
    simp only [without, List.filter] at ih ⊢
    split
    · simp only [List.lookup_cons, ih]
    · next hk =>
      have hk : k' = key := by simpa using hk
      have : (k == k') = false := by rw [hk]; simpa using h
      simpa [List.lookup_cons, this] using ih

end LootLedger
