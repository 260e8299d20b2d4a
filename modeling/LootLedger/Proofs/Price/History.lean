import LootLedger.Price.Table
import Mathlib.Data.List.Nodup
import Mathlib.Data.List.TakeWhile
import Mathlib.Order.Lattice

/-!
# Histories in order

A history lists its snapshots in strictly ascending order of dates, so no date is there twice.
Inserting a snapshot keeps that order, changes what is stored for its date and for no other one, and
a history in order is the one that its own entries make.

## Main results

* `PriceHistory.pairwise_place`: the order is kept
* `PriceHistory.get?_insert_self`, `PriceHistory.get?_insert_of_ne`: what an insertion changes
* `PriceHistory.ofEntries_eq_self`: entries in order are a history as they stand
* `PriceHistory.mem_place_iff`, `PriceHistory.mem_takeWhile_iff`,
  `PriceHistory.getLast?_eq_some_iff`: what is among entries in order
-/

namespace LootLedger

namespace Date

theorem lt_of_not_le {a b : Date} (hne : a ≠ b) (h : ¬ a < b) : b < a := by
  rw [lt_def] at h ⊢
  exact lt_of_le_of_ne (not_lt.mp h) fun heq => hne (ordinal_injective heq.symm)

theorem ne_of_lt {a b : Date} (h : a < b) : a ≠ b := by
  rintro rfl
  exact lt_irrefl _ (lt_def.mp h)

theorem lt_trans {a b c : Date} (h : a < b) (h' : b < c) : a < c := by
  rw [lt_def] at *
  exact Int.lt_trans h h'

theorem le_of_lt {a b : Date} (h : a < b) : a ≤ b :=
  Int.le_of_lt h

theorem le_trans {a b c : Date} (h : a ≤ b) (h' : b ≤ c) : a ≤ c :=
  Int.le_trans h h'

theorem not_lt {a b : Date} : ¬ a < b ↔ b ≤ a :=
  Int.not_lt

theorem le_antisymm {a b : Date} (h : a ≤ b) (h' : b ≤ a) : a = b :=
  ordinal_injective (Int.le_antisymm h h')

end Date

namespace PriceHistory

variable {A V : Type} {date : Date} {a : A}

theorem eq_or_mem_of_mem_place {entries : List (Date × A)} {e : Date × A}
    (h : e ∈ place date a entries) : e = (date, a) ∨ e ∈ entries := by
  induction entries with
  | nil => exact .inl (List.mem_singleton.mp h)
  | cons e' rest ih =>
    obtain ⟨d, b⟩ := e'
    rw [place] at h
    split at h
    · exact (List.mem_cons.mp h).imp_right (List.mem_cons_of_mem _)
    split at h
    · exact List.mem_cons.mp h
    · rcases List.mem_cons.mp h with rfl | h
      · exact .inr List.mem_cons_self
      · exact (ih h).imp_right (List.mem_cons_of_mem _)

/-- **The order is kept.** -/
theorem pairwise_place {entries : List (Date × A)}
    (h : (entries.map Prod.fst).Pairwise (· < ·)) :
    ((place date a entries).map Prod.fst).Pairwise (· < ·) := by
  induction entries with
  | nil => exact List.pairwise_singleton _ _
  | cons e rest ih =>
    obtain ⟨d, b⟩ := e
    rw [List.map_cons] at h
    have hrest : ∀ d' ∈ rest.map Prod.fst, d < d' := fun _ => List.rel_of_pairwise_cons h
    rw [place]
    split
    · next hdate => rwa [List.map_cons, hdate]
    split
    · next hlt =>
      refine List.Pairwise.cons (fun d' hd' => ?_) h
      rcases List.mem_cons.mp hd' with rfl | hd'
      · exact hlt
      · exact Date.lt_trans hlt (hrest _ hd')
    · next hne hlt =>
      refine List.Pairwise.cons (fun d' hd' => ?_) (ih h.of_cons)
      obtain ⟨e, he, rfl⟩ := List.mem_map.mp hd'
      rcases eq_or_mem_of_mem_place he with rfl | he
      · exact Date.lt_of_not_le hne hlt
      · exact hrest _ (List.mem_map_of_mem he)

theorem lookup_place_self (entries : List (Date × A)) :
    (place date a entries).lookup date = some a := by
  induction entries with
  | nil => exact List.lookup_cons_self
  | cons e rest ih =>
    obtain ⟨d, b⟩ := e
    rw [place]
    split
    · exact List.lookup_cons_self
    split
    · exact List.lookup_cons_self
    · next hne _ => rw [List.lookup_cons, beq_false_of_ne hne, ih]

theorem lookup_place_of_ne {date' : Date} (hne : date' ≠ date) (entries : List (Date × A)) :
    (place date a entries).lookup date' = entries.lookup date' := by
  induction entries with
  | nil => rw [place, List.lookup_cons, beq_false_of_ne hne]
  | cons e rest ih =>
    obtain ⟨d, b⟩ := e
    rw [place]
    split
    · next hdate => rw [List.lookup_cons, List.lookup_cons, ← hdate, beq_false_of_ne hne]
    split
    · rw [List.lookup_cons, beq_false_of_ne hne]
    · rw [List.lookup_cons, List.lookup_cons, ih]

/-- A later date comes last. -/
theorem place_of_forall_lt {entries : List (Date × A)} (h : ∀ d ∈ entries.map Prod.fst, d < date) :
    place date a entries = entries ++ [(date, a)] := by
  induction entries with
  | nil => rfl
  | cons e rest ih =>
    obtain ⟨d, b⟩ := e
    rw [List.map_cons, List.forall_mem_cons] at h
    have hnot : ¬ date < d := fun hlt => Date.ne_of_lt (Date.lt_trans h.1 hlt) rfl
    rw [place, if_neg (Date.ne_of_lt h.1).symm, if_neg hnot, ih h.2, List.cons_append]

/-- What is stored for the date of a snapshot after it was inserted. -/
theorem get?_insert_self (history : PriceHistory V) (table : PriceTable V) :
    (history.insert table).get? table.date = some table :=
  lookup_place_self _

/-- What is stored for all other dates is what was stored before. -/
theorem get?_insert_of_ne {table : PriceTable V} (h : date ≠ table.date)
    (history : PriceHistory V) : (history.insert table).get? date = history.get? date :=
  lookup_place_of_ne h _

/-- Entries in order are a history as they stand. -/
theorem ofEntries_eq_self {entries : List (Date × PriceTable V)}
    (h : (entries.map Prod.fst).Pairwise (· < ·)) : ofEntries entries = ⟨entries⟩ := by
  have happend (before : List (Date × PriceTable V))
      (hordered : ((before ++ entries).map Prod.fst).Pairwise (· < ·)) :
      entries.foldl (fun tables e => place e.1 e.2 tables) before =
        before ++ entries := by
    clear h
    induction entries generalizing before with
    | nil => rw [List.foldl_nil, List.append_nil]
    | cons e rest ih =>
      obtain ⟨d, b⟩ := e
      have hlast : ∀ d' ∈ before.map Prod.fst, d' < d := fun d' hd' => by
        rw [List.map_append, List.map_cons] at hordered
        exact (List.pairwise_append.mp hordered).2.2 d' hd' d List.mem_cons_self
      rw [List.append_cons] at hordered ⊢
      rw [List.foldl_cons]
      dsimp only
      rw [place_of_forall_lt hlast]
      exact ih _ hordered
  exact congrArg PriceHistory.mk (happend [] h)

/-- Dates for which no table is put into a history keep their tables. -/
theorem get?_foldl_insert {tables : List (PriceTable V)} (h : ∀ table ∈ tables, table.date ≠ date)
    (history : PriceHistory V) :
    (tables.foldl insert history).get? date = history.get? date := by
  induction tables generalizing history with
  | nil => rfl
  | cons table tables ih =>
    rw [List.forall_mem_cons] at h
    rw [List.foldl_cons, ih h.2, history.get?_insert_of_ne h.1.symm]

/-! ### Entries in order -/

section

variable {entries : List (Date × A)} {e : Date × A}

theorem nodup_of_ascending (h : (entries.map Prod.fst).Pairwise (· < ·)) :
    (entries.map Prod.fst).Nodup :=
  h.imp Date.ne_of_lt

theorem mem_place_iff {a : A} (h : (entries.map Prod.fst).Pairwise (· < ·)) :
    e ∈ place date a entries ↔ e = (date, a) ∨ e.1 ≠ date ∧ e ∈ entries := by
  constructor
  · intro he
    by_cases hdate : e.1 = date
    · have hnew : (date, a) ∈ place date a entries := mem_of_lookup (lookup_place_self entries)
      have hnodup : ((place date a entries).map Prod.fst).Nodup :=
        nodup_of_ascending (pairwise_place h)
      exact .inl (List.inj_on_of_nodup_map hnodup he hnew hdate)
    · exact .inr ⟨hdate, (eq_or_mem_of_mem_place he).resolve_left fun heq => hdate (heq ▸ rfl)⟩
  · rintro (rfl | ⟨hne, he⟩)
    · exact mem_of_lookup (lookup_place_self entries)
    · have hfound := lookup_eq_some_of_mem (nodup_of_ascending h) he
      exact mem_of_lookup ((lookup_place_of_ne hne entries).trans hfound)

/-- The entries up to a date come first. -/
theorem mem_takeWhile_iff (h : (entries.map Prod.fst).Pairwise (· < ·)) :
    (e ∈ entries.takeWhile fun e => e.1 ≤ date) ↔ e ∈ entries ∧ e.1 ≤ date := by
  refine ⟨fun he => ⟨(List.takeWhile_prefix _).mem he, by simpa using List.mem_takeWhile_imp he⟩, ?_⟩
  rintro ⟨he, hle⟩
  induction entries with
  | nil => cases he
  | cons first rest ih =>
    rw [List.map_cons] at h
    have hfirst : first.1 ≤ date := by
      obtain rfl | he := List.mem_cons.mp he
      · exact hle
      · exact Date.le_trans (Date.le_of_lt (List.rel_of_pairwise_cons h (List.mem_map_of_mem he))) hle
    rw [List.takeWhile_cons_of_pos (by simpa using hfirst)]
    obtain rfl | he := List.mem_cons.mp he
    · exact List.mem_cons_self
    · exact List.mem_cons_of_mem _ (ih h.of_cons he)

/-- The last entry is the one with the greatest date. -/
theorem getLast?_eq_some_iff (h : (entries.map Prod.fst).Pairwise (· < ·)) :
    entries.getLast? = some e ↔ e ∈ entries ∧ ∀ e' ∈ entries, e'.1 ≤ e.1 := by
  have hgreatest {last : Date × A} (hlast : entries.getLast? = some last) :
      last ∈ entries ∧ ∀ e' ∈ entries, e'.1 ≤ last.1 := by
    obtain ⟨before, rfl⟩ := List.getLast?_eq_some_iff.mp hlast
    refine ⟨List.mem_append_right _ (List.mem_singleton_self _), fun e' he' => ?_⟩
    obtain he' | he' := List.mem_append.mp he'
    · rw [List.map_append, List.pairwise_append] at h
      exact Date.le_of_lt (h.2.2 _ (List.mem_map_of_mem he') _ List.mem_cons_self)
    · rw [List.mem_singleton.mp he']
      exact Int.le_refl _
  refine ⟨hgreatest, ?_⟩
  rintro ⟨he, hle⟩
  cases hlast : entries.getLast? with
  | none => rw [List.getLast?_eq_none_iff.mp hlast] at he; cases he
  | some last =>
    obtain ⟨hmem, hlastle⟩ := hgreatest hlast
    have hdate : last.1 = e.1 := Date.le_antisymm (hle last hmem) (hlastle e he)
    exact congrArg some (List.inj_on_of_nodup_map (nodup_of_ascending h) hmem he hdate)

end

end PriceHistory

end LootLedger
