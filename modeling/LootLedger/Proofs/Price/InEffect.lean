import LootLedger.Proofs.Price.History
import Mathlib.Data.List.Dedup
import Mathlib.Data.List.Induction

/-!
# The snapshot in effect

A history answers for every date with the snapshot of the last date up to it. It lists its snapshots
by date, so the dates up to a given one come first, and the last of them is the greatest. What is
stored for a date is the snapshot that was inserted last for it, whatever was inserted in between for
other dates. So the order of the insertions counts only for snapshots of one date.

One more insertion changes the answer only from its own date on, and only up to the next date that
has a snapshot already.

## Main definitions

* `PriceTable.IsLastOfDate`: the snapshot that was inserted last for its date
* `PriceTable.IsInEffect`: the one of those with the greatest date up to a given one

## Main results

* `PriceHistory.tableAt?_eq_some_iff`: the answer of a history in order
* `PriceHistory.eq_or_tableAt?_insert`: the answer after one more insertion
* `PriceHistory.mem_foldl_insert_iff`: what is stored after any insertions
* `PriceHistory.answers_foldl_insert`: which snapshot is in effect then
-/

namespace LootLedger

/-- No snapshot of the same date was inserted after the table. -/
def PriceTable.IsLastOfDate {V : Type} (table : PriceTable V) (tables : List (PriceTable V)) : Prop :=
  ∃ earlier later, tables = earlier ++ table :: later ∧ ∀ t ∈ later, t.date ≠ table.date

/-- Of the snapshots with dates up to the given one, one with the greatest date, and of those with
that date the one inserted last. -/
structure PriceTable.IsInEffect {V : Type} (table : PriceTable V) (tables : List (PriceTable V))
    (date : Date) : Prop where
  isLast : table.IsLastOfDate tables
  le : table.date ≤ date
  greatest : ∀ t ∈ tables, t.date ≤ date → t.date ≤ table.date

namespace PriceTable

variable {V : Type} {table t : PriceTable V} {tables : List (PriceTable V)}

theorem IsLastOfDate.mem (h : table.IsLastOfDate tables) : table ∈ tables := by
  obtain ⟨earlier, later, rfl, -⟩ := h
  exact List.mem_append_right earlier List.mem_cons_self

/-- One more insertion takes the place of those for its date. -/
theorem isLastOfDate_concat_iff :
    table.IsLastOfDate (tables ++ [t]) ↔
      table = t ∨ table.date ≠ t.date ∧ table.IsLastOfDate tables := by
  constructor
  · rintro ⟨earlier, later, heq, hlater⟩
    cases later using List.reverseRecOn with
    | nil => exact .inl (List.concat_inj.mp (by simpa using heq)).2.symm
    | append_singleton later last =>
      rw [← List.cons_append, ← List.append_assoc] at heq
      obtain ⟨rfl, rfl⟩ := List.append_singleton_inj.mp heq
      exact .inr ⟨fun hdate => hlater t (by simp) hdate.symm, earlier, later, rfl,
        fun s hs => hlater s (List.mem_append_left _ hs)⟩
  · rintro (rfl | ⟨hne, earlier, later, rfl, hlater⟩)
    · exact ⟨tables, [], rfl, fun _ h => absurd h List.not_mem_nil⟩
    · refine ⟨earlier, later ++ [t], by simp, fun s hs => ?_⟩
      obtain hs | hs := List.mem_append.mp hs
      · exact hlater s hs
      · rw [List.mem_singleton.mp hs]
        exact hne.symm

/-- Every date of a table has a last one. -/
theorem exists_isLastOfDate (h : t ∈ tables) :
    ∃ table : PriceTable V, table.IsLastOfDate tables ∧ table.date = t.date := by
  induction tables using List.reverseRecOn with
  | nil => cases h
  | append_singleton tables last ih =>
    by_cases hdate : last.date = t.date
    · exact ⟨last, isLastOfDate_concat_iff.mpr (.inl rfl), hdate⟩
    · obtain h | h := List.mem_append.mp h
      · obtain ⟨table, htable, heq⟩ := ih h
        exact ⟨table, isLastOfDate_concat_iff.mpr (.inr ⟨fun hlast => hdate (hlast ▸ heq), htable⟩),
          heq⟩
      · exact absurd (List.mem_singleton.mp h ▸ rfl) hdate

end PriceTable

namespace PriceHistory

variable {V : Type} {history : PriceHistory V} {table : PriceTable V} {tables : List (PriceTable V)}
  {date : Date}

/-! ### The answer -/

/-- **The answer of a history in order** is stored under the greatest date up to the given one. -/
theorem tableAt?_eq_some_iff (h : (history.tables.map Prod.fst).Pairwise (· < ·)) :
    history.tableAt? date = some table ↔
      ∃ d, (d, table) ∈ history.tables ∧ d ≤ date ∧
        ∀ e ∈ history.tables, e.1 ≤ date → e.1 ≤ d := by
  have htaken : ((history.tables.takeWhile fun e => e.1 ≤ date).map Prod.fst).Pairwise (· < ·) :=
    h.sublist ((List.takeWhile_sublist _).map _)
  simp only [tableAt?, Option.map_eq_some_iff, getLast?_eq_some_iff htaken, mem_takeWhile_iff h,
    and_imp]
  constructor
  · rintro ⟨⟨d, _⟩, ⟨⟨hmem, hle⟩, hgreatest⟩, rfl⟩
    exact ⟨d, hmem, hle, hgreatest⟩
  · rintro ⟨d, hmem, hle, hgreatest⟩
    exact ⟨(d, table), ⟨⟨hmem, hle⟩, hgreatest⟩, rfl⟩

theorem tableAt?_eq_none_iff (h : (history.tables.map Prod.fst).Pairwise (· < ·)) :
    history.tableAt? date = none ↔ ∀ e ∈ history.tables, ¬ e.1 ≤ date := by
  rw [tableAt?, Option.map_eq_none_iff, List.getLast?_eq_none_iff, List.eq_nil_iff_forall_not_mem]
  simp only [mem_takeWhile_iff h, not_and]

/-! ### One more insertion -/

/-- **One more insertion** changes nothing, or is in effect now. Then its date is not after the given
one, and nothing is stored for a date in between. -/
theorem eq_or_tableAt?_insert (h : (history.tables.map Prod.fst).Pairwise (· < ·))
    (table : PriceTable V) (date : Date) :
    (history.insert table).tableAt? date = history.tableAt? date ∨
      (history.insert table).tableAt? date = some table ∧ table.date ≤ date ∧
        ∀ e ∈ history.tables, ¬ (table.date < e.1 ∧ e.1 ≤ date) := by
  have hinsert : ((history.insert table).tables.map Prod.fst).Pairwise (· < ·) := pairwise_place h
  have hmem {e : Date × PriceTable V} : e ∈ (history.insert table).tables ↔
      e = (table.date, table) ∨ e.1 ≠ table.date ∧ e ∈ history.tables := mem_place_iff h
  by_cases hnew : table.date ≤ date ∧ ∀ e ∈ history.tables, e.1 ≤ date → e.1 ≤ table.date
  · refine .inr ⟨?_, hnew.1, fun e he hbetween => ?_⟩
    · refine (tableAt?_eq_some_iff hinsert).mpr ⟨_, hmem.mpr (.inl rfl), hnew.1, fun e he hle => ?_⟩
      obtain rfl | ⟨-, he⟩ := hmem.mp he
      · exact Int.le_refl _
      · exact hnew.2 e he hle
    · exact Date.not_lt.mpr (hnew.2 e he hbetween.2) hbetween.1
  · -- The new snapshot is not the answer, so it neither comes in nor drives another one out.
    refine .inl (Option.ext fun other => ?_)
    rw [tableAt?_eq_some_iff hinsert, tableAt?_eq_some_iff h]
    constructor
    · rintro ⟨d, hd, hle, hgreatest⟩
      have hstored {e : Date × PriceTable V} (he : e ∈ history.tables) (hedate : e.1 ≤ date) :
          e.1 ≤ d := by
        by_cases hsame : e.1 = table.date
        · exact hsame ▸ hgreatest _ (hmem.mpr (.inl rfl)) (hsame ▸ hedate)
        · exact hgreatest e (hmem.mpr (.inr ⟨hsame, he⟩)) hedate
      obtain heq | ⟨-, hd⟩ := hmem.mp hd
      · obtain ⟨rfl, rfl⟩ := Prod.mk.inj heq
        exact absurd ⟨hle, fun e => hstored⟩ hnew
      · exact ⟨d, hd, hle, fun e => hstored⟩
    · rintro ⟨d, hd, hle, hgreatest⟩
      have hlt (hdate : table.date ≤ date) : table.date < d := by
        refine Decidable.byContradiction fun hnot => hnew ⟨hdate, fun e he hedate => ?_⟩
        exact Date.le_trans (hgreatest e he hedate) (Date.not_lt.mp hnot)
      have hne : d ≠ table.date := by
        rintro rfl
        exact Date.ne_of_lt (hlt hle) rfl
      refine ⟨d, hmem.mpr (.inr ⟨hne, hd⟩), hle, fun e he hedate => ?_⟩
      obtain rfl | ⟨-, he⟩ := hmem.mp he
      · exact Date.le_of_lt (hlt hedate)
      · exact hgreatest e he hedate

/-! ### Any insertions -/

theorem pairwise_foldl_insert (tables : List (PriceTable V)) :
    ((tables.foldl insert ({} : PriceHistory V)).tables.map Prod.fst).Pairwise (· < ·) :=
  List.foldlRecOn (motive := fun history : PriceHistory V =>
    (history.tables.map Prod.fst).Pairwise (· < ·)) tables insert List.Pairwise.nil
      fun _ h _ _ => pairwise_place h

/-- **What is stored** after any insertions: for each date the snapshot that was inserted last. -/
theorem mem_foldl_insert_iff {e : Date × PriceTable V} :
    e ∈ (tables.foldl insert ({} : PriceHistory V)).tables ↔
      e.2.IsLastOfDate tables ∧ e.2.date = e.1 := by
  induction tables using List.reverseRecOn with
  | nil =>
    refine iff_of_false List.not_mem_nil fun h => ?_
    exact absurd h.1.mem List.not_mem_nil
  | append_singleton tables table ih =>
    rw [List.foldl_concat, insert, mem_place_iff (pairwise_foldl_insert tables), ih,
      PriceTable.isLastOfDate_concat_iff]
    constructor
    · rintro (rfl | ⟨hne, hlast, hdate⟩)
      · exact ⟨.inl rfl, rfl⟩
      · exact ⟨.inr ⟨hdate ▸ hne, hlast⟩, hdate⟩
    · rintro ⟨rfl | ⟨hne, hlast⟩, hdate⟩
      · exact .inl (Prod.ext hdate.symm rfl)
      · exact .inr ⟨hdate ▸ hne, hlast, hdate⟩

theorem mem_toList_foldl_insert_iff :
    table ∈ (tables.foldl insert ({} : PriceHistory V)).toList ↔ table.IsLastOfDate tables := by
  simp only [toList, List.mem_map, mem_foldl_insert_iff]
  constructor
  · rintro ⟨e, ⟨hlast, -⟩, rfl⟩
    exact hlast
  · intro hlast
    exact ⟨(table.date, table), ⟨hlast, rfl⟩, rfl⟩

/-- The dates of the snapshots are those under which they are stored. -/
theorem map_date_toList_foldl_insert (tables : List (PriceTable V)) :
    (tables.foldl insert ({} : PriceHistory V)).toList.map PriceTable.date =
      (tables.foldl insert ({} : PriceHistory V)).tables.map Prod.fst := by
  rw [toList, List.map_map]
  exact List.map_congr_left fun e he => (mem_foldl_insert_iff.mp he).2

theorem mem_map_date_foldl_insert_iff :
    date ∈ (tables.foldl insert ({} : PriceHistory V)).tables.map Prod.fst ↔
      date ∈ tables.map PriceTable.date := by
  simp only [List.mem_map, mem_foldl_insert_iff]
  constructor
  · rintro ⟨e, ⟨hlast, hdate⟩, rfl⟩
    exact ⟨e.2, hlast.mem, hdate⟩
  · rintro ⟨t, ht, rfl⟩
    obtain ⟨table, hlast, hdate⟩ := PriceTable.exists_isLastOfDate ht
    exact ⟨(table.date, table), ⟨hlast, rfl⟩, hdate⟩

/-- What holds of the dates that were inserted holds of those that are stored. -/
theorem forall_mem_foldl_insert_iff (tables : List (PriceTable V)) (p : Date → Prop) :
    (∀ e ∈ (tables.foldl insert ({} : PriceHistory V)).tables, p e.1) ↔ ∀ t ∈ tables, p t.date := by
  rw [← List.forall_mem_map, ← List.forall_mem_map (f := PriceTable.date)]
  exact forall_congr' fun date => imp_congr_left mem_map_date_foldl_insert_iff

theorem tableAt?_foldl_insert_eq_none_iff :
    (tables.foldl insert ({} : PriceHistory V)).tableAt? date = none ↔
      ∀ t ∈ tables, ¬ t.date ≤ date := by
  rw [tableAt?_eq_none_iff (pairwise_foldl_insert tables)]
  exact forall_mem_foldl_insert_iff tables fun d => ¬ d ≤ date

theorem tableAt?_foldl_insert_eq_some_iff :
    (tables.foldl insert ({} : PriceHistory V)).tableAt? date = some table ↔
      table.IsInEffect tables date := by
  have hgreatest := forall_mem_foldl_insert_iff tables fun d => d ≤ date → d ≤ table.date
  rw [tableAt?_eq_some_iff (pairwise_foldl_insert tables)]
  constructor
  · rintro ⟨d, hmem, hle, hstored⟩
    obtain ⟨hlast, hdate⟩ : table.IsLastOfDate tables ∧ table.date = d :=
      mem_foldl_insert_iff.mp hmem
    subst hdate
    exact ⟨hlast, hle, hgreatest.mp hstored⟩
  · intro h
    exact ⟨table.date, mem_foldl_insert_iff.mpr ⟨h.isLast, rfl⟩, h.le, hgreatest.mpr h.greatest⟩

/-- One snapshot is stored for each date that was inserted. -/
theorem size_foldl_insert (tables : List (PriceTable V)) :
    (tables.foldl insert ({} : PriceHistory V)).size =
      (tables.map PriceTable.date).dedup.length := by
  rw [size, ← List.length_map Prod.fst]
  have hnodup := nodup_of_ascending (pairwise_foldl_insert tables)
  refine List.Perm.length_eq <| (List.perm_ext_iff_of_nodup hnodup (List.nodup_dedup _)).mpr ?_
  exact fun date => mem_map_date_foldl_insert_iff.trans List.mem_dedup.symm

/-- **Which snapshot is in effect.** After any insertions a history answers with the snapshot in
effect, or with none if all dates are after the given one. It lists the snapshots that were inserted
last for their dates, in strictly ascending order of these dates, so one for each date that was
inserted. One more insertion changes the answer only from its own date on, and only before the next
date for which a snapshot is stored. -/
theorem answers_foldl_insert (tables : List (PriceTable V)) :
    let history := tables.foldl insert ({} : PriceHistory V)
    (∀ date, history.tableAt? date = none ↔ ∀ t ∈ tables, ¬ t.date ≤ date) ∧
    (∀ date table, history.tableAt? date = some table ↔ table.IsInEffect tables date) ∧
    (∀ table, table ∈ history.toList ↔ table.IsLastOfDate tables) ∧
    (history.toList.map PriceTable.date).Pairwise (· < ·) ∧
    (∀ date, date ∈ history.toList.map PriceTable.date ↔ date ∈ tables.map PriceTable.date) ∧
    history.size = (tables.map PriceTable.date).dedup.length ∧
    ∀ table date, (history.insert table).tableAt? date ≠ history.tableAt? date →
      (history.insert table).tableAt? date = some table ∧ table.date ≤ date ∧
        ∀ t ∈ history.toList, ¬ (table.date < t.date ∧ t.date ≤ date) := by
  intro history
  have hascending := pairwise_foldl_insert tables
  refine ⟨fun _ => tableAt?_foldl_insert_eq_none_iff, fun _ _ => tableAt?_foldl_insert_eq_some_iff,
    fun _ => mem_toList_foldl_insert_iff, ?_, fun date => ?_, size_foldl_insert tables,
    fun table date hchange => ?_⟩
  · rw [map_date_toList_foldl_insert]
    exact hascending
  · rw [map_date_toList_foldl_insert]
    exact mem_map_date_foldl_insert_iff
  · obtain ⟨hnew, hle, hbetween⟩ :=
      (eq_or_tableAt?_insert hascending table date).resolve_left hchange
    refine ⟨hnew, hle, fun t ht => ?_⟩
    have hlast := mem_toList_foldl_insert_iff.mp ht
    exact hbetween (t.date, t) (mem_foldl_insert_iff.mpr ⟨hlast, rfl⟩)

end PriceHistory

end LootLedger
