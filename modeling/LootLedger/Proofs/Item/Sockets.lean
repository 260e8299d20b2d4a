import LootLedger.Item.Basic
import Mathlib.Data.List.Induction
import Mathlib.Data.List.Sort
import Mathlib.Order.Bounds.Basic
import Mathlib.Order.MinMax

/-!
# Sockets are conserved

The game reports sockets one by one, and sockets of one group need not stand together. They are put
into groups one after the other, each at the end of its group, while delve sockets are set aside,
whatever number they report. So the groups that come out are told by the reported sockets alone: one
for each number in use, in it the colours in the order in which they were reported.

## Counting

The sockets of an item are counted on the texts of its groups, where nothing is left of the numbers.
That the counts are those of the reported sockets rests on two things. Putting a socket into its
group adds its letters to those of all groups and changes nothing else, whatever the numbers are,
which is `perm_addToGroup`. And a colour is a single letter, so sockets and letters are the same
number. The single letters also keep a linked group apart from the delve group, which has a letter
that no linked socket has.

## Main definitions

* `reportedColours`: the colours that the game reports
* `linkedUnder`, `coloursUnder`: the sockets of a group and their colours
* `ConservesSockets`: groups and counts are those of the reported sockets

## Main results

* `Item.le_largestLink_iff`: the largest group of an item
* `exists_addToGroup`: what becomes of the groups when a colour is added to one
* `exists_socketGroups`: the groups of the reported sockets
* `perm_flatMap_linkedGroups`: no letter is lost and none is added
* `conservesSockets`: sockets of the colours that the game reports are conserved
-/

namespace LootLedger

/-! ### Groups of an item -/

/-- The greatest of some numbers reaches what one of them reaches. -/
theorem le_foldl_max_iff {sizes : List Nat} {least n : Nat} :
    n ≤ sizes.foldl max least ↔ n ≤ least ∨ ∃ m ∈ sizes, n ≤ m := by
  induction sizes generalizing least with
  | nil => simp
  | cons m sizes ih => rw [List.foldl_cons, ih, le_max_iff, List.exists_mem_cons_iff, or_assoc]

namespace Item

theorem sublist_of_mem_linkedGroups {item : Item} {g : String} (h : g ∈ item.linkedGroups) :
    g.toList.Sublist (item.linkedGroups.flatMap String.toList) := by
  rw [List.flatMap_def]
  exact List.sublist_flatten_of_mem (List.mem_map_of_mem h)

/-- **The largest group** reaches a size if some group does. -/
theorem le_largestLink_iff {item : Item} {n : Nat} (hn : 0 < n) :
    n ≤ item.largestLink ↔ ∃ g ∈ item.linkedGroups, n ≤ g.toList.length := by
  rw [largestLink, le_foldl_max_iff, or_iff_right (Nat.not_le.mpr hn)]
  simp only [List.mem_map, exists_exists_and_eq_and]

end Item

/-! ### Reported sockets -/

/-- The colours that the game reports. -/
def reportedColours : List String := ["R", "G", "B", "W", "A", delveGroup]

/-- The linked sockets, which are all but the delve sockets. -/
def linkedSockets (sockets : List ReportedSocket) : List ReportedSocket :=
  sockets.filter (·.colour ≠ delveGroup)

/-- The linked sockets that report a number. -/
def linkedUnder (sockets : List ReportedSocket) (n : UInt32) : List ReportedSocket :=
  (linkedSockets sockets).filter (·.group = n)

/-- The colours of those sockets that report a number, joined in order. -/
def joinedColours (sockets : List ReportedSocket) (n : UInt32) : String :=
  String.join ((sockets.filter (·.group = n)).map (·.colour))

/-- The colours of the linked sockets that report a number. -/
def coloursUnder (sockets : List ReportedSocket) (n : UInt32) : String :=
  joinedColours (linkedSockets sockets) n

/-- The groups and the counts of an item with these sockets are those of the sockets. -/
structure ConservesSockets (sockets : List ReportedSocket) : Prop where
  /-- There is one group for each number that a linked socket reports, in ascending order, and a
  delve group behind them if there is a delve socket. -/
  groups : ∃ numbers : List UInt32, numbers.Pairwise (· < ·) ∧
    (∀ n, n ∈ numbers ↔ ∃ s ∈ sockets, s.colour ≠ delveGroup ∧ s.group = n) ∧
    socketGroups sockets = numbers.map (coloursUnder sockets) ++
      if ∃ s ∈ sockets, s.colour = delveGroup then [delveGroup] else []
  socketCount : ∀ item : Item, item.sockets = socketGroups sockets →
    item.socketCount = sockets.countP (·.colour ≠ delveGroup)
  abyssSocketCount : ∀ item : Item, item.sockets = socketGroups sockets →
    item.abyssSocketCount = sockets.countP (·.colour = "A")
  /-- The greatest number of linked sockets under one number, which is zero if there are none. -/
  largestLink : ∀ item : Item, item.sockets = socketGroups sockets →
    IsGreatest (Set.range fun n => (linkedUnder sockets n).length) item.largestLink
  /-- The order of the sockets matters only within a group. -/
  reordered : ∀ sockets' : List ReportedSocket, sockets'.Perm sockets →
    (∀ n, linkedUnder sockets' n = linkedUnder sockets n) →
    socketGroups sockets' = socketGroups sockets

/-! ### Adding to a group -/

/-- **What becomes of the groups** when a colour is added to one. Groups are given by their numbers
and by what is under each, nothing under a number that is not there. -/
theorem exists_addToGroup {group : UInt32} (colour : String) {numbers : List UInt32}
    {colours : UInt32 → String} (hnumbers : numbers.Pairwise (· < ·))
    (hnew : group ∉ numbers → colours group = "") :
    ∃ numbers' : List UInt32, numbers'.Pairwise (· < ·) ∧
      (∀ n, n ∈ numbers' ↔ n = group ∨ n ∈ numbers) ∧
      addToGroup group colour (numbers.map fun n => (n, colours n)) =
        numbers'.map fun n => (n, if n = group then colours n ++ colour else colours n) := by
  induction numbers with
  | nil =>
    refine ⟨[group], List.pairwise_singleton _ _, by simp, ?_⟩
    rw [List.map_nil, addToGroup, List.map_singleton, if_pos rfl, hnew List.not_mem_nil,
      String.empty_append]
  | cons m numbers ih =>
    have hless : ∀ n ∈ numbers, m < n := fun n hn => List.rel_of_pairwise_cons hnumbers hn
    -- Under the numbers behind the place of the group nothing changes.
    have hkeep {ms : List UInt32} (hms : ∀ n ∈ ms, group < n) :
        (ms.map fun n => (n, if n = group then colours n ++ colour else colours n)) =
          ms.map fun n => (n, colours n) :=
      List.map_congr_left fun n hn => by rw [if_neg (UInt32.ne_of_lt (hms n hn)).symm]
    rw [List.map_cons, addToGroup]
    rcases eq_or_ne group m with rfl | hne
    · refine ⟨group :: numbers, hnumbers, by simp, ?_⟩
      rw [if_pos rfl, List.map_cons, if_pos rfl, hkeep hless]
    rw [if_neg hne]
    by_cases hlt : group < m
    · have hall : ∀ n ∈ m :: numbers, group < n :=
        List.forall_mem_cons.mpr ⟨hlt, fun n hn => UInt32.lt_trans hlt (hless n hn)⟩
      have hnotMem : group ∉ m :: numbers := fun hmem => UInt32.lt_irrefl _ (hall group hmem)
      refine ⟨group :: m :: numbers, List.pairwise_cons.mpr ⟨hall, hnumbers⟩, by simp, ?_⟩
      rw [if_pos hlt, List.map_cons, if_pos rfl, hkeep hall, hnew hnotMem, String.empty_append,
        List.map_cons]
    · have hgt : m < group :=
        UInt32.lt_of_le_of_ne (UInt32.not_lt.mp hlt) (Ne.symm hne)
      obtain ⟨numbers', hsorted, hmem, heq⟩ := ih hnumbers.of_cons fun hnotMem =>
        hnew fun hmem => (List.mem_cons.mp hmem).elim hne hnotMem
      refine ⟨m :: numbers', List.pairwise_cons.mpr ⟨fun n hn => ?_, hsorted⟩, fun n => ?_, ?_⟩
      · rcases (hmem n).mp hn with rfl | hn
        · exact hgt
        · exact hless n hn
      · rw [List.mem_cons, List.mem_cons, hmem, or_left_comm]
      · rw [if_neg hlt, heq, List.map_cons, if_neg (Ne.symm hne)]

/-- Adding a colour to a group adds its letters to those of all groups. -/
theorem perm_addToGroup (group : UInt32) (colour : String) (gs : List (UInt32 × String)) :
    ((addToGroup group colour gs).flatMap (·.2.toList)).Perm
      (gs.flatMap (·.2.toList) ++ colour.toList) := by
  induction gs with
  | nil => simp [addToGroup]
  | cons g gs ih =>
    rw [addToGroup]
    split
    · rw [List.flatMap_cons, List.flatMap_cons, String.toList_append, List.append_assoc,
        List.append_assoc]
      exact List.perm_append_comm.append_left _
    · split
      · rw [List.flatMap_cons]
        exact List.perm_append_comm
      · rw [List.flatMap_cons, List.flatMap_cons, List.append_assoc]
        exact ih.append_left _

/-! ### The groups -/

/-- The groups that linked sockets form, with their numbers. -/
def groupsOf (linked : List ReportedSocket) : List (UInt32 × String) :=
  linked.foldl (fun gs s => addToGroup s.group s.colour gs) []

theorem groupsOf_concat (linked : List ReportedSocket) (s : ReportedSocket) :
    groupsOf (linked ++ [s]) = addToGroup s.group s.colour (groupsOf linked) :=
  List.foldl_append

theorem joinedColours_concat (sockets : List ReportedSocket) (s : ReportedSocket) (n : UInt32) :
    joinedColours (sockets ++ [s]) n =
      if n = s.group then joinedColours sockets n ++ s.colour else joinedColours sockets n := by
  rw [joinedColours, joinedColours, List.filter_append]
  split
  · next heq =>
    rw [List.filter_cons_of_pos (by simp [heq]), List.filter_nil, List.map_append,
      List.map_singleton, String.join_append, String.join_cons, String.join_nil,
      String.append_empty]
  · next hne =>
    rw [List.filter_cons_of_neg (by simpa using Ne.symm hne), List.filter_nil, List.append_nil]

/-- **The groups of linked sockets**: one for each number, with the colours under it. -/
theorem exists_groupsOf (linked : List ReportedSocket) :
    ∃ numbers : List UInt32, numbers.Pairwise (· < ·) ∧
      (∀ n, n ∈ numbers ↔ ∃ s ∈ linked, s.group = n) ∧
      groupsOf linked = numbers.map fun n => (n, joinedColours linked n) := by
  induction linked using List.reverseRecOn with
  | nil => exact ⟨[], .nil, by simp, rfl⟩
  | append_singleton linked s ih =>
    obtain ⟨numbers, hsorted, hmem, hgroups⟩ := ih
    have hnew : s.group ∉ numbers → joinedColours linked s.group = "" := by
      intro hnotMem
      rw [hmem] at hnotMem
      rw [joinedColours, List.filter_eq_nil_iff.mpr fun t ht => by
        simpa using fun heq => hnotMem ⟨t, ht, heq⟩]
      rfl
    obtain ⟨numbers', hsorted', hmem', hadd⟩ := exists_addToGroup s.colour hsorted hnew
    refine ⟨numbers', hsorted', fun n => ?_, ?_⟩
    · rw [hmem', hmem]
      simp [or_and_right, exists_or, or_comm, eq_comm]
    · rw [groupsOf_concat, hgroups, hadd]
      simp only [joinedColours_concat]

/-- **No letter is lost** in the groups and none is added. -/
theorem perm_flatMap_groupsOf (linked : List ReportedSocket) :
    ((groupsOf linked).flatMap (·.2.toList)).Perm (linked.flatMap (·.colour.toList)) := by
  induction linked using List.reverseRecOn with
  | nil => exact .nil
  | append_singleton linked s ih =>
    rw [groupsOf_concat, List.flatMap_append, List.flatMap_singleton]
    exact (perm_addToGroup _ _ _).trans (ih.append_right _)

/-- **The groups of the reported sockets.** -/
theorem exists_socketGroups (sockets : List ReportedSocket) :
    ∃ numbers : List UInt32, numbers.Pairwise (· < ·) ∧
      (∀ n, n ∈ numbers ↔ ∃ s ∈ sockets, s.colour ≠ delveGroup ∧ s.group = n) ∧
      socketGroups sockets = numbers.map (coloursUnder sockets) ++
        if ∃ s ∈ sockets, s.colour = delveGroup then [delveGroup] else [] := by
  obtain ⟨numbers, hsorted, hmem, hgroups⟩ := exists_groupsOf (linkedSockets sockets)
  refine ⟨numbers, hsorted, fun n => ?_, ?_⟩
  · rw [hmem]
    simp [linkedSockets, and_assoc]
  · change (groupsOf (linkedSockets sockets)).map (·.2) ++ _ = _
    rw [hgroups, List.map_map]
    simp only [List.any_eq_true, decide_eq_true_eq]
    rfl

/-- **The order of the sockets matters only within a group.** -/
theorem socketGroups_eq_of_perm {sockets sockets' : List ReportedSocket}
    (hperm : sockets'.Perm sockets)
    (hlinked : ∀ n, linkedUnder sockets' n = linkedUnder sockets n) :
    socketGroups sockets' = socketGroups sockets := by
  obtain ⟨numbers, hsorted, hmem, hgroups⟩ := exists_socketGroups sockets
  obtain ⟨numbers', hsorted', hmem', hgroups'⟩ := exists_socketGroups sockets'
  have hnumbers : numbers' = numbers := hsorted'.eq_of_mem_iff hsorted fun n => by
    rw [hmem', hmem]
    simp only [hperm.mem_iff]
  have hcolours : coloursUnder sockets' = coloursUnder sockets := by
    funext n
    exact congrArg (fun linked => String.join (linked.map (·.colour))) (hlinked n)
  rw [hgroups', hgroups, hnumbers, hcolours]
  simp only [hperm.mem_iff]

/-! ### Letters -/

/-- A linked colour is a single letter, and not the first one of the delve group. -/
theorem exists_letter {colour : String} (h : colour ∈ reportedColours) (hne : colour ≠ delveGroup) :
    ∃ c, colour = String.singleton c ∧ c ≠ 'D' := by
  simp only [reportedColours, List.mem_cons, List.not_mem_nil, or_false] at h
  obtain rfl | rfl | rfl | rfl | rfl | rfl := h
  · exact ⟨'R', rfl, by decide⟩
  · exact ⟨'G', rfl, by decide⟩
  · exact ⟨'B', rfl, by decide⟩
  · exact ⟨'W', rfl, by decide⟩
  · exact ⟨'A', rfl, by decide⟩
  · exact absurd rfl hne

/-- Where every text has one letter or none of a kind, the texts are counted by their letters. -/
theorem countP_flatMap_eq {α : Type} {xs : List α} {letters : α → List Char} {p : Char → Bool}
    {q : α → Bool} (h : ∀ x ∈ xs, (letters x).countP p = if q x = true then 1 else 0) :
    (xs.flatMap letters).countP p = xs.countP q := by
  induction xs with
  | nil => rfl
  | cons x xs ih =>
    rw [List.flatMap_cons, List.countP_append, List.countP_cons, h x List.mem_cons_self,
      ih fun y hy => h y (List.mem_cons_of_mem _ hy), Nat.add_comm]

section

variable {sockets : List ReportedSocket} (h : ∀ s ∈ sockets, s.colour ∈ reportedColours)

include h

theorem exists_letter_of_mem_linkedSockets {s : ReportedSocket} (hs : s ∈ linkedSockets sockets) :
    ∃ c, s.colour = String.singleton c ∧ c ≠ 'D' := by
  obtain ⟨hmem, hne⟩ := List.mem_filter.mp hs
  exact exists_letter (h s hmem) (of_decide_eq_true hne)

/-- A linked group is no delve group. -/
theorem coloursUnder_ne_delveGroup (n : UInt32) : coloursUnder sockets n ≠ delveGroup := by
  intro heq
  have hletter : 'D' ∈ (coloursUnder sockets n).toList := by
    rw [heq]
    decide
  rw [coloursUnder, joinedColours, String.toList_join, List.flatMap_map,
    List.mem_flatMap] at hletter
  obtain ⟨s, hs, hmem⟩ := hletter
  obtain ⟨c, hc, hne⟩ := exists_letter_of_mem_linkedSockets h (List.mem_of_mem_filter hs)
  rw [hc, String.toList_singleton, List.mem_singleton] at hmem
  exact hne hmem.symm

/-- A group has as many letters as sockets. -/
theorem length_coloursUnder (n : UInt32) :
    (coloursUnder sockets n).toList.length = (linkedUnder sockets n).length := by
  rw [coloursUnder, joinedColours, String.toList_join, List.flatMap_map, ← List.countP_true,
    ← List.countP_true]
  refine countP_flatMap_eq fun s hs => ?_
  obtain ⟨c, hc, -⟩ := exists_letter_of_mem_linkedSockets h (List.mem_of_mem_filter hs)
  rw [hc, String.toList_singleton]
  rfl

/-! ### The item -/

variable {item : Item} (hitem : item.sockets = socketGroups sockets)

include hitem

/-- The linked groups of the item are the groups of the linked sockets. -/
theorem linkedGroups_eq : item.linkedGroups = (groupsOf (linkedSockets sockets)).map (·.2) := by
  obtain ⟨numbers, -, -, hgroups⟩ := exists_groupsOf (linkedSockets sockets)
  have hlinked : ∀ g ∈ (groupsOf (linkedSockets sockets)).map (·.2), g ≠ delveGroup := by
    rw [hgroups, List.map_map]
    intro g hg
    obtain ⟨n, -, rfl⟩ := List.mem_map.mp hg
    exact coloursUnder_ne_delveGroup h n
  have hdelve : (if sockets.any (·.colour = delveGroup) then [delveGroup] else []).filter
      (· ≠ delveGroup) = [] := by
    split <;> simp
  rw [Item.linkedGroups, hitem]
  change ((groupsOf (linkedSockets sockets)).map (·.2) ++ _).filter _ = _
  rw [List.filter_append, hdelve, List.append_nil, List.filter_eq_self.mpr fun g hg =>
    decide_eq_true (hlinked g hg)]

/-- **The letters of the item** are those of the linked sockets. -/
theorem perm_flatMap_linkedGroups : (item.linkedGroups.flatMap String.toList).Perm
    ((linkedSockets sockets).flatMap (·.colour.toList)) := by
  rw [linkedGroups_eq h hitem, List.flatMap_map]
  exact perm_flatMap_groupsOf _

theorem socketCount_eq : item.socketCount = sockets.countP (·.colour ≠ delveGroup) := by
  have hcount : ((linkedSockets sockets).flatMap (·.colour.toList)).countP (fun _ => true) =
      (linkedSockets sockets).countP (fun _ => true) := countP_flatMap_eq fun s hs => by
    obtain ⟨c, hc, -⟩ := exists_letter_of_mem_linkedSockets h hs
    rw [hc, String.toList_singleton]
    rfl
  rw [List.countP_true, List.countP_true] at hcount
  rw [Item.socketCount, (perm_flatMap_linkedGroups h hitem).length_eq, hcount, linkedSockets,
    List.countP_eq_length_filter]

theorem abyssSocketCount_eq : item.abyssSocketCount = sockets.countP (·.colour = "A") := by
  have hcount : ((linkedSockets sockets).flatMap (·.colour.toList)).countP (· == 'A') =
      (linkedSockets sockets).countP (·.colour = "A") := countP_flatMap_eq fun s hs => by
    obtain ⟨c, hc, -⟩ := exists_letter_of_mem_linkedSockets h hs
    rw [hc, String.toList_singleton, List.countP_singleton]
    by_cases hA : c = 'A' <;> simp [hA, ← String.toList_inj]
  rw [Item.abyssSocketCount, (perm_flatMap_linkedGroups h hitem).count_eq, List.count_eq_countP,
    hcount, linkedSockets, List.countP_filter]
  -- an abyssal socket is no delve socket
  refine List.countP_congr fun s _ => ?_
  simp only [Bool.and_eq_true, decide_eq_true_eq, and_iff_left_iff_imp]
  rintro hA
  rw [hA]
  decide

theorem isGreatest_largestLink :
    IsGreatest (Set.range fun n => (linkedUnder sockets n).length) item.largestLink := by
  obtain ⟨numbers, -, hmem, hgroups⟩ := exists_groupsOf (linkedSockets sockets)
  have hlinks : item.linkedGroups = numbers.map (coloursUnder sockets) := by
    rw [linkedGroups_eq h hitem, hgroups, List.map_map]
    rfl
  have hupper : ∀ n, (linkedUnder sockets n).length ≤ item.largestLink := by
    intro n
    rcases Nat.eq_zero_or_pos (linkedUnder sockets n).length with hzero | hpos
    · rw [hzero]
      exact Nat.zero_le _
    · obtain ⟨s, hs⟩ := List.exists_mem_of_length_pos hpos
      obtain ⟨hlinked, hgroup⟩ := List.mem_filter.mp hs
      rw [Item.le_largestLink_iff hpos, hlinks]
      exact ⟨_, List.mem_map_of_mem ((hmem n).mpr ⟨s, hlinked, of_decide_eq_true hgroup⟩),
        (length_coloursUnder h n).ge⟩
  refine ⟨?_, Set.forall_mem_range.mpr hupper⟩
  rcases Nat.eq_zero_or_pos item.largestLink with hzero | hpos
  · exact ⟨0, Nat.le_antisymm (hupper 0) (by rw [hzero]; exact Nat.zero_le _)⟩
  · obtain ⟨g, hg, hle⟩ := (Item.le_largestLink_iff hpos).mp le_rfl
    rw [hlinks] at hg
    obtain ⟨n, -, rfl⟩ := List.mem_map.mp hg
    rw [length_coloursUnder h] at hle
    exact ⟨n, Nat.le_antisymm (hupper n) hle⟩

end

/-- **Sockets are conserved** by putting them into groups, as long as they have colours that the
game reports. -/
theorem conservesSockets {sockets : List ReportedSocket}
    (h : ∀ s ∈ sockets, s.colour ∈ reportedColours) : ConservesSockets sockets where
  groups := exists_socketGroups sockets
  socketCount _ hitem := socketCount_eq h hitem
  abyssSocketCount _ hitem := abyssSocketCount_eq h hitem
  largestLink _ hitem := isGreatest_largestLink h hitem
  reordered _ := socketGroups_eq_of_perm

/-- Two groups that are reported in turns, the second one first, and a delve socket in each. -/
theorem conservesSockets_interleaved :
    (∀ s ∈ [ReportedSocket.mk 3 "R", ⟨1, "A"⟩, ⟨3, "DV"⟩, ⟨1, "G"⟩, ⟨3, "B"⟩, ⟨1, "DV"⟩],
      s.colour ∈ reportedColours) ∧
    ConservesSockets
      [⟨3, "R"⟩, ⟨1, "A"⟩, ⟨3, "DV"⟩, ⟨1, "G"⟩, ⟨3, "B"⟩, ⟨1, "DV"⟩] :=
  ⟨by decide, conservesSockets (by decide)⟩

end LootLedger
