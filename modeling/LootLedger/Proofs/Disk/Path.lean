import LootLedger.Disk.Path
import LootLedger.Proofs.Text.Pieces
import Mathlib.Data.List.DropRight
import Mathlib.Data.List.TakeWhile

/-!
# The last piece of a path

Where a path leads is decided piece by piece, and what is done to a file is decided by the last
piece. So a path is cut before its last piece: into a front, which is empty or ends with a slash,
and a name without one. The pieces of a path are those of its front and the name, and the sibling
with another extension has the same front.

The path above is found on the pieces in reverse. Pieces that mean nothing are dropped on both sides
of the name, so it leads where the front of the path leads, one dot or another apart.

## Main definitions

* `Path.lastPiece`: the text behind the last slash
* `Path.Splits`: a path cut into its front and its last piece
* `Path.named`: the names among some pieces

## Main results

* `Path.exists_splits`: every path can be cut
* `Path.Splits.pieces_eq`: the pieces of a path that has a last one
* `Path.Splits.withExtension_eq`: the sibling of a file
* `Path.exists_pieces_parent?`: the pieces of the path above
-/

namespace LootLedger

namespace Path

open Text (Chars)

/-! ### Front and name -/

/-- The text behind the last slash. -/
def lastPiece (path : String) : Chars :=
  (path.toList.reverse.takeWhile (· ≠ '/')).reverse

/-- A path cut before its last piece. -/
structure Splits (path : String) (front name : Chars) : Prop where
  eq : path.toList = front ++ name
  notMem : '/' ∉ name
  /-- The front ends with a slash, unless there is none in the path. -/
  front : front = [] ∨ ∃ base, front = base ++ ['/']

theorem exists_splits (path : String) : ∃ front, Splits path front (lastPiece path) := by
  refine ⟨(path.toList.reverse.dropWhile (· ≠ '/')).reverse, ?_, ?_, ?_⟩
  · rw [lastPiece, ← List.reverse_append, List.takeWhile_append_dropWhile, List.reverse_reverse]
  · intro hmem
    have hne := List.mem_takeWhile_imp (List.mem_reverse.mp hmem)
    exact absurd rfl (of_decide_eq_true hne)
  · cases hrest : path.toList.reverse.dropWhile (· ≠ '/') with
    | nil => exact .inl rfl
    | cons c rest =>
      have hhead := List.head?_dropWhile_not (· ≠ '/') path.toList.reverse
      rw [hrest] at hhead
      have hc : c = '/' := by simpa using hhead
      exact .inr ⟨rest.reverse, by rw [List.reverse_cons, hc]⟩

namespace Splits

variable {path : String} {front name : Chars}

/-- A path with another last piece. -/
theorem replace (h : Splits path front name) {name' : Chars} (hname : '/' ∉ name') :
    Splits (String.ofList (front ++ name')) front name' :=
  ⟨String.toList_ofList, hname, h.front⟩

/-- The front decides where a path starts. -/
theorem isAbsolute_iff (h : Splits path front name) :
    isAbsolute path = true ↔ ∃ rest, front = '/' :: rest := by
  have hstart : isAbsolute path = true ↔ ['/'] <+: front ++ name := by
    rw [isAbsolute, Text.begins, Text.startsWith, h.eq, List.isPrefixOf_iff_prefix]
    rfl
  rw [hstart]
  cases hfront : front with
  | nil =>
    rw [List.nil_append]
    refine iff_of_false (fun hslash => h.notMem (hslash.subset List.mem_cons_self)) ?_
    rintro ⟨rest, hrest⟩
    cases hrest
  | cons c rest =>
    rw [List.cons_append, List.cons_prefix_cons]
    constructor
    · rintro ⟨rfl, -⟩
      exact ⟨rest, rfl⟩
    · rintro ⟨_, hrest⟩
      exact ⟨(List.cons.inj hrest).1.symm, List.nil_prefix⟩

theorem isAbsolute_congr {path' : String} {name' : Chars} (h : Splits path front name)
    (h' : Splits path' front name') : isAbsolute path = isAbsolute path' :=
  Bool.eq_iff_iff.mpr (h.isAbsolute_iff.trans h'.isAbsolute_iff.symm)

/-- The pieces of a path are those of its front and its last piece. -/
theorem pieces_eq (h : Splits path front name) (hname : name ≠ []) :
    pieces path = pieces (String.ofList front) ++ [String.ofList name] := by
  have hkeep : [name].filter (· ≠ []) = [name] :=
    List.filter_cons_of_pos (p := (· ≠ [])) (decide_eq_true hname)
  rcases h.front with hfront | ⟨base, hfront⟩
  · rw [pieces, pieces, h.eq, hfront, List.nil_append, Text.splitAtChar_of_notMem h.notMem,
      hkeep]
    rfl
  · rw [pieces, pieces, h.eq, hfront, String.toList_ofList, List.append_assoc,
      List.singleton_append, Text.splitAtChar_append_cons, Text.splitAtChar_append_cons,
      Text.splitAtChar_of_notMem h.notMem, List.filter_append, List.filter_append,
      hkeep, List.map_append, List.map_append, List.append_assoc]
    rfl

/-! ### Siblings -/

/-- The front is the slash of the root, if the path begins there, and what stands between it and the
last piece. -/
theorem exists_base (h : Splits path front name) : ∃ base : Chars,
    front = (if isAbsolute path then ['/'] else []) ++ base ∧
      (base = [] ∨ ∃ b, base = b ++ ['/']) := by
  cases habs : isAbsolute path with
  | false => exact ⟨front, rfl, h.front⟩
  | true =>
    obtain ⟨rest, hrest⟩ := h.isAbsolute_iff.mp habs
    refine ⟨rest, hrest, ?_⟩
    rcases h.front with hnil | ⟨b, hb⟩
    · rw [hnil] at hrest
      cases hrest
    · cases b with
      | nil =>
        rw [hb] at hrest
        exact .inl (List.cons.inj hrest).2.symm
      | cons c b =>
        rw [hb, List.cons_append] at hrest
        exact .inr ⟨b, (List.cons.inj hrest).2.symm⟩

/-- A last piece that is a name is the last of the pieces, and can be replaced by another one. -/
theorem name_reversedPieces (h : Splits path front name) (hname : name ≠ [])
    (hdot : name ≠ ['.']) : ∃ before, reversedPieces path = name :: before ∧
      ∀ name', ofReversedPieces (isAbsolute path) (name' :: before) =
        String.ofList (front ++ name') := by
  obtain ⟨base, hfront, hbase⟩ := h.exists_base
  have hrest : (if isAbsolute path then path.toList.drop 1 else path.toList) = base ++ name := by
    rw [h.eq, hfront]
    cases isAbsolute path <;> rfl
  rcases hbase with hnil | ⟨b, hb⟩
  · refine ⟨[], ?_, fun name' => ?_⟩
    · rw [reversedPieces]
      simp only [hrest, hnil, List.nil_append, Text.splitAtChar_of_notMem h.notMem,
        List.reverse_singleton, dropTrivial]
      rw [if_neg (by simp [hname, hdot])]
    · rw [ofReversedPieces, hfront, hnil, List.append_nil]
      rfl
  · refine ⟨(Text.splitAtChar '/' b).reverse, ?_, fun name' => ?_⟩
    · rw [reversedPieces]
      simp only [hrest, hb, List.append_assoc, List.singleton_append,
        Text.splitAtChar_append_cons, Text.splitAtChar_of_notMem h.notMem, List.reverse_append,
        List.reverse_singleton, dropTrivial]
      rw [if_neg (by simp [hname, hdot])]
    · rw [ofReversedPieces, List.reverse_cons, List.reverse_reverse,
        Text.joinWith_concat (Text.splitAtChar_ne_nil b), Text.joinWith_splitAtChar, hfront, hb]
      simp

/-- **The sibling of a file** has the same front and another last piece. -/
theorem withExtension_eq (h : Splits path front name) (hname : name ≠ []) (hdot : name ≠ ['.'])
    (hdots : name ≠ ['.', '.']) (extension : String) :
    withExtension path extension =
      String.ofList (front ++ (stem name ++ '.' :: extension.toList)) := by
  obtain ⟨before, hpieces, hjoin⟩ := h.name_reversedPieces hname hdot
  rw [withExtension, hpieces]
  dsimp only
  rw [if_neg (by rintro (hname' | hname'); exacts [hdots hname', hdot hname']), hjoin]

/-- A path that ends in two dots is its own sibling. -/
theorem withExtension_dots (h : Splits path front ['.', '.']) (extension : String) :
    withExtension path extension = path := by
  obtain ⟨before, hpieces, -⟩ := h.name_reversedPieces (by decide) (by decide)
  rw [withExtension, hpieces]
  exact if_pos (.inl rfl)

end Splits

/-! ### The path above -/

/-- The pieces that are dropped mean nothing, and the first one that is not is not empty. -/
theorem exists_append_dropTrivial (absolute : Bool) (ss : List Chars) :
    ∃ trivial, ss = trivial ++ dropTrivial absolute ss ∧
      (∀ s ∈ trivial, s = [] ∨ s = ['.']) ∧ ∀ s ∈ (dropTrivial absolute ss).head?, s ≠ [] := by
  induction ss with
  | nil => exact ⟨[], rfl, nofun, nofun⟩
  | cons s ss ih =>
    rw [dropTrivial]
    split_ifs with hdrop
    · obtain ⟨trivial, hss, htrivial, hhead⟩ := ih
      refine ⟨s :: trivial, congrArg (s :: ·) hss, List.forall_mem_cons.mpr ⟨?_, htrivial⟩, hhead⟩
      exact hdrop.imp_right And.left
    · refine ⟨[], rfl, nofun, ?_⟩
      rintro _ ⟨⟩ hnil
      exact hdrop (.inl hnil)

/-- The names among some pieces. -/
def named (ss : List Chars) : List String :=
  (ss.filter (· ≠ [])).map String.ofList

theorem named_append (ss ts : List Chars) : named (ss ++ ts) = named ss ++ named ts := by
  simp only [named, List.filter_append, List.map_append]

/-- Pieces that mean nothing are dots at most. -/
theorem eq_dot_of_mem_named {ss : List Chars} (h : ∀ s ∈ ss, s = [] ∨ s = ['.']) :
    ∀ d ∈ named ss, d = "." := by
  intro d hd
  obtain ⟨s, hs, rfl⟩ := List.mem_map.mp hd
  obtain ⟨hmem, hne⟩ := List.mem_filter.mp hs
  rw [(h s hmem).resolve_left (of_decide_eq_true hne)]

theorem named_splitAtChar_joinWith {ss : List Chars} (h : ∀ s ∈ ss, '/' ∉ s) :
    named (Text.splitAtChar '/' (Text.joinWith '/' ss)) = named ss := by
  cases ss with
  | nil => rfl
  | cons s ss => rw [Text.splitAtChar_joinWith (List.cons_ne_nil _ _) h]

theorem isAbsolute_iff_startsWith {path : String} :
    isAbsolute path = true ↔ ['/'] <+: path.toList := by
  rw [isAbsolute, Text.begins, Text.startsWith, List.isPrefixOf_iff_prefix]
  rfl

/-- A path is the slash of the root, if it begins there, and a rest, and the slash adds no piece. -/
theorem exists_rest (path : String) : ∃ rest,
    path.toList = (if isAbsolute path then ['/'] else []) ++ rest ∧
    (if isAbsolute path then path.toList.drop 1 else path.toList) = rest ∧
    pieces path = named (Text.splitAtChar '/' rest) := by
  cases habs : isAbsolute path with
  | false => exact ⟨path.toList, rfl, rfl, rfl⟩
  | true =>
    obtain ⟨rest, hrest⟩ := isAbsolute_iff_startsWith.mp habs
    refine ⟨rest, hrest.symm, by rw [← hrest]; rfl, ?_⟩
    rw [pieces, ← hrest]
    rfl

/-- **The path above a path** is a prefix of it, starts where it starts, and has its pieces but for
the last one and dots. -/
theorem exists_pieces_parent? {path above : String} (h : parent? path = some above) :
    above.toList <+: path.toList ∧ isAbsolute above = isAbsolute path ∧
      ∃ dots name dots', pieces path = pieces above ++ dots ++ [name] ++ dots' ∧
        ∀ d ∈ dots ++ dots', d = "." := by
  obtain ⟨rest, hpath, hrest, hpieces⟩ := exists_rest path
  rw [parent?, reversedPieces] at h
  simp only [hrest] at h
  generalize habs : isAbsolute path = absolute at hpath h ⊢
  obtain ⟨trivial, hsplit, htrivial, hname⟩ :=
    exists_append_dropTrivial absolute (Text.splitAtChar '/' rest).reverse
  split at h
  · cases h
  next name before hdrop =>
  obtain ⟨trivial', hbefore, htrivial', -⟩ := exists_append_dropTrivial absolute before
  generalize dropTrivial absolute before = kept at h hbefore
  have hcut : Text.splitAtChar '/' rest =
      kept.reverse ++ (trivial'.reverse ++ ([name] ++ trivial.reverse)) := by
    rw [← List.reverse_reverse (Text.splitAtChar '/' rest), hsplit, hdrop, hbefore]
    simp
  have habove : above.toList =
      (if absolute then ['/'] else []) ++ Text.joinWith '/' kept.reverse := by
    rw [← Option.some.inj h, ofReversedPieces, String.toList_ofList]
  have hfront : above.toList <+: path.toList := by
    have hjoin : Text.joinWith '/' (Text.splitAtChar '/' rest) = rest :=
      Text.joinWith_splitAtChar rest
    rw [habove, hpath, ← hjoin, hcut]
    exact (List.prefix_append_right_inj _).mpr (Text.joinWith_prefix_append _ _)
  have hslash : ∀ s ∈ kept.reverse, '/' ∉ s := fun s hs =>
    Text.notMem_of_mem_splitAtChar (s := rest) (by rw [hcut]; exact List.mem_append_left _ hs)
  have hstart : isAbsolute above = absolute := by
    cases absolute with
    | true =>
      rw [isAbsolute_iff_startsWith, habove]
      exact List.prefix_append _ _
    | false =>
      rw [← habs, Bool.eq_iff_iff, isAbsolute_iff_startsWith, isAbsolute_iff_startsWith]
      refine ⟨fun hslash => hslash.trans hfront, fun hslash => ?_⟩
      rw [isAbsolute_iff_startsWith.mpr hslash] at habs
      cases habs
  refine ⟨hfront, hstart, named trivial'.reverse, String.ofList name, named trivial.reverse,
    ?_, ?_⟩
  · obtain ⟨rest', habove', -, hpieces'⟩ := exists_rest above
    rw [hstart, habove, List.append_cancel_left_eq] at habove'
    rw [hpieces, hpieces', ← habove', hcut, named_splitAtChar_joinWith hslash]
    have hne : name ≠ [] := hname name (by rw [hdrop]; rfl)
    have hlast : named [name] = [String.ofList name] := by
      rw [named, List.filter_cons_of_pos (by simpa using hne)]
      rfl
    simp only [named_append, hlast, List.append_assoc]
  · rw [← named_append]
    refine eq_dot_of_mem_named fun s hs => ?_
    rcases List.mem_append.mp hs with hs | hs
    · exact htrivial' s (List.mem_reverse.mp hs)
    · exact htrivial s (List.mem_reverse.mp hs)

end Path

end LootLedger
