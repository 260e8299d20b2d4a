import LootLedger.Text.Split
import Mathlib.Data.List.Infix
import Mathlib.Logic.ExistsUnique

/-!
# Where a marker occurs

Names and addresses are told by markers that occur in them, at any place, and a text that is put in
front of a name or behind it may hide a marker, bring one in, or complete a piece of one. Each
section names a condition under which it does not.

A marker can only overlap itself if its first character comes back in it. None of the markers that
names are cut at does so, hence two occurrences in one text are the same or apart.

## Main definitions

* `Text.OccursOnce`: a marker occurs at one place of a text
* `Text.Apart`: a name that cannot begin in the text in front of it
* `Text.inFront`: words in front of a text

## Main results

* `Text.OccursOnce.infix_iff`: what is found behind such a marker
* `Text.Apart.infix_append_iff`: a text in front neither hides such a name nor brings one in
* `Text.suffix_of_append_marker_infix`: where a name that ends with a marker can stand
* `Text.splitOnce?_append`, `Text.eq_append_of_splitOnce?`: cutting at the first occurrence
* `Text.utf8ByteSize_lt_of_infix`: what occurs in a text is shorter
-/

namespace LootLedger.Text

/-! ### A marker that occurs once -/

/-- There is one place in the text at which the marker occurs. -/
def OccursOnce (marker s : Chars) : Prop :=
  ∃! before, before ++ marker <+: s

/-- **Behind a marker that occurs once** nothing is found but what follows it there. -/
theorem OccursOnce.infix_iff {marker before rest : Chars}
    (h : OccursOnce marker (before ++ marker ++ rest)) (s : Chars) :
    marker ++ s <:+: before ++ marker ++ rest ↔ s <+: rest := by
  constructor
  · rintro ⟨before', rest', heq⟩
    have hplace : before' = before :=
      h.unique ⟨s ++ rest', by simpa using heq⟩ (List.prefix_append _ rest)
    subst hplace
    exact ⟨rest', by simpa using heq⟩
  · rintro ⟨rest', rfl⟩
    exact ⟨before, rest', by simp⟩

/-! ### Texts in front -/

/-- No end of the text in front and no start of the name agree as far as both go. -/
def Apart (front name : Chars) : Prop :=
  ∀ u, u <:+ front → u ≠ [] → ¬ u <+: name ∧ ¬ name <+: u

instance (front name : Chars) : Decidable (Apart front name) :=
  decidable_of_iff (∀ u ∈ front.tails, u ≠ [] → ¬ u <+: name ∧ ¬ name <+: u) <| by
    simp only [List.mem_tails, Apart]

/-- A name is apart from a text without its first character. -/
theorem apart_of_notMem {d : Char} {front : Chars} (hd : d ∉ front) (name : Chars) :
    Apart front (d :: name) := by
  intro u hu hne
  obtain ⟨e, u, rfl⟩ := List.exists_cons_of_ne_nil hne
  have he : e ≠ d := by
    rintro rfl
    exact hd (hu.mem List.mem_cons_self)
  exact ⟨fun h => he (List.cons_prefix_cons.mp h).1,
    fun h => he (List.cons_prefix_cons.mp h).1.symm⟩

/-- A name is apart from a text in which its first character does not come after the start. -/
theorem apart_cons {c d : Char} {front name : Chars} (hd : d ∉ front)
    (hfront : ¬ c :: front <+: d :: name) (hname : ¬ d :: name <+: c :: front) :
    Apart (c :: front) (d :: name) := by
  intro u hu hne
  obtain rfl | hu := List.suffix_cons_iff.mp hu
  · exact ⟨hfront, hname⟩
  · exact apart_of_notMem hd name u hu hne

theorem Apart.of_cons {c : Char} {front name : Chars} (h : Apart (c :: front) name) :
    Apart front name := by
  intro u hu
  exact h u (hu.trans (List.suffix_cons c front))

theorem Apart.not_prefix_append {front name : Chars} (h : Apart front name) (hne : front ≠ [])
    (s : Chars) : ¬ name <+: front ++ s := by
  intro hname
  obtain ⟨hfront, hname'⟩ := h front List.suffix_rfl hne
  obtain hle | hle := List.prefix_or_prefix_of_prefix hname (List.prefix_append front s)
  · exact hname' hle
  · exact hfront hle

/-- **A text in front** neither hides a name that is apart from it nor brings one in. -/
theorem Apart.infix_append_iff {front name : Chars} (h : Apart front name) (s : Chars) :
    name <:+: front ++ s ↔ name <:+: s := by
  induction front with
  | nil => rfl
  | cons c front ih =>
    rw [List.cons_append, List.infix_cons_iff, ih h.of_cons]
    exact or_iff_right (h.not_prefix_append (List.cons_ne_nil c front) s)

theorem Apart.contains_append {front name : String} (h : Apart front.toList name.toList)
    (t : String) : contains (front ++ t) name = contains t name := by
  rw [Bool.eq_iff_iff, contains_iff, contains_iff, String.toList_append]
  exact h.infix_append_iff t.toList

theorem Apart.begins_append {front name : String} (h : Apart front.toList name.toList)
    (hne : front.toList ≠ []) (t : String) : begins (front ++ t) name = false := by
  rw [begins_eq_false_iff, String.toList_append]
  exact h.not_prefix_append hne t.toList

/-- Words in front of a text, with a space behind each. -/
def inFront (words : List Chars) (s : Chars) : Chars :=
  words.foldr (fun w t => w ++ ' ' :: t) s

@[simp] theorem inFront_nil (s : Chars) : inFront [] s = s := rfl

@[simp] theorem inFront_cons (w : Chars) (words : List Chars) (s : Chars) :
    inFront (w :: words) s = w ++ ' ' :: inFront words s := rfl

theorem inFront_append (words : List Chars) (s t : Chars) :
    inFront words (s ++ t) = inFront words s ++ t := by
  induction words with
  | nil => rfl
  | cons w words ih => rw [inFront_cons, inFront_cons, ih, List.append_assoc, List.cons_append]

/-- Words and a name with single spaces between them. -/
theorem toList_intercalate_concat (words : List String) (name : String) :
    (" ".intercalate (words ++ [name])).toList =
      inFront (words.map String.toList) name.toList := by
  rw [String.toList_intercalate]
  induction words with
  | nil => simp
  | cons w words ih =>
    obtain ⟨w', rest, hrest⟩ := List.exists_cons_of_ne_nil
      (List.append_ne_nil_of_right_ne_nil (words.map String.toList)
        (List.cons_ne_nil name.toList []))
    rw [List.map_append, List.map_singleton] at ih ⊢
    rw [List.map_cons, List.cons_append, hrest, List.intercalate_cons_cons, ← hrest, ih,
      inFront_cons]
    simp

/-- **Words in front**, each apart from a name. -/
theorem infix_inFront_iff {words : List Chars} {name : Chars}
    (h : ∀ w ∈ words, Apart (w ++ [' ']) name) (s : Chars) :
    name <:+: inFront words s ↔ name <:+: s := by
  induction words with
  | nil => rfl
  | cons w words ih =>
    rw [List.forall_mem_cons] at h
    rw [inFront_cons, List.append_cons, h.1.infix_append_iff, ih h.2]

/-! ### Occurrences apart -/

section

variable {c : Char} {m : Chars} (hc : c ∉ m)

include hc

/-- An occurrence that is not the first one begins behind it. -/
theorem eq_nil_or_of_append_marker_eq {a r s : Chars}
    (h : c :: m ++ s = a ++ (c :: m ++ r)) :
    a = [] ∨ ∃ t, a = c :: m ++ t ∧ s = t ++ (c :: m ++ r) := by
  cases a with
  | nil => exact .inl rfl
  | cons d a =>
    right
    obtain ⟨rfl, hrest⟩ := List.cons.inj h
    obtain ⟨t, rfl, hs⟩ | ⟨t, hm, ht⟩ := List.append_eq_append_iff.mp hrest
    · exact ⟨t, by simp, hs⟩
    · -- An occurrence that began inside the first one would bring its first character back.
      cases t with
      | nil => exact ⟨[], by simpa using hm.symm, by simpa using ht.symm⟩
      | cons e t =>
        obtain ⟨rfl, -⟩ := List.cons.inj ht
        exact absurd (hm ▸ List.mem_append_right a List.mem_cons_self) hc

/-- Where the marker occurs at one place, no other cut is possible. -/
theorem eq_of_append_marker_eq {p q r s : Chars} (hp : ¬ c :: m <:+: p) (hs : ¬ c :: m <:+: s)
    (h : q ++ (c :: m ++ r) = p ++ (c :: m ++ s)) : q = p := by
  obtain ⟨a, hpa, ha⟩ | ⟨a, hqa, ha⟩ := List.append_eq_append_iff.mp h
  · obtain rfl | ⟨t, rfl, -⟩ := eq_nil_or_of_append_marker_eq hc ha
    · rw [hpa, List.append_nil]
    · exact absurd ⟨q, t, by simp [hpa]⟩ hp
  · obtain rfl | ⟨t, -, rfl⟩ := eq_nil_or_of_append_marker_eq hc ha
    · rw [hqa, List.append_nil]
    · exact absurd ⟨t, r, by simp⟩ hs

/-- A marker occurs once if it is in neither of the texts around it. -/
theorem occursOnce_append {p s : Chars} (hp : ¬ c :: m <:+: p) (hs : ¬ c :: m <:+: s) :
    OccursOnce (c :: m) (p ++ (c :: m) ++ s) := by
  refine ⟨p, List.prefix_append _ s, ?_⟩
  rintro q ⟨r, heq⟩
  exact eq_of_append_marker_eq hc hp hs (by simpa using heq)

/-- **Where a name that ends with a marker can stand** in a text that holds the marker at one place:
it ends there. -/
theorem suffix_of_append_marker_infix {p s x : Chars} (hp : ¬ c :: m <:+: p)
    (hs : ¬ c :: m <:+: s) (h : x ++ (c :: m) <:+: p ++ (c :: m ++ s)) : x <:+ p := by
  obtain ⟨q, r, heq⟩ := h
  exact ⟨q, eq_of_append_marker_eq (r := r) hc hp hs (by simpa using heq)⟩

/-! ### The first occurrence -/

omit hc in
theorem dropPrefix?_eq_none_iff {marker s : Chars} :
    dropPrefix? marker s = none ↔ ¬ marker <+: s := by
  constructor
  · rintro h ⟨rest, rfl⟩
    rw [dropPrefix?_append] at h
    cases h
  · intro h
    cases hdrop : dropPrefix? marker s with
    | none => rfl
    | some rest => exact absurd ⟨rest, (eq_append_of_dropPrefix? hdrop).symm⟩ h

omit hc in
/-- The text before the cut and the text behind it, with the marker between them. -/
theorem eq_append_of_splitOnce? {marker s p r : Chars} (h : splitOnce? marker s = some (p, r)) :
    s = p ++ marker ++ r := by
  induction s generalizing p with
  | nil =>
    rw [splitOnce?] at h
    split at h
    · next hnil =>
      cases h
      simpa using hnil.symm
    · cases h
  | cons d s ih =>
    rw [splitOnce?] at h
    split at h
    · next hdrop =>
      cases h
      simpa using eq_append_of_dropPrefix? hdrop
    · obtain ⟨⟨p', r'⟩, hsplit, heq⟩ := Option.map_eq_some_iff.mp h
      cases heq
      rw [ih hsplit, List.cons_append, List.cons_append]

omit hc in
/-- A text without the first character of the marker is before the cut. -/
theorem splitOnce?_append_of_notMem {front : Chars} (h : c ∉ front) (s : Chars) :
    splitOnce? (c :: m) (front ++ s) =
      (splitOnce? (c :: m) s).map fun (before, rest) => (front ++ before, rest) := by
  induction front with
  | nil => simp
  | cons d front ih =>
    have hnone : dropPrefix? (c :: m) (d :: (front ++ s)) = none := by
      rw [dropPrefix?_eq_none_iff, List.cons_prefix_cons]
      exact fun hle => List.ne_of_not_mem_cons h hle.1
    rw [List.cons_append, splitOnce?, hnone, ih (List.not_mem_of_not_mem_cons h)]
    simp [Function.comp_def]

/-- **The cut is at the first occurrence.** -/
theorem splitOnce?_append {p : Chars} (hp : ¬ c :: m <:+: p) (s : Chars) :
    splitOnce? (c :: m) (p ++ (c :: m ++ s)) = some (p, s) := by
  induction p with
  | nil =>
    rw [List.nil_append, List.cons_append, splitOnce?, ← List.cons_append, dropPrefix?_append]
  | cons d p ih =>
    have hnone : dropPrefix? (c :: m) (d :: (p ++ (c :: m ++ s))) = none := by
      rw [dropPrefix?_eq_none_iff]
      rintro ⟨rest, heq⟩
      rw [← List.cons_append] at heq
      obtain hnil | ⟨t, hdp, -⟩ := eq_nil_or_of_append_marker_eq hc heq
      · cases hnil
      · exact hp ⟨[], t, by rw [hdp]; rfl⟩
    rw [List.cons_append, splitOnce?, hnone, ih fun h => hp (List.infix_cons h)]
    rfl

end

/-! ### Sizes -/

/-- A text has more bytes than any other text in it. -/
theorem utf8ByteSize_lt_of_infix {s x : String} (h : x.toList <:+: s.toList) (hne : x ≠ s) :
    x.utf8ByteSize < s.utf8ByteSize := by
  obtain ⟨front, behind, hparts⟩ := h
  have hs : s = String.ofList front ++ x ++ String.ofList behind := by
    rw [← String.toList_inj, ← hparts]
    simp
  have hsize : s.utf8ByteSize = (String.ofList front).utf8ByteSize + x.utf8ByteSize +
      (String.ofList behind).utf8ByteSize := by
    rw [hs, String.utf8ByteSize_append, String.utf8ByteSize_append]
  by_contra hle
  have hfront : String.ofList front = "" := String.utf8ByteSize_eq_zero_iff.mp (by omega)
  have hbehind : String.ofList behind = "" := String.utf8ByteSize_eq_zero_iff.mp (by omega)
  rw [hfront, hbehind, String.empty_append, String.append_empty] at hs
  exact hne hs.symm

end LootLedger.Text
