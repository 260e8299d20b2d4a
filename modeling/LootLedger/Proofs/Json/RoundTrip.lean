import LootLedger.Proofs.Json.Double
import LootLedger.Proofs.Json.Quoted
import LootLedger.Proofs.Json.Spacing
import LootLedger.Proofs.Outcome
import Mathlib.Data.List.DropRight

/-!
# Documents are read back

What was written in either layout is read back, as long as its numbers are of the kind that a reader
can come up with: whole numbers of 64 bits, and finite doubles. Everything comes back as it was but
for the doubles, of which each is read back as it would be by itself.

## Why the steps suffice

The reader counts its steps down from twice the length of the text. Two steps for each character of
a value are enough to read it (`ReadsBack`), wherever it stands: an element is read one step below
its array, and each further element one step below the one before, but every such step has a bracket
or a comma of its own. So the induction is on the document, with an induction along the elements
inside, and the length of the text is all that has to be kept account of.

## Main definitions

* `Json.IsPlain`: a document whose whole numbers fit 64 bits and whose doubles have a property
* `Json.reread`: the document that a document is read back as
* `Json.ReadsBack`: a document that is read back with two steps for each character

## Main results

* `Json.IsPlain.readsBack`: plain documents are read back, in any layout and at any place
* `Json.parse?_pretty`, `Json.parse?_compact`: the two layouts
* `Json.IsPlain.reread_eq`: a document is read back as it was if its doubles are
-/

namespace LootLedger.Json

open Text (Chars)

/-- A document whose whole numbers fit 64 bits and whose doubles have the property. -/
inductive IsPlain (P : Float → Prop) : Json → Prop
  | null : IsPlain P .null
  | bool (b : Bool) : IsPlain P (.bool b)
  | int {n : Int} (h : IsWord n) : IsPlain P (.int n)
  | float {x : Float} (h : P x) : IsPlain P (.float x)
  | text (s : String) : IsPlain P (.text s)
  | array {xs : List Json} (h : ∀ x ∈ xs, IsPlain P x) : IsPlain P (.array xs)
  | object {ms : List (String × Json)} (h : ∀ m ∈ ms, IsPlain P m.2) : IsPlain P (.object ms)

mutual

/-- The document that a document is read back as. -/
def reread : Json → Json
  | .float x => floatValue (reread? x)
  | .array xs => .array (rereadElements xs)
  | .object ms => .object (rereadMembers ms)
  | j => j

/-- The elements that elements are read back as. -/
def rereadElements : List Json → List Json
  | [] => []
  | x :: xs => reread x :: rereadElements xs

/-- The members that members are read back as. -/
def rereadMembers : List (String × Json) → List (String × Json)
  | [] => []
  | (name, x) :: ms => (name, reread x) :: rereadMembers ms

end

theorem reread_int (n : Int) : reread (.int n) = .int n := rfl

theorem reread_array (xs : List Json) : reread (.array xs) = .array (xs.map reread) := by
  rw [reread]
  congr 1
  induction xs with
  | nil => rfl
  | cons x xs ih => rw [rereadElements, ih, List.map_cons]

theorem reread_object (ms : List (String × Json)) :
    reread (.object ms) = .object (ms.map fun m => (m.1, m.2.reread)) := by
  rw [reread]
  congr 1
  induction ms with
  | nil => rfl
  | cons m ms ih => rw [rereadMembers, ih, List.map_cons]

/-- **A document is read back as it was** if its doubles are. -/
theorem IsPlain.reread_eq {j : Json} (h : IsPlain (fun x => reread? x = some x) j) :
    j.reread = j := by
  induction h with
  | null | bool _ | int _ | text _ => rfl
  | float h => rw [reread, h]; rfl
  | array _ ih => rw [reread_array, List.map_congr_left ih, List.map_id']
  | object _ ih =>
    rw [reread_object, List.map_congr_left fun m hm => by rw [ih m hm], List.map_id']

/-- Two steps for each character get the document back, at any level of nesting and with anything
behind it that a number does not go on into. -/
def ReadsBack (sp : Spacing) (j : Json) : Prop :=
  ∀ level steps rest, 2 * (sp.written level j).length ≤ steps → EndsNumber rest →
    readValue? steps (sp.written level j ++ rest) = some (j.reread, rest)

/-! ### Space -/

section Space

variable {gap : Chars}

theorem skipSpace_append (hgap : ∀ c ∈ gap, isSpace c) (s : Chars) :
    skipSpace (gap ++ s) = skipSpace s := by
  rw [skipSpace, List.dropWhile_append_of_pos hgap, skipSpace]

theorem skipSpace_cons {c : Char} (h : isSpace c = false) (s : Chars) :
    skipSpace (c :: s) = c :: s := by
  simp [skipSpace, h]

@[simp] theorem skipSpace_skipSpace (s : Chars) : skipSpace (skipSpace s) = skipSpace s :=
  List.dropWhile_idempotent _ _

theorem readValue?_skipSpace (steps : Nat) (s : Chars) :
    readValue? steps (skipSpace s) = readValue? steps s := by
  cases steps with
  | zero => rfl
  | succ steps => rw [readValue?, readValue?, skipSpace_skipSpace]

theorem readElements?_skipSpace (steps : Nat) (s : Chars) :
    readElements? steps (skipSpace s) = readElements? steps s := by
  cases steps with
  | zero => rfl
  | succ steps => rw [readElements?, readElements?, readValue?_skipSpace]

theorem readMembers?_skipSpace (steps : Nat) (s : Chars) :
    readMembers? steps (skipSpace s) = readMembers? steps s := by
  cases steps with
  | zero => rfl
  | succ steps => rw [readMembers?, readMembers?, skipSpace_skipSpace]

/-- What is read behind space is read behind more of it. -/
theorem read_space {α : Type} {read : Chars → α} (hread : ∀ s, read (skipSpace s) = read s)
    (hgap : ∀ c ∈ gap, isSpace c) (s : Chars) : read (gap ++ s) = read s := by
  rw [← hread, skipSpace_append hgap, hread]

theorem readValue?_space (hgap : ∀ c ∈ gap, isSpace c) (steps : Nat) (s : Chars) :
    readValue? steps (gap ++ s) = readValue? steps s :=
  read_space (readValue?_skipSpace steps) hgap s

theorem readElements?_space (hgap : ∀ c ∈ gap, isSpace c) (steps : Nat) (s : Chars) :
    readElements? steps (gap ++ s) = readElements? steps s :=
  read_space (readElements?_skipSpace steps) hgap s

theorem readMembers?_space (hgap : ∀ c ∈ gap, isSpace c) (steps : Nat) (s : Chars) :
    readMembers? steps (gap ++ s) = readMembers? steps s :=
  read_space (readMembers?_skipSpace steps) hgap s

/-- No number goes on into space. -/
theorem EndsNumber.space_append (hgap : ∀ c ∈ gap, isSpace c) {s : Chars} (hs : EndsNumber s) :
    EndsNumber (gap ++ s) := by
  rcases gap with _ | ⟨c, gap⟩
  · exact hs
  · intro d hd
    obtain rfl := Option.some.inj hd
    have hspace := hgap c List.mem_cons_self
    simp only [isSpace, Bool.or_eq_true, decide_eq_true_eq] at hspace
    rcases hspace with ((rfl | rfl) | rfl) | rfl <;> decide

/-- No number goes on into the marks that follow a value. -/
theorem endsNumber_cons {c : Char} (hc : c ∈ [',', ']', '}']) (s : Chars) :
    EndsNumber (c :: s) := by
  intro d hd
  obtain rfl := Option.some.inj hd
  simp only [List.mem_cons, List.not_mem_nil, or_false] at hc
  rcases hc with rfl | rfl | rfl <;> decide

end Space

/-! ### How a value begins -/

theorem isSpace_of_isDigit {c : Char} (h : Text.isDigit c) : isSpace c = false := by
  by_contra hspace
  simp only [isSpace, Bool.not_eq_false, Bool.or_eq_true, decide_eq_true_eq] at hspace
  rcases hspace with ((rfl | rfl) | rfl) | rfl <;> cases h

/-- A sign or a digit begins a number and no other value. -/
theorem notMem_of_begins_number {c : Char} (h : c = '-' ∨ Text.isDigit c = true) :
    isSpace c = false ∧ c ∉ ['"', '[', '{', 'n', 't', 'f', ']'] := by
  rcases h with rfl | hc
  · decide
  · refine ⟨isSpace_of_isDigit hc, fun hmem => ?_⟩
    simp only [List.mem_cons, List.not_mem_nil, or_false] at hmem
    rcases hmem with rfl | rfl | rfl | rfl | rfl | rfl | rfl <;> cases hc

theorem exists_intText_cons (n : Int) :
    ∃ c s, intText n = c :: s ∧ (c = '-' ∨ Text.isDigit c = true) := by
  rw [intText]
  split
  · exact ⟨'-', _, rfl, .inl rfl⟩
  · obtain ⟨c, ds, hds⟩ := List.exists_cons_of_ne_nil (Text.digits_ne_nil n.natAbs)
    exact ⟨c, ds, hds, .inr (Text.isDigit_of_mem_digits (hds ▸ List.mem_cons_self))⟩

/-- A value begins without space, and not like the end of an array. -/
theorem IsPlain.exists_written_cons {j : Json} (h : IsPlain Decimal.IsFinite j) (sp : Spacing)
    (level : Nat) :
    ∃ c s, sp.written level j = c :: s ∧ isSpace c = false ∧ c ≠ ']' := by
  cases h with
  | null => exact ⟨'n', _, rfl, rfl, by decide⟩
  | bool b => cases b <;> exact ⟨_, _, rfl, rfl, by decide⟩
  | @int n h =>
    obtain ⟨c, s, hcs, hbegins⟩ := exists_intText_cons n
    obtain ⟨hspace, hc⟩ := notMem_of_begins_number hbegins
    exact ⟨c, s, hcs, hspace, by rintro rfl; simp at hc⟩
  | @float x h =>
    obtain ⟨c, s, hcs, hbegins⟩ := exists_floatText_cons h
    obtain ⟨hspace, hc⟩ := notMem_of_begins_number hbegins
    exact ⟨c, s, hcs, hspace, by rintro rfl; simp at hc⟩
  | text s => exact ⟨'"', _, by rw [Spacing.written, quote], rfl, by decide⟩
  | @array xs h =>
    cases xs with
    | nil => exact ⟨'[', [']'], by rw [Spacing.written]; rfl, rfl, by decide⟩
    | cons x xs => exact ⟨'[', _, by rw [Spacing.written], rfl, by decide⟩
  | @object ms h =>
    cases ms with
    | nil => exact ⟨'{', ['}'], by rw [Spacing.written]; rfl, rfl, by decide⟩
    | cons m ms => exact ⟨'{', _, by rw [Spacing.written], rfl, by decide⟩

/-- A value has a character, so there is a step to begin with. -/
theorem IsPlain.readsBack_of_succ {sp : Spacing} {j : Json} (hj : IsPlain Decimal.IsFinite j)
    (h : ∀ level steps rest, 2 * (sp.written level j).length ≤ steps + 1 → EndsNumber rest →
      readValue? (steps + 1) (sp.written level j ++ rest) = some (j.reread, rest)) :
    ReadsBack sp j := by
  intro level steps rest hsteps hrest
  obtain ⟨c, s, hcs, -⟩ := hj.exists_written_cons sp level
  cases steps with
  | zero => simp [hcs] at hsteps
  | succ steps => exact h level steps rest hsteps hrest

/-! ### Scalars -/

theorem readsBack_null (sp : Spacing) : ReadsBack sp .null :=
  IsPlain.null.readsBack_of_succ fun _ _ _ _ _ => rfl

theorem readsBack_bool (sp : Spacing) (b : Bool) : ReadsBack sp (.bool b) :=
  (IsPlain.bool b).readsBack_of_succ fun _ _ _ _ _ => by cases b <;> rfl

theorem readsBack_text (sp : Spacing) (s : String) : ReadsBack sp (.text s) := by
  refine (IsPlain.text s).readsBack_of_succ fun level steps rest _ _ => ?_
  rw [Spacing.written, quote, readValue?, List.cons_append, skipSpace_cons rfl, List.append_assoc]
  simp [readQuoted?_quoted, textValue, reread]

/-- What begins like no other value is taken for a number. -/
theorem readValue?_number {c : Char} (h : c = '-' ∨ Text.isDigit c = true) (steps : Nat)
    (s : Chars) : readValue? (steps + 1) (c :: s) = readNumber? (c :: s) := by
  obtain ⟨hspace, hc⟩ := notMem_of_begins_number h
  rw [readValue?, skipSpace_cons hspace]
  split <;> simp_all

theorem readsBack_int (sp : Spacing) {n : Int} (h : IsWord n) : ReadsBack sp (.int n) := by
  refine (IsPlain.int h).readsBack_of_succ fun level steps rest _ hrest => ?_
  obtain ⟨c, s, hcs, hbegins⟩ := exists_intText_cons n
  rw [Spacing.written, reread_int, ← readNumber?_intText h hrest, hcs, List.cons_append]
  exact readValue?_number hbegins steps _

theorem readsBack_float (sp : Spacing) {x : Float} (h : Decimal.IsFinite x) :
    ReadsBack sp (.float x) := by
  refine (IsPlain.float h).readsBack_of_succ fun level steps rest _ hrest => ?_
  obtain ⟨c, s, hcs, hbegins⟩ := exists_floatText_cons h
  rw [Spacing.written, reread, ← readNumber?_floatText h hrest, hcs, List.cons_append]
  exact readValue?_number hbegins steps _

/-! ### Arrays -/

/-- An array that does not end at once has elements. -/
theorem readValue?_elements {s : Chars} (h : ∀ t, skipSpace s ≠ ']' :: t) (steps : Nat) :
    readValue? (steps + 1) ('[' :: s) =
      (readElements? steps s).map fun (xs, rest) => (.array xs, rest) := by
  rw [readValue?, skipSpace_cons rfl, ← readElements?_skipSpace]
  split
  case h_3 t hcons =>
    obtain rfl := (List.cons.inj hcons).2
    split
    · next hend => exact absurd hend (h _)
    · rfl
  all_goals simp_all

theorem readElements?_last {sp : Spacing} {x : Json} (hx : ReadsBack sp x) {level steps : Nat}
    (hsteps : 2 * (sp.written level x).length ≤ steps) {close : Chars}
    (hclose : ∀ c ∈ close, isSpace c) (rest : Chars) :
    readElements? (steps + 1) (sp.written level x ++ (close ++ ']' :: rest)) =
      some ([x.reread], rest) := by
  have hend : EndsNumber (close ++ ']' :: rest) :=
    (endsNumber_cons (by simp) rest).space_append hclose
  rw [readElements?, hx level steps _ hsteps hend]
  simp only [Option.bind_eq_bind, Option.bind_some]
  rw [skipSpace_append hclose, skipSpace_cons rfl]
  rfl

theorem readElements?_more {sp : Spacing} {x : Json} (hx : ReadsBack sp x) {level steps : Nat}
    (hsteps : 2 * (sp.written level x).length ≤ steps) (s : Chars) :
    readElements? (steps + 1) (sp.written level x ++ ',' :: s) =
      (readElements? steps s).map fun (xs, rest) => (x.reread :: xs, rest) := by
  rw [readElements?, hx level steps _ hsteps (endsNumber_cons (by simp) s)]
  simp only [Option.bind_eq_bind, Option.bind_some]
  rw [skipSpace_cons rfl]
  change (readElements? steps s).bind _ = _
  cases readElements? steps s <;> rfl

/-- The elements are read up to the end of the array, one step for each comma. -/
theorem readElements?_written (sp : Spacing) (level : Nat) {close : Chars}
    (hclose : ∀ c ∈ close, isSpace c) (rest : Chars) {xs : List Json} (hne : xs ≠ [])
    (hxs : ∀ x ∈ xs, ReadsBack sp x) {steps : Nat}
    (hsteps : 2 * (sp.writtenElements level xs).length + 1 ≤ steps) :
    readElements? steps (sp.writtenElements level xs ++ (close ++ ']' :: rest)) =
      some (rereadElements xs, rest) := by
  induction xs generalizing steps with
  | nil => exact absurd rfl hne
  | cons x xs ih =>
    obtain ⟨steps, rfl⟩ := Nat.exists_eq_add_one_of_ne_zero (n := steps) (by omega)
    have hx := hxs x List.mem_cons_self
    cases xs with
    | nil =>
      rw [Spacing.writtenElements] at hsteps ⊢
      rw [List.length_append] at hsteps
      rw [List.append_assoc, readElements?_space (sp.isSpace_of_mem_line level),
        readElements?_last hx (by omega) hclose]
      rfl
    | cons y ys =>
      rw [Spacing.writtenElements] at hsteps ⊢
      rw [List.length_append, List.length_append, List.length_cons] at hsteps
      rw [List.append_assoc, List.append_assoc, readElements?_space (sp.isSpace_of_mem_line level),
        List.cons_append, readElements?_more hx (by omega),
        ih (by simp) (fun z hz => hxs z (List.mem_cons_of_mem _ hz)) (by omega)]
      rfl

/-- The first element is not taken for the end of the array. -/
theorem skipSpace_writtenElements {sp : Spacing} {x : Json} (h : IsPlain Decimal.IsFinite x)
    (level : Nat) (xs : List Json) (s t : Chars) :
    skipSpace (sp.writtenElements level (x :: xs) ++ s) ≠ ']' :: t := by
  obtain ⟨c, u, hcu, hspace, hc⟩ := h.exists_written_cons sp level
  obtain ⟨v, hv⟩ : ∃ v, sp.writtenElements level (x :: xs) ++ s = sp.line level ++ c :: v := by
    cases xs <;> rw [Spacing.writtenElements, hcu] <;>
      simp only [List.append_assoc, List.cons_append] <;> exact ⟨_, rfl⟩
  rw [hv, skipSpace_append (sp.isSpace_of_mem_line level), skipSpace_cons hspace]
  exact fun heq => hc (List.cons.inj heq).1

theorem readsBack_array (sp : Spacing) {xs : List Json} (h : ∀ x ∈ xs, IsPlain Decimal.IsFinite x)
    (ih : ∀ x ∈ xs, ReadsBack sp x) : ReadsBack sp (.array xs) := by
  refine (IsPlain.array h).readsBack_of_succ fun level steps rest hsteps _ => ?_
  cases xs with
  | nil => rfl
  | cons x xs =>
    rw [Spacing.written] at hsteps ⊢
    rw [List.length_cons, List.length_append, List.length_append, List.length_singleton] at hsteps
    rw [List.cons_append, List.append_assoc, List.append_assoc, List.singleton_append,
      readValue?_elements (skipSpace_writtenElements (h x List.mem_cons_self) _ _ _),
      readElements?_written sp (level + 1) (sp.isSpace_of_mem_line level) rest
        (List.cons_ne_nil x xs) ih (by omega)]
    rfl

/-! ### Objects -/

/-- An object that does not end at once has members. -/
theorem readValue?_members {s : Chars} (h : ∀ t, skipSpace s ≠ '}' :: t) (steps : Nat) :
    readValue? (steps + 1) ('{' :: s) =
      (readMembers? steps s).map fun (ms, rest) => (objectOf ms, rest) := by
  rw [readValue?, skipSpace_cons rfl, ← readMembers?_skipSpace]
  split
  case h_4 t hcons =>
    obtain rfl := (List.cons.inj hcons).2
    split
    · next hend => exact absurd hend (h _)
    · rfl
  all_goals simp_all

/-- A member is read, and then what follows it decides. -/
theorem readMembers?_member {sp : Spacing} {name : String} {x : Json} (hx : ReadsBack sp x)
    {level steps : Nat} (hsteps : 2 * (sp.written level x).length ≤ steps) {s : Chars}
    (hs : EndsNumber s) :
    readMembers? (steps + 1) (memberText sp.gap name (sp.written level x) ++ s) =
      match skipSpace s with
      | ',' :: s =>
        (readMembers? steps s).bind fun (ms, rest) => some ((some name, x.reread) :: ms, rest)
      | '}' :: rest => some ([(some name, x.reread)], rest)
      | _ => none := by
  have hvalue : readValue? steps (sp.gap ++ (sp.written level x ++ s)) = some (x.reread, s) := by
    rw [readValue?_space sp.isSpace_of_mem_gap, hx level steps s hsteps hs]
  rw [readMembers?, memberText, quote]
  simp only [List.cons_append, List.append_assoc, List.nil_append, skipSpace_cons (c := '"') rfl,
    readQuoted?_quoted, Option.bind_eq_bind, Option.bind_some, skipSpace_cons (c := ':') rfl,
    hvalue, Option.map_some, String.ofList_toList]
  rfl

theorem length_written_le_memberText (sp : Spacing) (level : Nat) (name : String) (x : Json) :
    (sp.written level x).length ≤ (memberText sp.gap name (sp.written level x)).length := by
  simp only [memberText, List.length_append, List.length_cons]
  omega

/-- The members are read up to the end of the object, one step for each comma. -/
theorem readMembers?_written (sp : Spacing) (level : Nat) {close : Chars}
    (hclose : ∀ c ∈ close, isSpace c) (rest : Chars) {ms : List (String × Json)} (hne : ms ≠ [])
    (hms : ∀ m ∈ ms, ReadsBack sp m.2) {steps : Nat}
    (hsteps : 2 * (sp.writtenMembers level ms).length + 1 ≤ steps) :
    readMembers? steps (sp.writtenMembers level ms ++ (close ++ '}' :: rest)) =
      some ((rereadMembers ms).map fun m => (some m.1, m.2), rest) := by
  induction ms generalizing steps with
  | nil => exact absurd rfl hne
  | cons m ms ih =>
    obtain ⟨name, x⟩ := m
    obtain ⟨steps, rfl⟩ := Nat.exists_eq_add_one_of_ne_zero (n := steps) (by omega)
    have hx : ReadsBack sp x := hms (name, x) List.mem_cons_self
    have hlength := length_written_le_memberText sp level name x
    cases ms with
    | nil =>
      have hend : EndsNumber (close ++ '}' :: rest) :=
        (endsNumber_cons (by simp) rest).space_append hclose
      rw [Spacing.writtenMembers] at hsteps ⊢
      rw [List.length_append] at hsteps
      rw [List.append_assoc, readMembers?_space (sp.isSpace_of_mem_line level),
        readMembers?_member hx (by omega) hend, skipSpace_append hclose, skipSpace_cons rfl]
      rfl
    | cons m ms =>
      rw [Spacing.writtenMembers] at hsteps ⊢
      rw [List.length_append, List.length_append, List.length_cons] at hsteps
      rw [List.append_assoc, List.append_assoc, readMembers?_space (sp.isSpace_of_mem_line level),
        List.cons_append, readMembers?_member hx (by omega) (endsNumber_cons (by simp) _),
        skipSpace_cons rfl]
      change (readMembers? steps _).bind _ = _
      rw [ih (by simp) (fun z hz => hms z (List.mem_cons_of_mem _ hz)) (by omega)]
      rfl

/-- The first name is not taken for the end of the object. -/
theorem skipSpace_writtenMembers (sp : Spacing) (level : Nat) (m : String × Json)
    (ms : List (String × Json)) (s t : Chars) :
    skipSpace (sp.writtenMembers level (m :: ms) ++ s) ≠ '}' :: t := by
  obtain ⟨name, x⟩ := m
  obtain ⟨v, hv⟩ : ∃ v, sp.writtenMembers level ((name, x) :: ms) ++ s =
      sp.line level ++ '"' :: v := by
    cases ms <;> rw [Spacing.writtenMembers, memberText, quote] <;>
      simp only [List.append_assoc, List.cons_append] <;> exact ⟨_, rfl⟩
  rw [hv, skipSpace_append (sp.isSpace_of_mem_line level), skipSpace_cons rfl]
  exact fun heq => absurd (List.cons.inj heq).1 (by decide)

/-- Members whose names all spell something make an object. -/
theorem objectOf_some (ms : List (String × Json)) :
    objectOf (ms.map fun m => (some m.1, m.2)) = .object ms := by
  have hnames {f} (hf : ∀ m : String × Json, f (some m.1, m.2) = some m) :
      (ms.map fun m => (some m.1, m.2)).mapM f = some ms :=
    mapM_map_eq_pure f _ fun m _ => hf m
  rw [objectOf, hnames fun _ => rfl]

theorem readsBack_object (sp : Spacing) {ms : List (String × Json)}
    (h : ∀ m ∈ ms, IsPlain Decimal.IsFinite m.2)
    (ih : ∀ m ∈ ms, ReadsBack sp m.2) : ReadsBack sp (.object ms) := by
  refine (IsPlain.object h).readsBack_of_succ fun level steps rest hsteps _ => ?_
  cases ms with
  | nil => rfl
  | cons m ms =>
    rw [Spacing.written] at hsteps ⊢
    rw [List.length_cons, List.length_append, List.length_append, List.length_singleton] at hsteps
    rw [List.cons_append, List.append_assoc, List.append_assoc, List.singleton_append,
      readValue?_members (skipSpace_writtenMembers sp _ m ms _),
      readMembers?_written sp (level + 1) (sp.isSpace_of_mem_line level) rest
        (List.cons_ne_nil m ms) ih (by omega), Option.map_some]
    exact congrArg (fun j => some (j, rest)) (objectOf_some (rereadMembers (m :: ms)))

/-! ### Documents -/

/-- **A plain document is read back,** in any layout and wherever it stands. -/
theorem IsPlain.readsBack (sp : Spacing) {j : Json} (h : IsPlain Decimal.IsFinite j) :
    ReadsBack sp j := by
  induction h with
  | null => exact readsBack_null sp
  | bool b => exact readsBack_bool sp b
  | int h => exact readsBack_int sp h
  | float h => exact readsBack_float sp h
  | text s => exact readsBack_text sp s
  | array h ih => exact readsBack_array sp h ih
  | object h ih => exact readsBack_object sp h ih

theorem parse?_written (sp : Spacing) {j : Json} (h : IsPlain Decimal.IsFinite j) (level : Nat) :
    parse? (sp.written level j) = some j.reread := by
  have hread := h.readsBack sp level (2 * (sp.written level j).length + 2) [] (by omega)
    (fun _ hc => by cases hc)
  rw [List.append_nil] at hread
  rw [parse?, hread]
  rfl

/-- **The indented form of a plain document is read back.** -/
theorem parse?_pretty {j : Json} (h : IsPlain Decimal.IsFinite j) :
    parse? j.pretty = some j.reread := by
  rw [pretty, ← Spacing.written_indented, parse?_written _ h]

/-- **The form on one line of a plain document is read back.** -/
theorem parse?_compact {j : Json} (h : IsPlain Decimal.IsFinite j) :
    parse? j.compact = some j.reread := by
  rw [← Spacing.written_tight 0, parse?_written _ h]

end LootLedger.Json
