import LootLedger.Entries
import LootLedger.Proofs.Text.Numeral
import LootLedger.Proofs.Text.Pieces
import LootLedger.Proofs.Toml.Text
import LootLedger.Toml.Printer
import LootLedger.Toml.Reader

/-!
# Written documents are read back

A document that was written is read statement by statement: each line of a key gives its entry to
the table that is open, and each header opens a table of its own. Keys are not quoted in writing, so
they have to be names that need no quotes, and no key is given twice in one table. Nothing is asked
of the values but that a number fits 64 bits.

The reader counts its steps down from the number of characters that are left. How many of them it
takes does not matter, because every statement has a character at least: `ReadsTo` says what the
reader makes of a text with as many steps as it likes, and one statement in front of a text is one
lemma about it. Which table is open is a parameter of that induction, so it is done once for the
values of their own and for those of a section.

## Main definitions

* `Toml.IsBareKey`: a key that needs no quotes
* `Toml.Scalar.value`, `Toml.entryOf`, `Toml.sectionOf`: what is written, as it is read
* `Toml.ReadsTo`: what reading ends with, from some statement on
* `Toml.IsWritable`: what can be written

## Main results

* `Toml.readValue?_written`: a written value is read back
* `Toml.ReadsTo.entryLines`, `Toml.ReadsTo.section_`: lines of keys, and a section
* `Toml.parse?_document`: a written document is read back
-/

namespace LootLedger.Toml

open Text (Chars)

/-! ### Keys -/

/-- A key that needs no quotes. -/
def IsBareKey (key : String) : Prop :=
  key.toList ≠ [] ∧ ∀ c ∈ key.toList, isKeyChar c = true

instance (key : String) : Decidable (IsBareKey key) :=
  decidable_of_iff (key.toList ≠ [] ∧ key.toList.all isKeyChar = true)
    (and_congr_right fun _ => List.all_eq_true)

/-- A character of a key is none of those that begin or end something else. -/
theorem ne_of_isKeyChar {c : Char} (h : isKeyChar c = true) : isSpace c = false ∧ c ≠ '"' ∧
    c ≠ '\'' ∧ c ≠ '[' ∧ c ≠ '#' ∧ c ≠ '\n' ∧ c ≠ '\r' ∧ c ≠ '\uFEFF' := by
  refine ⟨?_, ?_⟩
  · by_contra hspace
    simp only [isSpace, Bool.not_eq_false, Bool.or_eq_true, beq_iff_eq] at hspace
    rcases hspace with rfl | rfl <;> cases h
  · refine ⟨?_, ?_, ?_, ?_, ?_, ?_, ?_⟩ <;> rintro rfl <;> cases h

theorem skipSpace_cons {c : Char} (h : isSpace c = false) (s : Chars) :
    skipSpace (c :: s) = c :: s := by
  rw [skipSpace, List.dropWhile_cons_of_neg (by simp [h])]

theorem IsBareKey.exists_cons {key : String} (h : IsBareKey key) :
    ∃ c s, key.toList = c :: s ∧ isKeyChar c = true := by
  obtain ⟨c, s, hcons⟩ := List.exists_cons_of_ne_nil h.1
  exact ⟨c, s, hcons, h.2 c (by rw [hcons]; exact List.mem_cons_self)⟩

/-- **A key without quotes** is read up to the first character that cannot belong to it. -/
theorem IsBareKey.readKey?_append {key : String} (h : IsBareKey key) {rest : Chars}
    (hstop : ∀ c ∈ rest.head?, isKeyChar c = false)
    (hdot : (skipSpace rest).head? ≠ some '.') :
    readKey? (key.toList ++ rest) = some (([], key), skipSpace rest) := by
  obtain ⟨c, s, hcons, hc⟩ := h.exists_cons
  obtain ⟨hspace, hquote, hsingle, -⟩ := ne_of_isKeyChar hc
  have hskip : skipSpace (key.toList ++ rest) = key.toList ++ rest := by
    rw [hcons, List.cons_append, skipSpace_cons hspace]
  have htake : (key.toList ++ rest).takeWhile isKeyChar = key.toList := by
    rw [List.takeWhile_append_of_pos h.2]
    cases rest with
    | nil => simp
    | cons d rest => simp [hstop d rfl]
  have hdrop : (key.toList ++ rest).dropWhile isKeyChar = rest := by
    rw [List.dropWhile_append_of_pos h.2]
    cases rest with
    | nil => rfl
    | cons d rest => simp [hstop d rfl]
  have hsimple : readSimpleKey? (key.toList ++ rest) = some (key, rest) := by
    unfold readSimpleKey?
    split
    · next heq => rw [hcons] at heq; exact absurd (List.cons.inj heq).1 hquote
    · next heq => rw [hcons] at heq; exact absurd (List.cons.inj heq).1 hsingle
    · rw [htake, hdrop, hcons]
      simp [← hcons]
  have hpieces (steps : Nat) :
      readPieces? (steps + 1) (key.toList ++ rest) = some (([], key), skipSpace rest) := by
    rw [readPieces?, hskip, hsimple]
    simp only [Option.bind_eq_bind, Option.bind_some]
    split
    · next heq => rw [heq] at hdot; exact absurd rfl hdot
    · rfl
  rw [readKey?, hpieces]
  rfl

/-! ### Words -/

/-- A word that spells no date stands for itself, up to the end of its line. -/
theorem readWord?_append {word : Chars} (hword : ∀ c ∈ word, isWordChar c = true)
    (hdate : isDate word = false) (rest : Chars) :
    readWord? (word ++ '\n' :: rest) = (ofWord? word).map (·, '\n' :: rest) := by
  have htake : (word ++ '\n' :: rest).takeWhile isWordChar = word := by
    rw [List.takeWhile_append_of_pos hword, List.takeWhile_cons_of_neg (by decide),
      List.append_nil]
  have hdrop : (word ++ '\n' :: rest).dropWhile isWordChar = '\n' :: rest := by
    rw [List.dropWhile_append_of_pos hword, List.dropWhile_cons_of_neg (by decide)]
  rw [readWord?]
  simp only [htake, hdrop, hdate, Bool.false_eq_true, false_and, if_false]

/-- A character that is not one of the ten digits is not in a numeral. -/
theorem notMem_digits {c : Char} (h : Text.isDigit c = false) (n : Nat) : c ∉ Text.digits n := by
  intro hmem
  rw [Text.isDigit_of_mem_digits hmem] at h
  cases h

theorem isWordChar_of_isDigit {c : Char} (h : Text.isDigit c = true) : isWordChar c = true := by
  have hdigit : c.isDigit = true := by
    simpa [Text.isDigit, Char.isDigit, Char.le_def] using h
  simp [isWordChar, Char.isAlphanum, hdigit]

/-- Nothing is cut off a word without the character. -/
theorem cutAt_eq {isCut : Char → Bool} {s : Chars} (h : ∀ c ∈ s, isCut c = false) :
    cutAt isCut s = (s, none) := by
  have hdrop : s.dropWhile (fun c => !isCut c) = [] := by
    rw [List.dropWhile_eq_nil_iff]
    intro c hc
    rw [h c hc]
    rfl
  rw [cutAt, hdrop]

theorem head?_digits {n : Nat} (h : n ≠ 0) : (Text.digits n).head? ≠ some '0' := by
  induction n using Nat.strongRecOn with
  | _ n ih =>
    by_cases hn : n < 10
    · rw [Text.digits_of_lt_ten hn]
      have hcodes : ∀ d < 10, d ≠ 0 → [Text.digitChar d].head? ≠ some '0' := by decide
      exact hcodes n hn h
    · have hten : 10 ≤ n := Nat.le_of_not_lt hn
      rw [Text.digits_of_ten_le hten, List.head?_append,
        Option.or_of_isSome (List.isSome_head?.mpr (Text.digits_ne_nil _))]
      exact ih (n / 10) (by omega) (by omega)

theorem decimalDigits?_digits (n : Nat) :
    decimalDigits? (Text.digits n) = some (Text.digits n) := by
  have hplain : plainDigits? Text.isDigit (Text.digits n) = some (Text.digits n) := by
    rw [plainDigits?, Text.splitAtChar_of_notMem (notMem_digits (by decide) n)]
    have hall : ∀ c ∈ Text.digits n, Text.isDigit c = true := fun c hc =>
      Text.isDigit_of_mem_digits hc
    simpa [Text.digits_ne_nil] using hall
  rw [decimalDigits?, hplain, Option.filter_some, if_pos]
  rw [decide_eq_true_eq]
  by_cases hn : n = 0
  · subst hn
    right
    decide +kernel
  · exact .inl (head?_digits hn)

theorem isDate_eq_false_of_subset {n : Nat} {s : Chars} (h : ∀ c ∈ s, c ∈ Text.digits n) :
    isDate s = false := by
  rw [isDate, Text.splitAtChar_of_notMem fun hmem => notMem_digits (by decide) n (h _ hmem)]

theorem splitSign_digits (n : Nat) : splitSign (Text.digits n) = (none, Text.digits n) := by
  unfold splitSign
  split
  · next heq =>
    exact absurd (by rw [heq]; exact List.mem_cons_self) (notMem_digits (c := '-') (by decide) n)
  · next heq =>
    exact absurd (by rw [heq]; exact List.mem_cons_self) (notMem_digits (c := '+') (by decide) n)
  · rfl

theorem isMoment_digits (n : Nat) : isMoment (Text.digits n) = false := by
  have htime : isTime (Text.digits n) = false := by
    rw [isTime, Text.splitAtChar_of_notMem (notMem_digits (by decide) n)]
  have hdate : isDate ((Text.digits n).take 10) = false :=
    isDate_eq_false_of_subset fun c hc => List.mem_of_mem_take hc
  rw [isMoment]
  simp only [htime, hdate, Bool.false_and, Bool.or_false]

theorem isFloat_digits (n : Nat) : isFloat (Text.digits n) = false := by
  have hne (word : Chars) (hword : 'n' ∈ word) : Text.digits n ≠ word := by
    rintro rfl
    exact notMem_digits (by decide) n hword
  have hnamed : ¬ (Text.digits n = "inf".toList ∨ Text.digits n = "nan".toList) :=
    not_or.mpr ⟨hne _ (by decide), hne _ (by decide)⟩
  have hexponent : cutAt (fun c => c == 'e' || c == 'E') (Text.digits n) =
      (Text.digits n, none) := by
    refine cutAt_eq fun c hc => ?_
    by_contra hcut
    simp only [Bool.not_eq_false, Bool.or_eq_true, beq_iff_eq] at hcut
    rcases hcut with rfl | rfl <;> exact notMem_digits (by decide) n hc
  have hfraction : cutAt (· == '.') (Text.digits n) = (Text.digits n, none) := by
    refine cutAt_eq fun c hc => ?_
    by_contra hcut
    simp only [Bool.not_eq_false, beq_iff_eq] at hcut
    subst hcut
    exact notMem_digits (by decide) n hc
  rw [isFloat]
  simp only [splitSign_digits, if_neg hnamed, hexponent, hfraction, decimalDigits?_digits,
    Option.isSome_none, Bool.or_self, Bool.false_and]

theorem int?_digits {n : Nat} (h : n < 2 ^ 63) : int? (Text.digits n) = some (n : Int) := by
  have hne (first second : Char) (hsecond : Text.isDigit second = false) (rest : Chars) :
      Text.digits n ≠ first :: second :: rest := by
    intro heq
    exact notMem_digits hsecond n (by rw [heq]; simp)
  unfold int?
  split
  · next heq => exact absurd heq (hne '0' 'x' (by decide) _)
  · next heq => exact absurd heq (hne '0' 'o' (by decide) _)
  · next heq => exact absurd heq (hne '0' 'b' (by decide) _)
  · simp only [splitSign_digits, decimalDigits?_digits, Option.map_some, Text.ofDigits_digits]
    exact if_pos h

/-- **A numeral stands for its number.** -/
theorem ofWord?_digits {n : Nat} (h : n < 2 ^ 63) :
    ofWord? (Text.digits n) = some (.int n) := by
  have hne (word : Chars) (hword : 'e' ∈ word) : Text.digits n ≠ word := by
    rintro rfl
    exact notMem_digits (by decide) n hword
  rw [ofWord?, if_neg (hne _ (by decide)), if_neg (hne _ (by decide)), isMoment_digits,
    isFloat_digits, int?_digits h]
  rfl

/-! ### Values -/

/-- The value that is written. -/
def Scalar.value : Scalar → Toml
  | .text s => .text s
  | .nat n => .int n
  | .bool b => .bool b

/-- The value can be written: a number fits 64 bits. -/
def Scalar.Fits : Scalar → Prop
  | .nat n => n < 2 ^ 63
  | .text _ | .bool _ => True

/-- A written text begins with one of the two quotes. -/
theorem exists_cons_quote (s : Chars) : ∃ t, quote s = '"' :: t ∨ quote s = '\'' :: t := by
  rw [quote]
  split_ifs
  · exact ⟨_, .inl rfl⟩
  · exact ⟨_, .inr rfl⟩
  · exact ⟨_, .inl rfl⟩
  · exact ⟨_, .inr rfl⟩
  · exact ⟨_, .inl rfl⟩
  · exact ⟨_, .inl rfl⟩

theorem readValue?_text (s : String) (depth steps : Nat) (rest : Chars) :
    readValue? depth (steps + 1) (quote s.toList ++ '\n' :: rest) =
      some (.text s, '\n' :: rest) := by
  have hread : readString? (quote s.toList ++ '\n' :: rest) = some (s.toList, '\n' :: rest) :=
    readString?_quote s.toList (by simp) (by simp)
  obtain ⟨t, ht | ht⟩ := exists_cons_quote s.toList
  · rw [ht, List.cons_append] at hread ⊢
    simp only [readValue?, hread, Option.map_some, String.ofList_toList]
  · rw [ht, List.cons_append] at hread ⊢
    simp only [readValue?, hread, Option.map_some, String.ofList_toList]

theorem readValue?_word {word : Chars} (hnil : word ≠ [])
    (hword : ∀ c ∈ word, isWordChar c = true) (hdate : isDate word = false) {value : Toml}
    (hvalue : ofWord? word = some value) (depth steps : Nat) (rest : Chars) :
    readValue? depth (steps + 1) (word ++ '\n' :: rest) = some (value, '\n' :: rest) := by
  obtain ⟨c, s, rfl⟩ := List.exists_cons_of_ne_nil hnil
  have hc := hword c List.mem_cons_self
  have hread := readWord?_append hword hdate rest
  rw [hvalue, Option.map_some, List.cons_append] at hread
  have hne (d : Char) (hd : isWordChar d = false) (t : Chars) :
      c :: (s ++ '\n' :: rest) ≠ d :: t := by
    intro heq
    rw [(List.cons.inj heq).1, hd] at hc
    cases hc
  rw [List.cons_append, readValue?, hread]
  · exact fun t heq => hne '"' (by decide) t heq
  · exact fun t heq => hne '\'' (by decide) t heq
  · exact fun t _ heq _ => hne '[' (by decide) t heq
  · exact fun t _ heq _ => hne '{' (by decide) t heq

/-- **A written value is read back.** -/
theorem readValue?_written {v : Scalar} (h : v.Fits) (depth steps : Nat) (rest : Chars) :
    readValue? depth (steps + 1) (v.written ++ '\n' :: rest) = some (v.value, '\n' :: rest) := by
  cases v with
  | text s => exact readValue?_text s depth steps rest
  | nat n =>
    have hword : ∀ c ∈ Text.digits n, isWordChar c = true := fun c hc =>
      isWordChar_of_isDigit (Text.isDigit_of_mem_digits hc)
    exact readValue?_word (Text.digits_ne_nil n) hword (isDate_eq_false_of_subset fun _ hc => hc)
      (ofWord?_digits h) depth steps rest
  | bool b =>
    have hword : ∀ c ∈ (Scalar.bool b).written, isWordChar c = true := by
      cases b <;> exact List.all_eq_true.mp rfl
    cases b with
    | false => exact readValue?_word (by decide) hword (by decide) rfl depth steps rest
    | true => exact readValue?_word (by decide) hword (by decide) rfl depth steps rest

/-- A written value does not begin with a space. -/
theorem Scalar.exists_cons_written (v : Scalar) :
    ∃ c s, v.written = c :: s ∧ isSpace c = false := by
  cases v with
  | text s =>
    obtain ⟨t, ht | ht⟩ := exists_cons_quote s.toList
    · exact ⟨_, t, ht, by decide⟩
    · exact ⟨_, t, ht, by decide⟩
  | nat n =>
    obtain ⟨c, s, hcons⟩ := List.exists_cons_of_ne_nil (Text.digits_ne_nil n)
    refine ⟨c, s, hcons, ?_⟩
    by_contra hspace
    simp only [isSpace, Bool.not_eq_false, Bool.or_eq_true, beq_iff_eq] at hspace
    have hc : c ∈ Text.digits n := by
      rw [hcons]
      exact List.mem_cons_self
    rcases hspace with rfl | rfl <;> exact notMem_digits (by decide) n hc
  | bool b => cases b <;> exact ⟨_, _, rfl, by decide⟩

/-! ### Statements -/

/-- Reading goes on from some statement on and ends with the given entries, if it may take a step
for each character that is left. -/
def ReadsTo (draft : Draft) (s : Chars) (entries : Entries) : Prop :=
  ∀ steps, s.length < steps → readStatements? steps draft s = some entries

theorem ReadsTo.nil (draft : Draft) : ReadsTo draft [] draft.entries := by
  intro steps hsteps
  obtain ⟨steps, rfl⟩ := Nat.exists_eq_add_one_of_ne_zero (Nat.ne_of_gt hsteps)
  rfl

/-- **One more statement.** -/
theorem ReadsTo.step {draft draft' : Draft} {s s₁ rest : Chars} {entries : Entries}
    (hskip : skipBlankLines? (s.length + 1) s = some s₁) (hnil : s₁ ≠ [])
    (hstatement : readStatement? draft s₁ = some (draft', rest)) (hlength : rest.length < s.length)
    (h : ReadsTo draft' rest entries) : ReadsTo draft s entries := by
  intro steps hsteps
  obtain ⟨steps, rfl⟩ := Nat.exists_eq_add_one_of_ne_zero (Nat.ne_of_gt (Nat.zero_lt_of_lt hsteps))
  rw [readStatements?, hskip, Option.bind_eq_bind, Option.bind_some]
  split
  · exact absurd rfl hnil
  · rw [hstatement, Option.bind_eq_bind, Option.bind_some]
    exact h steps (by omega)

theorem skipBlankLines?_of_isKeyChar {c : Char} (h : isKeyChar c = true) (steps : Nat) (s : Chars) :
    skipBlankLines? (steps + 1) (c :: s) = some (c :: s) := by
  obtain ⟨hspace, -, -, -, hsign, hline, hreturn, -⟩ := ne_of_isKeyChar h
  rw [skipBlankLines?, skipSpace_cons hspace]
  split
  · next heq => exact absurd (List.cons.inj heq).1 hsign
  · next heq => exact absurd (List.cons.inj heq).1 hline
  · next heq => exact absurd (List.cons.inj heq).1 hreturn
  · rfl

theorem nextLine?_newline (s : Chars) : nextLine? ('\n' :: s) = some s := rfl

/-- A line with a key and its value. -/
theorem readStatement?_entryLine {draft draft' : Draft} {key : String} {v : Scalar}
    (hkey : IsBareKey key) (hv : v.Fits) (hadd : draft.add? [] key v.value = some draft')
    (rest : Chars) : readStatement? draft (entryLine (key, v) ++ rest) = some (draft', rest) := by
  have hline : entryLine (key, v) ++ rest =
      key.toList ++ ' ' :: '=' :: ' ' :: (v.written ++ '\n' :: rest) := by
    simp [entryLine]
  have hread : readKey? (key.toList ++ ' ' :: '=' :: ' ' :: (v.written ++ '\n' :: rest)) =
      some (([], key), '=' :: ' ' :: (v.written ++ '\n' :: rest)) :=
    hkey.readKey?_append (by simp; decide) (by simp [skipSpace, isSpace])
  have hvalue : skipSpace (' ' :: (v.written ++ '\n' :: rest)) = v.written ++ '\n' :: rest := by
    obtain ⟨d, t, hd, hspace⟩ := v.exists_cons_written
    rw [skipSpace, List.dropWhile_cons_of_pos (by decide), ← skipSpace, hd, List.cons_append,
      skipSpace_cons hspace]
  obtain ⟨c, s, hcons, hc⟩ := hkey.exists_cons
  obtain ⟨hspace, -, -, hbracket, -⟩ := ne_of_isKeyChar hc
  rw [hline]
  unfold readStatement?
  rw [hcons, List.cons_append] at hread ⊢
  rw [skipSpace_cons hspace]
  split
  · next heq => exact absurd (List.cons.inj heq).1 hbracket
  · next heq => exact absurd (List.cons.inj heq).1 hbracket
  · simp only [hread, Option.bind_eq_bind, Option.bind_some]
    rw [show Text.dropPrefix? "=".toList ('=' :: ' ' :: (v.written ++ '\n' :: rest)) =
      some (' ' :: (v.written ++ '\n' :: rest)) from rfl, Option.bind_some, hvalue,
      readValue?_written hv, Option.bind_some]
    simp only [hadd, nextLine?_newline, Option.bind_some]
    rfl

/-- A header. -/
theorem readStatement?_header {draft : Draft} {name : String} {entries : Entries}
    (hname : IsBareKey name) (hopen : openTable [] name draft.entries = some entries)
    (rest : Chars) :
    readStatement? draft ('[' :: (name.toList ++ ']' :: '\n' :: rest)) =
      some (⟨entries, [name]⟩, rest) := by
  have hread : readKey? (name.toList ++ ']' :: '\n' :: rest) =
      some (([], name), ']' :: '\n' :: rest) :=
    hname.readKey?_append (by simp; decide) (by simp [skipSpace, isSpace])
  obtain ⟨c, s, hcons, hc⟩ := hname.exists_cons
  obtain ⟨hspace, -, -, hbracket, -⟩ := ne_of_isKeyChar hc
  unfold readStatement?
  rw [skipSpace_cons (by decide)]
  rw [hcons, List.cons_append] at hread ⊢
  split
  · next heq => exact absurd (List.cons.inj (List.cons.inj heq).2).1 hbracket
  · next heq =>
    obtain rfl := (List.cons.inj heq).2
    simp only [hread, Option.bind_eq_bind, Option.bind_some]
    rw [show Text.dropPrefix? "]".toList (']' :: '\n' :: rest) = some ('\n' :: rest) from rfl]
    simp only [hopen, nextLine?_newline, Option.bind_some]
    rfl
  · next hne => exact absurd rfl (hne _)

/-! ### Tables -/

section Tables

variable {before entries : Entries} {key name : String}

theorem lookup_eq_none (h : key ∉ entries.map Prod.fst) : entries.lookup key = none := by
  rw [← Option.not_isSome_iff_eq_none, isSome_lookup_iff]
  exact h

/-- The value of a key that stands last. -/
theorem lookup_concat (h : name ∉ before.map Prod.fst) (value : Toml) :
    (before ++ [(name, value)]).lookup name = some value := by
  rw [List.lookup_append, lookup_eq_none h, List.lookup_cons_self, Option.none_or]

theorem replace_concat (h : name ∉ before.map Prod.fst) (old value : Toml) :
    replace name value (before ++ [(name, old)]) = before ++ [(name, value)] := by
  have hsame : replace name value before = before := by
    refine (List.map_congr_left fun e he => ?_).trans (List.map_id before)
    exact if_neg fun heq : e.1 = name => h (heq ▸ List.mem_map_of_mem he)
  rw [replace, List.map_append]
  exact congrArg₂ (· ++ ·) hsame (by simp)

theorem insert_new (h : key ∉ entries.map Prod.fst) (value : Toml) :
    insert [] key value entries = some (entries ++ [(key, value)]) := by
  simp [insert, within, lookup_eq_none h]

/-- An entry of its own. -/
theorem add?_top (h : key ∉ entries.map Prod.fst) (value : Toml) :
    (⟨entries, []⟩ : Draft).add? [] key value = some ⟨entries ++ [(key, value)], []⟩ := by
  simp only [Draft.add?, within, insert_new h, Option.bind_eq_bind, Option.bind_some]
  rfl

/-- An entry of the table that was opened last. -/
theorem add?_section (hname : name ∉ before.map Prod.fst) (h : key ∉ entries.map Prod.fst)
    (value : Toml) :
    (⟨before ++ [(name, .table .whole entries)], [name]⟩ : Draft).add? [] key value =
      some ⟨before ++ [(name, .table .whole (entries ++ [(key, value)]))], [name]⟩ := by
  simp only [Draft.add?, within, lookup_concat hname, insert_new h, Option.bind_eq_bind,
    Option.bind_some, Bool.false_eq_true, false_and, if_false, replace_concat hname]
  rfl

theorem openTable_new (h : name ∉ entries.map Prod.fst) :
    openTable [] name entries = some (entries ++ [(name, .table .whole [])]) := by
  simp [openTable, within, lookup_eq_none h]

end Tables

/-! ### Documents -/

/-- The entry that is written. -/
def entryOf (e : String × Scalar) : String × Toml :=
  (e.1, e.2.value)

/-- Entries can be written: their keys need no quotes and are given once, and the values fit. -/
structure AreWritable (entries : List (String × Scalar)) : Prop where
  isBareKey : ∀ e ∈ entries, IsBareKey e.1
  fits : ∀ e ∈ entries, e.2.Fits
  nodup : (entries.map Prod.fst).Nodup

/-- Lines with new keys, one after the other, if each of them adds an entry to the table that is
open. -/
theorem ReadsTo.entryLines (open_ : Entries → Draft)
    (hopen : ∀ entries key value, key ∉ entries.map Prod.fst →
      (open_ entries).add? [] key value = some (open_ (entries ++ [(key, value)])))
    (before : Entries) {entries : List (String × Scalar)} (hentries : AreWritable entries)
    (hnew : ∀ e ∈ entries, e.1 ∉ before.map Prod.fst) {rest : Chars} {out : Entries}
    (h : ReadsTo (open_ (before ++ entries.map entryOf)) rest out) :
    ReadsTo (open_ before) (entries.flatMap entryLine ++ rest) out := by
  induction entries generalizing before with
  | nil => simpa using h
  | cons e entries ih =>
    obtain ⟨key, v⟩ := e
    obtain ⟨hkeys, hfits, hnodup⟩ := hentries
    rw [List.forall_mem_cons] at hkeys hfits hnew
    rw [List.map_cons, List.nodup_cons] at hnodup
    obtain ⟨c, s, hcons, hc⟩ := hkeys.1.exists_cons
    have hline : entryLine (key, v) ++ (entries.flatMap entryLine ++ rest) =
        c :: (s ++ " = ".toList ++ v.written ++ '\n' :: (entries.flatMap entryLine ++ rest)) := by
      simp [entryLine, hcons]
    have hstatement := readStatement?_entryLine hkeys.1 hfits.1
      (hopen before key v.value hnew.1) (entries.flatMap entryLine ++ rest)
    rw [List.flatMap_cons, List.append_assoc]
    rw [hline] at hstatement ⊢
    refine .step (skipBlankLines?_of_isKeyChar hc _ _) (List.cons_ne_nil _ _) hstatement ?_ ?_
    · simp only [List.length_cons, List.length_append]
      omega
    · refine ih _ ⟨hkeys.2, hfits.2, hnodup.2⟩ (fun e he => ?_) (by simpa [entryOf] using h)
      rw [List.map_append, List.mem_append, not_or]
      refine ⟨hnew.2 e he, fun hmem => hnodup.1 ?_⟩
      rw [← List.mem_singleton.mp hmem]
      exact List.mem_map_of_mem he

/-- The entries of a section. -/
def sectionOf (section_ : String × List (String × Scalar)) : String × Toml :=
  (section_.1, .table .whole (section_.2.map entryOf))

/-- Values and sections can be written. -/
structure IsWritable (entries : List (String × Scalar))
    (sections : List (String × List (String × Scalar))) : Prop where
  top : AreWritable entries
  isBareKey : ∀ s ∈ sections, IsBareKey s.1
  below : ∀ s ∈ sections, AreWritable s.2
  nodup : (entries.map Prod.fst ++ sections.map Prod.fst).Nodup

/-- A section behind other entries. -/
theorem ReadsTo.section_ {draft : Draft} {s : String × List (String × Scalar)}
    (hname : IsBareKey s.1) (hentries : AreWritable s.2)
    (hnew : s.1 ∉ draft.entries.map Prod.fst) {rest : Chars} {out : Entries}
    (h : ReadsTo ⟨draft.entries ++ [sectionOf s], [s.1]⟩ rest out) :
    ReadsTo draft (Toml.section_ s.1 s.2 ++ rest) out := by
  obtain ⟨name, entries⟩ := s
  have hline : Toml.section_ name entries ++ rest =
      '\n' :: '[' :: (name.toList ++ ']' :: '\n' :: (entries.flatMap entryLine ++ rest)) := by
    simp [Toml.section_]
  have hstatement := readStatement?_header hname (openTable_new hnew)
    (entries.flatMap entryLine ++ rest)
  rw [hline]
  refine .step ?_ (List.cons_ne_nil _ _) hstatement ?_ ?_
  · rfl
  · simp only [List.length_cons, List.length_append]
    omega
  · exact .entryLines (fun es => ⟨draft.entries ++ [(name, .table .whole es)], [name]⟩)
      (fun es key value hkey => add?_section hnew hkey value) [] hentries
      (fun _ _ => List.not_mem_nil) h

theorem ReadsTo.sections {draft : Draft} {sections : List (String × List (String × Scalar))}
    (hnames : ∀ s ∈ sections, IsBareKey s.1) (hsections : ∀ s ∈ sections, AreWritable s.2)
    (hnodup : (draft.entries.map Prod.fst ++ sections.map Prod.fst).Nodup) :
    ReadsTo draft (sections.flatMap fun s => Toml.section_ s.1 s.2)
      (draft.entries ++ sections.map sectionOf) := by
  induction sections generalizing draft with
  | nil =>
    rw [List.map_nil, List.append_nil]
    exact .nil draft
  | cons s sections ih =>
    rw [List.forall_mem_cons] at hnames hsections
    have hnew : s.1 ∉ draft.entries.map Prod.fst := by
      intro hmem
      exact (List.nodup_append.mp hnodup).2.2 _ hmem s.1 List.mem_cons_self rfl
    have hrest := @ih ⟨draft.entries ++ [sectionOf s], [s.1]⟩ hnames.2 hsections.2
      (by simpa [sectionOf] using hnodup)
    rw [List.flatMap_cons]
    refine .section_ hnames.1 hsections.1 hnew ?_
    simpa using hrest

/-- A document does not begin with a mark of the byte order. -/
theorem document_ne {entries : List (String × Scalar)}
    {sections : List (String × List (String × Scalar))} (h : IsWritable entries sections)
    (rest : Chars) : document entries sections ≠ '\uFEFF' :: rest := by
  intro heq
  cases entries with
  | nil =>
    cases sections with
    | nil => cases heq
    | cons s sections => cases (List.cons.inj heq).1
  | cons e entries =>
    obtain ⟨c, s, hcons, hc⟩ := (h.top.isBareKey e List.mem_cons_self).exists_cons
    rw [document, List.flatMap_cons, entryLine, hcons] at heq
    exact (ne_of_isKeyChar hc).2.2.2.2.2.2.2 (List.cons.inj heq).1

/-- **A written document is read back**: it has the values that were written under their keys, and
a table for each section. -/
theorem parse?_document {entries : List (String × Scalar)}
    {sections : List (String × List (String × Scalar))} (h : IsWritable entries sections) :
    parse? (document entries sections) = some (entries.map entryOf ++ sections.map sectionOf) := by
  have hreads : ReadsTo {} (document entries sections)
      (entries.map entryOf ++ sections.map sectionOf) := by
    refine .entryLines (fun es => ⟨es, []⟩)
      (fun es key value hkey => add?_top hkey value) [] h.top (fun _ _ => List.not_mem_nil) ?_
    refine @ReadsTo.sections ⟨entries.map entryOf, []⟩ sections h.isBareKey h.below ?_
    simpa [Function.comp_def, entryOf] using h.nodup
  unfold parse?
  split
  · next rest heq => exact absurd heq (document_ne h rest)
  · exact hreads _ (Nat.lt_succ_self _)

end LootLedger.Toml
