import LootLedger.Toml.Text
import Mathlib.Data.List.TakeWhile
import Mathlib.Tactic.SplitIfs

/-!
# Written texts are read back

A text is written in one of four forms, each of which has a reader of its own, and the reader tells
the form by the marks at the start. So there are two things to know of each form: that the marks of
another form are not seen where it begins, and that its own closing marks are not seen before its
end.

Quotes are what makes the second one hard. Between three quotes one or two may stand as they are,
even in front of the closing ones, with which they make a run of four or five. The reader takes the
last three of such a run for the end, and the writer escapes every quote that follows two others, so
a run that is longer never begins inside the text. What the writer has in mind at a place is the
number of quotes in front of it. The induction is on the text for every such number up to two, and
looks two characters ahead.

## Main definitions

* `Toml.Unescapes`: a reader takes the escapes of characters for the characters

## Main results

* `Toml.Unescapes.read_escape`: the written form of a character
* `Toml.readLongBasic?_escapeFrom`, `Toml.readLongLiteral?_append`: texts between three marks
* `Toml.readString?_quote`: a written text is read back
-/

namespace LootLedger.Toml

open Text (Chars)

/-! ### Characters -/

/-- A reader of texts takes a character that is written by itself or by its escape for what it
is. -/
structure Unescapes (read : Chars → Option (Chars × Chars)) : Prop where
  named : ∀ {e c}, namedEscape? e = some c → ∀ s, read ('\\' :: e :: s) = (read s).map (before c)
  coded : ∀ {a b c}, hexChar? ['0', '0', a, b] = some c →
    ∀ s, read ('\\' :: 'u' :: '0' :: '0' :: a :: b :: s) = (read s).map (before c)
  plain : ∀ {c}, c ≠ '"' → c ≠ '\\' → isControl c = false →
    ∀ s, read (c :: s) = (read s).map (before c)

/-- A control character has a code below 128. -/
theorem hexChar?_of_isControl {c : Char} (h : isControl c = true) :
    hexChar? ['0', '0', Text.upperHex (c.toNat / 16), Text.upperHex c.toNat] = some c := by
  have hcodes : ∀ n < 128,
      hexChar? ['0', '0', Text.upperHex (n / 16), Text.upperHex n] = some (Char.ofNat n) := by
    decide +kernel
  have hlt : c.toNat < 128 := by
    simp only [isControl, Bool.or_eq_true, Bool.and_eq_true, decide_eq_true_eq, beq_iff_eq] at h
    omega
  rw [hcodes c.toNat hlt, Char.ofNat_toNat]

theorem isControl_of_isHidden_eq_false {c : Char} (h : isHidden c = false) (hne : c ≠ '\n') :
    isControl c = false := by
  rw [isHidden, Bool.and_eq_false_iff] at h
  exact h.resolve_right (by simp [hne])

theorem Unescapes.read_escape {read : Chars → Option (Chars × Chars)} (h : Unescapes read)
    {long : Bool} (hlong : long = true → ∀ s, read ('\n' :: s) = (read s).map (before '\n'))
    {c : Char} (hquote : c ≠ '"') (s : Chars) :
    read (escape long c ++ s) = (read s).map (before c) := by
  unfold escape
  split_ifs with hslash htab hline hbreak hreturn hback hfeed hcontrol
  · subst hslash; exact h.named rfl s
  · subst htab; exact h.named rfl s
  · subst hline; exact hlong hbreak s
  · subst hline; exact h.named rfl s
  · subst hreturn; exact h.named rfl s
  · subst hback; exact h.named rfl s
  · subst hfeed; exact h.named rfl s
  · exact h.coded (hexChar?_of_isControl hcontrol) s
  · exact h.plain hquote hslash (Bool.eq_false_iff.mpr hcontrol) s

/-! ### Between double quotes -/

theorem ne_of_namedEscape? {e c : Char} (h : namedEscape? e = some c) :
    e ≠ 'u' ∧ e ≠ 'U' ∧ e ≠ ' ' ∧ e ≠ '\t' ∧ e ≠ '\n' ∧ e ≠ '\r' := by
  refine ⟨?_, ?_, ?_, ?_, ?_, ?_⟩ <;> rintro rfl <;> cases h

theorem unescapes_readBasic? : Unescapes readBasic? where
  named := by
    intro e c h s
    obtain ⟨hu, hU, -⟩ := ne_of_namedEscape? h
    rw [readBasic?, h, Option.bind_eq_bind, Option.bind_some]
    · intro _ _ _ _ _ he
      exact absurd he hu
    · intro _ _ _ _ _ _ _ _ _ he
      exact absurd he hU
  coded := by
    intro a b c h s
    rw [readBasic?, h, Option.bind_eq_bind, Option.bind_some]
  plain := by
    intro c hquote hslash hcontrol s
    rw [readBasic?, if_neg (by simp [hcontrol, hslash])]
    all_goals simp [hquote, hslash]

theorem readBasic?_escapeFrom (run : Nat) (s rest : Chars) :
    readBasic? (escapeFrom false run s ++ '"' :: rest) = some (s, rest) := by
  induction s generalizing run with
  | nil => rfl
  | cons c s ih =>
    by_cases hquote : c = '"'
    · subst hquote
      rw [escapeFrom, if_neg (by simp)]
      have hread := unescapes_readBasic?.named (e := '"') rfl
        (escapeFrom false 0 s ++ '"' :: rest)
      rw [List.cons_append, List.cons_append, hread, ih]
      rfl
    · rw [escapeFrom, List.append_assoc,
        unescapes_readBasic?.read_escape (by simp) hquote, ih]
      · rfl
      · exact hquote

/-- The written form of a character is not empty, and begins with a quote or a line break only if it
is one. -/
theorem exists_cons_escape (long : Bool) (c : Char) :
    ∃ d t, escape long c = d :: t ∧ (d = '"' → c = '"') ∧ (d = '\n' → c = '\n') ∧ d ≠ '\r' := by
  unfold escape
  split_ifs <;> refine ⟨_, _, rfl, ?_⟩ <;> simp_all

/-- A text that is not empty is written as something. It is written with a quote as it is in front
only between three quotes, and only if it has one there that does not follow two others. -/
theorem exists_cons_escapeFrom (long : Bool) (run : Nat) (c : Char) (s : Chars) :
    ∃ d t, escapeFrom long run (c :: s) = d :: t ∧
      (d = '"' → c = '"' ∧ (long = true ∧ run < 2) ∧ t = escapeFrom long (run + 1) s) ∧
      (d = '\n' → c = '\n') ∧ d ≠ '\r' := by
  by_cases hquote : c = '"'
  · subst hquote
    rw [escapeFrom]
    split_ifs with hrun
    · exact ⟨_, _, rfl, fun _ => ⟨rfl, hrun, rfl⟩, nofun, by decide⟩
    · exact ⟨_, _, rfl, nofun, nofun, by decide⟩
  · obtain ⟨d, t, hcons, hmark, hline, hreturn⟩ := exists_cons_escape long c
    rw [escapeFrom, hcons]
    · exact ⟨d, _, rfl, fun h => absurd (hmark h) hquote, hline, hreturn⟩
    · exact hquote

/-! ### Between three double quotes -/

/-- Right behind its backslash a named escape ends no line. -/
theorem endsLine_of_namedEscape? {e c : Char} (h : namedEscape? e = some c) (s : Chars) :
    endsLine (e :: s) = false := by
  obtain ⟨-, -, hspace, htab, hline, hreturn⟩ := ne_of_namedEscape? h
  rw [endsLine, List.dropWhile_cons_of_neg (by simp [hspace, htab])]
  split <;> simp_all

theorem unescapes_readLongBasic? : Unescapes (readLongBasic? false) where
  named := by
    intro e c h s
    obtain ⟨hu, hU, -⟩ := ne_of_namedEscape? h
    rw [readLongBasic?, endsLine_of_namedEscape? h, if_neg Bool.false_ne_true, h,
      Option.bind_eq_bind, Option.bind_some]
    · intro _ _ _ _ _ he
      exact absurd he hu
    · intro _ _ _ _ _ _ _ _ _ he
      exact absurd he hU
  coded := by
    intro a b c h s
    rw [readLongBasic?, h, Option.bind_eq_bind, Option.bind_some]
  plain := by
    intro c hquote hslash hcontrol s
    have hreturn : c ≠ '\r' := by
      rintro rfl
      exact absurd hcontrol (by decide)
    rw [readLongBasic?, if_neg (by simp), if_neg (by simp [isHidden, hcontrol, hslash])]
    all_goals simp [hquote, hslash, hreturn]

theorem readLongBasic?_newline (s : Chars) :
    readLongBasic? false ('\n' :: s) = (readLongBasic? false s).map (before '\n') := by
  rw [readLongBasic?, if_neg (by simp), if_neg (by decide)]
  all_goals simp

/-- A quote in front of less than two others. -/
theorem readLongBasic?_quote {s : Chars} (h : ¬ ['"', '"'] <+: s) :
    readLongBasic? false ('"' :: s) = (readLongBasic? false s).map (before '"') := by
  have hne (t : Chars) : s ≠ '"' :: '"' :: t := by
    rintro rfl
    exact h (List.prefix_append ['"', '"'] t)
  rw [readLongBasic?, if_neg (by simp), if_neg (by decide)]
  all_goals simp [hne]

/-- What stands before the closing quotes does not begin with two quotes, unless the text is about
to end. -/
theorem not_prefix_escapeFrom {run : Nat} {s : Chars} (rest : Chars) (hnil : s ≠ [])
    (hlast : ¬ (run = 0 ∧ s = ['"'])) :
    ¬ ['"', '"'] <+: escapeFrom true (run + 1) s ++ '"' :: '"' :: '"' :: rest := by
  intro hfront
  obtain ⟨c, s, rfl⟩ := List.exists_cons_of_ne_nil hnil
  obtain ⟨d, t, hcons, hd, -⟩ := exists_cons_escapeFrom true (run + 1) c s
  rw [hcons, List.cons_append, List.cons_prefix_cons] at hfront
  obtain ⟨rfl, ⟨-, hrun⟩, rfl⟩ := hd hfront.1.symm
  cases s with
  | nil => exact hlast ⟨by omega, rfl⟩
  | cons c s =>
    obtain ⟨d, t, hcons, hd, -⟩ := exists_cons_escapeFrom true (run + 1 + 1) c s
    rw [hcons, List.cons_append, List.cons_prefix_cons] at hfront
    have hrun' := (hd hfront.2.1.symm).2.1.2
    omega

/-- **A text between three double quotes**, behind a number of quotes that stand as they are. -/
theorem readLongBasic?_escapeFrom {run : Nat} (s : Chars) {rest : Chars}
    (hrest : rest.head? ≠ some '"') :
    readLongBasic? false (escapeFrom true run s ++ '"' :: '"' :: '"' :: rest) = some (s, rest) := by
  have hne (t : Chars) : rest ≠ '"' :: t := by
    rintro rfl
    exact hrest rfl
  induction s generalizing run with
  | nil =>
    rw [escapeFrom, List.nil_append, readLongBasic?]
    all_goals simp [hne]
  | cons c s ih =>
    by_cases hquote : c = '"'
    · subst hquote
      rw [escapeFrom]
      split_ifs with hrun
      · by_cases hnil : s = []
        · subst hnil
          rw [escapeFrom, List.cons_append, List.nil_append, readLongBasic?]
          all_goals simp [hne]
        by_cases hlast : run = 0 ∧ s = ['"']
        · obtain ⟨rfl, rfl⟩ := hlast
          rfl
        · rw [List.cons_append, readLongBasic?_quote (not_prefix_escapeFrom rest hnil hlast), ih]
          rfl
      · rw [List.cons_append, List.cons_append, unescapes_readLongBasic?.named rfl, ih]
        rfl
    · rw [escapeFrom, List.append_assoc, unescapes_readLongBasic?.read_escape
        (fun _ => readLongBasic?_newline) hquote, ih]
      · rfl
      · exact hquote

/-! ### Between single quotes -/

theorem readLiteral?_append {s : Chars} (hquote : '\'' ∉ s)
    (hcontrol : ∀ c ∈ s, isControl c = false) (rest : Chars) :
    readLiteral? (s ++ '\'' :: rest) = some (s, rest) := by
  induction s with
  | nil => rfl
  | cons c s ih =>
    rw [List.mem_cons, not_or] at hquote
    rw [List.forall_mem_cons] at hcontrol
    rw [List.cons_append, readLiteral?, if_neg (by simp [hcontrol.1]), ih hquote.2 hcontrol.2]
    · rfl
    · exact fun h => hquote.1 h.symm

/-- A run is at least as long as what is known of it. -/
theorem le_longestRunFrom (mark : Char) (run : Nat) (s : Chars) :
    run ≤ longestRunFrom mark run s := by
  induction s generalizing run with
  | nil => exact Nat.le_refl run
  | cons c s ih =>
    rw [longestRunFrom]
    split_ifs
    · exact Nat.le_of_succ_le (ih (run + 1))
    · exact Nat.le_max_left _ _

theorem longestRunFrom_mono (mark : Char) {run run' : Nat} (h : run ≤ run') (s : Chars) :
    longestRunFrom mark run s ≤ longestRunFrom mark run' s := by
  induction s generalizing run run' with
  | nil => exact h
  | cons c s ih =>
    rw [longestRunFrom, longestRunFrom]
    split_ifs
    · exact ih (Nat.succ_le_succ h)
    · exact Nat.max_le.mpr ⟨h.trans (Nat.le_max_left _ _), Nat.le_max_right _ _⟩

/-- A text without a run of three behind its first character has none either. -/
theorem longestRun_le_cons (mark c : Char) (s : Chars) :
    longestRun mark s ≤ longestRun mark (c :: s) := by
  rw [longestRun, longestRun, longestRunFrom]
  split_ifs
  · exact longestRunFrom_mono mark (Nat.zero_le _) s
  · exact Nat.le_max_right _ _

/-- A text that has no run of three does not begin with two quotes behind a quote, unless it is
about to end. -/
theorem not_prefix_append {s : Chars} (rest : Chars) (hrun : longestRun '\'' ('\'' :: s) ≤ 2)
    (hnil : s ≠ []) (hlast : s ≠ ['\'']) :
    ¬ ['\'', '\''] <+: s ++ '\'' :: '\'' :: '\'' :: rest := by
  intro hfront
  obtain ⟨c, s, rfl⟩ := List.exists_cons_of_ne_nil hnil
  rw [List.cons_append, List.cons_prefix_cons] at hfront
  obtain ⟨rfl, hfront⟩ := hfront
  cases s with
  | nil => exact hlast rfl
  | cons c s =>
    rw [List.cons_append, List.cons_prefix_cons] at hfront
    obtain ⟨rfl, -⟩ := hfront
    have hle := le_longestRunFrom '\'' 3 s
    simp only [longestRun, longestRunFrom, if_true] at hrun
    exact absurd (hle.trans hrun) (by decide)

/-- **A text between three single quotes.** -/
theorem readLongLiteral?_append {s : Chars} (hrun : longestRun '\'' s ≤ 2)
    (hhidden : ∀ c ∈ s, isHidden c = false) {rest : Chars} (hrest : rest.head? ≠ some '\'') :
    readLongLiteral? (s ++ '\'' :: '\'' :: '\'' :: rest) = some (s, rest) := by
  have hne (t : Chars) : rest ≠ '\'' :: t := by
    rintro rfl
    exact hrest rfl
  induction s with
  | nil =>
    rw [List.nil_append, readLongLiteral?]
    all_goals simp [hne]
  | cons c s ih =>
    rw [List.forall_mem_cons] at hhidden
    have hreturn : c ≠ '\r' := by
      rintro rfl
      exact absurd hhidden.1 (by decide)
    have hread := ih ((longestRun_le_cons '\'' c s).trans hrun) hhidden.2
    by_cases hmark : c = '\''
    · subst hmark
      by_cases hnil : s = []
      · subst hnil
        rw [List.cons_append, List.nil_append, readLongLiteral?]
        all_goals simp [hne]
      by_cases hlast : s = ['\'']
      · subst hlast
        rfl
      · have hfront := not_prefix_append rest hrun hnil hlast
        have hne' (t : Chars) : s ++ '\'' :: '\'' :: '\'' :: rest ≠ '\'' :: '\'' :: t := by
          intro heq
          exact hfront (heq ▸ List.prefix_append ['\'', '\''] t)
        rw [List.cons_append, readLongLiteral?, if_neg (by decide), hread]
        all_goals simp [hne']
        rfl
    · rw [List.cons_append, readLongLiteral?, if_neg (by simp [hhidden.1]), hread]
      all_goals simp [hmark, hreturn]
      rfl

/-! ### The four forms -/

section Forms

variable {s rest : Chars}

theorem readString?_short (hrest : rest.head? ≠ some '"') :
    readString? ('"' :: (escapeFrom false 0 s ++ '"' :: rest)) = some (s, rest) := by
  have hne (t : Chars) : escapeFrom false 0 s ++ '"' :: rest ≠ '"' :: '"' :: t := by
    intro heq
    cases s with
    | nil =>
      rw [escapeFrom, List.nil_append] at heq
      exact hrest (by rw [(List.cons.inj heq).2]; rfl)
    | cons c s =>
      obtain ⟨d, body, hcons, hd, -⟩ := exists_cons_escapeFrom false 0 c s
      rw [hcons, List.cons_append] at heq
      cases (hd (List.cons.inj heq).1).2.1.1
  rw [readString?, readBasic?_escapeFrom]
  exact fun t h => hne t h

theorem readString?_literal (hnil : s ≠ []) (hquote : '\'' ∉ s)
    (hcontrol : ∀ c ∈ s, isControl c = false) :
    readString? ('\'' :: (s ++ '\'' :: rest)) = some (s, rest) := by
  rw [readString?, readLiteral?_append hquote hcontrol]
  rintro t heq
  obtain ⟨c, s, rfl⟩ := List.exists_cons_of_ne_nil hnil
  exact hquote (by rw [(List.cons.inj heq).1]; exact List.mem_cons_self)

/-- The line break behind the marks is not part of the text, and none is taken from a text that has
no line break. -/
theorem dropNewline_longMark {body : Chars}
    (hbody : '\n' ∉ s → body.head? ≠ some '\n' ∧ body.head? ≠ some '\r') :
    dropNewline ((if s.contains '\n' then ['\n'] else []) ++ body) = body := by
  split_ifs with hline
  · rfl
  · obtain ⟨hnewline, hreturn⟩ := hbody (by simpa using hline)
    rw [List.nil_append, dropNewline]
    · rintro t rfl
      exact hnewline rfl
    · rintro t rfl
      exact hreturn rfl

theorem readString?_long (hrest : rest.head? ≠ some '"') :
    readString? (longMark '"' s ++ escapeFrom true 0 s ++ '"' :: '"' :: '"' :: rest) =
      some (s, rest) := by
  rw [longMark, List.append_assoc, List.append_assoc, List.cons_append, List.cons_append,
    List.cons_append, List.nil_append, readString?, dropNewline_longMark,
    readLongBasic?_escapeFrom s hrest]
  intro hline
  cases s with
  | nil => exact ⟨nofun, nofun⟩
  | cons c s =>
    obtain ⟨d, t, hcons, -, hnewline, hreturn⟩ := exists_cons_escapeFrom true 0 c s
    rw [hcons, List.cons_append, List.head?_cons]
    refine ⟨fun h => hline ?_, fun h => hreturn (Option.some.inj h)⟩
    rw [hnewline (Option.some.inj h)]
    exact List.mem_cons_self

theorem readString?_longLiteral (hrun : longestRun '\'' s ≤ 2)
    (hhidden : ∀ c ∈ s, isHidden c = false) (hrest : rest.head? ≠ some '\'') :
    readString? (longMark '\'' s ++ s ++ '\'' :: '\'' :: '\'' :: rest) = some (s, rest) := by
  rw [longMark, List.append_assoc, List.append_assoc, List.cons_append, List.cons_append,
    List.cons_append, List.nil_append, readString?, dropNewline_longMark,
    readLongLiteral?_append hrun hhidden hrest]
  intro hline
  cases s with
  | nil => exact ⟨nofun, nofun⟩
  | cons c s =>
    rw [List.cons_append, List.head?_cons]
    refine ⟨fun h => hline ?_, fun h => ?_⟩
    · rw [Option.some.inj h]
      exact List.mem_cons_self
    · have hvisible := hhidden c List.mem_cons_self
      rw [Option.some.inj h] at hvisible
      exact absurd hvisible (by decide)

end Forms

/-- **A written text is read back,** whatever characters it has and whatever follows it but a
quote. -/
theorem readString?_quote (s : Chars) {rest : Chars} (hdouble : rest.head? ≠ some '"')
    (hsingle : rest.head? ≠ some '\'') : readString? (quote s ++ rest) = some (s, rest) := by
  have hshort : readString? (enclose ['"'] (escapeFrom false 0 s) ++ rest) = some (s, rest) := by
    simpa [enclose] using readString?_short (s := s) hdouble
  have hlong : readString? (longMark '"' s ++ escapeFrom true 0 s ++ ['"', '"', '"'] ++ rest) =
      some (s, rest) := by
    simpa using readString?_long (s := s) hdouble
  have hhidden (hvisible : (!s.any isHidden) = true) : ∀ c ∈ s, isHidden c = false := by
    simpa using hvisible
  rw [quote]
  split_ifs with hplain hliteral hbasic hlongLiteral hline
  · exact hshort
  · obtain ⟨hvisible, hline, hquote⟩ := hliteral
    have hnil : s ≠ [] := by
      rintro rfl
      exact hplain (by decide)
    have hcontrol : ∀ c ∈ s, isControl c = false := by
      intro c hc
      refine isControl_of_isHidden_eq_false (hhidden hvisible c hc) ?_
      rintro rfl
      simp [hc] at hline
    have hread : readString? ('\'' :: (s ++ '\'' :: rest)) = some (s, rest) :=
      readString?_literal hnil (by simpa using hquote) hcontrol
    simpa [enclose] using hread
  · exact hlong
  · obtain ⟨hvisible, hrun⟩ := hlongLiteral
    simpa using readString?_longLiteral hrun (hhidden hvisible) hsingle
  · exact hshort
  · exact hlong

end LootLedger.Toml
