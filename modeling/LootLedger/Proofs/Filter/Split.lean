import LootLedger.Proofs.Filter.Line
import Mathlib.Algebra.Ring.Parity

/-!
# Splitting at quotes

Splitting takes the quotes off a text and the blanks away that stand outside of them, and cuts. It
neither loses nor makes up anything else: put together again, the tokens are the text without those
characters. Whether a character stands inside quotes is told by the text before it, which has an odd
number of them then, so it can be said of each character by its position.

A closing quote ends a token but an opening one does not. That is why a word may run into quotes but
not out of them, and why texts in quotes come back one by one, whatever blanks they hold.

## Main definitions

* `Filter.IsInToken`: which characters of a text its tokens are made of
* `Filter.tokenText`: those characters, put together

## Main results

* `Filter.unterminated_splitQuotedFrom`, `Filter.quotedAfter_false_iff`: when a quote is left open
* `Filter.tokens_splitQuotedFrom_append_cons`: a blank outside quotes cuts a text into two
* `Filter.splitQuoted_conserves`: what the tokens are made of, and quoted texts read back
-/

namespace LootLedger.Filter

open Text (Chars isBlank joinWith)

/-! ### Open quotes and cuts -/

theorem Split.tokens_push (token : Chars) (s : Split) :
    (s.push token).tokens = (if token = [] then [] else [token]) ++ s.tokens := by
  rw [push]
  split <;> rfl

@[simp] theorem Split.unterminated_push (token : Chars) (s : Split) :
    (s.push token).unterminated = s.unterminated := by
  rw [push]
  split <;> rfl

/-- The quotes of a text are not all closed if it ends inside quotes. -/
theorem unterminated_splitQuotedFrom (quoted : Bool) (pending s : Chars) :
    (splitQuotedFrom quoted pending s).unterminated = quotedAfter quoted s := by
  induction s generalizing quoted pending with
  | nil => exact Split.unterminated_push _ _
  | cons c s ih =>
    rw [splitQuotedFrom, quotedAfter_cons]
    split
    · cases quoted with
      | true => exact (Split.unterminated_push _ _).trans (ih false [])
      | false => exact ih true pending
    · split
      · next hblank =>
        rw [hblank.2]
        exact (Split.unterminated_push _ _).trans (ih false [])
      · exact ih quoted (c :: pending)

theorem tokens_splitQuotedFrom_append_cons {c : Char} (hc : isBlank c = true) {quoted : Bool}
    {s : Chars} (hs : quotedAfter quoted s = false) (pending t : Chars) :
    (splitQuotedFrom quoted pending (s ++ c :: t)).tokens =
      (splitQuotedFrom quoted pending s).tokens ++ (splitQuoted t).tokens := by
  induction s generalizing quoted pending with
  | nil =>
    rw [quotedAfter_nil] at hs
    have hquote : c ≠ '"' := by
      rintro rfl
      exact absurd hc (by decide)
    rw [List.nil_append, splitQuotedFrom, splitQuotedFrom, if_neg hquote, if_pos ⟨hc, hs⟩,
      Split.tokens_push, Split.tokens_push, List.append_nil, splitQuoted]
  | cons d s ih =>
    rw [quotedAfter_cons] at hs
    rw [List.cons_append, splitQuotedFrom, splitQuotedFrom]
    split
    · next hquote =>
      rw [if_pos hquote] at hs
      cases quoted with
      | true =>
        rw [if_pos rfl, if_pos rfl, Split.tokens_push, Split.tokens_push, @ih false hs,
          List.append_assoc]
      | false => exact ih hs pending
    · next hquote =>
      rw [if_neg hquote] at hs
      split
      · next hblank =>
        rw [hblank.2] at hs
        rw [Split.tokens_push, Split.tokens_push, ih hs, List.append_assoc]
      · exact ih hs (d :: pending)

/-! ### What stands inside quotes -/

/-- **A text ends inside quotes** if the number of its quotes is odd. -/
theorem quotedAfter_false_iff {s : Chars} : quotedAfter false s = true ↔ Odd (s.count '"') := by
  induction s using List.reverseRecOn with
  | nil => simp
  | append_singleton s c ih =>
    rw [quotedAfter_append, quotedAfter_cons, quotedAfter_nil, List.count_append,
      List.count_singleton]
    by_cases hc : c = '"'
    · rw [if_pos hc, if_pos (beq_iff_eq.mpr hc), Nat.odd_add_one, ← ih, Bool.not_eq_true',
        Bool.not_eq_true]
    · rw [if_neg hc, if_neg (by simpa using hc), Nat.add_zero, ih]

/-- The character at the position is one of a token: it is no quote, and if it is a blank it stands
inside quotes, with an odd number of them before it. -/
def IsInToken (s : Chars) (e : Char × Nat) : Prop :=
  e.1 ≠ '"' ∧ (isBlank e.1 = true → Odd ((s.take e.2).count '"'))

instance (s : Chars) : DecidablePred (IsInToken s) :=
  fun _ => inferInstanceAs (Decidable (_ ∧ _))

/-- The characters of a text that its tokens are made of. -/
def tokenText (s : Chars) : Chars :=
  (s.zipIdx.filter (IsInToken s ·)).map Prod.fst

example : tokenText "ab\"c d\" e \"".toList = "abc de".toList := by decide

/-- A character behind `before` is one of a token if it is no quote, and no blank outside quotes. -/
theorem isInToken_append_cons {before s : Chars} {c : Char} :
    IsInToken (before ++ c :: s) (c, before.length) ↔
      c ≠ '"' ∧ ¬ (isBlank c = true ∧ quotedAfter false before = false) := by
  rw [IsInToken, List.take_left, ← quotedAfter_false_iff, not_and, Bool.not_eq_false]

/-- The tokens of a rest are made of the pending token and of what the rest has for tokens. -/
theorem flatten_tokens_splitQuotedFrom (before pending s : Chars) :
    (splitQuotedFrom (quotedAfter false before) pending s).tokens.flatten = pending.reverse ++
      ((s.zipIdx before.length).filter (IsInToken (before ++ s) ·)).map Prod.fst := by
  have hpush (token : Chars) (sp : Split) :
      (sp.push token).tokens.flatten = token ++ sp.tokens.flatten := by
    rw [Split.tokens_push, List.flatten_append]
    split
    · next hnil => rw [hnil]; rfl
    · simp
  induction s generalizing before pending with
  | nil =>
    rw [splitQuotedFrom, hpush]
    rfl
  | cons c s ih =>
    have hrest := ih (before ++ [c])
    rw [quotedAfter_append, quotedAfter_cons, quotedAfter_nil, List.append_assoc,
      List.singleton_append, List.length_append, List.length_singleton] at hrest
    rw [List.zipIdx_cons, splitQuotedFrom]
    by_cases hquote : c = '"'
    · have hout : ¬ IsInToken (before ++ c :: s) (c, before.length) := fun h => h.1 hquote
      rw [if_pos hquote] at hrest ⊢
      rw [List.filter_cons_of_neg (by simpa using hout)]
      cases hq : quotedAfter false before with
      | true =>
        rw [hq] at hrest
        rw [if_pos rfl, hpush]
        exact congrArg (pending.reverse ++ ·) (hrest [])
      | false =>
        rw [hq] at hrest
        exact hrest pending
    · rw [if_neg hquote] at hrest ⊢
      by_cases hblank : isBlank c = true ∧ quotedAfter false before = false
      · have hout : ¬ IsInToken (before ++ c :: s) (c, before.length) := fun h =>
          (isInToken_append_cons.mp h).2 hblank
        rw [hblank.2] at hrest
        rw [if_pos hblank, hpush, List.filter_cons_of_neg (by simpa using hout)]
        exact congrArg (pending.reverse ++ ·) (hrest [])
      · have hin : IsInToken (before ++ c :: s) (c, before.length) :=
          isInToken_append_cons.mpr ⟨hquote, hblank⟩
        rw [if_neg hblank, hrest, List.filter_cons_of_pos (by simpa using hin), List.map_cons,
          List.reverse_cons, List.append_assoc]
        rfl

/-- **The tokens put together** are the text without its quotes and the blanks outside quotes. -/
theorem flatten_tokens_splitQuoted (s : Chars) : (splitQuoted s).tokens.flatten = tokenText s :=
  flatten_tokens_splitQuotedFrom [] [] s

/-! ### Texts in quotes -/

/-- **Texts in quotes come back**, whatever blanks they hold. -/
theorem splitQuoted_quotations {ts : List Chars} (h : ∀ t ∈ ts, t ≠ [] ∧ '"' ∉ t) :
    splitQuoted (joinWith ' ' (ts.map fun t => '"' :: (t ++ ['"']))) = ⟨ts, false⟩ := by
  have hread := @Argument.splitQuoted_joinWith (ts.map .quoted) (List.forall_mem_map.mpr h)
  rw [List.map_map, List.map_map] at hread
  exact hread.trans (congrArg (Split.mk · false) (List.map_id ts))

/-- **Splitting loses and invents nothing.** -/
theorem splitQuoted_conserves :
    (∀ s : Chars, (splitQuoted s).tokens.flatten = tokenText s ∧
      (∀ t ∈ (splitQuoted s).tokens, t ≠ []) ∧
      ((splitQuoted s).unterminated = true ↔ Odd (s.count '"'))) ∧
    ∀ ts : List Chars, (∀ t ∈ ts, t ≠ [] ∧ '"' ∉ t) →
      splitQuoted (joinWith ' ' (ts.map fun t => '"' :: (t ++ ['"']))) = ⟨ts, false⟩ := by
  refine ⟨fun s => ⟨flatten_tokens_splitQuoted s, fun t ht => (mem_tokens_splitQuotedFrom ht).1, ?_⟩,
    fun ts h => splitQuoted_quotations h⟩
  rw [splitQuoted, unterminated_splitQuotedFrom, quotedAfter_false_iff]

theorem splitQuoted_conserves_ring :
    (∀ t ∈ ["Two-Stone\tRing".toList, " # ".toList], t ≠ [] ∧ '"' ∉ t) ∧
      splitQuoted "\"Two-Stone\tRing\" \" # \"".toList =
        ⟨["Two-Stone\tRing".toList, " # ".toList], false⟩ := by
  have h : ∀ t ∈ ["Two-Stone\tRing".toList, " # ".toList], t ≠ [] ∧ '"' ∉ t := by decide
  exact ⟨h, splitQuoted_conserves.2 _ h⟩

end LootLedger.Filter
