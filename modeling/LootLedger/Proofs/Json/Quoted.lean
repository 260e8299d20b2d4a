import LootLedger.Json.Text
import Mathlib.Tactic.SplitIfs

/-!
# Quoted texts are read back

Any text can be put between quotes and read back, whatever characters it has: each character is
written as one piece, either itself or an escape, and the reader takes the pieces apart again in
the same places. A character below the space that has no letter of its own goes through its 16-bit
unit, which is far from the surrogates, so the piece spells it whatever comes next.

## Main definitions

* `Json.ReadsAs`: a text whose reader sees one piece that spells the given character

## Main results

* `Json.readsAs_escape`: the escape of a character is read as that character
* `Json.readQuoted?_quoted`: a quoted text is read back
-/

namespace LootLedger.Json

open Text (Chars)

/-- The text is read as one piece, and the piece spells the character, whatever follows. -/
def ReadsAs (s : Chars) (c : Char) : Prop :=
  ∃ piece, (∀ rest, readPieces? (s ++ rest) =
      (readPieces? rest).map fun (pieces, after) => (piece :: pieces, after)) ∧
    ∀ pieces, spell? (piece :: pieces) = (spell? pieces).map (c :: ·)

/-! ### One character -/

theorem readsAs_plain {c : Char} (hquote : c ≠ '"') (hslash : c ≠ '\\')
    (hplain : ¬ c.toNat < 0x20) : ReadsAs [c] c := by
  refine ⟨.char c, fun rest => ?_, fun pieces => by rw [spell?]⟩
  rw [List.singleton_append, readPieces?, if_neg (by simp [hplain, hslash])]
  · cases readPieces? rest <;> rfl
  · exact hquote
  · intro _ _ _ _ _ h
    exact absurd h hslash
  · intro _ _ h
    exact absurd h hslash

theorem readsAs_named {e c : Char} (hu : e ≠ 'u') (he : namedEscape? e = some c) :
    ReadsAs ['\\', e] c := by
  refine ⟨.char c, fun rest => ?_, fun pieces => by rw [spell?]⟩
  rw [List.cons_append, List.singleton_append, readPieces?, he]
  · cases readPieces? rest <;> rfl
  · intro _ _ _ _ _ h
    exact absurd h hu

/-- A unit below the surrogates spells its character, also in front of another unit. -/
theorem spell?_unit {n : Nat} (h : n < 0xD800) (pieces : List Piece) :
    spell? (.unit n :: pieces) = (spell? pieces).map (Char.ofNat n :: ·) := by
  have hhigh : isHighSurrogate n = false := by simp [isHighSurrogate]; omega
  have hlow : isLowSurrogate n = false := by simp [isLowSurrogate]; omega
  rcases pieces with _ | ⟨_ | m, pieces⟩ <;> simp [spell?, hhigh, hlow]

theorem hexUnit?_lowerHex {n : Nat} (h : n < 0x100) :
    hexUnit? '0' '0' (Text.lowerHex (n / 16)) (Text.lowerHex n) = some n := by
  rw [hexUnit?, Text.lowerHex, Text.lowerHex, Text.hexValue?_hexDigitFrom (.inl rfl),
    Text.hexValue?_hexDigitFrom (.inl rfl), show Text.hexValue? '0' = some 0 from rfl]
  simp only [Option.bind_eq_bind, Option.bind_some, Option.pure_def, Option.some.injEq]
  omega

theorem readsAs_unit {c : Char} (h : c.toNat < 0x20) :
    ReadsAs ['\\', 'u', '0', '0', Text.lowerHex (c.toNat / 16), Text.lowerHex c.toNat] c := by
  refine ⟨.unit c.toNat, fun rest => ?_, fun pieces => ?_⟩
  · simp only [List.cons_append, List.nil_append, readPieces?, hexUnit?_lowerHex (n := c.toNat)
      (by omega)]
    cases readPieces? rest <;> rfl
  · rw [spell?_unit (by omega), Char.ofNat_toNat]

/-- **The escape of a character is read as that character.** -/
theorem readsAs_escape (c : Char) : ReadsAs (escape c) c := by
  unfold escape
  split_ifs with hquote hslash hn hr ht hb hf hcontrol
  · subst hquote; exact readsAs_named (by decide) rfl
  · subst hslash; exact readsAs_named (by decide) rfl
  · subst hn; exact readsAs_named (by decide) rfl
  · subst hr; exact readsAs_named (by decide) rfl
  · subst ht; exact readsAs_named (by decide) rfl
  · subst hb; exact readsAs_named (by decide) rfl
  · subst hf; exact readsAs_named (by decide) rfl
  · exact readsAs_unit hcontrol
  · exact readsAs_plain hquote hslash hcontrol

/-! ### A whole text -/

theorem exists_pieces (s rest : Chars) :
    ∃ pieces, readPieces? (s.flatMap escape ++ '"' :: rest) = some (pieces, rest) ∧
      spell? pieces = some s := by
  induction s with
  | nil => exact ⟨[], rfl, rfl⟩
  | cons c s ih =>
    obtain ⟨pieces, hread, hspell⟩ := ih
    obtain ⟨piece, hpiece, hc⟩ := readsAs_escape c
    refine ⟨piece :: pieces, ?_, ?_⟩
    · rw [List.flatMap_cons, List.append_assoc, hpiece, hread]
      rfl
    · rw [hc, hspell]
      rfl

/-- **A quoted text is read back,** from behind its opening quote to its closing one. -/
theorem readQuoted?_quoted (s rest : Chars) :
    readQuoted? (s.flatMap escape ++ '"' :: rest) = some (some s, rest) := by
  obtain ⟨pieces, hread, hspell⟩ := exists_pieces s rest
  simp only [readQuoted?, hread, Option.map_some, hspell]

end LootLedger.Json
