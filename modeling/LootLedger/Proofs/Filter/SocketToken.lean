import LootLedger.Filter.Condition.Reader
import LootLedger.Proofs.Text.Numeral

/-!
# The tokens of sought sockets

A token of a sought socket group is refused in several places: over a character that no token has,
over a digit behind a letter, over a number that does not fit into 32 bits, over a size that no item
has. What is left is one language. Its words are digits that denote a size, which may be missing,
and then letters of colours, and one of the two parts is not empty. The size may have any number of
zeros in front, so there is no longest word even without letters, and none is too long to be read.

## Main definitions

* `Filter.SocketSpec.IsToken`: digits and letters that make a token
* `Filter.SocketSpec.Means`: the sought group that they stand for

## Main results

* `Filter.SocketSpec.parse?_eq_some_iff`: the tokens that are read, and what they are read as
* `Filter.socketSpec_accepts`: all other tokens are refused, and named in the refusal
-/

namespace LootLedger.Filter

open Text (Chars)

theorem not_isDigit_of_mem_socketColours {c : Char} (h : c ∈ socketColours) :
    ¬ Text.isDigit c = true := by
  have hall : socketColours.all (fun c => !Text.isDigit c) = true := by decide
  simpa using List.all_eq_true.mp hall c h

theorem isDigit_of_mem_socketDigits {c : Char} (h : c ∈ socketDigits) : Text.isDigit c = true := by
  have hall : socketDigits.all Text.isDigit = true := by decide
  exact List.all_eq_true.mp hall c h

/-- The numeral of a possible size has digits that a token can have. -/
theorem mem_socketDigits_of_mem_digits {n : Nat} (hn : n ≤ maxSockets) {c : Char}
    (hc : c ∈ Text.digits n) : c ∈ socketDigits := by
  have hall : ∀ n ≤ maxSockets, Text.digitChar n ∈ socketDigits := by decide
  rw [Text.digits_of_lt_ten (lt_of_le_of_lt hn (by decide)), List.mem_singleton] at hc
  exact hc ▸ hall n hn

namespace SocketSpec

/-- Digits and letters behind them that make a token. -/
structure IsToken (digits colours : Chars) : Prop where
  ne_nil : digits ++ colours ≠ []
  mem_digits : ∀ c ∈ digits, c ∈ socketDigits
  mem_colours : ∀ c ∈ colours, c ∈ socketColours
  size : digits = [] ∨ ∃ n ≤ maxSockets, Text.IsNumeralOf n digits

/-- The sought group that digits and the letters behind them stand for. -/
inductive Means : Chars → Chars → SocketSpec → Prop
  /-- Without digits, there is no size. -/
  | unsized (colours : Chars) : Means [] colours ⟨none, String.ofList colours⟩
  /-- Digits with a single letter stand for that many of it. -/
  | ofColour {digits : Chars} {n : Nat} (c : Char) (h : Text.IsNumeralOf n digits) :
      Means digits [c] ⟨none, String.ofList (List.replicate n c)⟩
  /-- Digits with any other number of letters stand for the size. -/
  | sized {digits colours : Chars} {n : Nat} (h : Text.IsNumeralOf n digits)
      (hcolours : colours.length ≠ 1) : Means digits colours ⟨some n, String.ofList colours⟩

/-! ### Sizes -/

/-- Digits that denote some possible size denote no other number. -/
theorem le_of_isNumeralOf {digits : Chars} {n : Nat}
    (hsize : digits = [] ∨ ∃ m ≤ maxSockets, Text.IsNumeralOf m digits)
    (hn : Text.IsNumeralOf n digits) : n ≤ maxSockets := by
  obtain hnil | ⟨m, hm, hnumeral⟩ := hsize
  · exact absurd hnil hn.ne_nil
  · exact hn.unique hnumeral ▸ hm

/-- **A size is read** if there are no digits or they denote a possible one. The limit of 32 bits is
never what a size fails by. -/
theorem readSize?_eq_some_iff {digits : Chars} (hdigits : ∀ c ∈ digits, Text.isDigit c = true)
    {count : Option Nat} :
    readSize? digits = some count ↔
      (digits = [] ∧ count = none) ∨
        ∃ n ≤ maxSockets, Text.IsNumeralOf n digits ∧ count = some n := by
  by_cases hnil : digits = []
  · have hnone : ¬ ∃ n ≤ maxSockets, Text.IsNumeralOf n digits ∧ count = some n :=
      fun ⟨_, _, h, _⟩ => h.ne_nil hnil
    rw [or_iff_left hnone, readSize?, if_pos hnil, Option.some.injEq, eq_comm]
    exact (and_iff_right hnil).symm
  · have hlimit : maxSockets ≤ Text.max32 := by decide
    rw [or_iff_right fun h => hnil h.1, readSize?, if_neg hnil,
      Text.readNat?_of_isDigit hnil hdigits]
    -- A possible size is within the limit, so of the two conditions only one is left.
    have hfilter (m : Nat) : (if m ≤ Text.max32 then some m else none).filter (· ≤ maxSockets) =
        if m ≤ maxSockets then some m else none := by
      by_cases hm : m ≤ maxSockets
      · rw [if_pos (le_trans hm hlimit), if_pos hm, Option.filter_some, if_pos (by simpa using hm)]
      · rw [if_neg hm, Option.filter_eq_none_iff]
        intro k hk
        split at hk
        · simpa [← Option.some.inj hk] using hm
        · cases hk
    simp only [hfilter, Text.isNumeralOf_iff hnil hdigits, Option.map_if,
      Option.ite_none_right_eq_some]
    constructor
    · rintro ⟨hm, hcount⟩
      exact ⟨_, hm, rfl, (Option.some.inj hcount).symm⟩
    · rintro ⟨n, hn, rfl, rfl⟩
      exact ⟨hn, rfl⟩

/-! ### Tokens -/

theorem ofParts_of_length_ne_one (n : Nat) {colours : Chars} (h : colours.length ≠ 1) :
    ofParts (some n) colours = ⟨some n, String.ofList colours⟩ := by
  match colours, h with
  | [], _ => rfl
  | _ :: _ :: _, _ => rfl

/-- The characters that a token can have are found in their places: digits in front, and no digit
behind. -/
theorem mem_digits_and_colours_iff {digits colours : Chars}
    (hdigits : ∀ c ∈ digits, Text.isDigit c = true) :
    (∀ c ∈ digits ++ colours, c ∈ socketDigits ++ socketColours) ∧
        (∀ c ∈ colours, ¬ Text.isDigit c = true) ↔
      (∀ c ∈ digits, c ∈ socketDigits) ∧ ∀ c ∈ colours, c ∈ socketColours := by
  simp only [List.forall_mem_append]
  constructor
  · rintro ⟨⟨hleft, hright⟩, hplain⟩
    refine ⟨fun c hc => ?_, fun c hc => ?_⟩
    · obtain h | h := List.mem_append.mp (hleft c hc)
      · exact h
      · exact absurd (hdigits c hc) (not_isDigit_of_mem_socketColours h)
    · obtain h | h := List.mem_append.mp (hright c hc)
      · exact absurd (isDigit_of_mem_socketDigits h) (hplain c hc)
      · exact h
  · rintro ⟨hleft, hright⟩
    exact ⟨⟨fun c hc => List.mem_append_left _ (hleft c hc),
      fun c hc => List.mem_append_right _ (hright c hc)⟩,
      fun c hc => not_isDigit_of_mem_socketColours (hright c hc)⟩

/-- What the two parts of a token are read as. -/
theorem exists_readSize?_iff {digits colours : Chars} {spec : SocketSpec}
    (hdigits : ∀ c ∈ digits, Text.isDigit c = true) :
    (∃ count, readSize? digits = some count ∧ ofParts count colours = spec) ↔
      (digits = [] ∨ ∃ n ≤ maxSockets, Text.IsNumeralOf n digits) ∧ Means digits colours spec := by
  simp only [readSize?_eq_some_iff hdigits]
  constructor
  · rintro ⟨count, ⟨rfl, rfl⟩ | ⟨n, hn, hnumeral, rfl⟩, rfl⟩
    · exact ⟨.inl rfl, .unsized colours⟩
    · refine ⟨.inr ⟨n, hn, hnumeral⟩, ?_⟩
      by_cases hsingle : colours.length = 1
      · obtain ⟨c, rfl⟩ := List.length_eq_one_iff.mp hsingle
        exact .ofColour c hnumeral
      · rw [ofParts_of_length_ne_one n hsingle]
        exact .sized hnumeral hsingle
  · rintro ⟨hsize, hmeans⟩
    cases hmeans with
    | unsized => exact ⟨none, .inl ⟨rfl, rfl⟩, rfl⟩
    | @ofColour _ n c hnumeral =>
      exact ⟨some n, .inr ⟨n, le_of_isNumeralOf hsize hnumeral, hnumeral, rfl⟩, rfl⟩
    | @sized _ _ n hnumeral hcolours =>
      exact ⟨some n, .inr ⟨n, le_of_isNumeralOf hsize hnumeral, hnumeral, rfl⟩,
        ofParts_of_length_ne_one n hcolours⟩

/-- **What is read from a token:** exactly the tokens are read, as what they stand for. -/
theorem parse?_eq_some_iff {token : Chars} {spec : SocketSpec} :
    parse? token = some spec ↔
      IsToken (token.takeWhile Text.isDigit) (token.dropWhile Text.isDigit) ∧
        Means (token.takeWhile Text.isDigit) (token.dropWhile Text.isDigit) spec := by
  have hdigits : ∀ c ∈ token.takeWhile Text.isDigit, Text.isDigit c = true :=
    List.all_eq_true.mp List.all_takeWhile
  have htoken := List.takeWhile_append_dropWhile (p := Text.isDigit) (l := token)
  rw [parse?]
  generalize token.takeWhile Text.isDigit = digits at *
  generalize token.dropWhile Text.isDigit = colours at *
  subst htoken
  simp only [Option.ite_none_left_eq_some, Option.map_eq_some_iff, exists_readSize?_iff hdigits,
    not_or, not_not, List.all_eq_true, List.any_eq_true, not_exists, not_and,
    List.contains_iff_mem]
  constructor
  · rintro ⟨⟨hne, hchars⟩, hplain, hsize, hmeans⟩
    obtain ⟨hleft, hright⟩ := (mem_digits_and_colours_iff hdigits).mp ⟨hchars, hplain⟩
    exact ⟨⟨hne, hleft, hright, hsize⟩, hmeans⟩
  · rintro ⟨h, hmeans⟩
    obtain ⟨hchars, hplain⟩ :=
      (mem_digits_and_colours_iff hdigits).mpr ⟨h.mem_digits, h.mem_colours⟩
    exact ⟨⟨h.ne_nil, hchars⟩, hplain, h.size, hmeans⟩

/-- Every token stands for something. -/
theorem IsToken.exists_means {digits colours : Chars} (h : IsToken digits colours) :
    ∃ spec, Means digits colours spec := by
  obtain rfl | ⟨n, -, hnumeral⟩ := h.size
  · exact ⟨_, .unsized colours⟩
  by_cases hsingle : colours.length = 1
  · obtain ⟨c, rfl⟩ := List.length_eq_one_iff.mp hsingle
    exact ⟨_, .ofColour c hnumeral⟩
  · exact ⟨_, .sized hnumeral hsingle⟩

/-- Digits and letters, put together and taken apart. -/
theorem parse?_append_iff {digits colours : Chars} {spec : SocketSpec}
    (hdigits : ∀ c ∈ digits, Text.isDigit c = true) (hcolours : ∀ c ∈ colours, c ∈ socketColours) :
    parse? (digits ++ colours) = some spec ↔
      IsToken digits colours ∧ Means digits colours spec := by
  have hhead : ∀ c ∈ colours.head?, Text.isDigit c = false := fun c hc =>
    Bool.eq_false_iff.mpr
      (not_isDigit_of_mem_socketColours (hcolours c (List.mem_of_mem_head? hc)))
  rw [parse?_eq_some_iff, Text.takeWhile_isDigit_append hdigits hhead,
    Text.dropWhile_isDigit_append hdigits hhead]

/-- A possible size, written without zeros in front, and letters. -/
theorem isToken_digits {n : Nat} (hn : n ≤ maxSockets) {colours : Chars}
    (hcolours : ∀ c ∈ colours, c ∈ socketColours) : IsToken (Text.digits n) colours where
  ne_nil := List.append_ne_nil_of_left_ne_nil (Text.digits_ne_nil n) colours
  mem_digits _ := mem_socketDigits_of_mem_digits hn
  mem_colours := hcolours
  size := .inr ⟨n, hn, Text.isNumeralOf_digits n⟩

end SocketSpec

/-- **The language of sought sockets.** A token is cut behind the longest run of digits in front. It
is accepted if and only if it is not empty, the digits are from 0 to 6, the rest are letters of
colours, and the digits, if there are any, denote a number of at most six, with zeros in front or
without. It is read as what the digits and the rest stand for, and as nothing else. Any other token
is refused, and named in the refusal. -/
theorem socketSpec_accepts (token : Chars) :
    let digits := token.takeWhile Text.isDigit
    let colours := token.dropWhile Text.isDigit
    ((∃ spec, socketSpec token = .ok spec) ↔ SocketSpec.IsToken digits colours) ∧
      (∀ spec, socketSpec token = .ok spec ↔
        SocketSpec.IsToken digits colours ∧ SocketSpec.Means digits colours spec) ∧
      (¬ SocketSpec.IsToken digits colours →
        socketSpec token = .error (.invalidSocketSpec (String.ofList token))) := by
  intro digits colours
  have hok : ∀ spec, socketSpec token = .ok spec ↔
      SocketSpec.IsToken digits colours ∧ SocketSpec.Means digits colours spec := by
    intro spec
    rw [← SocketSpec.parse?_eq_some_iff, socketSpec]
    cases SocketSpec.parse? token with
    | none => exact iff_of_false nofun nofun
    | some spec' => rw [Except.ok.injEq, Option.some.injEq]
  refine ⟨?_, hok, ?_⟩
  · simp only [hok, exists_and_left]
    exact ⟨fun h => h.1, fun h => ⟨h, h.exists_means⟩⟩
  · intro h
    have hnone : SocketSpec.parse? token = none :=
      Option.eq_none_iff_forall_ne_some.mpr fun spec hspec =>
        h (SocketSpec.parse?_eq_some_iff.mp hspec).1
    rw [socketSpec, hnone]

example : socketSpec "000000000000000005GG".toList = .ok ⟨some 5, "GG"⟩ := by decide

end LootLedger.Filter
