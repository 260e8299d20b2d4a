import LootLedger.Json.Printer
import LootLedger.Json.Reader

/-!
# One document, any layout

The two layouts in which documents are written differ only in the space between the tokens. Here is
the printer that takes that space as a parameter; either layout is an instance of it. What is to be
shown of documents that were written is shown once, for whatever space there is.

## Main definitions

* `Json.Spacing`: the space before the elements of each level and after the colons
* `Json.Spacing.tight`, `Json.Spacing.indented`: the two layouts
* `Json.Spacing.written`: a document laid out with given spacing

## Main results

* `Json.Spacing.written_tight`, `Json.Spacing.written_indented`: the printers are instances
-/

namespace LootLedger.Json

open Text (Chars)

/-- What a layout puts between tokens: something in front of every element at a level of nesting,
and something after the colon of a member. Either is nothing but space. -/
structure Spacing where
  line : Nat → Chars
  gap : Chars
  isSpace_of_mem_line : ∀ level, ∀ c ∈ line level, isSpace c
  isSpace_of_mem_gap : ∀ c ∈ gap, isSpace c

namespace Spacing

/-- No space at all. -/
def tight : Spacing :=
  { line := fun _ => []
    gap := []
    isSpace_of_mem_line := fun _ _ h => absurd h List.not_mem_nil
    isSpace_of_mem_gap := fun _ h => absurd h List.not_mem_nil }

theorem isSpace_of_mem_newLine (level : Nat) : ∀ c ∈ newLine level, isSpace c := by
  intro c hc
  rw [newLine, List.mem_cons, List.mem_replicate] at hc
  rcases hc with rfl | ⟨-, rfl⟩ <;> rfl

/-- Every element on a line of its own, and a space after each colon. -/
def indented : Spacing :=
  { line := newLine
    gap := [' ']
    isSpace_of_mem_line := isSpace_of_mem_newLine
    isSpace_of_mem_gap := fun c hc => by rw [List.mem_singleton.mp hc]; rfl }

mutual

/-- The document as it stands at a level of nesting. -/
def written (sp : Spacing) : Nat → Json → Chars
  | _, .null | _, .unrepresentable => "null".toList
  | _, .bool b => if b then "true".toList else "false".toList
  | _, .int n => intText n
  | _, .float x => floatText x
  | _, .text s => quote s.toList
  | _, .array [] => "[]".toList
  | _, .object [] => "{}".toList
  | level, .array (x :: xs) =>
    '[' :: (writtenElements sp (level + 1) (x :: xs) ++ sp.line level ++ [']'])
  | level, .object (m :: ms) =>
    '{' :: (writtenMembers sp (level + 1) (m :: ms) ++ sp.line level ++ ['}'])

/-- The elements with commas between them. -/
def writtenElements (sp : Spacing) : Nat → List Json → Chars
  | _, [] => []
  | level, [x] => sp.line level ++ written sp level x
  | level, x :: y :: xs =>
    sp.line level ++ written sp level x ++ ',' :: writtenElements sp level (y :: xs)

/-- The members with commas between them. -/
def writtenMembers (sp : Spacing) : Nat → List (String × Json) → Chars
  | _, [] => []
  | level, [(name, x)] => sp.line level ++ memberText sp.gap name (written sp level x)
  | level, (name, x) :: m :: ms =>
    sp.line level ++ memberText sp.gap name (written sp level x) ++
      ',' :: writtenMembers sp level (m :: ms)

end

/-! ### The two printers

Both are proved by the recursion of the printers, with one case for each of their equations. -/

mutual

/-- **The indented printer lays documents out line by line.** -/
theorem written_indented : ∀ (level : Nat) (j : Json),
    written indented level j = prettyAt level j
  | _, .null | _, .unrepresentable | _, .bool _ | _, .int _ | _, .float _ | _, .text _ => by
    rw [written, prettyAt]
  | _, .array [] | _, .object [] => by rw [written, prettyAt]
  | level, .array (x :: xs) => by rw [written, prettyAt, writtenElements_indented]; rfl
  | level, .object (m :: ms) => by rw [written, prettyAt, writtenMembers_indented]; rfl

theorem writtenElements_indented : ∀ (level : Nat) (xs : List Json),
    writtenElements indented level xs = prettyElements level xs
  | _, [] => rfl
  | level, [x] => by rw [writtenElements, prettyElements, written_indented]; rfl
  | level, x :: y :: xs => by
    rw [writtenElements, prettyElements, written_indented, writtenElements_indented]; rfl

theorem writtenMembers_indented : ∀ (level : Nat) (ms : List (String × Json)),
    writtenMembers indented level ms = prettyMembers level ms
  | _, [] => rfl
  | level, [(name, x)] => by rw [writtenMembers, prettyMembers, written_indented]; rfl
  | level, (name, x) :: m :: ms => by
    rw [writtenMembers, prettyMembers, written_indented, writtenMembers_indented]; rfl

end

mutual

/-- **The printer on one line uses no space,** at whatever level. -/
theorem written_tight : ∀ (level : Nat) (j : Json), written tight level j = compact j
  | _, .null | _, .unrepresentable | _, .bool _ | _, .int _ | _, .float _ | _, .text _ => by
    rw [written, compact]
  | _, .array [] | _, .object [] => by rw [written, compact]; rfl
  | level, .array (x :: xs) => by
    rw [written, compact, writtenElements_tight, tight, List.append_nil]
  | level, .object (m :: ms) => by
    rw [written, compact, writtenMembers_tight, tight, List.append_nil]

theorem writtenElements_tight : ∀ (level : Nat) (xs : List Json),
    writtenElements tight level xs = compactElements xs
  | _, [] => rfl
  | level, [x] => by rw [writtenElements, compactElements, written_tight]; rfl
  | level, x :: y :: xs => by
    rw [writtenElements, compactElements, written_tight, writtenElements_tight]; rfl

theorem writtenMembers_tight : ∀ (level : Nat) (ms : List (String × Json)),
    writtenMembers tight level ms = compactMembers ms
  | _, [] => rfl
  | level, [(name, x)] => by rw [writtenMembers, compactMembers, written_tight]; rfl
  | level, (name, x) :: m :: ms => by
    rw [writtenMembers, compactMembers, written_tight, writtenMembers_tight]; rfl

end

end Spacing

end LootLedger.Json
