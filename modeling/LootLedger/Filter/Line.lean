import LootLedger.Filter.Comparison

/-!
# Lines of a filter document

A line is blank, a comment, or a keyword with its arguments. Blanks of every kind count as
spaces, and a comment may follow the code. A number sign inside quotes begins no comment, so the
quotes of a line are followed from its start both when the comment is cut off and when the
arguments are split.

## Main definitions

* `Filter.spaced`: every blank as a space
* `Filter.withoutComment`: a line up to its first unquoted number sign
* `Filter.Split`, `Filter.splitQuoted`: arguments that may be quoted
* `Filter.detachOperator`: an operator written against the first argument as a token of its own
* `Filter.Shape`, `Filter.shapeOf`: the parts of a line
-/

namespace LootLedger.Filter

open Text (Chars)

/-- The line with a space for every blank. -/
def spaced (line : Chars) : Chars :=
  line.map fun c => if Text.isBlank c then ' ' else c

/-- The rest of a line up to the first number sign outside quotes; `quoted` says whether the rest
begins inside quotes. -/
def withoutCommentFrom (quoted : Bool) : Chars → Chars
  | [] => []
  | c :: s =>
    if c = '"' then c :: withoutCommentFrom (!quoted) s
    else if c = '#' ∧ quoted = false then []
    else c :: withoutCommentFrom quoted s

/-- The line up to the first number sign outside quotes. -/
def withoutComment (line : Chars) : Chars :=
  withoutCommentFrom false line

/-! ### Quoted arguments -/

/-- Arguments with their quotes removed. -/
structure Split where
  tokens : List Chars
  /-- The number of quotes is odd. -/
  unterminated : Bool
  deriving DecidableEq, Repr

/-- A split with one more token in front, unless the token is empty. -/
def Split.push (token : Chars) (s : Split) : Split :=
  if token = [] then s else { s with tokens := token :: s.tokens }

/-- The arguments of a rest whose pending token is `pending`, last character first. -/
def splitQuotedFrom (quoted : Bool) (pending : Chars) : Chars → Split
  | [] => Split.push pending.reverse ⟨[], quoted⟩
  | c :: s =>
    if c = '"' then
      if quoted then (splitQuotedFrom false [] s).push pending.reverse
      else splitQuotedFrom true pending s
    else if Text.isBlank c ∧ quoted = false then
      (splitQuotedFrom false [] s).push pending.reverse
    else splitQuotedFrom quoted (c :: pending) s

/-- The arguments of a line. A token ends at a blank outside quotes and at a closing quote; empty
tokens are dropped; an open quote runs to the end. -/
def splitQuoted (s : Chars) : Split :=
  splitQuotedFrom false [] s

/-- The tokens, the first of them cut in two if an operator is written against it. -/
def detachOperator : List Chars → List Chars
  | [] => []
  | token :: tokens =>
    match Comparison.split? token with
    | some (op, c :: rest) => op.symbol.toList :: (c :: rest) :: tokens
    | _ => token :: tokens

/-! ### The parts of a line -/

/-- What a line is before its keyword is looked up. -/
inductive Shape
  | blank
  | comment
  /-- A keyword and the rest of the line, trimmed and without a comment. -/
  | code (keyword arguments : Chars)
  deriving DecidableEq, Repr

/-- The parts of a line. -/
def shapeOf (line : Chars) : Shape :=
  match Text.trim (spaced line) with
  | [] => .blank
  | '#' :: _ => .comment
  | s =>
    let code := Text.trim (withoutComment s)
    .code (code.takeWhile (· ≠ ' ')) (Text.trim (code.dropWhile (· ≠ ' ')))

end LootLedger.Filter
