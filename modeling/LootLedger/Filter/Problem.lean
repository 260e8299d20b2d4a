import LootLedger.Text.Number

/-!
# Problems in filter documents

What can be wrong with a line, and what is merely odd. A problem keeps its cause and the token it
was found at; the wording is in one place.

## Main definitions

* `Filter.Problem`, `Filter.Problem.message`
* `Filter.Oddity`, `Filter.Oddity.message`
* `Filter.AtLine`: a diagnostic with its line
-/

namespace LootLedger.Filter

open Text (Chars)

/-- The arguments that a keyword takes, where their number is fixed. -/
inductive Arity
  | nothing
  | operatorAndValue
  | boolean
  | rarityAfterOperator
  | colour
  | oneValue
  | soundAndVolume
  | fileName
  | icon
  | effect
  deriving DecidableEq, Repr

/-- The arguments in words. -/
def Arity.description : Arity → String
  | nothing => "no arguments"
  | operatorAndValue => "an optional operator and one value"
  | boolean => "True or False"
  | rarityAfterOperator => "one rarity after an operator"
  | colour => "3 or 4 values"
  | oneValue => "one value"
  | soundAndVolume => "a sound and an optional volume"
  | fileName => "one file name"
  | icon => "-1 or a size, colour and shape"
  | effect => "a colour and an optional Temp"

/-- A reason to refuse a line, or to refuse matching. -/
inductive Problem
  /-- The first word is no keyword; the nearest keyword, if one is near. -/
  | unknownKeyword (keyword : String) (suggestion : Option String)
  /-- A condition or an action before any block. -/
  | noOpenRule (keyword : String)
  | continueOutsideRule
  | unexpectedEndOfLine (keyword : String)
  | argumentCount (keyword : String) (expected : Arity) (found : Nat)
  | invalidNumber (token : String)
  | invalidBoolean (token : String)
  | invalidRarity (token : String)
  | invalidOperator (token : String)
  | unterminatedString
  | invalidSocketSpec (token : String)
  | invalidInfluence (token : String)
  /-- A colour component above 255. -/
  | invalidColor (token : String)
  | invalidArgument (keyword token : String)
  | invalidSocketMode (mode : String)
  /-- A filter was asked about an item before it was told the area level. -/
  | areaLevelNotSet
  deriving DecidableEq, Repr

/-- The problem in words. -/
def Problem.message : Problem → String
  | unknownKeyword keyword none => "unknown keyword: " ++ keyword
  | unknownKeyword keyword (some s) =>
    "unknown keyword: " ++ keyword ++ " (did you mean '" ++ s ++ "'?)"
  | noOpenRule keyword => keyword ++ " outside of a Show/Hide block"
  | continueOutsideRule => "Continue outside of a Show/Hide block"
  | unexpectedEndOfLine keyword => "unexpected end of line after " ++ keyword
  | argumentCount keyword expected found =>
    keyword ++ " expects " ++ expected.description ++ ", got " ++
      String.ofList (Text.digits found) ++ " argument(s)"
  | invalidNumber token => "invalid number: " ++ token
  | invalidBoolean token => "expected True or False, got " ++ token
  | invalidRarity token => "invalid rarity: " ++ token
  | invalidOperator token => "invalid operator: " ++ token
  | unterminatedString => "unterminated quoted string"
  | invalidSocketSpec token => "invalid socket group: " ++ token
  | invalidInfluence token => "invalid influence: " ++ token
  | invalidColor token => "invalid colour component: " ++ token ++ " (expected 0-255)"
  | invalidArgument keyword token => "invalid argument for " ++ keyword ++ ": " ++ token
  | invalidSocketMode mode => "invalid socket group mode: " ++ mode
  | areaLevelNotSet => "area level must be set before matching"

/-- Something that is accepted but hides an earlier line of its block. -/
inductive Oddity
  /-- A block with several sounds; the keyword is that of the sound that counts. -/
  | multipleSounds (keyword : String)
  | duplicateAction (keyword : String)
  deriving DecidableEq, Repr

/-- The oddity in words. -/
def Oddity.message : Oddity → String
  | multipleSounds keyword =>
    "multiple alert sounds in one block, only the last one (" ++ keyword ++ ") is used"
  | duplicateAction keyword =>
    keyword ++ " set more than once in one block, only the last value is used"

/-- A diagnostic with its line, counted from zero. -/
structure AtLine (α : Type) where
  line : Nat
  what : α
  deriving DecidableEq, Repr

/-- The wording of a diagnostic, its line counted from one as editors do. -/
def AtLine.message (message : α → String) (d : AtLine α) : String :=
  "line " ++ String.ofList (Text.digits (d.line + 1)) ++ ": " ++ message d.what

end LootLedger.Filter
