import LootLedger.Text.Split

/-!
# Actions and styles

What a rule does with an item that meets its conditions. Only colours and the font size change
the style; sounds, icons and effects are checked and kept.

## Main definitions

* `Filter.Colour`, `Filter.displayFontSize`
* `Filter.Action`, `Filter.Action.keyword`, `Filter.Action.clashes`
* `Filter.Style`, `Filter.Style.apply`
-/

namespace LootLedger.Filter

open Text (Chars)

/-- A colour with its opacity. -/
structure Colour where
  red : UInt8
  green : UInt8
  blue : UInt8
  alpha : UInt8 := 255
  deriving DecidableEq, Repr

/-- The displayed size of a requested font size. Requests from 18 to 45, the nearest of which
stands for any other, are spread evenly over 25 to 50 and rounded to the nearest size; no request
lies half way between two. -/
def displayFontSize (requested : Nat) : Nat :=
  let offset := max 18 (min requested 45) - 18
  25 + (2 * 25 * offset + 27) / (2 * 27)

/-- The size of a minimap icon. -/
inductive IconSize
  | large
  | medium
  | small
  deriving DecidableEq, Repr

/-- An action of a rule. -/
inductive Action
  | backgroundColor (colour : Colour)
  | borderColor (colour : Colour)
  | textColor (colour : Colour)
  /-- The displayed size, not the requested one. -/
  | fontSize (size : Nat)
  | alertSound (sound : String) (volume : Option Nat) (positional : Bool)
  | customAlertSound (file : String)
  | disableDropSound
  | enableDropSound
  | noMinimapIcon
  | minimapIcon (size : IconSize) (colour shape : String)
  | playEffect (colour : String) (temporary : Bool)
  deriving DecidableEq, Repr

/-- The families of actions, by the keyword that introduces them. -/
inductive ActionKind
  | backgroundColor
  | borderColor
  | textColor
  | fontSize
  | alertSound (positional : Bool)
  | customAlertSound
  | disableDropSound
  | enableDropSound
  | minimapIcon
  | playEffect
  deriving DecidableEq, Repr

namespace ActionKind

/-- The keyword of the family. -/
def keyword : ActionKind → String
  | backgroundColor => "SetBackgroundColor"
  | borderColor => "SetBorderColor"
  | textColor => "SetTextColor"
  | fontSize => "SetFontSize"
  | alertSound false => "PlayAlertSound"
  | alertSound true => "PlayAlertSoundPositional"
  | customAlertSound => "CustomAlertSound"
  | disableDropSound => "DisableDropSound"
  | enableDropSound => "EnableDropSound"
  | minimapIcon => "MinimapIcon"
  | playEffect => "PlayEffect"

/-- All families, in the order in which their keywords are listed. -/
def all : List ActionKind :=
  [backgroundColor, borderColor, textColor, fontSize, alertSound false, alertSound true,
    customAlertSound, disableDropSound, enableDropSound, minimapIcon, playEffect]

/-- The family with the given keyword. -/
def ofKeyword? (word : Chars) : Option ActionKind :=
  all.find? fun kind => kind.keyword.toList = word

end ActionKind

namespace Action

/-- The family of an action. -/
def kind : Action → ActionKind
  | backgroundColor _ => .backgroundColor
  | borderColor _ => .borderColor
  | textColor _ => .textColor
  | fontSize _ => .fontSize
  | alertSound _ _ positional => .alertSound positional
  | customAlertSound _ => .customAlertSound
  | disableDropSound => .disableDropSound
  | enableDropSound => .enableDropSound
  | noMinimapIcon => .minimapIcon
  | minimapIcon _ _ _ => .minimapIcon
  | playEffect _ _ => .playEffect

/-- The keyword under which an action is written. -/
def keyword (a : Action) : String :=
  a.kind.keyword

/-- The action plays a sound. -/
def isSound : Action → Bool
  | alertSound _ _ _ => true
  | customAlertSound _ => true
  | _ => false

/-- Of two clashing actions in one rule only the later takes effect: any two sounds clash, and
other actions clash with their own kind. -/
def clashes (a b : Action) : Bool :=
  if a.isSound then b.isSound else !b.isSound && a.kind = b.kind

end Action

/-- The keywords of all actions. -/
def actionKeywords : List String :=
  ActionKind.all.map ActionKind.keyword

/-! ### Styles -/

/-- How an item is displayed, as far as rules have said so. -/
structure Style where
  background : Option Colour := none
  border : Option Colour := none
  text : Option Colour := none
  fontSize : Option Nat := none
  deriving DecidableEq, Repr

namespace Style

/-- The style after one action. -/
def applyOne (style : Style) : Action → Style
  | .backgroundColor c => { style with background := some c }
  | .borderColor c => { style with border := some c }
  | .textColor c => { style with text := some c }
  | .fontSize n => { style with fontSize := some n }
  | _ => style

/-- The style after some actions in turn; later ones win. -/
def apply (style : Style) (actions : List Action) : Style :=
  actions.foldl applyOne style

@[simp] theorem apply_nil (style : Style) : style.apply [] = style := rfl

theorem apply_append (style : Style) (as bs : List Action) :
    style.apply (as ++ bs) = (style.apply as).apply bs :=
  List.foldl_append

end Style

end LootLedger.Filter
