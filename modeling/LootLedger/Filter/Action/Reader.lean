import LootLedger.Filter.Action
import LootLedger.Filter.Arguments

/-!
# Reading actions

The arguments of each family of actions.

## Main definitions

* `Filter.ActionKind.read`: the action that the arguments of a keyword give
-/

namespace LootLedger.Filter

open Text (Chars)

/-- The colours of icons and effects. -/
def iconColours : List String :=
  ["Red", "Green", "Blue", "Brown", "White", "Yellow", "Cyan", "Grey", "Orange", "Pink", "Purple"]

/-- The shapes of icons. -/
def iconShapes : List String :=
  ["Circle", "Diamond", "Hexagon", "Square", "Star", "Triangle", "Cross", "Moon", "Raindrop",
    "Kite", "Pentagon", "UpsideDownHouse"]

/-- The loudest volume of an alert. -/
def maxVolume : Nat := 300

/-- A colour component. -/
def component (token : Chars) : Except Problem UInt8 := do
  let n ← number token
  if n.toNat ≤ 255 then return n.toUInt8 else throw (.invalidColor (String.ofList token))

/-- Three or four colour components; three make an opaque colour. -/
def readColour (keyword : String) (arguments : Chars) : Except Problem Colour :=
  match Text.words arguments with
  | [r, g, b] => return { red := ← component r, green := ← component g, blue := ← component b }
  | [r, g, b, a] =>
    return {
      red := ← component r
      green := ← component g
      blue := ← component b
      alpha := ← component a }
  | tokens => .error (.argumentCount keyword .colour tokens.length)

/-- A font size. -/
def readFontSize (keyword : String) (arguments : Chars) : Except Problem Action :=
  match Text.words arguments with
  | [] => .error (.unexpectedEndOfLine keyword)
  | [size] => return .fontSize (displayFontSize (← number size).toNat)
  | tokens => .error (.argumentCount keyword .oneValue tokens.length)

/-- A sound and a volume, or a sound alone. -/
def readAlertSound (keyword : String) (positional : Bool) (arguments : Chars) :
    Except Problem Action :=
  match Text.words arguments with
  | [] => .error (.unexpectedEndOfLine keyword)
  | [sound] => .ok (.alertSound (String.ofList sound) none positional)
  | [sound, volume] => do
    let volume := (← number volume).toNat
    if maxVolume < volume then
      throw (.invalidArgument keyword (String.ofList (Text.digits volume)))
    return .alertSound (String.ofList sound) (some volume) positional
  | tokens => .error (.argumentCount keyword .soundAndVolume tokens.length)

/-- The name of a sound file. -/
def readSoundFile (keyword : String) (arguments : Chars) : Except Problem Action := do
  match ← quotedTokens arguments with
  | [] => throw (.unexpectedEndOfLine keyword)
  | [file] => return .customAlertSound (String.ofList file)
  | tokens => throw (.argumentCount keyword .fileName tokens.length)

/-- An action without arguments. -/
def readBare (keyword : String) (action : Action) (arguments : Chars) : Except Problem Action :=
  match Text.words arguments with
  | [] => .ok action
  | tokens => .error (.argumentCount keyword .nothing tokens.length)

/-- The size of an icon. -/
def iconSize (keyword : String) (token : Chars) : Except Problem IconSize :=
  match token with
  | ['0'] => .ok .large
  | ['1'] => .ok .medium
  | ['2'] => .ok .small
  | _ => .error (.invalidArgument keyword (String.ofList token))

/-- Size, colour and shape of an icon, or minus one for no icon. -/
def readIcon (keyword : String) (arguments : Chars) : Except Problem Action :=
  match Text.words arguments with
  | [] => .error (.unexpectedEndOfLine keyword)
  | [['-', '1']] => .ok .noMinimapIcon
  | [size, colour, shape] => do
    let size ← iconSize keyword size
    let colour ← oneOf keyword iconColours colour
    let shape ← oneOf keyword iconShapes shape
    return .minimapIcon size colour shape
  | tokens => .error (.argumentCount keyword .icon tokens.length)

/-- The colour of an effect, or the word for none. -/
def effectColour (keyword : String) (token : Chars) : Except Problem String :=
  oneOf keyword ("None" :: iconColours) token

/-- The colour of an effect, and whether it lasts only while the item drops. -/
def readEffect (keyword : String) (arguments : Chars) : Except Problem Action :=
  match Text.words arguments with
  | [] => .error (.unexpectedEndOfLine keyword)
  | [colour] => return .playEffect (← effectColour keyword colour) false
  | [colour, mark] =>
    if mark = "Temp".toList then return .playEffect (← effectColour keyword colour) true
    else .error (.invalidArgument keyword (String.ofList mark))
  | tokens => .error (.argumentCount keyword .effect tokens.length)

/-- The action that the arguments of a keyword give. -/
def ActionKind.read (kind : ActionKind) (arguments : Chars) : Except Problem Action :=
  match kind with
  | .backgroundColor => return .backgroundColor (← readColour kind.keyword arguments)
  | .borderColor => return .borderColor (← readColour kind.keyword arguments)
  | .textColor => return .textColor (← readColour kind.keyword arguments)
  | .fontSize => readFontSize kind.keyword arguments
  | .alertSound positional => readAlertSound kind.keyword positional arguments
  | .customAlertSound => readSoundFile kind.keyword arguments
  | .disableDropSound => readBare kind.keyword .disableDropSound arguments
  | .enableDropSound => readBare kind.keyword .enableDropSound arguments
  | .minimapIcon => readIcon kind.keyword arguments
  | .playEffect => readEffect kind.keyword arguments

end LootLedger.Filter
