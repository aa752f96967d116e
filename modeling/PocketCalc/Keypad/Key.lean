import PocketCalc.Text.Basic

/-!
# Keys

A key is known by its token.  Digits and the decimal point are number keys;
operators have keys with their display glyphs, the minus one in two spellings.
The other keys are controls, each with a name and a label.
-/

namespace PocketCalc

namespace Key

/-- The characters of the number keys. -/
def numberRow : Text :=
  ['0', '1', '2', '3', '4', '5', '6', '7', '8', '9', '.']

/-- The characters of the operator keys. -/
def operatorRow : Text :=
  ['+', '-', '−', '×', '÷', '%']

/-- Whether a token is a digit or the decimal point. -/
def isNumber : Text → Bool
  | [character] => numberRow.contains character
  | _ => false

/-- Whether a token is an operator key. -/
def isOperator : Text → Bool
  | [character] => operatorRow.contains character
  | _ => false

end Key

/-- The keys that do not stand for a character. -/
inductive Control where
  | equals
  | clear
  | backspace
  | toggleSign
deriving DecidableEq

namespace Control

/-- All control keys. -/
def all : List Control :=
  [equals, clear, backspace, toggleSign]

/-- The name of a control key. -/
def name : Control → String
  | equals => "equals"
  | clear => "clear"
  | backspace => "backspace"
  | toggleSign => "toggleSign"

/-- The label of a control key on the keypad. -/
def label : Control → String
  | equals => "="
  | clear => "C"
  | backspace => "←"
  | toggleSign => "±"

/-- The control key that a token means, by its name or its label. -/
def ofToken? (token : Text) : Option Control :=
  all.find? fun control =>
    control.name.toList = token || control.label.toList = token

end Control

end PocketCalc
