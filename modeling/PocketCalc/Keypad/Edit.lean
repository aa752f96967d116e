import PocketCalc.Keypad.Key
import PocketCalc.Keypad.State
import PocketCalc.Notice

/-!
# Editing the expression

Edits work on the text of the expression alone; whether it makes sense is found
out when it is evaluated.  Directly after an equals key a number key starts a
new expression, while an operator key goes on from the answer.

Changing the sign replaces the run of digits at the end of the expression as
the text of the opposite number.
-/

namespace PocketCalc

/-- A token that is neither a number key nor an operator key. -/
structure NotAppendable where
  token : Text
deriving DecidableEq

namespace NotAppendable

/-- The wording of the refusal. -/
def message (refusal : NotAppendable) : Text :=
  "Cannot append token: " ++ Text.quoted refusal.token

end NotAppendable

/--
The longest run at the end of a reversed text that has only digits and at most
one point, in the order of the text.
-/
def trailingRun (pointAllowed : Bool) (run : Text) : Text → Text
  | [] => run
  | character :: before =>
      if character = '.' then
        if pointAllowed then trailingRun false (character :: run) before else run
      else if character.isDigit then
        trailingRun pointAllowed (character :: run) before
      else
        run

/-- The number at the end of an expression, if it ends with a digit or point. -/
def trailingNumber? (expression : Text) : Option Text :=
  match trailingRun true [] expression.reverse with
  | [] => none
  | run => some run

namespace State

/-- Append a number key or an operator key. -/
def append (state : State) (token : Text) : Except NotAppendable State :=
  if Key.isNumber token || Key.isOperator token then
    let kept := if state.justEvaluated && Key.isNumber token then []
      else state.expression
    .ok
      { state with
        expression := kept ++ token
        justEvaluated := false }
  else
    .error ⟨token⟩

/-- Forget the expression. -/
def clear (state : State) : State :=
  { state with
    expression := []
    justEvaluated := false }

/-- Drop the last character of the expression; without one nothing changes. -/
def backspace (state : State) : State :=
  if state.expression = [] then
    state
  else
    { state with
      expression := state.expression.dropLast
      justEvaluated := false }

/--
Change the sign of the number at the end of the expression.  Nothing changes
without such a number or directly after an equals key.
-/
def toggleSign (state : State) : State × List Notice :=
  if state.expression = [] ∨ state.justEvaluated then
    (state, [])
  else
    match trailingNumber? state.expression with
    | none => (state, [])
    | some run =>
        match Binary64.ofLiteral? run with
        | none => (state, [.notToggled run])
        | some value =>
            let before :=
              state.expression.take (state.expression.length - run.length)
            ({ state with expression := before ++ value.neg.display }, [])

/-- What a control key does that only edits the expression. -/
def editing? : Control → Option (State → State × List Notice)
  | .clear => some fun state => (state.clear, [])
  | .backspace => some fun state => (state.backspace, [])
  | .toggleSign => some toggleSign
  | .equals => none

end State

end PocketCalc
