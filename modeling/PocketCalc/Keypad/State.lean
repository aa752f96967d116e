import PocketCalc.Complaint

/-!
# The state of a calculator

Between two keys a calculator remembers the expression typed so far, whether
the display shows the answer of an equals key, and its history.

A calculation that came to a result is remembered as the expression that was
shown and the result text; neither is empty.  The history lists calculations
from the newest to the oldest.
-/

namespace PocketCalc

/-- An expression and the text of its result. -/
structure Calculation where
  expression : Text
  result : Text
  expression_ne_nil : expression ≠ []
  result_ne_nil : result ≠ []
deriving DecidableEq

namespace Calculation

/-- The calculation with given texts, or the complaints about empty ones. -/
def ofTexts? (expression result : Text) :
    Except (List Complaint) Calculation :=
  if texts : expression ≠ [] ∧ result ≠ [] then
    .ok
      { expression := expression
        result := result
        expression_ne_nil := texts.1
        result_ne_nil := texts.2 }
  else
    .error
      (Complaint.ofEmpty "expression" expression ++
        Complaint.ofEmpty "result" result)

/-- A calculation as a line of the history. -/
def line (calculation : Calculation) : Text :=
  calculation.expression ++ [' ', '=', ' '] ++ calculation.result

end Calculation

/-- The calculations so far, the newest first. -/
abbrev History := List Calculation

namespace History

/-- Put a new calculation in front, if its texts are not empty. -/
def record (history : History) (expression result : Text) :
    Except (List Complaint) (Calculation × History) :=
  (Calculation.ofTexts? expression result).map fun calculation =>
    (calculation, calculation :: history)

/-- The lines of a history, the newest first. -/
def lines (history : History) : List Text :=
  history.map Calculation.line

/-- The history with the given pairs of texts, the newest first. -/
def ofTexts? : List (Text × Text) → Except (List Complaint) History
  | [] => .ok []
  | (expression, result) :: rest =>
      match Calculation.ofTexts? expression result with
      | .error complaints => .error complaints
      | .ok calculation => (ofTexts? rest).map (calculation :: ·)

end History

/-- What a calculator remembers between two keys. -/
structure State where
  expression : Text := []
  justEvaluated : Bool := false
  history : History := []
deriving DecidableEq

namespace State

/-- The text on the display: the expression, or a zero if there is none. -/
def display (state : State) : Text :=
  if state.expression = [] then ['0'] else state.expression

end State

end PocketCalc
