import PocketCalc.Complaint
import PocketCalc.Expression.Scan
import PocketCalc.Number.Display

/-!
# Outcomes of an evaluation

An evaluation has a value or fails for a cause.  A cause belongs to one of two
kinds, division by zero or a malformed expression, and its wording is for logs.
-/

namespace PocketCalc

/-- The two kinds of failure. -/
inductive FailureKind where
  | divisionByZero
  | malformedExpression
deriving DecidableEq

namespace FailureKind

/-- The name of a kind. -/
def name : FailureKind → String
  | divisionByZero => "division_by_zero"
  | malformedExpression => "malformed_expression"

/-- The kind that a text names. -/
def ofName? (text : Text) : Option FailureKind :=
  [divisionByZero, malformedExpression].find? fun kind =>
    kind.name.toList = text

end FailureKind

/-- Why an evaluation has no value. -/
inductive FailureCause where
  /-- The expression cannot be read. -/
  | unreadable (fault : ScanFault)
  /-- The operators do not stand one between each two operands. -/
  | unbalanced (operators numbers : Nat)
  /-- The running value was to be divided by zero. -/
  | divisionByZero (running : Binary64) (symbol : Text)
  /-- An operation has no result. -/
  | arithmetic (fault : ArithmeticFault)
deriving DecidableEq

namespace FailureCause

/-- The kind of a cause: only a division by zero is one. -/
def kind : FailureCause → FailureKind
  | divisionByZero _ _ => .divisionByZero
  | _ => .malformedExpression

/-- The wording of a cause. -/
def message : FailureCause → Text
  | unreadable fault => fault.message
  | unbalanced operators numbers =>
      Text.numeral operators ++ " operator(s) for " ++
        Text.numeral numbers ++ " number(s)"
  | divisionByZero running symbol =>
      running.render ++ [' '] ++ symbol ++ [' ', '0']
  | arithmetic fault => fault.message.toList

end FailureCause

/-- What an evaluation comes to. -/
inductive Outcome where
  | value (number : Binary64)
  | failure (cause : FailureCause)
deriving DecidableEq

/-- A failure as it is reported: its kind and its wording. -/
structure Failure where
  kind : FailureKind
  message : Text
deriving DecidableEq

namespace Failure

/-- The report of a cause. -/
def ofCause (cause : FailureCause) : Failure where
  kind := cause.kind
  message := cause.message

/--
A report made from given fields: the name of a kind, which must be given, and
a message, which is empty if none is given.
-/
def ofFields?
    (kind : Option Text)
    (message : Option Text) :
    Except (List Complaint) Failure :=
  match kind with
  | none => .error [⟨"error", .missing⟩]
  | some name =>
      match FailureKind.ofName? name with
      | none => .error [⟨"error", .unknownFailureKind⟩]
      | some kind => .ok ⟨kind, message.getD []⟩

end Failure

end PocketCalc
