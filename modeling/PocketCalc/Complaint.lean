import PocketCalc.Text.Quoted

/-!
# Complaints about values that do not fit

A record is made from given values only if each of them fits its field.
Otherwise the complaints say which field is wrong and why, in the order of the
fields.
-/

namespace PocketCalc

/-- Why a value does not fit a field. -/
inductive Misfit where
  /-- A text that must have a character has none. -/
  | emptyText
  /-- The value was not given. -/
  | missing
  /-- An operator symbol is not known. -/
  | unknownOperator (symbol : Text)
  /-- A name is not that of a kind of failure. -/
  | unknownFailureKind
  /-- No file stands at a path. -/
  | notAFile
deriving DecidableEq

namespace Misfit

/-- The wording of a misfit. -/
def message : Misfit → Text
  | emptyText => "String should have at least 1 character"
  | missing => "Field required"
  | unknownOperator symbol =>
      "Value error, Unknown operator: " ++ Text.quoted symbol
  | unknownFailureKind =>
      "Input should be 'division_by_zero' or 'malformed_expression'"
  | notAFile => "Path does not point to a file"

end Misfit

/-- A field by its name, and why its value does not fit. -/
structure Complaint where
  field : String
  misfit : Misfit
deriving DecidableEq

namespace Complaint

/-- The wording of one complaint. -/
def message (complaint : Complaint) : Text :=
  complaint.field.toList ++ ": " ++ complaint.misfit.message

/-- The wording of all complaints about a record. -/
def messages (complaints : List Complaint) : Text :=
  Text.joined "; " (complaints.map message)

/-- The complaint about a text that must not be empty, if it is. -/
def ofEmpty (field : String) (text : Text) : List Complaint :=
  if text = [] then [⟨field, .emptyText⟩] else []

end Complaint

end PocketCalc
