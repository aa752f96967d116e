import PocketCalc.Number.Decimal

/-!
# Decimal literals

A literal is a run of digits with at most one point and at least one digit,
perhaps with a sign before it and an exponent after it.  Reading a literal
gives its sign and its decimal fraction; the number it denotes is the nearest
one.
-/

namespace PocketCalc

/-- A literal taken apart. -/
structure Literal where
  negative : Bool
  decimal : Decimal
deriving DecidableEq

namespace Literal

/-- Whether a character is the sign of a literal or of its exponent. -/
def isSign (character : Char) : Bool :=
  character = '+' || character = '-'

/-- Whether a character opens an exponent. -/
def isExponentMark (character : Char) : Bool :=
  character = 'e' || character = 'E'

/-- Take a sign off the front of a text; without one the sign is positive. -/
def splitSign : Text → Bool × Text
  | '-' :: rest => (true, rest)
  | '+' :: rest => (false, rest)
  | text => (false, text)

/--
The exponent that a text after the digits stands for: none written is zero,
otherwise a mark, a sign and at least one digit up to the end.
-/
def exponent? : Text → Option Int
  | [] => some 0
  | mark :: rest =>
      let (negative, digits) := splitSign rest
      if isExponentMark mark && !digits.isEmpty && digits.all Char.isDigit then
        let size : Int := Text.numeralValue digits
        some (if negative then -size else size)
      else
        none

/-- The digits after a point at the front of a text, and what follows them. -/
def splitFraction : Text → Text × Text
  | '.' :: rest => (rest.takeWhile Char.isDigit, rest.dropWhile Char.isDigit)
  | text => ([], text)

/--
Read a literal: sign, whole digits, fraction digits, exponent.  Every fraction
digit lowers the exponent by one.
-/
def read? (text : Text) : Option Literal :=
  let (negative, unsigned) := splitSign text
  let whole := unsigned.takeWhile Char.isDigit
  let (fraction, rest) := splitFraction (unsigned.dropWhile Char.isDigit)
  if whole.isEmpty && fraction.isEmpty then
    none
  else
    (exponent? rest).map fun exponent =>
      { negative
        decimal :=
          { digits := Text.numeralValue (whole ++ fraction)
            exponent := exponent - fraction.length } }

/-- The number nearest to a literal. -/
def value (literal : Literal) : Binary64 :=
  .ofDecimal literal.negative literal.decimal

end Literal

namespace Binary64

/-- The number that a literal denotes, if the text is one. -/
def ofLiteral? (text : Text) : Option Binary64 :=
  (Literal.read? text).map Literal.value

end Binary64

end PocketCalc
