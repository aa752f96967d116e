import PocketCalc.Text.Basic
import PocketCalc.Number.Binary64

/-!
# Decimal fractions and the numbers nearest to them

A decimal fraction is a natural number of digits times a power of ten.  Its
*place* says where the decimal point stands: a fraction of place `p` is written
as 0.d₁d₂… × 10 ^ p.  The place decides the order of size of the fraction, so
fractions far outside the range of numbers are settled without computing a
large power.
-/

namespace PocketCalc

/-- The value `digits * 10 ^ exponent`. -/
structure Decimal where
  digits : Nat
  exponent : Int
deriving DecidableEq

namespace Decimal

/-- The place of the decimal point before the first digit. -/
def place (decimal : Decimal) : Int :=
  decimal.exponent + (Text.numeral decimal.digits).length

/--
The digits that matter: all of them but the zeros at the end.  Zero keeps one
digit.
-/
def significantDigits (decimal : Decimal) : Text :=
  if decimal.digits = 0 then
    ['0']
  else
    ((Text.numeral decimal.digits).reverse.dropWhile (· = '0')).reverse

end Decimal

namespace Binary64

/-- From this place on a nonzero decimal fraction is larger than every number. -/
def placeAboveRange : Int := 400

/-- Up to this place a decimal fraction is nearer to zero than to any other number. -/
def placeBelowRange : Int := -400

/--
The number nearest to a decimal fraction.  The power of ten multiplies the
numerator or the denominator of one exact quotient, which is rounded once.
-/
def ofDecimal (negative : Bool) (decimal : Decimal) : Binary64 :=
  if decimal.digits = 0 then
    zero negative
  else if placeAboveRange ≤ decimal.place then
    .infinite negative
  else if decimal.place ≤ placeBelowRange then
    zero negative
  else
    ofQuotient negative
      (decimal.digits * quantaPerUnit * 10 ^ decimal.exponent.toNat)
      (10 ^ (-decimal.exponent).toNat)

end Binary64

end PocketCalc
