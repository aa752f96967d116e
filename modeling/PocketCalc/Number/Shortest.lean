import PocketCalc.Number.Literal

/-!
# The shortest decimal fraction that reads back

Every finite number has decimal fractions to which it is the nearest number.
Among those with the fewest digits, the one closest to the number is its
shortest decimal.

The search takes one digit, then two, and so on up to seventeen.  On the grid
of that many digits only the two neighbours of the number can be hits.  A hit
is recognised by reading it back, so what is found always denotes the number
it was found for; should no grid have a hit, the exact decimal expansion
answers.
-/

namespace PocketCalc

namespace Magnitude

/--
A power of ten that makes every positive magnitude at least one, used to count
the digits before the point.
-/
def liftExponent : Nat := 350

/--
The place of the decimal point of a positive magnitude: the power of ten `p`
with 10 ^ (p - 1) ≤ magnitude < 10 ^ p.
-/
def place (magnitude : Magnitude) : Int :=
  (Text.numeral
    (magnitude.count * 10 ^ liftExponent / quantaPerUnit)).length - liftExponent

/-- The decimal fraction that is exactly the magnitude. -/
def exactDecimal (magnitude : Magnitude) : Decimal where
  digits := magnitude.count * 5 ^ unitExponent
  exponent := -unitExponent

/-- Whether a decimal fraction denotes the magnitude. -/
def denotedBy (magnitude : Magnitude) (decimal : Decimal) : Bool :=
  Binary64.ofDecimal false decimal = .finite false magnitude

/--
The neighbour of a magnitude on the decimal grid of `precision` digits that
denotes it; of two such neighbours the closer one, and the even one when both
are equally close.
-/
def gridHit? (magnitude : Magnitude) (precision : Nat) : Option Decimal :=
  let exponent := magnitude.place - precision
  let numerator := magnitude.count * 10 ^ (-exponent).toNat
  let denominator := quantaPerUnit * 10 ^ exponent.toNat
  let below := numerator / denominator
  let nearest := roundHalfEven numerator denominator
  let other := if nearest = below then below + 1 else below
  if magnitude.denotedBy ⟨nearest, exponent⟩ then
    some ⟨nearest, exponent⟩
  else if magnitude.denotedBy ⟨other, exponent⟩ then
    some ⟨other, exponent⟩
  else
    none

/-- The most digits that the search tries. -/
def maximalPrecision : Nat := 17

/-- The shortest decimal fraction that denotes a magnitude. -/
def shortestDecimal (magnitude : Magnitude) : Decimal :=
  if magnitude.count = 0 then
    ⟨0, 0⟩
  else
    ((List.range maximalPrecision).findSome? fun fewer =>
      magnitude.gridHit? (fewer + 1)).getD magnitude.exactDecimal

end Magnitude

end PocketCalc
