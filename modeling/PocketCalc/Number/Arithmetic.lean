import PocketCalc.Number.Binary64

/-!
# Arithmetic of binary floating-point numbers

Each operation computes its exact result on counts of quanta and rounds it
once.  Infinities and the number that is not a number follow the usual rules:
opposite infinities cancel to no number, and so do zero times infinity, zero
over zero and infinity over infinity.

The remainder is the one of truncated division.  A zero divisor gives no
number, and an infinite dividend has no remainder at all, which is the only
fault that an operation can have.
-/

namespace PocketCalc

namespace Binary64

/-- The same number with the other sign. -/
def neg : Binary64 → Binary64
  | .nan => .nan
  | .infinite negative => .infinite (!negative)
  | .finite negative magnitude => .finite (!negative) magnitude

/-- A count of quanta with its sign. -/
def signedCount (negative : Bool) (magnitude : Magnitude) : Int :=
  if negative then -(magnitude.count : Int) else magnitude.count

/--
The sum.  Two finite numbers that cancel leave a positive zero, unless both
are negative zeros.
-/
def add : Binary64 → Binary64 → Binary64
  | .nan, _ => .nan
  | _, .nan => .nan
  | .infinite left, .infinite right =>
      if left = right then .infinite left else .nan
  | .infinite left, .finite _ _ => .infinite left
  | .finite _ _, .infinite right => .infinite right
  | .finite leftSign left, .finite rightSign right =>
      let total := signedCount leftSign left + signedCount rightSign right
      if total = 0 then
        zero (leftSign && rightSign)
      else
        ofQuotient (total < 0) total.natAbs 1

/-- The difference: the sum with the opposite number. -/
def sub (left right : Binary64) : Binary64 :=
  add left (neg right)

/-- The product. -/
def mul : Binary64 → Binary64 → Binary64
  | .nan, _ => .nan
  | _, .nan => .nan
  | .infinite left, .infinite right => .infinite (left != right)
  | .infinite left, .finite rightSign right =>
      if right.count = 0 then .nan else .infinite (left != rightSign)
  | .finite leftSign left, .infinite right =>
      if left.count = 0 then .nan else .infinite (leftSign != right)
  | .finite leftSign left, .finite rightSign right =>
      ofQuotient (leftSign != rightSign)
        (left.count * right.count) quantaPerUnit

/-- The quotient; a finite number over zero is infinite. -/
def div : Binary64 → Binary64 → Binary64
  | .nan, _ => .nan
  | _, .nan => .nan
  | .infinite _, .infinite _ => .nan
  | .infinite left, .finite rightSign _ => .infinite (left != rightSign)
  | .finite leftSign _, .infinite right => zero (leftSign != right)
  | .finite leftSign left, .finite rightSign right =>
      if right.count = 0 then
        if left.count = 0 then .nan else .infinite (leftSign != rightSign)
      else
        ofQuotient (leftSign != rightSign)
          (left.count * quantaPerUnit) right.count

end Binary64

/-- Why an operation on two numbers has no result. -/
inductive ArithmeticFault where
  /-- The remainder of an infinite dividend was asked for. -/
  | infiniteDividend
deriving DecidableEq

namespace ArithmeticFault

/-- The wording of a fault. -/
def message : ArithmeticFault → String
  | .infiniteDividend => "math domain error"

end ArithmeticFault

namespace Binary64

/--
The remainder of truncated division, with the sign of the dividend.  A zero
divisor gives no number, before anything else is looked at.
-/
def remainder : Binary64 → Binary64 → Except ArithmeticFault Binary64
  | dividend, divisor =>
      if divisor.isZero then
        .ok .nan
      else
        match dividend, divisor with
        | .nan, _ => .ok .nan
        | _, .nan => .ok .nan
        | .infinite _, _ => .error .infiniteDividend
        | .finite sign magnitude, .infinite _ => .ok (.finite sign magnitude)
        | .finite sign left, .finite _ right =>
            .ok (ofQuotient sign (left.count % right.count) 1)

end Binary64

end PocketCalc
