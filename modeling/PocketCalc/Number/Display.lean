import PocketCalc.Number.Shortest

/-!
# Numbers as text

A number is written with its shortest decimal digits.  Numbers of moderate size
are written positionally and always keep a point; the others are written with
an exponent.

The display of the calculator differs in one respect only: a whole number that
fits a signed 64-bit integer is shown as an integer, without sign if it is zero.
-/

namespace PocketCalc

/--
How decimal digits are laid out: positionally for decimal exponents from
`lowest` on and below `limit`, otherwise with an exponent of at least
`exponentWidth` digits.
-/
structure DecimalLayout where
  lowest : Int
  limit : Int
  exponentWidth : Nat

namespace DecimalLayout

/-- The layout of all numbers in messages and on the display. -/
def standard : DecimalLayout where
  lowest := -4
  limit := 16
  exponentWidth := 2

/-- Digits with the point where it belongs, and a zero on an empty side of it. -/
def positional (digits : Text) (place : Int) : Text :=
  let whole := place.toNat
  if whole = 0 then
    ['0', '.'] ++ List.replicate (-place).toNat '0' ++ digits
  else if digits.length ≤ whole then
    digits ++ List.replicate (whole - digits.length) '0' ++ ['.', '0']
  else
    digits.take whole ++ ['.'] ++ digits.drop whole

/-- One digit, a point if more digits follow, and a signed exponent. -/
def scientific (layout : DecimalLayout) (digits : Text) (place : Int) : Text :=
  let exponent := place - 1
  let size := List.leftpad layout.exponentWidth '0'
    (Text.numeral exponent.natAbs)
  let sign := if exponent < 0 then '-' else '+'
  let leading := match digits with
    | first :: second :: rest => first :: '.' :: second :: rest
    | _ => digits
  leading ++ 'e' :: sign :: size

/-- The text of a decimal fraction. -/
def render (layout : DecimalLayout) (decimal : Decimal) : Text :=
  let digits := decimal.significantDigits
  let exponent := decimal.place - 1
  if layout.lowest ≤ exponent ∧ exponent < layout.limit then
    positional digits decimal.place
  else
    layout.scientific digits decimal.place

theorem positional_ne_nil (digits : Text) (place : Int) :
    positional digits place ≠ [] := by
  unfold positional
  dsimp only
  split
  · simp
  · split <;> simp

theorem render_ne_nil (layout : DecimalLayout) (decimal : Decimal) :
    layout.render decimal ≠ [] := by
  unfold render
  dsimp only
  split
  · exact positional_ne_nil _ _
  · simp [scientific]

end DecimalLayout

namespace Binary64

/-- A text with a minus before it if it is negative. -/
def signed (negative : Bool) (text : Text) : Text :=
  if negative then '-' :: text else text

/-- The text of a number in lists and messages. -/
def render : Binary64 → Text
  | .nan => ['n', 'a', 'n']
  | .infinite negative => signed negative ['i', 'n', 'f']
  | .finite negative magnitude =>
      signed negative (DecimalLayout.standard.render magnitude.shortestDecimal)

/-- The first natural number that is too large for a signed 64-bit integer. -/
def integerLimit : Nat := 2 ^ (63 : Nat)

/--
The integer that a number is, if it is whole and fits 64 bits with a sign.
The negative range reaches one further than the positive one.
-/
def integer? : Binary64 → Option Int
  | .finite negative magnitude =>
      let whole := magnitude.count / quantaPerUnit
      if magnitude.count % quantaPerUnit = 0 ∧
          (whole < integerLimit ∨ (negative ∧ whole = integerLimit)) then
        some (if negative then -(whole : Int) else whole)
      else
        none
  | _ => none

/-- The text of an integer. -/
def renderInteger (value : Int) : Text :=
  signed (value < 0) (Text.numeral value.natAbs)

/-- The text of a number on the display. -/
def display (value : Binary64) : Text :=
  match value.integer? with
  | some integer => renderInteger integer
  | none => value.render

/-! ## The display is never empty -/

theorem renderInteger_ne_nil (value : Int) : renderInteger value ≠ [] := by
  unfold renderInteger signed
  split
  · exact List.cons_ne_nil _ _
  · exact Text.numeral_ne_nil _

theorem signed_ne_nil
    {negative : Bool}
    {text : Text}
    (nonempty : text ≠ []) :
    signed negative text ≠ [] := by
  unfold signed
  split
  · exact List.cons_ne_nil _ _
  · exact nonempty

theorem render_ne_nil (value : Binary64) : value.render ≠ [] := by
  cases value with
  | nan => exact List.cons_ne_nil _ _
  | infinite negative => exact signed_ne_nil (List.cons_ne_nil _ _)
  | finite negative magnitude =>
      exact signed_ne_nil (DecimalLayout.render_ne_nil _ _)

theorem display_ne_nil (value : Binary64) : value.display ≠ [] := by
  unfold display
  split
  · exact renderInteger_ne_nil _
  · exact render_ne_nil value

/-! ## Reading -/

/--
Read any text that `render` writes, the names of infinity and of no number
included.
-/
def read? (text : Text) : Option Binary64 :=
  let (negative, unsigned) := Literal.splitSign text
  if unsigned = ['n', 'a', 'n'] then
    some .nan
  else if unsigned = ['i', 'n', 'f'] then
    some (.infinite negative)
  else
    ofLiteral? text

end Binary64

end PocketCalc
