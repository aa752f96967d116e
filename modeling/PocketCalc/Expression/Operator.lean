import PocketCalc.Number.Arithmetic
import PocketCalc.Text.Quoted

/-!
# Operators

There are five operations on two numbers, each with a symbol of one character.
The display shows three of them by glyphs of their own, which stand for the
symbols when an expression is read.

A token stream may carry any text as a symbol that is a run of neighbours in
the row of all symbols; only the five symbols of one character have an
operation behind them.  The stream holds the operands and the symbols of an
expression, each in the order of the text; the first symbol that is not such a
run is reported.
-/

namespace PocketCalc

/-- Whether a text is a run of neighbours in another is decided by search. -/
scoped instance (priority := 2000) decidableRun (part whole : Text) :
    Decidable (part <:+: whole) :=
  List.instDecidableIsInfixOfDecidableEq part whole

/-- The operations of the calculator; none binds tighter than another. -/
inductive Operator where
  | add
  | subtract
  | multiply
  | divide
  | remainder
deriving DecidableEq

namespace Operator

/-- The row of all operator symbols. -/
def symbolRow : Text :=
  ['+', '-', '*', '/', '%']

/-- Whether a character is an operator symbol. -/
def isSymbol (character : Char) : Bool :=
  symbolRow.contains character

/-- The symbol of an operator. -/
def symbol : Operator → Char
  | add => '+'
  | subtract => '-'
  | multiply => '*'
  | divide => '/'
  | remainder => '%'

/-- The operator that a text names. -/
def ofSymbol? : Text → Option Operator
  | ['+'] => some add
  | ['-'] => some subtract
  | ['*'] => some multiply
  | ['/'] => some divide
  | ['%'] => some remainder
  | _ => none

theorem ofSymbol?_symbol (operator : Operator) :
    ofSymbol? [operator.symbol] = some operator := by
  cases operator <;> rfl

theorem exists_symbol_eq
    {character : Char}
    (known : isSymbol character = true) :
    ∃ operator : Operator, operator.symbol = character := by
  simp only [isSymbol, symbolRow, List.contains_eq_mem, List.mem_cons,
    List.not_mem_nil, or_false, decide_eq_true_eq] at known
  rcases known with rfl | rfl | rfl | rfl | rfl
  · exact ⟨add, rfl⟩
  · exact ⟨subtract, rfl⟩
  · exact ⟨multiply, rfl⟩
  · exact ⟨divide, rfl⟩
  · exact ⟨remainder, rfl⟩

/-- Whether a token stream may carry a symbol. -/
def accepts (symbol : Text) : Bool :=
  symbol <:+: symbolRow

/-- Whether the operand after a symbol must not be zero. -/
def divides (symbol : Text) : Bool :=
  symbol <:+: ['/']

/-- The result of an operation. -/
def apply :
    Operator → Binary64 → Binary64 → Except ArithmeticFault Binary64
  | add, left, right => .ok (left.add right)
  | subtract, left, right => .ok (left.sub right)
  | multiply, left, right => .ok (left.mul right)
  | divide, left, right => .ok (left.div right)
  | remainder, left, right => left.remainder right

end Operator

/-! ## Display glyphs -/

/-- The symbol that a display glyph stands for; other characters stay. -/
def plainCharacter : Char → Char
  | '×' => '*'
  | '÷' => '/'
  | '−' => '-'
  | character => character

/-- An expression with its display glyphs replaced by operator symbols. -/
def sanitize (expression : Text) : Text :=
  expression.map plainCharacter

/-! ## Token streams -/

/-- Operands and operator symbols in the order of the text. -/
structure TokenStream where
  numbers : List Binary64
  operators : List Text
  accepted : ∀ symbol ∈ operators, Operator.accepts symbol = true
deriving DecidableEq

namespace TokenStream

/-- The stream of given parts, or the first symbol that is not accepted. -/
def ofParts?
    (numbers : List Binary64)
    (operators : List Text) :
    Except Text TokenStream :=
  match unknown : operators.find? (!Operator.accepts ·) with
  | some symbol => .error symbol
  | none =>
      .ok
        { numbers := numbers
          operators := operators
          accepted := by
            intro symbol member
            have checked := List.find?_eq_none.mp unknown symbol member
            simpa using checked }

/-- Whether exactly one operator stands between each two operands. -/
def isBalanced (stream : TokenStream) : Bool :=
  stream.operators.length + 1 = stream.numbers.length

end TokenStream

end PocketCalc
