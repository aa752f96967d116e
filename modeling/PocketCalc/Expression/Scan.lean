import PocketCalc.Expression.Operator
import PocketCalc.Number.Literal

/-!
# Scanning an expression

An expression is read from left to right into operands and operators.  The
characters of the operand under way are kept pending until an operator or the
end of the text completes it; only then is it read as a number.

A minus is the sign of the coming operand when an operand is expected, none is
under way, and a digit or point follows.  A plus or minus directly after an
exponent mark belongs to the exponent.  In every other place both are
operators.  An exponent mark is taken only directly after a digit or point.
-/

namespace PocketCalc

/-- Why an expression cannot be read. -/
inductive ScanFault where
  /-- The characters of an operand are not a number. -/
  | invalidNumber (characters : Text)
  /-- A character of the expression has no meaning where it stands. -/
  | unexpectedCharacter (character : Char) (expression : Text)
  /-- A symbol is not one that a token stream may carry. -/
  | unknownOperator (symbol : Text)
deriving DecidableEq

namespace ScanFault

/-- The wording of a fault. -/
def message : ScanFault → Text
  | invalidNumber characters => "Invalid number: " ++ Text.quoted characters
  | unexpectedCharacter character expression =>
      "Unexpected character " ++ Text.quoted [character] ++
        " in " ++ Text.quoted expression
  | unknownOperator symbol => "Unknown operator: " ++ Text.quoted symbol

end ScanFault

/-- Whether a character is a digit or the decimal point. -/
def isNumberCharacter (character : Char) : Bool :=
  character.isDigit || character = '.'

/--
What has been read so far: the finished operands and operators, the characters
of the operand under way, and whether an operand is expected next.
-/
structure Scanner where
  numbers : List Binary64
  operators : List Text
  pending : Text
  operandExpected : Bool
deriving DecidableEq

namespace Scanner

/-- Nothing read yet. -/
def start : Scanner where
  numbers := []
  operators := []
  pending := []
  operandExpected := true

/-- Whether the last pending character satisfies a test. -/
def endsWith (scanner : Scanner) (test : Char → Bool) : Bool :=
  scanner.pending.getLast?.any test

/-- The scanner with one more character pending. -/
def keep (scanner : Scanner) (character : Char) : Scanner :=
  { scanner with pending := scanner.pending ++ [character] }

/-- Complete the operand under way, if there is one. -/
def complete (scanner : Scanner) : Except ScanFault Scanner :=
  if scanner.pending.isEmpty then
    .ok scanner
  else
    match Binary64.ofLiteral? scanner.pending with
    | some number =>
        .ok
          { scanner with
            numbers := scanner.numbers ++ [number]
            pending := [] }
    | none => .error (.invalidNumber scanner.pending)

/-- Record an operator, after which an operand is expected. -/
def record (scanner : Scanner) (character : Char) : Scanner :=
  { scanner with
    operators := scanner.operators ++ [[character]]
    operandExpected := true }

/-- Whether a minus before `next` is the sign of the coming operand. -/
def takesSign (scanner : Scanner) (next : Option Char) : Bool :=
  scanner.pending.isEmpty && scanner.operandExpected &&
    next.any isNumberCharacter

/-- Read one character of an expression, seeing the one after it. -/
def step
    (expression : Text)
    (scanner : Scanner)
    (character : Char)
    (next : Option Char) :
    Except ScanFault Scanner :=
  if isNumberCharacter character then
    .ok { scanner.keep character with operandExpected := false }
  else if Literal.isExponentMark character &&
      scanner.endsWith isNumberCharacter then
    .ok (scanner.keep character)
  else if Literal.isSign character &&
      scanner.endsWith Literal.isExponentMark then
    .ok (scanner.keep character)
  else if Operator.isSymbol character then
    if character = '-' && scanner.takesSign next then
      .ok (scanner.keep character)
    else
      scanner.complete.map (record · character)
  else
    .error (.unexpectedCharacter character expression)

/-- Read the rest of an expression. -/
def run (expression : Text) (scanner : Scanner) :
    Text → Except ScanFault Scanner
  | [] => scanner.complete
  | character :: rest =>
      match scanner.step expression character rest.head? with
      | .ok next => next.run expression rest
      | .error fault => .error fault

end Scanner

/-- The token stream of an expression that uses operator symbols only. -/
def tokenize (expression : Text) : Except ScanFault TokenStream :=
  match Scanner.start.run expression expression with
  | .error fault => .error fault
  | .ok scanner =>
      match TokenStream.ofParts? scanner.numbers scanner.operators with
      | .ok stream => .ok stream
      | .error symbol => .error (.unknownOperator symbol)

/-! ## Scanned operators are symbols of one character -/

namespace Scanner

/-- Every recorded operator is one of the five symbols. -/
def SymbolsOnly (scanner : Scanner) : Prop :=
  ∀ symbol ∈ scanner.operators,
    ∃ operator : Operator, symbol = [operator.symbol]

theorem start_symbolsOnly : start.SymbolsOnly := by
  simp [SymbolsOnly, start]

theorem complete_operators
    {scanner finished : Scanner}
    (completed : scanner.complete = .ok finished) :
    finished.operators = scanner.operators := by
  unfold complete at completed
  split at completed
  · cases completed
    rfl
  · split at completed
    · cases completed
      rfl
    · cases completed

theorem record_symbolsOnly
    {scanner : Scanner}
    {character : Char}
    (symbols : scanner.SymbolsOnly)
    (known : Operator.isSymbol character = true) :
    (scanner.record character).SymbolsOnly := by
  intro symbol member
  simp only [record, List.mem_append, List.mem_singleton] at member
  rcases member with earlier | rfl
  · exact symbols symbol earlier
  · obtain ⟨operator, equal⟩ := Operator.exists_symbol_eq known
    exact ⟨operator, by rw [equal]⟩

theorem step_symbolsOnly
    {expression : Text}
    {scanner following : Scanner}
    {character : Char}
    {next : Option Char}
    (symbols : scanner.SymbolsOnly)
    (stepped : scanner.step expression character next = .ok following) :
    following.SymbolsOnly := by
  unfold step at stepped
  split at stepped
  · cases stepped
    exact symbols
  split at stepped
  · cases stepped
    exact symbols
  split at stepped
  · cases stepped
    exact symbols
  split at stepped
  · rename_i known
    split at stepped
    · cases stepped
      exact symbols
    · cases completed : scanner.complete with
      | error fault =>
          rw [completed] at stepped
          cases stepped
      | ok finished =>
          rw [completed] at stepped
          cases stepped
          refine record_symbolsOnly ?_ known
          unfold SymbolsOnly
          rw [complete_operators completed]
          exact symbols
  · cases stepped

theorem run_symbolsOnly
    {expression : Text}
    {scanner finished : Scanner}
    {rest : Text}
    (symbols : scanner.SymbolsOnly)
    (ran : scanner.run expression rest = .ok finished) :
    finished.SymbolsOnly := by
  induction rest generalizing scanner with
  | nil =>
      unfold SymbolsOnly
      rw [complete_operators ran]
      exact symbols
  | cons character rest ih =>
      unfold run at ran
      split at ran
      · rename_i following stepped
        exact ih (step_symbolsOnly symbols stepped) ran
      · cases ran

end Scanner

/-- A scanned token stream carries only the five symbols of one character. -/
theorem tokenize_symbols
    {expression : Text}
    {stream : TokenStream}
    (tokenized : tokenize expression = .ok stream) :
    ∀ symbol ∈ stream.operators,
      ∃ operator : Operator, symbol = [operator.symbol] := by
  unfold tokenize at tokenized
  split at tokenized
  · cases tokenized
  · rename_i scanner ran
    have symbols := Scanner.run_symbolsOnly Scanner.start_symbolsOnly ran
    unfold TokenStream.ofParts? at tokenized
    split at tokenized
    · rename_i made
      split at made
      · cases made
      · cases made
        cases tokenized
        exact symbols
    · cases tokenized

end PocketCalc
