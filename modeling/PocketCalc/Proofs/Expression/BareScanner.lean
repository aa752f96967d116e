import PocketCalc.Proofs.Expression.Tokenization

/-!
# A scanner without flag

The flag of a scanner says whether an operand is expected.  It is read in one
place only: a minus can be a sign where an operand is expected and none is
under way.  A bare scanner has no such flag and asks only whether an operand is
under way.

Whenever none is, one is expected.  So forgetting the flag turns every step and
every run of a scanner into one of a bare scanner, and both tokenizers give the
same stream or the same fault for every expression.
-/

namespace PocketCalc

/--
What a bare scanner has read so far: the finished operands and operators, and
the characters of the operand under way.
-/
structure BareScanner where
  numbers : List Binary64
  operators : List Text
  pending : Text
deriving DecidableEq

namespace BareScanner

/-- Nothing read yet. -/
def start : BareScanner where
  numbers := []
  operators := []
  pending := []

/-- The scanner with one more character pending. -/
def keep (scanner : BareScanner) (character : Char) : BareScanner :=
  { scanner with pending := scanner.pending ++ [character] }

/-- Complete the operand under way, if there is one. -/
def complete (scanner : BareScanner) : Except ScanFault BareScanner :=
  if scanner.pending.isEmpty then
    .ok scanner
  else
    match Binary64.ofLiteral? scanner.pending with
    | some number =>
        .ok
          { scanner with
            numbers := scanner.numbers ++ [number]
            pending := [] }
    | none => .error (.invalidNumber scanner.pending)

/-- Record an operator. -/
def record (scanner : BareScanner) (character : Char) : BareScanner :=
  { scanner with operators := scanner.operators ++ [[character]] }

/-- Read one character of an expression, seeing the one after it. -/
def step
    (expression : Text)
    (scanner : BareScanner)
    (character : Char)
    (next : Option Char) :
    Except ScanFault BareScanner :=
  if isNumberCharacter character then
    .ok (scanner.keep character)
  else if Literal.isExponentMark character &&
      scanner.pending.getLast?.any isNumberCharacter then
    .ok (scanner.keep character)
  else if Literal.isSign character &&
      scanner.pending.getLast?.any Literal.isExponentMark then
    .ok (scanner.keep character)
  else if Operator.isSymbol character then
    if character = '-' && scanner.pending.isEmpty &&
        next.any isNumberCharacter then
      .ok (scanner.keep character)
    else
      scanner.complete.map (record · character)
  else
    .error (.unexpectedCharacter character expression)

/-- Read the rest of an expression. -/
def run (expression : Text) (scanner : BareScanner) :
    Text → Except ScanFault BareScanner
  | [] => scanner.complete
  | character :: rest =>
      match scanner.step expression character rest.head? with
      | .ok next => next.run expression rest
      | .error fault => .error fault

/-- The token stream of an expression, read without flag. -/
def tokenize (expression : Text) : Except ScanFault TokenStream :=
  match start.run expression expression with
  | .error fault => .error fault
  | .ok scanner =>
      match TokenStream.ofParts? scanner.numbers scanner.operators with
      | .ok stream => .ok stream
      | .error symbol => .error (.unknownOperator symbol)

end BareScanner

namespace Scanner

/-- Forget the flag. -/
def bare (scanner : Scanner) : BareScanner where
  numbers := scanner.numbers
  operators := scanner.operators
  pending := scanner.pending

theorem bare_pending (scanner : Scanner) :
    scanner.bare.pending = scanner.pending :=
  rfl

theorem bare_complete (scanner : Scanner) :
    scanner.complete.map bare = scanner.bare.complete := by
  rw [complete, BareScanner.complete, bare_pending]
  split
  · rfl
  · cases Binary64.ofLiteral? scanner.pending <;> rfl

/-- What a scanner that is ready takes for a sign does not hang on its flag. -/
theorem Ready.takesSign_eq
    {scanner : Scanner}
    (ready : scanner.Ready)
    (next : Option Char) :
    scanner.takesSign next =
      (scanner.pending.isEmpty && next.any isNumberCharacter) := by
  rw [takesSign]
  cases nothing : scanner.pending.isEmpty with
  | false => rfl
  | true =>
      rw [ready (List.isEmpty_iff.mp nothing)]
      rfl

/-- A step without flag is the step, with the flag forgotten. -/
theorem Ready.bare_step
    {scanner : Scanner}
    (ready : scanner.Ready)
    (expression : Text)
    (character : Char)
    (next : Option Char) :
    (scanner.step expression character next).map bare =
      scanner.bare.step expression character next := by
  simp only [Scanner.step, BareScanner.step, ready.takesSign_eq, endsWith,
    ← bare_complete, bare_pending, Bool.and_assoc]
  split
  · rfl
  split
  · rfl
  split
  · rfl
  split
  · split
    · rfl
    · cases scanner.complete <;> rfl
  · rfl

/-- A run without flag is the run, with the flag forgotten. -/
theorem Ready.bare_run
    {scanner : Scanner}
    (ready : scanner.Ready)
    (expression rest : Text) :
    (scanner.run expression rest).map bare =
      scanner.bare.run expression rest := by
  induction rest generalizing scanner with
  | nil => exact bare_complete scanner
  | cons character rest ih =>
      rw [Scanner.run, BareScanner.run, ← ready.bare_step]
      cases stepped : scanner.step expression character rest.head? with
      | error fault => rfl
      | ok following => exact ih (ready.step stepped)

end Scanner

/-- A tokenizer without flag gives the same stream or the same fault. -/
theorem BareScanner.tokenize_eq (expression : Text) :
    BareScanner.tokenize expression = PocketCalc.tokenize expression := by
  have same := Scanner.start_ready.bare_run expression expression
  change _ = BareScanner.start.run expression expression at same
  rw [BareScanner.tokenize, PocketCalc.tokenize, ← same]
  cases Scanner.start.run expression expression <;> rfl

end PocketCalc
