import PocketCalc.Proofs.Expression.Tokenization
import PocketCalc.Proofs.Number.ReadBack

/-!
# Rendered expressions are read back

An expression is rendered from numbers and operators by writing each number as
the display shows it, with nothing in between.  Whatever the neighbours of an
operator are (a negative number, a fraction, an exponent with a sign of its
own), the tokenizer gives back the operators and the numbers, the negative zero
as the positive one.  Spelling operators by their glyphs changes nothing.
-/

namespace PocketCalc

/-- The glyph of an operator on the display, if it has one of its own. -/
def Operator.glyph? : Operator → Option Char
  | .multiply => some '×'
  | .divide => some '÷'
  | .subtract => some '−'
  | _ => none

theorem Operator.plainCharacter_of_glyph?
    {operator : Operator}
    {character : Char}
    (glyph : operator.glyph? = some character) :
    plainCharacter character = operator.symbol := by
  cases operator with
  | add => cases glyph
  | subtract =>
      cases glyph
      rfl
  | multiply =>
      cases glyph
      rfl
  | divide =>
      cases glyph
      rfl
  | remainder => cases glyph

/-- An operator with a character that spells it, and the number after it. -/
structure Term where
  operator : Operator
  character : Char
  number : Binary64
  spelled :
    character = operator.symbol ∨ operator.glyph? = some character

namespace Term

/-- Numbers and operators in a row, the operators by their symbols. -/
def rendered (first : Binary64) (terms : List Term) : Text :=
  first.display ++
    terms.flatMap fun term => term.operator.symbol :: term.number.display

/-- Numbers and operators in a row, the operators as they are spelled. -/
def displayed (first : Binary64) (terms : List Term) : Text :=
  first.display ++
    terms.flatMap fun term => term.character :: term.number.display

/-- The reading that a rendered expression should have. -/
def reading (first : Binary64) (terms : List Term) : Reading where
  first := first.display
  rest := terms.map fun term => (term.operator, term.number.display)

theorem plainCharacter_character (term : Term) :
    plainCharacter term.character = term.operator.symbol := by
  rcases term.spelled with symbol | glyph
  · rw [symbol]
    cases term.operator <;> rfl
  · exact Operator.plainCharacter_of_glyph? glyph

theorem text_reading (first : Binary64) (terms : List Term) :
    (reading first terms).text = rendered first terms := by
  rw [reading, Reading.text, rendered, List.flatMap_map]

theorem operands_reading (first : Binary64) (terms : List Term) :
    (reading first terms).operands =
      (first :: terms.map Term.number).map Binary64.display := by
  simp [reading, Reading.operands]

theorem symbols_reading (first : Binary64) (terms : List Term) :
    (reading first terms).symbols =
      terms.map fun term => [term.operator.symbol] := by
  simp [reading, Reading.symbols]

section Finite

variable
  {first : Binary64}
  {terms : List Term}
  (finite : ∀ number ∈ first :: terms.map Term.number, number.isFinite = true)

include finite

theorem complete_reading : (reading first terms).Complete := by
  intro operand member
  rw [operands_reading] at member
  rcases List.mem_map.mp member with ⟨number, inside, rfl⟩
  exact Binary64.isOperand_display (finite number inside)

theorem denotes_reading :
    (reading first terms).Denotes
      ((first :: terms.map Term.number).map Binary64.unsignedZero) := by
  rw [Reading.Denotes, (complete_reading finite).literals_eq,
    operands_reading, List.map_map, List.map_map]
  apply List.map_congr_left
  intro number member
  exact Binary64.ofLiteral?_display (finite number member)

/-- Glyphs stand for the symbols, and the numbers have none. -/
theorem sanitize_displayed :
    sanitize (displayed first terms) = rendered first terms := by
  have plain :
      ∀ number ∈ first :: terms.map Term.number,
        sanitize number.display = number.display := by
    intro number member
    have isOperand := Binary64.isOperand_display (finite number member)
    exact sanitize_of_joined (joined_of_isOperand isOperand).1
  rw [List.forall_mem_cons] at plain
  rw [displayed, rendered, sanitize_append, plain.1]
  congr 1
  have others := plain.2
  clear plain finite
  induction terms with
  | nil => rfl
  | cons term terms ih =>
      rw [List.map_cons, List.forall_mem_cons] at others
      rw [List.flatMap_cons, List.flatMap_cons, sanitize_append,
        sanitize_cons, plainCharacter_character, others.1, ih others.2]

end Finite

end Term

/--
A rendered expression is tokenized into its operators and its numbers, the
negative zero as the positive one, whether its operators are spelled by their
symbols or, before the glyphs are replaced, by any mixture of symbols and
glyphs.
-/
theorem tokenize_rendered
    (first : Binary64)
    (terms : List Term)
    (finite :
      ∀ number ∈ first :: terms.map Term.number, number.isFinite = true) :
    (∃ stream,
      tokenize (Term.rendered first terms) = .ok stream ∧
        stream.operators = terms.map (fun term => [term.operator.symbol]) ∧
        stream.numbers =
          (first :: terms.map Term.number).map Binary64.unsignedZero) ∧
      ∃ stream,
        tokenize (sanitize (Term.displayed first terms)) = .ok stream ∧
          stream.operators = terms.map (fun term => [term.operator.symbol]) ∧
          stream.numbers =
            (first :: terms.map Term.number).map Binary64.unsignedZero := by
  rcases
      tokenize_text (Term.complete_reading finite).admitted
        (Term.denotes_reading finite) with
    ⟨stream, tokenized, numbers, operators⟩
  rw [Term.text_reading] at tokenized
  rw [Term.symbols_reading] at operators
  refine
    ⟨⟨stream, tokenized, operators, numbers⟩,
      ⟨stream, ?_, operators, numbers⟩⟩
  rw [Term.sanitize_displayed finite]
  exact tokenized

/--
A minus by its glyph stands between a negative zero and the negative number
nearest to it; only the second of the two signs is an operator.
-/
theorem tokenize_rendered_minus_negative :
    let least : Binary64 :=
      .finite true ⟨1, Nat.one_lt_two_pow (by decide), by decide⟩
    let terms : List Term := [⟨.subtract, '−', least, Or.inr rfl⟩]
    (∀ number ∈ Binary64.zero true :: terms.map Term.number,
        number.isFinite = true) ∧
      ∃ stream,
        tokenize (sanitize (Term.displayed (.zero true) terms)) = .ok stream ∧
          stream.operators = [['-']] ∧
          stream.numbers = [.zero false, least] := by
  intro least terms
  have finite :
      ∀ number ∈ Binary64.zero true :: terms.map Term.number,
        number.isFinite = true := by
    intro number member
    rcases List.mem_cons.mp member with rfl | later
    · rfl
    · cases List.mem_singleton.mp later
      rfl
  rcases (tokenize_rendered (.zero true) terms finite).2 with
    ⟨stream, tokenized, operators, numbers⟩
  refine ⟨finite, stream, tokenized, operators, ?_⟩
  rw [numbers]
  rfl

end PocketCalc
