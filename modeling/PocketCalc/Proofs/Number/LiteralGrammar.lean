import Mathlib.Data.List.TakeWhile
import PocketCalc.Number.Literal
import PocketCalc.Proofs.Text.Numeral

/-!
# The grammar of decimal literals

A literal without its sign is a mantissa, perhaps with an exponent behind it.
A mantissa is made of digits and at most one point and has a digit; an exponent
is a mark, perhaps a sign, and at least one digit.  These words say nothing
about how a literal is read.

The main theorem says that reading accepts exactly these texts.  It goes
through the pieces that reading cuts a literal into: whole digits, the digits
after a point, and the text of the exponent.
-/

namespace PocketCalc

namespace Literal

/-! ## The grammar -/

/-- A run of digits, perhaps empty. -/
def IsDigits (text : Text) : Prop :=
  ∀ character ∈ text, character.isDigit = true

instance (text : Text) : Decidable (IsDigits text) :=
  inferInstanceAs (Decidable (∀ _ ∈ _, _))

/-- Digits with at most one point and at least one digit. -/
def IsMantissa (text : Text) : Prop :=
  (∀ character ∈ text, character.isDigit = true ∨ character = '.') ∧
    text.count '.' ≤ 1 ∧
      ∃ character ∈ text, character.isDigit = true

/-- An exponent mark, perhaps a sign, and at least one digit. -/
def IsExponent (text : Text) : Prop :=
  ∃ mark sign digits,
    text = mark :: (sign ++ digits) ∧
      isExponentMark mark = true ∧
        (sign = [] ∨ sign = ['+'] ∨ sign = ['-']) ∧
          digits ≠ [] ∧ IsDigits digits

/-- A mantissa, perhaps with an exponent behind it. -/
def IsUnsigned (text : Text) : Prop :=
  ∃ mantissa exponent,
    text = mantissa ++ exponent ∧
      IsMantissa mantissa ∧ (exponent = [] ∨ IsExponent exponent)

theorem IsMantissa.isUnsigned
    {mantissa : Text}
    (isMantissa : IsMantissa mantissa) :
    IsUnsigned mantissa :=
  ⟨mantissa, [], (List.append_nil mantissa).symm, isMantissa, Or.inl rfl⟩

/-! ## Runs that stop -/

theorem takeWhile_append_of_stop
    {test : Char → Bool}
    {run rest : Text}
    (inside : ∀ character ∈ run, test character = true)
    (stop : ∀ character ∈ rest.head?, test character = false) :
    (run ++ rest).takeWhile test = run := by
  rw [List.takeWhile_append_of_pos inside]
  cases rest with
  | nil => simp
  | cons character rest => simp [stop character rfl]

theorem dropWhile_append_of_stop
    {test : Char → Bool}
    {run rest : Text}
    (inside : ∀ character ∈ run, test character = true)
    (stop : ∀ character ∈ rest.head?, test character = false) :
    (run ++ rest).dropWhile test = rest := by
  rw [List.dropWhile_append_of_pos inside]
  cases rest with
  | nil => rfl
  | cons character rest => simp [stop character rfl]

theorem stop_dropWhile (test : Char → Bool) (text : Text) :
    ∀ character ∈ (text.dropWhile test).head?, test character = false := by
  intro character first
  have stopped := List.head?_dropWhile_not test text
  rw [Option.mem_def.mp first] at stopped
  exact stopped

theorem isDigits_takeWhile (text : Text) :
    IsDigits (text.takeWhile Char.isDigit) :=
  fun _ member => List.mem_takeWhile_imp member

theorem isDigits_append_iff (left right : Text) :
    IsDigits (left ++ right) ↔ IsDigits left ∧ IsDigits right :=
  List.forall_mem_append

theorem isDigits_singleton_zero : IsDigits ['0'] :=
  List.forall_mem_singleton.mpr rfl

/-! ## Signs -/

theorem splitSign_of_unsigned
    {text : Text}
    (unsigned : ∀ character ∈ text.head?, isSign character = false) :
    splitSign text = (false, text) := by
  rw [splitSign.eq_def]
  split
  · exact absurd (unsigned '-' rfl) (by decide)
  · exact absurd (unsigned '+' rfl) (by decide)
  · rfl

/-- Splitting off a sign leaves the text or takes one sign off its front. -/
theorem splitSign_cases (text : Text) :
    (splitSign text = (false, text) ∧
        ∀ character ∈ text.head?, isSign character = false) ∨
      ∃ unsigned,
        (text = '-' :: unsigned ∧ splitSign text = (true, unsigned)) ∨
          (text = '+' :: unsigned ∧ splitSign text = (false, unsigned)) := by
  by_cases minus : text.head? = some '-'
  · rcases List.head?_eq_some_iff.mp minus with ⟨unsigned, rfl⟩
    exact Or.inr ⟨unsigned, Or.inl ⟨rfl, rfl⟩⟩
  · by_cases plus : text.head? = some '+'
    · rcases List.head?_eq_some_iff.mp plus with ⟨unsigned, rfl⟩
      exact Or.inr ⟨unsigned, Or.inr ⟨rfl, rfl⟩⟩
    · have unsigned :
          ∀ character ∈ text.head?, isSign character = false := by
        intro character first
        rw [Option.mem_def] at first
        rw [isSign, Bool.or_eq_false_iff, decide_eq_false_iff_not,
          decide_eq_false_iff_not]
        constructor
        · rintro rfl
          exact plus first
        · rintro rfl
          exact minus first
      exact Or.inl ⟨splitSign_of_unsigned unsigned, unsigned⟩

theorem isSign_of_isDigit
    {character : Char}
    (digit : character.isDigit = true) :
    isSign character = false := by
  by_contra signed
  rw [Bool.not_eq_false, isSign, Bool.or_eq_true, decide_eq_true_eq,
    decide_eq_true_eq] at signed
  rcases signed with rfl | rfl
  · exact absurd digit (by decide)
  · exact absurd digit (by decide)

/-! ## Exponents -/

theorem exponent?_nil : exponent? [] = some 0 :=
  rfl

theorem exponent?_cons (mark : Char) (rest : Text) :
    exponent? (mark :: rest) =
      if isExponentMark mark = true ∧
          (splitSign rest).2 ≠ [] ∧ IsDigits (splitSign rest).2 then
        some
          (if (splitSign rest).1 then
            -(Text.numeralValue (splitSign rest).2 : Int)
          else Text.numeralValue (splitSign rest).2)
      else none := by
  have accepted :
      (isExponentMark mark && !(splitSign rest).2.isEmpty &&
          (splitSign rest).2.all Char.isDigit) = true ↔
        isExponentMark mark = true ∧
          (splitSign rest).2 ≠ [] ∧ IsDigits (splitSign rest).2 := by
    simp [IsDigits, and_assoc]
  exact if_congr accepted rfl rfl

/-- An exponent with a written sign has the value of its digits. -/
theorem exponent?_signed
    {mark sign : Char}
    {digits : Text}
    (marked : isExponentMark mark = true)
    (signed : isSign sign = true)
    (nonempty : digits ≠ [])
    (areDigits : IsDigits digits) :
    exponent? (mark :: sign :: digits) =
      some
        (if sign = '-' then -(Text.numeralValue digits : Int)
        else Text.numeralValue digits) := by
  rw [isSign, Bool.or_eq_true, decide_eq_true_eq, decide_eq_true_eq] at signed
  rcases signed with rfl | rfl
  · rw [exponent?_cons, if_pos ⟨marked, nonempty, areDigits⟩]
    rfl
  · rw [exponent?_cons, if_pos ⟨marked, nonempty, areDigits⟩]
    rfl

/-- An exponent with digits is read, with a minus just as a negative one. -/
theorem exponent?_parts
    {mark : Char}
    {sign digits : Text}
    (marked : isExponentMark mark = true)
    (signs : sign = [] ∨ sign = ['+'] ∨ sign = ['-'])
    (nonempty : digits ≠ [])
    (areDigits : IsDigits digits) :
    exponent? (mark :: (sign ++ digits)) =
      some
        (if sign = ['-'] then -(Text.numeralValue digits : Int)
        else Text.numeralValue digits) := by
  rcases signs with rfl | rfl | rfl
  · have unsigned :
        ∀ character ∈ digits.head?, isSign character = false :=
      fun character first =>
        isSign_of_isDigit
          (areDigits character (List.mem_of_mem_head? first))
    rw [List.nil_append, exponent?_cons, splitSign_of_unsigned unsigned,
      if_pos ⟨marked, nonempty, areDigits⟩]
    rfl
  · rw [List.singleton_append,
      exponent?_signed marked (by decide) nonempty areDigits]
    rfl
  · rw [List.singleton_append,
      exponent?_signed marked (by decide) nonempty areDigits]
    rfl

/-- Behind a minus an exponent has digits only. -/
theorem exponent?_minus_eq_none_iff
    {mark : Char}
    {body : Text}
    (marked : isExponentMark mark = true)
    (nonempty : body ≠ []) :
    exponent? (mark :: '-' :: body) = none ↔ ¬IsDigits body := by
  constructor
  · intro refused areDigits
    rw [exponent?_signed marked (by decide) nonempty areDigits] at refused
    cases refused
  · intro noDigits
    rw [exponent?_cons]
    exact if_neg fun holds => noDigits holds.2.2

theorem exponent?_isSome_iff (text : Text) :
    (exponent? text).isSome = true ↔ text = [] ∨ IsExponent text := by
  cases text with
  | nil => simp [exponent?]
  | cons mark rest =>
      constructor
      · intro accepted
        rw [exponent?_cons] at accepted
        split at accepted
        · rename_i holds
          rcases holds with ⟨marked, nonempty, areDigits⟩
          right
          rcases splitSign_cases rest with
            ⟨split, _⟩ | ⟨digits, ⟨rfl, split⟩ | ⟨rfl, split⟩⟩
          · rw [split] at nonempty areDigits
            exact
              ⟨mark, [], rest, rfl, marked, Or.inl rfl, nonempty, areDigits⟩
          · exact
              ⟨mark, ['-'], digits, rfl, marked, Or.inr (Or.inr rfl),
                nonempty, areDigits⟩
          · exact
              ⟨mark, ['+'], digits, rfl, marked, Or.inr (Or.inl rfl),
                nonempty, areDigits⟩
        · cases accepted
      · rintro (empty | ⟨_, sign, digits, equal, marked, signs, nonempty, areDigits⟩)
        · cases empty
        · rw [equal, exponent?_parts marked signs nonempty areDigits]
          rfl

/-- What can follow digits and a point as an exponent starts with a mark. -/
theorem head_of_exponent?
    {text : Text}
    {power : Int}
    (read : exponent? text = some power) :
    ∀ character ∈ text.head?, isExponentMark character = true := by
  intro character first
  rcases List.head?_eq_some_iff.mp first with ⟨rest, rfl⟩
  by_contra unmarked
  rw [exponent?_cons, if_neg (fun holds => unmarked holds.1)] at read
  cases read

theorem stop_of_isExponentMark
    {character : Char}
    (marked : isExponentMark character = true) :
    character.isDigit = false ∧ character ≠ '.' := by
  rw [isExponentMark, Bool.or_eq_true, decide_eq_true_eq,
    decide_eq_true_eq] at marked
  rcases marked with rfl | rfl
  · decide
  · decide

theorem isExponentMark_head
    {mark : Char}
    (marked : isExponentMark mark = true)
    (rest : Text) :
    ∀ character ∈ (mark :: rest).head?, isExponentMark character = true := by
  intro character first
  cases Option.mem_def.mp first
  exact marked

/-! ## Mantissas -/

/-- The text of a fraction: nothing, or a point and its digits. -/
def pointed : Option Text → Text
  | none => []
  | some fraction => '.' :: fraction

theorem isMantissa_pieces
    {whole : Text}
    {fraction : Option Text}
    (wholeDigits : IsDigits whole)
    (fractionDigits : IsDigits (fraction.getD []))
    (nonempty : whole ++ fraction.getD [] ≠ []) :
    IsMantissa (whole ++ pointed fraction) := by
  have noPoint : ∀ {digits : Text}, IsDigits digits → digits.count '.' = 0 := by
    intro digits areDigits
    rw [List.count_eq_zero]
    intro member
    exact absurd (areDigits '.' member) (by decide)
  rcases List.exists_mem_of_ne_nil _ nonempty with ⟨first, member⟩
  cases fraction with
  | none =>
      rw [pointed, List.append_nil]
      rw [Option.getD_none, List.append_nil] at member
      refine ⟨fun character inside => Or.inl (wholeDigits character inside),
        ?_, first, member, wholeDigits first member⟩
      rw [noPoint wholeDigits]
      exact Nat.zero_le 1
  | some fraction =>
      rw [Option.getD_some] at fractionDigits member
      refine ⟨?_, ?_, first, ?_, ?_⟩
      · intro character inside
        rcases List.mem_append.mp inside with before | after
        · exact Or.inl (wholeDigits character before)
        · rcases List.mem_cons.mp after with rfl | after
          · exact Or.inr rfl
          · exact Or.inl (fractionDigits character after)
      · rw [pointed, List.count_append, List.count_cons_self,
          noPoint wholeDigits, noPoint fractionDigits]
      · rcases List.mem_append.mp member with before | after
        · exact List.mem_append_left _ before
        · exact List.mem_append_right _ (List.mem_cons_of_mem _ after)
      · exact (isDigits_append_iff _ _).mpr
          ⟨wholeDigits, fractionDigits⟩ first member

theorem isMantissa_of_isDigits
    {digits : Text}
    (areDigits : IsDigits digits)
    (nonempty : digits ≠ []) :
    IsMantissa digits := by
  have pieces : IsMantissa (digits ++ pointed none) :=
    isMantissa_pieces areDigits (fun _ member => nomatch member)
      (by simpa using nonempty)
  rw [pointed, List.append_nil] at pieces
  exact pieces

/-- A mantissa is cut at its point, if it has one. -/
theorem exists_pieces_of_isMantissa
    {text : Text}
    (mantissa : IsMantissa text) :
    ∃ whole fraction,
      text = whole ++ pointed fraction ∧
        IsDigits whole ∧
          IsDigits (fraction.getD []) ∧
            whole ++ fraction.getD [] ≠ [] := by
  rcases mantissa with ⟨characters, points, digit, digitMember, isDigit⟩
  have wholeDigits := isDigits_takeWhile text
  have cut : text = text.takeWhile Char.isDigit ++ text.dropWhile Char.isDigit :=
    List.takeWhile_append_dropWhile.symm
  have stop := stop_dropWhile Char.isDigit text
  generalize text.takeWhile Char.isDigit = whole at wholeDigits cut
  generalize text.dropWhile Char.isDigit = rest at cut stop
  subst cut
  cases rest with
  | nil =>
      refine ⟨whole, none, rfl, wholeDigits, ?_, ?_⟩
      · intro character member
        cases member
      · exact List.ne_nil_of_mem digitMember
  | cons point fraction =>
      have isPoint : point = '.' := by
        have notDigit := stop point rfl
        rcases characters point (by simp) with isDigit | isPoint
        · rw [notDigit] at isDigit
          cases isDigit
        · exact isPoint
      subst isPoint
      have fractionDigits : IsDigits fraction := by
        have noPoint : '.' ∉ fraction := by
          rw [← List.count_eq_zero]
          rw [List.count_append, List.count_cons_self] at points
          omega
        intro character member
        rcases characters character (by simp [member]) with isDigit | rfl
        · exact isDigit
        · exact absurd member noPoint
      refine ⟨whole, some fraction, rfl, wholeDigits, fractionDigits, ?_⟩
      rw [Option.getD_some]
      rcases List.mem_append.mp digitMember with before | after
      · exact List.ne_nil_of_mem (List.mem_append_left _ before)
      · rcases List.mem_cons.mp after with rfl | after
        · exact absurd isDigit (by decide)
        · exact List.ne_nil_of_mem (List.mem_append_right _ after)

/-! ## Reading the pieces -/

/-- What reading makes of a literal after its sign. -/
def decimal? (unsigned : Text) : Option Decimal :=
  let whole := unsigned.takeWhile Char.isDigit
  let (fraction, rest) := splitFraction (unsigned.dropWhile Char.isDigit)
  if whole.isEmpty && fraction.isEmpty then
    none
  else
    (exponent? rest).map fun exponent =>
      { digits := Text.numeralValue (whole ++ fraction)
        exponent := exponent - fraction.length }

theorem read?_eq (text : Text) :
    read? text =
      (decimal? (splitSign text).2).map fun decimal =>
        ⟨(splitSign text).1, decimal⟩ := by
  simp only [read?, decimal?]
  split
  · rfl
  · rw [Option.map_map]
    rfl

theorem splitFraction_pointed
    {fraction : Option Text}
    {exponent : Text}
    (fractionDigits : IsDigits (fraction.getD []))
    (stop :
      ∀ character ∈ exponent.head?,
        character.isDigit = false ∧ character ≠ '.') :
    splitFraction (pointed fraction ++ exponent) =
      (fraction.getD [], exponent) := by
  cases fraction with
  | none =>
      rw [pointed, List.nil_append, Option.getD_none, splitFraction.eq_def]
      split
      · exact absurd rfl (stop '.' rfl).2
      · rfl
  | some fraction =>
      rw [Option.getD_some] at fractionDigits
      have digitStop :
          ∀ character ∈ exponent.head?, character.isDigit = false :=
        fun character first => (stop character first).1
      simp only [pointed, List.cons_append, splitFraction, Option.getD_some]
      rw [takeWhile_append_of_stop fractionDigits digitStop,
        dropWhile_append_of_stop fractionDigits digitStop]

/-- Behind whole digits and fraction digits the rest is read as an exponent. -/
theorem decimal?_append
    (whole : Text)
    (fraction : Option Text)
    {exponent : Text}
    (wholeDigits : IsDigits whole)
    (fractionDigits : IsDigits (fraction.getD []))
    (nonempty : whole ++ fraction.getD [] ≠ [])
    (stop :
      ∀ character ∈ exponent.head?,
        character.isDigit = false ∧ character ≠ '.') :
    decimal? (whole ++ (pointed fraction ++ exponent)) =
      (exponent? exponent).map fun power =>
        ⟨Text.numeralValue (whole ++ fraction.getD []),
          power - (fraction.getD []).length⟩ := by
  have wholeStop :
      ∀ character ∈ (pointed fraction ++ exponent).head?,
        character.isDigit = false := by
    intro character first
    cases fraction with
    | none => exact (stop character first).1
    | some fraction =>
        cases Option.mem_def.mp first
        decide
  have written :
      ¬(whole.isEmpty && (fraction.getD []).isEmpty) = true := by
    rw [Bool.and_eq_true, List.isEmpty_iff, List.isEmpty_iff,
      ← List.append_eq_nil_iff]
    exact nonempty
  simp only [decimal?]
  rw [takeWhile_append_of_stop wholeDigits wholeStop,
    dropWhile_append_of_stop wholeDigits wholeStop,
    splitFraction_pointed fractionDigits stop]
  rw [if_neg written]

/--
Whole digits, fraction digits and an exponent are read as they are put
together.
-/
theorem decimal?_pieces
    (whole : Text)
    (fraction : Option Text)
    {exponent : Text}
    {power : Int}
    (wholeDigits : IsDigits whole)
    (fractionDigits : IsDigits (fraction.getD []))
    (nonempty : whole ++ fraction.getD [] ≠ [])
    (read : exponent? exponent = some power) :
    decimal? (whole ++ (pointed fraction ++ exponent)) =
      some
        ⟨Text.numeralValue (whole ++ fraction.getD []),
          power - (fraction.getD []).length⟩ := by
  rw [decimal?_append whole fraction wholeDigits fractionDigits nonempty, read,
    Option.map_some]
  intro character first
  exact stop_of_isExponentMark (head_of_exponent? read character first)

/-- A mantissa has digits and places, whatever exponent stands behind it. -/
theorem exists_decimal?_of_isMantissa
    {mantissa : Text}
    (isMantissa : IsMantissa mantissa) :
    ∃ (digits places : Nat),
      ∀ exponent,
        (∀ character ∈ exponent.head?,
            character.isDigit = false ∧ character ≠ '.') →
          decimal? (mantissa ++ exponent) =
            (exponent? exponent).map fun power => ⟨digits, power - places⟩ := by
  rcases exists_pieces_of_isMantissa isMantissa with
    ⟨whole, fraction, rfl, wholeDigits, fractionDigits, nonempty⟩
  refine
    ⟨Text.numeralValue (whole ++ fraction.getD []),
      (fraction.getD []).length, fun exponent stop => ?_⟩
  rw [List.append_assoc]
  exact
    decimal?_append whole fraction wholeDigits fractionDigits nonempty stop

/-- What can be read after the sign is a mantissa with an exponent or none. -/
theorem isUnsigned_of_decimal?
    {text : Text}
    {decimal : Decimal}
    (read : decimal? text = some decimal) :
    IsUnsigned text := by
  have wholeDigits := isDigits_takeWhile text
  have cut : text.takeWhile Char.isDigit ++ text.dropWhile Char.isDigit = text :=
    List.takeWhile_append_dropWhile
  simp only [decimal?] at read
  generalize text.takeWhile Char.isDigit = whole at wholeDigits cut read
  generalize text.dropWhile Char.isDigit = rest at cut read
  subst cut
  have fractionCut :
      ∃ fraction,
        rest = pointed fraction ++ (splitFraction rest).2 ∧
          (splitFraction rest).1 = fraction.getD [] ∧
            IsDigits (fraction.getD []) := by
    rw [splitFraction.eq_def]
    split
    · rename_i after
      refine ⟨some (after.takeWhile Char.isDigit), ?_, rfl,
        isDigits_takeWhile after⟩
      simp [pointed]
    · exact ⟨none, rfl, rfl, fun character member => nomatch member⟩
  rcases fractionCut with ⟨fraction, restCut, fractionPart, fractionDigits⟩
  generalize splitFraction rest = parts at restCut fractionPart read
  subst restCut
  rw [fractionPart] at read
  split at read
  · cases read
  · rename_i written
    rw [Bool.and_eq_true, List.isEmpty_iff, List.isEmpty_iff,
      ← List.append_eq_nil_iff] at written
    rcases Option.map_eq_some_iff.mp read with ⟨power, powered, _⟩
    have exponent : parts.2 = [] ∨ IsExponent parts.2 :=
      (exponent?_isSome_iff _).mp (Option.isSome_of_eq_some powered)
    exact
      ⟨whole ++ pointed fraction, parts.2, (List.append_assoc _ _ _).symm,
        isMantissa_pieces wholeDigits fractionDigits written, exponent⟩

/-- Reading after the sign accepts exactly a mantissa with an exponent or none. -/
theorem isUnsigned_iff (text : Text) :
    IsUnsigned text ↔ ∃ decimal, decimal? text = some decimal := by
  constructor
  · rintro ⟨mantissa, exponent, rfl, isMantissa, isExponent⟩
    rcases exists_pieces_of_isMantissa isMantissa with
      ⟨whole, fraction, rfl, wholeDigits, fractionDigits, nonempty⟩
    rcases
        Option.isSome_iff_exists.mp ((exponent?_isSome_iff _).mpr isExponent) with
      ⟨power, read⟩
    rw [List.append_assoc]
    exact
      ⟨_, decimal?_pieces whole fraction wholeDigits fractionDigits nonempty read⟩
  · rintro ⟨decimal, read⟩
    exact isUnsigned_of_decimal? read

/-! ## Literals with a sign -/

/-- A literal as an operand is written: without a sign or with a minus. -/
def IsOperand (text : Text) : Prop :=
  IsUnsigned text ∨ ∃ unsigned, text = '-' :: unsigned ∧ IsUnsigned unsigned

/-- A literal without sign starts with a digit or a point. -/
theorem exists_cons_of_isUnsigned
    {text : Text}
    (unsigned : IsUnsigned text) :
    ∃ first rest,
      text = first :: rest ∧ (first.isDigit = true ∨ first = '.') := by
  rcases unsigned with
    ⟨mantissa, exponent, rfl, ⟨characters, _, digit, member, _⟩, _⟩
  cases mantissa with
  | nil => cases member
  | cons first rest =>
      exact ⟨first, rest ++ exponent, rfl, characters first (by simp)⟩

theorem not_isSign_head
    {text : Text}
    (unsigned : IsUnsigned text) :
    ∀ character ∈ text.head?, isSign character = false := by
  rcases exists_cons_of_isUnsigned unsigned with
    ⟨first, rest, rfl, digit | point⟩
  · intro character equal
    cases Option.mem_def.mp equal
    exact isSign_of_isDigit digit
  · intro character equal
    cases Option.mem_def.mp equal
    rw [point]
    decide

/-- A mantissa starts without a sign. -/
theorem IsMantissa.not_isSign_head
    {mantissa : Text}
    (isMantissa : IsMantissa mantissa)
    (rest : Text) :
    ∀ character ∈ (mantissa ++ rest).head?, isSign character = false := by
  rcases exists_cons_of_isUnsigned isMantissa.isUnsigned with
    ⟨first, others, rfl, _⟩
  intro character head
  exact Literal.not_isSign_head isMantissa.isUnsigned character head

theorem read?_of_isUnsigned
    {text : Text}
    (unsigned : IsUnsigned text) :
    read? text = (decimal? text).map fun decimal => ⟨false, decimal⟩ := by
  rw [read?_eq, splitSign_of_unsigned (not_isSign_head unsigned)]

theorem read?_minus (unsigned : Text) :
    read? ('-' :: unsigned) =
      (decimal? unsigned).map fun decimal => ⟨true, decimal⟩ :=
  read?_eq ('-' :: unsigned)

/-- Operands are the texts that denote a number and have no plus in front. -/
theorem isOperand_iff (text : Text) :
    IsOperand text ↔
      text.head? ≠ some '+' ∧
        ∃ number, Binary64.ofLiteral? text = some number := by
  constructor
  · rintro (unsigned | ⟨unsigned, rfl, isUnsigned⟩)
    · rcases (isUnsigned_iff text).mp unsigned with ⟨decimal, read⟩
      constructor
      · intro plus
        exact absurd (not_isSign_head unsigned '+' plus) (by decide)
      · rw [Binary64.ofLiteral?, read?_of_isUnsigned unsigned, read]
        exact ⟨_, rfl⟩
    · rcases (isUnsigned_iff unsigned).mp isUnsigned with ⟨decimal, read⟩
      constructor
      · intro plus
        cases plus
      · rw [Binary64.ofLiteral?, read?_minus, read]
        exact ⟨_, rfl⟩
  · rintro ⟨notPlus, number, read⟩
    rw [Binary64.ofLiteral?, read?_eq] at read
    rcases Option.map_eq_some_iff.mp read with ⟨literal, literalRead, _⟩
    rcases Option.map_eq_some_iff.mp literalRead with ⟨decimal, decimalRead, _⟩
    have unsigned := isUnsigned_of_decimal? decimalRead
    rcases splitSign_cases text with
      ⟨split, _⟩ | ⟨rest, ⟨rfl, split⟩ | ⟨rfl, split⟩⟩
    · rw [split] at unsigned
      exact Or.inl unsigned
    · rw [split] at unsigned
      exact Or.inr ⟨rest, rfl, unsigned⟩
    · exact absurd rfl notPlus

theorem IsOperand.ne_nil
    {text : Text}
    (operand : IsOperand text) :
    text ≠ [] := by
  rcases operand with unsigned | ⟨unsigned, rfl, _⟩
  · rcases exists_cons_of_isUnsigned unsigned with ⟨first, rest, rfl, _⟩
    exact List.cons_ne_nil _ _
  · exact List.cons_ne_nil _ _

end Literal

end PocketCalc
