import PocketCalc.Keypad.Edit
import PocketCalc.Proofs.Expression.Reading

/-!
# The longest run of digits at the end

A run has digits and at most one point.  The search for the number at the end of
an expression takes one character after the other, as long as they make a run;
its flag never says more than whether the run has a point by now.  Since every
last part of a run is a run, no run goes beyond the character at which the
search stops, and what the search finds is the longest run at the end.

A run denotes a number, unless it is empty or a lone point.
-/

namespace PocketCalc

/-- Digits and at most one point. -/
def IsRun (text : Text) : Prop :=
  (∀ character ∈ text, isNumberCharacter character = true) ∧
    text.count '.' ≤ 1

/-- The run at the end of a text that is no last part of a longer one. -/
structure IsLongestRun (run text : Text) : Prop where
  atEnd : run <:+ text
  isRun : IsRun run
  longest : ∀ other, other <:+ text → IsRun other → other.length ≤ run.length

theorem isRun_nil : IsRun [] :=
  ⟨by simp, by simp⟩

theorem isRun_cons_iff (character : Char) (run : Text) :
    IsRun (character :: run) ↔
      isNumberCharacter character = true ∧
        (character = '.' → '.' ∉ run) ∧ IsRun run := by
  rw [IsRun, IsRun, List.forall_mem_cons]
  by_cases point : character = '.'
  · subst point
    rw [List.count_cons_self, ← List.count_eq_zero]
    constructor
    · rintro ⟨⟨number, characters⟩, points⟩
      exact ⟨number, fun _ => by omega, characters, by omega⟩
    · rintro ⟨number, noPoint, characters, _⟩
      exact ⟨⟨number, characters⟩, by rw [noPoint rfl]⟩
  · rw [List.count_cons_of_ne point]
    simp [point, and_assoc]

/-- A last part of a run is a run. -/
theorem IsRun.of_suffix
    {run part : Text}
    (isRun : IsRun run)
    (atEnd : part <:+ run) :
    IsRun part :=
  ⟨fun character member => isRun.1 character (atEnd.subset member),
    (atEnd.sublist.count_le '.').trans isRun.2⟩

/-! ## The search -/

/-- The search goes on as long as it has a run. -/
theorem trailingRun_cons
    {run : Text}
    (isRun : IsRun run)
    (character : Char)
    (before : Text) :
    (IsRun (character :: run) ∧
        trailingRun (!run.contains '.') run (character :: before) =
          trailingRun (!(character :: run).contains '.') (character :: run)
            before) ∨
      (¬IsRun (character :: run) ∧
        trailingRun (!run.contains '.') run (character :: before) = run) := by
  rw [isRun_cons_iff, trailingRun]
  by_cases point : character = '.'
  · subst point
    by_cases seen : '.' ∈ run
    · right
      simp [seen]
    · left
      simp [seen, isRun, isNumberCharacter]
  · cases digit : character.isDigit with
    | false =>
        right
        simp [isNumberCharacter, point, digit]
    | true =>
        left
        simp [isNumberCharacter, point, digit, isRun, Ne.symm point]

/--
The search takes what makes a run, and stops where no run goes on.  Its flag is
that of the run at every character, so the run alone is carried along.
-/
theorem exists_of_trailingRun
    {run : Text}
    (isRun : IsRun run)
    (reversed : Text) :
    ∃ taken rest,
      reversed = taken ++ rest ∧
        trailingRun (!run.contains '.') run reversed = taken.reverse ++ run ∧
          IsRun (taken.reverse ++ run) ∧
            ∀ character ∈ rest.head?,
              ¬IsRun (character :: (taken.reverse ++ run)) := by
  induction reversed generalizing run with
  | nil => exact ⟨[], [], rfl, rfl, isRun, by simp⟩
  | cons character before ih =>
      rcases trailingRun_cons isRun character before with
        ⟨longer, goesOn⟩ | ⟨noRun, stops⟩
      · rcases ih longer with ⟨taken, rest, rfl, found, isRun, stop⟩
        refine ⟨character :: taken, rest, rfl, ?_⟩
        rw [List.reverse_cons, List.append_assoc, List.singleton_append, goesOn]
        exact ⟨found, isRun, stop⟩
      · refine ⟨[], character :: before, rfl, stops, isRun, ?_⟩
        simpa using noRun

/-! ## Longest runs -/

/-- A run is the longest one if it does not go on with the character before it. -/
theorem isLongestRun_append
    {before run : Text}
    (isRun : IsRun run)
    (stop : ∀ character ∈ before.getLast?, ¬IsRun (character :: run)) :
    IsLongestRun run (before ++ run) where
  atEnd := List.suffix_append before run
  isRun := isRun
  longest := by
    intro other atEnd otherRun
    by_contra longer
    rw [not_le] at longer
    have inside : run <:+ other :=
      List.suffix_of_suffix_length_le (List.suffix_append before run) atEnd
        (Nat.le_of_lt longer)
    rcases inside with ⟨front, rfl⟩
    rcases List.eq_nil_or_concat front with rfl | ⟨others, last, rfl⟩
    · exact absurd longer (lt_irrefl _)
    · rw [List.concat_eq_append] at atEnd otherRun
      rcases atEnd with ⟨start, split⟩
      rw [← List.append_assoc] at split
      have ends : start ++ (others ++ [last]) = before :=
        List.append_cancel_right split
      apply stop last
      · rw [← ends, ← List.append_assoc]
        exact List.getLast?_concat
      · apply otherRun.of_suffix
        rw [List.append_assoc]
        exact List.suffix_append others _

theorem IsLongestRun.eq
    {left right text : Text}
    (leftLongest : IsLongestRun left text)
    (rightLongest : IsLongestRun right text) :
    left = right := by
  have leftShorter :=
    rightLongest.longest left leftLongest.atEnd leftLongest.isRun
  have rightShorter :=
    leftLongest.longest right rightLongest.atEnd rightLongest.isRun
  exact
    (List.suffix_of_suffix_length_le leftLongest.atEnd rightLongest.atEnd
      leftShorter).eq_of_length (le_antisymm leftShorter rightShorter)

/-- The search finds the longest run, if it is not empty. -/
theorem exists_longestRun (expression : Text) :
    ∃ run,
      IsLongestRun run expression ∧
        trailingNumber? expression = if run = [] then none else some run := by
  rcases exists_of_trailingRun isRun_nil expression.reverse with
    ⟨taken, rest, split, found, isRun, stop⟩
  rw [List.append_nil] at found isRun stop
  have whole : expression = rest.reverse ++ taken.reverse := by
    rw [← List.reverse_append, ← split, List.reverse_reverse]
  refine ⟨taken.reverse, ?_, ?_⟩
  · rw [whole]
    apply isLongestRun_append isRun
    rw [List.getLast?_reverse]
    exact stop
  · rw [trailingNumber?]
    change trailingRun true [] expression.reverse = taken.reverse at found
    rw [found]
    split <;> simp_all

theorem trailingNumber?_eq_some_iff (expression run : Text) :
    trailingNumber? expression = some run ↔
      IsLongestRun run expression ∧ run ≠ [] := by
  rcases exists_longestRun expression with ⟨found, longest, searched⟩
  rw [searched]
  constructor
  · intro equal
    split at equal
    · cases equal
    · rename_i nonempty
      cases equal
      exact ⟨longest, nonempty⟩
  · rintro ⟨other, nonempty⟩
    cases longest.eq other
    rw [if_neg nonempty]

theorem trailingNumber?_eq_none_iff (expression : Text) :
    trailingNumber? expression = none ↔ IsLongestRun [] expression := by
  rcases exists_longestRun expression with ⟨found, longest, searched⟩
  rw [searched]
  constructor
  · intro equal
    split at equal
    · rename_i empty
      rw [← empty]
      exact longest
    · cases equal
  · intro other
    cases longest.eq other
    rfl

/-! ## Runs and numbers -/

/-- The only run without a digit is a lone point. -/
theorem IsRun.isMantissa
    {run : Text}
    (isRun : IsRun run)
    (nonempty : run ≠ [])
    (noPoint : run ≠ ['.']) :
    Literal.IsMantissa run := by
  refine ⟨?_, isRun.2, ?_⟩
  · simpa [isNumberCharacter] using isRun.1
  · by_contra noDigit
    have points : ∀ character ∈ run, character = '.' := by
      intro character member
      have number := isRun.1 character member
      rw [isNumberCharacter, Bool.or_eq_true, decide_eq_true_eq] at number
      exact
        number.resolve_left fun digit => noDigit ⟨character, member, digit⟩
    have onlyPoints := List.eq_replicate_of_mem points
    have few := isRun.2
    rw [onlyPoints, List.count_replicate_self] at few
    have one : run.length = 1 :=
      le_antisymm few (List.length_pos_iff.mpr nonempty)
    rw [one] at onlyPoints
    exact noPoint onlyPoints

/-- A run denotes a number, unless it is a lone point. -/
theorem IsRun.ofLiteral?_eq_none_iff
    {run : Text}
    (isRun : IsRun run)
    (nonempty : run ≠ []) :
    Binary64.ofLiteral? run = none ↔ run = ['.'] := by
  constructor
  · intro unread
    by_contra noPoint
    have isUnsigned := (isRun.isMantissa nonempty noPoint).isUnsigned
    rcases ((Literal.isOperand_iff run).mp (.inl isUnsigned)).2 with
      ⟨number, read⟩
    rw [read] at unread
    cases unread
  · rintro rfl
    rfl

/--
The search finds the longest run at the end of an expression, and nothing if
that run is empty.  What it finds denotes a number, unless it is a lone point.
The character before the run is neither a digit nor a point, or it is a second
point.
-/
theorem trailing_number_is_longest_run (expression : Text) :
    (∀ run,
        trailingNumber? expression = some run ↔
          IsLongestRun run expression ∧ run ≠ []) ∧
      (trailingNumber? expression = none ↔ IsLongestRun [] expression) ∧
        (∀ run,
          trailingNumber? expression = some run →
            (Binary64.ofLiteral? run = none ↔ run = ['.'])) ∧
          ∀ before character run,
            expression = before ++ character :: run →
              IsLongestRun run expression →
                isNumberCharacter character = false ∨
                  (character = '.' ∧ '.' ∈ run) := by
  refine
    ⟨trailingNumber?_eq_some_iff expression,
      trailingNumber?_eq_none_iff expression, ?_, ?_⟩
  · intro run found
    rw [trailingNumber?_eq_some_iff] at found
    exact found.1.isRun.ofLiteral?_eq_none_iff found.2
  · intro before character run split longest
    have stop : ¬IsRun (character :: run) := by
      intro longer
      have atEnd : character :: run <:+ expression := ⟨before, split.symm⟩
      exact Nat.not_succ_le_self _ (longest.longest _ atEnd longer)
    rw [isRun_cons_iff] at stop
    by_contra goesOn
    rw [not_or, Bool.not_eq_false] at goesOn
    exact stop ⟨goesOn.1, fun point seen => goesOn.2 ⟨point, seen⟩, longest.isRun⟩

/-- A second point ends the run before it. -/
example :
    trailingNumber? "1.2.3".toList = some "2.3".toList ∧
      trailingNumber? "4..".toList = some ['.'] := by
  decide

end PocketCalc
