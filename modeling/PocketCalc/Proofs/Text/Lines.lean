import PocketCalc.Proofs.Text.Words

/-!
# Words of the lines of a text

However a text is cut into lines, the lines have the words of the text, because
every line end is a blank.  Writing the line ends of a stream as line feeds
makes no difference to a cut at them.  No line has a character that it is cut
at, so lines that are written with line feeds behind them are read again.

The two cuts differ at the other characters that end a line of print.  In a
text without these the lines of a script are those of a stream.
-/

namespace PocketCalc

namespace Text

/-- The code points that end a line of a script and not of a stream. -/
def otherLineEndCodes : List Nat :=
  [0x0B, 0x0C, 0x1C, 0x1D, 0x1E, 0x85, 0x2028, 0x2029]

/-! ## Line ends -/

section LineEnds

variable {character : Char}

theorem isStreamLineEnd_iff :
    isStreamLineEnd character = true ↔ character.toNat ∈ [0x0A, 0x0D] := by
  rw [isStreamLineEnd, Bool.or_eq_true, decide_eq_true_eq, decide_eq_true_eq,
    ← Char.toNat_inj, ← Char.toNat_inj, List.mem_cons, List.mem_singleton]
  rfl

theorem isLineEnd_iff :
    isLineEnd character = true ↔
      isStreamLineEnd character = true ∨
        character.toNat ∈ otherLineEndCodes := by
  rw [isStreamLineEnd_iff, isLineEnd, List.contains_iff_mem, ← List.mem_append]
  apply List.Perm.mem_iff
  decide

theorem isBlank_of_isLineEnd
    (ends : isLineEnd character = true) :
    isBlank character = true := by
  have blanks : lineEndCodes ⊆ blankCodes := by decide
  rw [isLineEnd, List.contains_iff_mem] at ends
  rw [isBlank, List.contains_iff_mem]
  exact blanks ends

end LineEnds

/-! ## Cutting at characters -/

section Cut

variable
  {isEnd isOther : Char → Bool}
  {character : Char}
  {rest text : Text}

/-- A character that begins no pair ends the line if it is a line end. -/
theorem linesFrom_of_end
    (alone : ∀ others, character = '\r' → rest = '\n' :: others → False)
    (ends : isEnd character = true)
    (begun : Text) :
    linesFrom isEnd begun (character :: rest) =
      begun :: linesFrom isEnd [] rest := by
  rw [linesFrom.eq_3 isEnd begun character rest alone, if_pos ends]

/-- A character that begins no pair goes on with the line otherwise. -/
theorem linesFrom_of_not_end
    (alone : ∀ others, character = '\r' → rest = '\n' :: others → False)
    (inside : ¬isEnd character = true)
    (begun : Text) :
    linesFrom isEnd begun (character :: rest) =
      linesFrom isEnd (begun ++ [character]) rest := by
  rw [linesFrom.eq_3 isEnd begun character rest alone, if_neg inside]

/-- The lines of a text that is cut at blanks have its words. -/
theorem linesFrom_flatMap_words
    (endsBlank : ∀ character, isEnd character = true → isBlank character = true)
    (begun text : Text) :
    (linesFrom isEnd begun text).flatMap words = words (begun ++ text) := by
  induction begun, text using linesFrom.induct isEnd with
  | case1 begun empty =>
      rw [linesFrom, if_pos empty, List.isEmpty_iff.mp empty]
      rfl
  | case2 begun some =>
      rw [linesFrom, if_neg some, List.flatMap_singleton, List.append_nil]
  | case3 begun rest ih =>
      rw [linesFrom, List.flatMap_cons, ih, words_append_blank rfl,
        words_blank_cons rfl, List.nil_append]
  | case4 begun character rest alone ends ih =>
      rw [linesFrom_of_end alone ends, List.flatMap_cons, ih,
        words_append_blank (endsBlank character ends), List.nil_append]
  | case5 begun character rest alone inside ih =>
      rw [linesFrom_of_not_end alone inside, ih, List.append_assoc,
        List.singleton_append]

/-- No line has a character that ends lines. -/
theorem notMem_of_mem_linesFrom
    {begun line : Text}
    (ends : isEnd character = true)
    (inside : character ∉ begun)
    (member : line ∈ linesFrom isEnd begun text) :
    character ∉ line := by
  induction begun, text using linesFrom.induct isEnd with
  | case1 begun empty =>
      rw [linesFrom, if_pos empty] at member
      cases member
  | case2 begun some =>
      rw [linesFrom, if_neg some, List.mem_singleton] at member
      rw [member]
      exact inside
  | case3 begun rest ih =>
      rw [linesFrom, List.mem_cons] at member
      rcases member with rfl | later
      · exact inside
      · exact ih List.not_mem_nil later
  | case4 begun next rest alone nextEnds ih =>
      rw [linesFrom_of_end alone nextEnds, List.mem_cons] at member
      rcases member with rfl | later
      · exact inside
      · exact ih List.not_mem_nil later
  | case5 begun next rest alone nextInside ih =>
      rw [linesFrom_of_not_end alone nextInside] at member
      apply ih _ member
      rw [List.mem_append, List.mem_singleton, not_or]
      refine ⟨inside, ?_⟩
      rintro rfl
      exact nextInside ends

/-- Texts are cut alike where their characters end lines alike. -/
theorem linesFrom_congr
    (alike : ∀ character ∈ text, isEnd character = isOther character)
    (begun : Text) :
    linesFrom isEnd begun text = linesFrom isOther begun text := by
  induction begun, text using linesFrom.induct isEnd with
  | case1 begun empty => rfl
  | case2 begun some => rfl
  | case3 begun rest ih =>
      rw [linesFrom, linesFrom, ih]
      intro character member
      apply alike
      exact List.mem_cons_of_mem _ (List.mem_cons_of_mem _ member)
  | case4 begun character rest alone ends ih =>
      rcases List.forall_mem_cons.mp alike with ⟨here, later⟩
      have otherEnds : isOther character = true := here.symm.trans ends
      rw [linesFrom_of_end alone ends, linesFrom_of_end alone otherEnds,
        ih later]
  | case5 begun character rest alone inside ih =>
      rcases List.forall_mem_cons.mp alike with ⟨here, later⟩
      have otherInside : ¬isOther character = true := by
        rw [← here]
        exact inside
      rw [linesFrom_of_not_end alone inside,
        linesFrom_of_not_end alone otherInside, ih later]

/-- Unifying the line ends of a stream makes no difference to a cut at them. -/
theorem linesFrom_unifyLineEnds
    (feedEnds : isEnd '\n' = true)
    (returnEnds : isEnd '\r' = true)
    (begun text : Text) :
    linesFrom isEnd begun (unifyLineEnds text) =
      linesFrom isEnd begun text := by
  have atFeed :
      ∀ begun rest,
        linesFrom isEnd begun ('\n' :: rest) =
          begun :: linesFrom isEnd [] rest := by
    intro begun rest
    apply linesFrom_of_end _ feedEnds
    intro others isReturn
    cases isReturn
  induction text using unifyLineEnds.induct generalizing begun with
  | case1 => rfl
  | case2 rest ih => rw [unifyLineEnds, atFeed, ih, linesFrom]
  | case3 character rest alone ih =>
      rw [unifyLineEnds.eq_3 character rest alone]
      by_cases isReturn : character = '\r'
      · subst isReturn
        rw [if_pos rfl, atFeed, ih, linesFrom_of_end alone returnEnds]
      · have noPair :
            ∀ others,
              character = '\r' →
                unifyLineEnds rest = '\n' :: others → False := by
          intro others same
          exact absurd same isReturn
        rw [if_neg isReturn]
        by_cases ends : isEnd character = true
        · rw [linesFrom_of_end noPair ends, linesFrom_of_end alone ends, ih]
        · rw [linesFrom_of_not_end noPair ends,
            linesFrom_of_not_end alone ends, ih]

end Cut

/-- Line ends that were unified stay as they are. -/
theorem unifyLineEnds_unifyLineEnds (text : Text) :
    unifyLineEnds (unifyLineEnds text) = unifyLineEnds text := by
  induction text using unifyLineEnds.induct with
  | case1 => rfl
  | case2 rest ih => simp [unifyLineEnds, ih]
  | case3 character rest alone ih =>
      rw [unifyLineEnds.eq_3 character rest alone]
      by_cases isReturn : character = '\r'
      · simp [isReturn, unifyLineEnds, ih]
      · simp [isReturn, unifyLineEnds, ih]

/-! ## Written lines -/

/-- Cutting lines at their line feeds gives them back, and an empty rest. -/
theorem splitOn_asLines
    {parts : List Text}
    (noFeed : ∀ part ∈ parts, '\n' ∉ part) :
    (asLines parts).splitOn '\n' = parts ++ [[]] := by
  induction parts with
  | nil => rfl
  | cons part parts ih =>
      rcases List.forall_mem_cons.mp noFeed with ⟨first, others⟩
      rw [asLines, List.flatMap_cons, List.append_assoc, List.singleton_append,
        List.splitOn_append_cons_self_of_not_mem first]
      exact congrArg (part :: ·) (ih others)

/-! ## The lines of streams and scripts -/

theorem streamLines_flatMap_words (text : Text) :
    (streamLines text).flatMap words = words text := by
  apply linesFrom_flatMap_words
  intro character ends
  exact isBlank_of_isLineEnd (isLineEnd_iff.mpr (Or.inl ends))

theorem lines_flatMap_words (text : Text) :
    (lines text).flatMap words = words text := by
  apply linesFrom_flatMap_words
  intro character ends
  exact isBlank_of_isLineEnd ends

theorem lines_unifyLineEnds (text : Text) :
    lines (unifyLineEnds text) = lines text :=
  linesFrom_unifyLineEnds rfl rfl [] text

/-- Without the other line ends a script has the lines of a stream. -/
theorem lines_eq_streamLines
    {text : Text}
    (noOther : ∀ character ∈ text, character.toNat ∉ otherLineEndCodes) :
    lines text = streamLines text := by
  apply linesFrom_congr
  intro character member
  rw [Bool.eq_iff_iff, isLineEnd_iff]
  constructor
  · intro ends
    exact ends.resolve_right (noOther character member)
  · intro ends
    exact Or.inl ends

end Text

end PocketCalc
