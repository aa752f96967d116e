import PocketCalc.Proofs.Keypad.Characters
import PocketCalc.Proofs.Script.Regrouping

/-!
# Reading a transcript back

The lines of a transcript are cut at its line feeds.  The first empty one ends
the steps, because a step is never empty, and the history begins two lines
later.  In the line of a step the last arrow stands before the display.  So a
transcript is read back if neither the lines nor the displays of its steps, nor
the lines of the history, have a line feed, and no display has the head of an
arrow.

Transcripts of scripts are like this as long as the text for errors is.
-/

namespace PocketCalc

namespace Script

/-- No key line of a script has a line feed. -/
theorem lineFeed_notMem_of_mem_keyLines
    {text line : Text}
    (member : line ∈ keyLines text) :
    '\n' ∉ line := by
  rcases List.mem_map.mp (List.mem_filter.mp member).1 with
    ⟨whole, cut, rfl⟩
  intro feed
  exact
    Text.notMem_of_mem_linesFrom (rfl : Text.isLineEnd '\n' = true)
      List.not_mem_nil cut (Text.strip_subset whole feed)

/-! ## Readable transcripts -/

/-- A step whose line in a transcript can be read back. -/
structure Step.IsReadable (step : Step) : Prop where
  line : '\n' ∉ step.line
  display : '\n' ∉ step.display
  arrow : '>' ∉ step.display

/-- Steps and lines of a history whose transcript can be read back. -/
structure IsReadable (steps : List Step) (history : List Text) : Prop where
  steps : ∀ step ∈ steps, step.IsReadable
  history : ∀ line ∈ history, '\n' ∉ line

/-- The step that the line of a transcript shows, by its last arrow. -/
def Step.ofRendered (text : Text) : Step where
  line := ((text.reverse.dropWhile (· ≠ '>')).drop 3).reverse
  display := (text.reverse.takeWhile (· ≠ '>')).dropLast.reverse

/-- The steps and the lines of the history that a transcript shows. -/
def readTranscript (text : Text) : List Step × List Text :=
  let lines := (text.splitOn '\n').dropLast
  ((lines.takeWhile (· ≠ [])).map .ofRendered,
    (lines.dropWhile (· ≠ [])).drop 2)

namespace Step

variable {step : Step}

theorem ofRendered_render
    (noArrow : '>' ∉ step.display) :
    ofRendered step.render = step := by
  have reversed :
      step.render.reverse =
        (step.display.reverse ++ [' ']) ++
          '>' :: '-' :: ' ' :: step.line.reverse := by
    simp [render]
  have shown :
      ∀ character ∈ step.display.reverse ++ [' '],
        decide (character ≠ '>') = true := by
    intro character member
    rw [decide_eq_true_eq]
    rintro rfl
    simp [noArrow] at member
  rw [ofRendered, reversed, List.takeWhile_append_of_pos shown,
    List.dropWhile_append_of_pos shown]
  simp

theorem render_ne_nil : step.render ≠ [] := by
  rw [render]
  simp

theorem IsReadable.lineFeed_notMem_render
    (readable : step.IsReadable) :
    '\n' ∉ step.render := by
  rw [render, List.mem_append, List.mem_append, not_or, not_or]
  exact ⟨⟨readable.line, by decide⟩, readable.display⟩

end Step

section Readable

variable
  {steps otherSteps : List Step}
  {history otherHistory : List Text}

theorem IsReadable.lineFeed_notMem
    (readable : IsReadable steps history) :
    ∀ line ∈ steps.map Step.render ++ [[], historyHeading] ++ history,
      '\n' ∉ line := by
  rw [List.forall_mem_append, List.forall_mem_append, List.forall_mem_map]
  refine ⟨⟨?_, by decide⟩, readable.history⟩
  intro step member
  exact (readable.steps step member).lineFeed_notMem_render

/-- The steps and the history are read back from their transcript. -/
theorem readTranscript_transcript
    (readable : IsReadable steps history) :
    readTranscript (transcript steps history) = (steps, history) := by
  have nonempty :
      ∀ line ∈ steps.map Step.render, decide (line ≠ []) = true := by
    rw [List.forall_mem_map]
    intro step _
    exact decide_eq_true step.render_ne_nil
  have reads :
      ∀ step ∈ steps, (Step.ofRendered ∘ Step.render) step = id step := by
    intro step member
    exact Step.ofRendered_render (readable.steps step member).arrow
  have readSteps : (steps.map Step.render).map Step.ofRendered = steps := by
    rw [List.map_map, List.map_congr_left reads, List.map_id]
  rw [readTranscript, transcript, Text.splitOn_asLines readable.lineFeed_notMem,
    List.dropLast_concat, List.append_assoc,
    List.takeWhile_append_of_pos nonempty,
    List.dropWhile_append_of_pos nonempty]
  simp [readSteps]

/-- Arrows and headings in the lines of steps do no harm. -/
example :
    let steps : List Step := [⟨"1 -> 2", "12"⟩, ⟨"History:", "12"⟩]
    let history : List Text := ["1 = 1", []]
    readTranscript (transcript steps history) = (steps, history) := by
  decide +kernel

theorem eq_of_transcript_eq
    (readable : IsReadable steps history)
    (otherReadable : IsReadable otherSteps otherHistory)
    (same : transcript steps history = transcript otherSteps otherHistory) :
    steps = otherSteps ∧ history = otherHistory := by
  have read := congrArg readTranscript same
  rw [readTranscript_transcript readable,
    readTranscript_transcript otherReadable] at read
  exact Prod.mk.inj read

end Readable

/-! ## Transcripts of replays -/

section Replays

variable
  {settings : Settings}
  {lines : List Text}

/-- Each step of a replay shows what some keys have reached. -/
theorem exists_keys_of_mem_replay
    {session : Session}
    {step : Step}
    (member : step ∈ (replay session lines).2.1) :
    step.line ∈ lines ∧
      ∃ keys, step.display = (session.pressAll keys).1.display := by
  rcases List.append_of_mem member with ⟨above, below, split⟩
  have sameLines := replay_map_line session lines
  rw [split, List.map_append, List.map_cons] at sameLines
  have shown :=
    replay_step session (above.map Step.line) step.line (below.map Step.line)
  rw [sameLines, split, List.length_map,
    List.getElem?_append_right (Nat.le_refl _), Nat.sub_self,
    List.getElem?_cons_zero] at shown
  refine ⟨?_, _, congrArg Step.display (Option.some.inj shown)⟩
  rw [← sameLines]
  exact List.mem_append_right _ List.mem_cons_self

theorem reproducible_of_mem_replay
    {entry : Calculation}
    (member :
      entry ∈
        (replay { settings := settings } lines).1.state.history) :
    entry.Reproducible := by
  rw [replay_session] at member
  exact State.reproducible_of_mem_history member

/-- What a fresh session replays can be read back if its errors can. -/
theorem isReadable_replay
    (text : Text)
    (noFeed : '\n' ∉ settings.errorText)
    (noArrow : '>' ∉ settings.errorText) :
    let replayed := replay { settings := settings } (keyLines text)
    IsReadable replayed.2.1 replayed.1.historyLines := by
  have shown
      {character : Char}
      (noError : character ∉ settings.errorText)
      (noDisplay : character ∉ displayCharacters)
      (keys : List Text) :
      character ∉
        (({ settings := settings } : Session).pressAll keys).1.display := by
    intro member
    have known := Session.display_subset settings keys member
    rw [List.mem_append] at known
    exact known.elim noDisplay noError
  intro replayed
  constructor
  · intro step member
    rcases exists_keys_of_mem_replay member with ⟨written, keys, display⟩
    refine ⟨lineFeed_notMem_of_mem_keyLines written, ?_, ?_⟩
    · rw [display]
      exact shown noFeed (by decide) keys
    · rw [display]
      exact shown noArrow (by decide) keys
  · intro line member
    rcases List.mem_map.mp member with ⟨entry, recorded, rfl⟩
    have apart :=
      (reproducible_of_mem_replay recorded).separator_notMem
        (by decide : '\n' ∈ [' ', '=', '\n'])
    rw [Calculation.line, List.mem_append, List.mem_append, not_or, not_or]
    exact ⟨⟨apart.1, by decide⟩, apart.2⟩

end Replays

/--
A transcript is read in one way only.  If steps and the lines of a history can
be read back, no others that can have the same transcript.  What a fresh session
replays from a script can be read back if its text for errors has no line feed
and no head of an arrow.  Each line of its history then has one equals sign
between spaces, with the expression before and the result behind it, so that the
transcript determines the steps and all calculations of the history.
-/
theorem transcripts_are_unambiguous :
    (∀ steps history otherSteps otherHistory,
      IsReadable steps history →
        IsReadable otherSteps otherHistory →
          transcript steps history = transcript otherSteps otherHistory →
            steps = otherSteps ∧ history = otherHistory) ∧
      (∀ (settings : Settings) (text : Text),
        '\n' ∉ settings.errorText →
          '>' ∉ settings.errorText →
            let replayed := replay { settings := settings } (keyLines text)
            IsReadable replayed.2.1 replayed.1.historyLines ∧
              ∀ entry ∈ replayed.1.state.history,
                ∀ before after,
                  entry.line = before ++ [' ', '=', ' '] ++ after ↔
                    before = entry.expression ∧ after = entry.result) ∧
        ∀ (settings otherSettings : Settings) (text otherText : Text),
          (∀ character ∈ ['\n', '>'],
            character ∉ settings.errorText ∧
              character ∉ otherSettings.errorText) →
            let replayed := replay { settings := settings } (keyLines text)
            let other :=
              replay { settings := otherSettings } (keyLines otherText)
            transcript replayed.2.1 replayed.1.historyLines =
                transcript other.2.1 other.1.historyLines →
              replayed.2.1 = other.2.1 ∧
                replayed.1.state.history = other.1.state.history := by
  refine ⟨?_, ?_, ?_⟩
  · intro steps history otherSteps otherHistory readable otherReadable same
    exact eq_of_transcript_eq readable otherReadable same
  · intro settings text noFeed noArrow replayed
    refine ⟨isReadable_replay text noFeed noArrow, ?_⟩
    intro entry member before after
    exact (reproducible_of_mem_replay member).line_eq_iff before after
  · intro settings otherSettings text otherText plain replayed other same
    rcases plain '\n' (by decide) with ⟨noFeed, otherNoFeed⟩
    rcases plain '>' (by decide) with ⟨noArrow, otherNoArrow⟩
    rcases
        eq_of_transcript_eq (isReadable_replay text noFeed noArrow)
          (isReadable_replay otherText otherNoFeed otherNoArrow) same with
      ⟨sameSteps, sameLines⟩
    refine ⟨sameSteps, History.eq_of_lines_eq ?_ sameLines⟩
    intro entry member
    exact reproducible_of_mem_replay member

/-- A line with a heading and an arrow, and an equals sign in the display. -/
theorem transcripts_are_unambiguous_with_equals_sign_in_error_text :
    let settings : Settings := { errorText := "no = value" }
    let text : Text := "5+5=\nHistory: -> 1÷0 =\n"
    let steps : List Step :=
      [⟨"5+5=", "10"⟩, ⟨"History: -> 1÷0 =", "no = value"⟩]
    let history : List Text := ["5+5 = 10"]
    (replay { settings := settings } (keyLines text)).2.1 = steps ∧
      (replay { settings := settings } (keyLines text)).1.historyLines =
          history ∧
        IsReadable steps history ∧
          ∀ otherSteps otherHistory,
            IsReadable otherSteps otherHistory →
              transcript steps history = transcript otherSteps otherHistory →
                steps = otherSteps ∧ history = otherHistory := by
  intro settings text steps history
  rcases transcripts_are_unambiguous with ⟨unique, ofScript, _⟩
  have sameSteps :
      (replay { settings := settings } (keyLines text)).2.1 = steps := by
    decide +kernel
  have sameHistory :
      (replay { settings := settings } (keyLines text)).1.historyLines =
        history := by
    decide +kernel
  rcases ofScript settings text (by decide) (by decide) with ⟨readable, _⟩
  rw [sameSteps, sameHistory] at readable
  refine ⟨sameSteps, sameHistory, readable, ?_⟩
  intro otherSteps otherHistory otherReadable same
  exact unique steps history otherSteps otherHistory readable otherReadable same

end Script

end PocketCalc
