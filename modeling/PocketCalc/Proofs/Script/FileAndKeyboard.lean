import PocketCalc.Catalogue
import PocketCalc.CommandLine.Run
import PocketCalc.Proofs.Keypad.Typing
import PocketCalc.Proofs.Text.Lines
import PocketCalc.Proofs.Text.Utf8

/-!
# A file and the keyboard give the same calculation

The keys of a text come from its words, so lines that have its words press the
keys of the text, wherever it was cut.  A replay ends with the session in which
all keys of its lines have been pressed.

A script is read from its file with unified line ends and then cut at all line
ends, while the keyboard is cut at those of a stream only.  Both cuts keep the
words, and in a text without the other line ends both make the same lines.
-/

namespace PocketCalc

namespace Session

theorem pressAll_append
    (session : Session)
    (left right : List Text) :
    (session.pressAll (left ++ right)).1 =
      ((session.pressAll left).1.pressAll right).1 := by
  apply congrArg (Session.mk session.settings)
  exact State.pressedAll_append session.settings.errorText left right

end Session

namespace Script

/-! ## Keys of lines -/

/-- The key lines of a text that is read from a file. -/
def fileLines (text : Text) : List Text :=
  keyLines (Text.unifyLineEnds text)

/-- The key lines of a text that is typed. -/
def keyboardLines (text : Text) : List Text :=
  Text.stripLines (Text.streamLines text)

/-- Lines with the words of a text press its keys. -/
theorem flatMap_splitKeys_of_words
    {lines : List Text}
    {text : Text}
    (words : lines.flatMap Text.words = Text.words text) :
    lines.flatMap splitKeys = splitKeys text := by
  calc
    lines.flatMap splitKeys = (lines.flatMap Text.words).flatMap keysOfWord :=
      List.flatMap_assoc.symm
    _ = (Text.words text).flatMap keysOfWord := by rw [words]
    _ = splitKeys text := rfl

theorem fileLines_flatMap_splitKeys (text : Text) :
    (fileLines text).flatMap splitKeys = splitKeys text := by
  apply flatMap_splitKeys_of_words
  rw [fileLines, keyLines, Text.lines_unifyLineEnds,
    Text.stripLines_flatMap_words, Text.lines_flatMap_words]

theorem keyboardLines_flatMap_splitKeys (text : Text) :
    (keyboardLines text).flatMap splitKeys = splitKeys text := by
  apply flatMap_splitKeys_of_words
  rw [keyboardLines, Text.stripLines_flatMap_words,
    Text.streamLines_flatMap_words]

/-- Without the other line ends the file has the lines of the keyboard. -/
theorem fileLines_eq_keyboardLines
    {text : Text}
    (noOther : ∀ character ∈ text, character.toNat ∉ Text.otherLineEndCodes) :
    fileLines text = keyboardLines text := by
  rw [fileLines, keyLines, Text.lines_unifyLineEnds,
    Text.lines_eq_streamLines noOther, keyboardLines]

/-! ## Replays -/

/-- A replay ends with the session that has pressed the keys of all lines. -/
theorem replay_session (session : Session) (lines : List Text) :
    (replay session lines).1 =
      (session.pressAll (lines.flatMap splitKeys)).1 := by
  induction lines generalizing session with
  | nil => rfl
  | cons line rest ih =>
      rw [List.flatMap_cons, session.pressAll_append]
      exact ih (session.pressAll (splitKeys line)).1

/-! ## Runs of the command -/

section Runs

variable
  {host : Host}
  {path output : Path}
  {bytes : List UInt8}
  {text : Text}
  {store : Store}
  {place : Place}

/-- A script is read with unified line ends. -/
theorem readContent_of_text
    (plain : format? path = some .text)
    (decoded : Utf8.decode bytes = .ok text) :
    readContent host store path bytes = .ok (Text.unifyLineEnds text) := by
  rw [readContent, plain]
  dsimp only
  rw [decodeLines, decode, decoded]
  rfl

/-- A script whose transcript has a place is replayed line by line. -/
theorem exists_runScript_of_text
    {session : Session}
    {target : LogTarget}
    (plain : format? path = some .text)
    (decoded : Utf8.decode bytes = .ok text)
    (named : transcriptPath path = .ok output)
    (placed :
      (target.write (replay session (fileLines text)).2.2 store).target output =
        .ok place) :
    ∃ report,
      runScript host session target path bytes store = .ok report ∧
        report.status = 0 ∧
          report.output =
            transcript (replay session (fileLines text)).2.1
              (replay session (fileLines text)).1.historyLines := by
  rw [fileLines] at placed
  rw [runScript, attemptScript, readContent_of_text plain decoded]
  dsimp only
  rw [named]
  dsimp only
  rw [placed]
  exact ⟨_, rfl, rfl, rfl⟩

end Runs

/--
A file and the keyboard give the same calculation.  Replaying a text as a script
and typing it both press the keys of the text in order, so both end with the
same session.  If the text has none of the other line ends, what typing it
prints before the history are the displays of the steps in the transcript.
-/
theorem file_and_keyboard_agree (session : Session) (text : Text) :
    let keys := splitKeys text
    let script := replay session (fileLines text)
    let keyboard := replay session (keyboardLines text)
    (fileLines text).flatMap splitKeys = keys ∧
      (keyboardLines text).flatMap splitKeys = keys ∧
        script.1 = (session.pressAll keys).1 ∧
          keyboard.1 = (session.pressAll keys).1 ∧
            (∀ host path bytes output target store place,
              format? path = some .text →
                Utf8.decode bytes = .ok text →
                  transcriptPath path = .ok output →
                    (target.write script.2.2 store).target output =
                        .ok place →
                      ∃ report,
                        runScript host session target path bytes store =
                            .ok report ∧
                          report.status = 0 ∧
                            report.output =
                              transcript script.2.1 script.1.historyLines) ∧
              (∀ target store,
                let report := runInteractive session target text store
                report.status = 0 ∧
                  report.output =
                    Text.asLines
                      (keyboard.2.1.map Step.display ++ [historyHeading] ++
                        keyboard.1.historyLines)) ∧
                ((∀ character ∈ text,
                    character.toNat ∉ Text.otherLineEndCodes) →
                  keyboard.2.1.map Step.display =
                    script.2.1.map Step.display) := by
  intro keys script keyboard
  have fileKeys := fileLines_flatMap_splitKeys text
  have keyboardKeys := keyboardLines_flatMap_splitKeys text
  refine ⟨fileKeys, keyboardKeys, ?_, ?_, ?_, ?_, ?_⟩
  · have ends := replay_session session (fileLines text)
    rw [fileKeys] at ends
    exact ends
  · have ends := replay_session session (keyboardLines text)
    rw [keyboardKeys] at ends
    exact ends
  · intro host path bytes output target store place plain decoded named placed
    exact exists_runScript_of_text plain decoded named placed
  · intro target store
    exact ⟨rfl, rfl⟩
  · intro noOther
    have sameLines := fileLines_eq_keyboardLines noOther
    have same : keyboard = script :=
      congrArg (replay session) sameLines.symm
    rw [same]

/-- A calculation over three lines and a blank one, from a file and as typed. -/
theorem file_and_keyboard_agree_on_chained_lines :
    let host := Catalogue.host []
    let session : Session := {}
    let text : Text := "9÷2\r\n=\r\n\r\n + 1 =\n"
    let path : Path := .ofText "keys.txt"
    let target : LogTarget := ⟨.info, none⟩
    (∃ report,
      runScript host session target path (Utf8.encode text) {} = .ok report ∧
        report.output =
          Text.asLines
            ["9÷2 -> 9÷2", "= -> 4.5", "+ 1 = -> 5.5", [], "History:",
              "4.5+1 = 5.5", "9÷2 = 4.5"]) ∧
      (runInteractive session target text {}).output =
        Text.asLines
          ["9÷2", "4.5", "5.5", "History:", "4.5+1 = 5.5", "9÷2 = 4.5"] := by
  intro host session text path target
  rcases file_and_keyboard_agree session text with
    ⟨_, _, _, _, runsScript, runsInteractive, sameDisplays⟩
  constructor
  · rcases
        runsScript host path _ (.ofText "keys_txt_results.txt") target {}
          [("keys_txt_results.txt" : Text)] rfl (Utf8.decode_encode text) rfl
          rfl with
      ⟨report, ran, _, written⟩
    refine ⟨report, ran, ?_⟩
    rw [written]
    decide +kernel
  · have noOther :
        text.all (fun character =>
          character.toNat ∉ Text.otherLineEndCodes) = true := by
      decide +kernel
    rw [(runsInteractive target {}).2, sameDisplays]
    · decide +kernel
    · intro character member
      exact of_decide_eq_true (List.all_eq_true.mp noOther character member)

end Script

end PocketCalc
