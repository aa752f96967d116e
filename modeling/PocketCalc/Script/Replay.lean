import PocketCalc.Files.Path
import PocketCalc.Session

/-!
# Replaying lines of keys

A line of a script is a sequence of words between blanks.  The name or label of
a control key is one key; every other word is pressed character by character.

A replay presses the keys of each line in turn and remembers what the display
shows after it.  The transcript of a replay lists these steps and then the
history.  It stands beside the script.  Its name is that of the script with an
underscore for every dot of its suffixes, and an ending of its own.
-/

namespace PocketCalc

namespace Script

/-- The keys of one word. -/
def keysOfWord (word : Text) : List Text :=
  if (Control.ofToken? word).isSome then
    [word]
  else
    word.map fun character => [character]

/-- The keys of a line, in the order in which they are pressed. -/
def splitKeys (line : Text) : List Text :=
  (Text.words line).flatMap keysOfWord

/-! ## Replays -/

/-- A line of keys and the display after its last key. -/
structure Step where
  line : Text
  display : Text
deriving DecidableEq

/-- A step as a line of the transcript. -/
def Step.render (step : Step) : Text :=
  step.line ++ [' ', '-', '>', ' '] ++ step.display

/-- Press the keys of one line. -/
def replayLine (session : Session) (line : Text) :
    Session × Step × List Notice :=
  let (next, notices) := session.pressAll (splitKeys line)
  (next, ⟨line, next.display⟩, notices ++ [.replayed line next.display])

/-- Press the keys of all lines; there is one step for each line. -/
def replay (session : Session) :
    List Text → Session × List Step × List Notice
  | [] => (session, [], [])
  | line :: rest =>
      let (next, step, notices) := replayLine session line
      let (last, steps, more) := replay next rest
      (last, step :: steps, notices ++ more)

/-- The line between the steps or displays and the history. -/
def historyHeading : Text := "History:"

/-- The transcript of steps and the lines of a history. -/
def transcript (steps : List Step) (history : List Text) : Text :=
  Text.asLines
    (steps.map Step.render ++ [[], historyHeading] ++ history)

/-! ## Where the transcript goes -/

/-- The ending of the names of transcripts. -/
def transcriptEnding : Text := "_results.txt"

/-- The name of the transcript of a script with the given name. -/
def transcriptName (name : Text) : Text :=
  let suffix := (Path.suffixesOf name).flatten
  name.take (name.length - suffix.length) ++
    suffix.map (fun character => if character = '.' then '_' else character) ++
      transcriptEnding

/-- The path of the transcript of a script. -/
def transcriptPath (path : Path) : Except NamelessPath Path :=
  path.withName (transcriptName path.name)

end Script

end PocketCalc
