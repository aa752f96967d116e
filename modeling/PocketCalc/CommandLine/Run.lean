import PocketCalc.CommandLine.Arguments
import PocketCalc.Script.Replay
import PocketCalc.Script.Source

/-!
# Running the command

A run is a function of its host, the arguments, the input, the environment and
the files.  It ends with an exit status, what it printed, its log, and the files
as it leaves them; or a fault that the command does not handle interrupts it,
with the log and the files as they are by then.

The settings come first, then the log file, then the arguments.  Without a path
the input is replayed line by line and the display is printed after each line.
With a path the script is replayed, and its transcript is written beside it and
printed.  A script that cannot be read is reported in the log.
-/

namespace PocketCalc

/-- What a run starts from. -/
structure Invocation where
  host : Host
  arguments : List Text
  input : Text
  environment : Settings.Source
  store : Store

/-- A fault that ends a run early. -/
inductive RunFault where
  | settings (complaints : List Complaint)
  | settingsFile (fault : Utf8.Fault)
  | level (fault : NoLevel)
  | file (fault : FileFault)
  | foreign (fault : ForeignFault)
  | namelessPath (nameless : NamelessPath)
deriving DecidableEq

namespace RunFault

/-- The wording of a fault. -/
def message : RunFault → Text
  | settings complaints => Complaint.messages complaints
  | settingsFile fault => fault.message
  | level fault => fault.message
  | file fault => fault.message.toList
  | foreign fault => fault.message
  | namelessPath nameless => nameless.message

end RunFault

/-- How a run ends. -/
structure Report where
  status : Nat
  output : Text
  log : List Text
  store : Store
deriving DecidableEq

/-- A fault that interrupts a run, and the log and the files by then. -/
structure Interruption where
  fault : RunFault
  log : List Text
  store : Store
deriving DecidableEq

namespace Invocation

/-- The path of the settings file. -/
def settingsPath : Path where
  anchor := .here
  names := [['.', 'e', 'n', 'v']]

/-- What the settings file of a run gives, if there is one. -/
def fileSettings (invocation : Invocation) :
    Except RunFault Settings.Source :=
  match invocation.store.file? settingsPath with
  | .error fault => .error (.file fault)
  | .ok none => .ok []
  | .ok (some bytes) =>
      match Utf8.decode bytes with
      | .ok text =>
          .ok
            (invocation.host.settingsOf invocation.environment
              (Text.unifyLineEnds text))
      | .error fault => .error (.settingsFile fault)

/-- The settings of a run. -/
def settings (invocation : Invocation) : Except RunFault Settings :=
  match invocation.fileSettings with
  | .error fault => .error fault
  | .ok file =>
      (Settings.load invocation.environment file).mapError .settings

end Invocation

/-! ## The log -/

/-- Where the log goes: its threshold, and the place of its file if it has one. -/
structure LogTarget where
  threshold : Level
  place : Option Place
deriving DecidableEq

namespace LogTarget

/-- Open the log of the given settings; a log file is made if there is none. -/
def opened (settings : Settings) (store : Store) :
    Except RunFault (LogTarget × Store) :=
  match settings.threshold with
  | .error fault => .error (.level fault)
  | .ok threshold =>
      match settings.logFile with
      | none => .ok (⟨threshold, none⟩, store)
      | some path =>
          match store.target (store.absolute path) with
          | .error fault => .error (.file fault)
          | .ok place => .ok (⟨threshold, some place⟩, store.touch place)

/-- The lines of notices that pass the threshold. -/
def lines (target : LogTarget) (notices : List Notice) : List Text :=
  Notice.log target.threshold notices

/-- Write notices to the log file, if there is one. -/
def write (target : LogTarget) (notices : List Notice) (store : Store) :
    Store :=
  match target.place with
  | none => store
  | some place => store.append place (Text.asLines (target.lines notices))

end LogTarget

/-! ## The ways to run -/

namespace Report

/-- A run that printed `output`, logged notices and left the files alone. -/
def logged
    (target : LogTarget)
    (status : Nat)
    (output : Text)
    (notices : List Notice)
    (store : Store) :
    Report where
  status := status
  output := output
  log := target.lines notices
  store := target.write notices store

end Report

/-- Replay the input and print the display after each of its lines. -/
def runInteractive
    (session : Session)
    (target : LogTarget)
    (input : Text)
    (store : Store) :
    Report :=
  let lines := Text.stripLines (Text.streamLines input)
  let (last, steps, notices) := Script.replay session lines
  let output := Text.asLines
    (steps.map Script.Step.display ++ [Script.historyHeading] ++ last.historyLines)
  .logged target 0 output notices store

/-- Replay a script and write its transcript, unless a fault interrupts it. -/
def attemptScript
    (host : Host)
    (session : Session)
    (target : LogTarget)
    (path : Path)
    (bytes : List UInt8)
    (store : Store) :
    Except Interruption Report :=
  match Script.readContent host store path bytes with
  | .error (.file fault) =>
      .error { fault := .file fault, log := [], store := store }
  | .error (.foreign fault) =>
      .error { fault := .foreign fault, log := [], store := store }
  | .error (.script fault) =>
      .ok (.logged target 1 [] [.notReplayed path.render fault.message] store)
  | .ok text =>
      let (last, steps, notices) :=
        Script.replay session (Script.keyLines text)
      let transcript := Script.transcript steps last.historyLines
      let replayed := target.write notices store
      let interrupted (fault : RunFault) : Interruption :=
        { fault := fault, log := target.lines notices, store := replayed }
      match Script.transcriptPath path with
      | .error nameless => .error (interrupted (.namelessPath nameless))
      | .ok output =>
          match replayed.target output with
          | .error fault => .error (interrupted (.file fault))
          | .ok place =>
              let written := Notice.transcriptWritten output.render
              .ok
                { status := 0
                  output := transcript
                  log := target.lines (notices ++ [written])
                  store := target.write [written]
                    (replayed.write place transcript) }

/-- Replay a script; of an interruption only the fault is left. -/
def runScript
    (host : Host)
    (session : Session)
    (target : LogTarget)
    (path : Path)
    (bytes : List UInt8)
    (store : Store) :
    Except RunFault Report :=
  (attemptScript host session target path bytes store).mapError (·.fault)

namespace Invocation

/-- The text that the help option prints. -/
def helpText : Text :=
  Text.asLines
    [ "usage: arithmetic-calculator [-h] [file_path]",
      [],
      "Left-to-right arithmetic calculator",
      [],
      "positional arguments:",
      "  file_path   Key-press script (.txt, .zip, .tar.xz or .7z); reads stdin when",
      "              omitted",
      [],
      "options:",
      "  -h, --help  show this help message and exit" ]

/-- What a run does as soon as its settings are loaded and its log is open. -/
def proceed
    (invocation : Invocation)
    (session : Session)
    (target : LogTarget)
    (store : Store) :
    Except Interruption Report :=
  match Arguments.request invocation.arguments with
  | .help => .ok (.logged target 0 helpText [] store)
  | .refused => .ok (.logged target 2 [] [] store)
  | .interactive => .ok (runInteractive session target invocation.input store)
  | .script text =>
      let path := Path.ofText text
      match store.file? path with
      | .error fault =>
          .error { fault := .file fault, log := [], store := store }
      | .ok none => .ok (.logged target 2 [] [] store)
      | .ok (some bytes) =>
          attemptScript invocation.host session target path bytes store

/-- Run the command, unless a fault interrupts it. -/
def attempt (invocation : Invocation) : Except Interruption Report :=
  let unopened (fault : RunFault) : Interruption :=
    { fault := fault, log := [], store := invocation.store }
  match invocation.settings with
  | .error fault => .error (unopened fault)
  | .ok settings =>
      match LogTarget.opened settings invocation.store with
      | .error fault => .error (unopened fault)
      | .ok (target, store) =>
          invocation.proceed { settings := settings } target store

/-- Run the command; of an interruption only the fault is left. -/
def run (invocation : Invocation) : Except RunFault Report :=
  invocation.attempt.mapError (·.fault)

end Invocation

/-- Telling a fault in another way changes no result. -/
theorem mapError_eq_ok_iff
    {Fault Other Result : Type}
    {tell : Fault → Other}
    {attempted : Except Fault Result}
    {result : Result} :
    attempted.mapError tell = .ok result ↔ attempted = .ok result := by
  cases attempted with
  | error fault => exact iff_of_false nofun nofun
  | ok found =>
      constructor <;> intro same <;> cases same <;> rfl

end PocketCalc
