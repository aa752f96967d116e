import PocketCalc.CommandLine.Run
import PocketCalc.CommandLine.SettingsFile

/-!
# The command

The outermost layer: it collects the arguments, the environment, the input and
the files that a run can touch, lets the run be computed, and carries out what
the run came to.  Its host reads settings files and takes no archives apart.
-/

open PocketCalc

namespace PocketCalc

namespace Command

/-- Libraries that take no archive apart. -/
def noLibraries : ArchiveLibraries :=
  let refused {Result : Type} : Except ArchiveFault Result :=
    .error (.foreign ⟨"NotImplementedError", "archives are not supported"⟩)
  { zipNames := fun _ => refused
    zipContent := fun _ _ => refused
    tarMembers := fun _ => refused
    sevenZip := { names := fun _ => refused, unpack := fun _ _ => refused } }

/-- The host of the command. -/
def host : Host where
  libraries := noLibraries
  temporary := ["tmp", "pocket-calc"]
  settingsOf := SettingsFile.read

/-- The values that the environment gives to names. -/
def environment (names : List String) : IO Settings.Source := do
  let mut found := []
  for name in names do
    if let some value ← IO.getEnv name then
      found := found ++ [(name.toList, value.toList)]
  return found

/-- The names of the settings in the environment. -/
def settingNames : List String :=
  (["LOG_LEVEL", "LOG_FILE", "ERROR_TEXT"].map ("CALC_" ++ ·)).flatMap
    fun name => [name.toLower, name]

/-- What a path leads to, if anything; what cannot be read is a directory. -/
def node? (path : Path) : IO (Option Node) := do
  let opened := IO.FS.Handle.mk (String.ofList path.render) .read
  match ← opened.toBaseIO with
  | .error _ => return none
  | .ok handle =>
      match ← handle.readBinToEnd.toBaseIO with
      | .error _ => return some .directory
      | .ok bytes => return some (.file bytes.toList)

/-- The store with what the given paths lead to, and what is on the way. -/
def collect (store : Store) (paths : List Path) : IO Store := do
  let mut store := store
  for path in paths do
    for length in [1 : path.names.length + 1] do
      let before : Path := { path with names := path.names.take length }
      if let .ok place := store.locate before then
        if let some node ← node? before then
          store := store.insert place node
  return store

/-- The paths that a run with some settings can touch. -/
def touched (arguments : List Text) (settings : Settings.Source) : List Path :=
  let named := arguments.map Path.ofText
  named ++ named.filterMap (fun path => (Script.transcriptPath path).toOption) ++
    settings.map fun entry => Path.ofText entry.2

/-- Write the files that differ from what they were, and the log. -/
def conclude (before after : Store) (log : List Text) : IO Unit := do
  for (place, bytes) in before.changes after do
    let path : Path := ⟨.root, place⟩
    IO.FS.writeBinFile (String.ofList path.render) (ByteArray.mk bytes.toArray)
  for line in log do
    IO.eprintln (String.ofList line)

/-- What a run of the command starts from. -/
def invocation (arguments : List Text) : IO Invocation := do
  let here ← IO.currentDir
  let empty : Store :=
    { workingDirectory := (Path.ofText here.toString.toList).names }
  let store ← collect empty [Invocation.settingsPath]
  let text :=
    match store.read Invocation.settingsPath with
    | .ok bytes => (Utf8.decode bytes).toOption.getD []
    | .error _ => []
  let names := settingNames ++ (SettingsFile.referenced text).map String.ofList
  let environment ← environment names
  let store ←
    collect store
      (touched arguments (environment ++ SettingsFile.read environment text))
  let interactive := Arguments.request arguments = .interactive
  let input ← if interactive then (← IO.getStdin).readToEnd else pure ""
  return {
    host := host
    arguments := arguments
    input := input.toList
    environment := environment
    store := store }

end Command

end PocketCalc

/-- Run the command with the arguments of the process. -/
def main (arguments : List String) : IO UInt32 := do
  let invocation ← Command.invocation (arguments.map String.toList)
  match invocation.attempt with
  | .error interruption =>
      Command.conclude invocation.store interruption.store interruption.log
      IO.eprintln (String.ofList interruption.fault.message)
      return 1
  | .ok report =>
      Command.conclude invocation.store report.store report.log
      IO.print (String.ofList report.output)
      return report.status.toUInt32
