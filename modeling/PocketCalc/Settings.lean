import PocketCalc.Complaint
import PocketCalc.Files.Path
import PocketCalc.Notice
import PocketCalc.Text.Basic

/-!
# Settings

The settings are the level of the log, a file that also receives the log, and
the text shown for errors.  They are looked up by name in the environment
first and in what the settings file of the working directory gives second; what
neither gives has a default.  Upper and lower case make no difference in a name,
and the last of several values counts.
-/

namespace PocketCalc

/-- The settings of a calculator. -/
structure Settings where
  logLevel : Text := ['I', 'N', 'F', 'O']
  logFile : Option Path := none
  errorText : Text := ['E', 'r', 'r', 'o', 'r']
deriving DecidableEq

namespace Settings

/-- Names of settings and their values, in order. -/
abbrev Source := List (Text × Text)

/-- The last value of a name, upper and lower case being the same. -/
def Source.find? (source : Source) (name : String) : Option Text :=
  let wanted := name.toList.map Char.toUpper
  (source.reverse.find? fun entry =>
    entry.1.map Char.toUpper = wanted).map (·.2)

/-- Settings with a text for errors, which must not be empty. -/
def checked (settings : Settings) : Except (List Complaint) Settings :=
  match Complaint.ofEmpty "error_text" settings.errorText with
  | [] => .ok settings
  | complaints => .error complaints

/-- The settings that the environment and the settings file give. -/
def load (environment file : Source) : Except (List Complaint) Settings :=
  let given (name : String) : Option Text :=
    (environment.find? name).or (file.find? name)
  let standard : Settings := {}
  checked
    { logLevel := (given "CALC_LOG_LEVEL").getD standard.logLevel
      logFile := (given "CALC_LOG_FILE").map Path.ofText
      errorText := (given "CALC_ERROR_TEXT").getD standard.errorText }

/-- The threshold of the log. -/
def threshold (settings : Settings) : Except NoLevel Level :=
  Level.ofSetting settings.logLevel

end Settings

end PocketCalc
