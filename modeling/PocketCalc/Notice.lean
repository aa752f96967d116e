import PocketCalc.Expression.Outcome

/-!
# Notices

Whatever the calculator reports about its work is a notice: a plain value that
an operation returns beside its result.  Each notice has a level and a wording.
A threshold keeps the notices of its level and above, in their order, and
changes nothing else.
-/

namespace PocketCalc

/-- What a setting of the level can name that is no level. -/
inductive NoLevel where
  /-- The standard form of a line of the log. -/
  | format
  /-- The table of the styles in which such a form is written. -/
  | styles
deriving DecidableEq

namespace NoLevel

/-- The name in a setting. -/
def name : NoLevel → String
  | format => "BASIC_FORMAT"
  | styles => "_STYLES"

/-- The wording of the refusal. -/
def message : NoLevel → Text
  | format => "Unknown level: '%(levelname)s:%(name)s:%(message)s'"
  | styles =>
      "Level not an integer or a valid string: " ++
        ("\x7b'%': (<class 'logging.PercentStyle'>, " ++
          "'%(levelname)s:%(name)s:%(message)s'), " ++
          "'\x7b': (<class 'logging.StrFormatStyle'>, " ++
          "'\x7blevelname\x7d:\x7bname\x7d:\x7bmessage\x7d'), " ++
          "'$': (<class 'logging.StringTemplateStyle'>, " ++
          "'$\x7blevelname\x7d:$\x7bname\x7d:$\x7bmessage\x7d')\x7d").toList

end NoLevel

/-- How much a notice matters, from least to most. -/
inductive Level where
  | debug
  | info
  | warning
  | error
  | critical
deriving DecidableEq

namespace Level

/-- The rank of a level. -/
def rank : Level → Nat
  | debug => 0
  | info => 1
  | warning => 2
  | error => 3
  | critical => 4

/-- The name of a level. -/
def name : Level → String
  | debug => "DEBUG"
  | info => "INFO"
  | warning => "WARNING"
  | error => "ERROR"
  | critical => "CRITICAL"

/--
The upper case of a letter, as far as it is made of letters without accents: the
dotless i, the long s and the joined letters have one too.
-/
def upperLetter : Char → Text
  | 'ı' => "I"
  | 'ſ' => "S"
  | 'ß' => "SS"
  | 'ﬀ' => "FF"
  | 'ﬁ' => "FI"
  | 'ﬂ' => "FL"
  | 'ﬃ' => "FFI"
  | 'ﬄ' => "FFL"
  | 'ﬅ' => "ST"
  | 'ﬆ' => "ST"
  | letter => [letter.toUpper]

/-- A setting in upper case. -/
def upper (setting : Text) : Text :=
  setting.flatMap upperLetter

/-- The names of levels.  An unset level leaves the threshold at `warning`. -/
def names : List (String × Level) :=
  [("DEBUG", debug), ("INFO", info), ("WARNING", warning), ("WARN", warning),
    ("ERROR", error), ("CRITICAL", critical), ("FATAL", critical),
    ("NOTSET", warning)]

/--
The threshold that a setting names, in upper or lower case.  Two names are those
of things that are no level; any other name that is not known means `info`.
-/
def ofSetting (setting : Text) : Except NoLevel Level :=
  if upper setting = NoLevel.format.name.toList then
    .error .format
  else if upper setting = NoLevel.styles.name.toList then
    .error .styles
  else
    match names.find? fun entry => entry.1.toList = upper setting with
    | some entry => .ok entry.2
    | none => .ok info

end Level

/-- What the calculator reports about its work. -/
inductive Notice where
  /-- An expression was read into operands and operators. -/
  | tokens (expression : Text) (stream : TokenStream)
  /-- The digits at the end of an expression are no number to change. -/
  | notToggled (digits : Text)
  /-- An expression was evaluated. -/
  | evaluated (expression result : Text)
  /-- An expression could not be evaluated. -/
  | notEvaluated (expression : Text) (cause : FailureCause)
  /-- A key was pressed that does not exist. -/
  | unknownKey (token : Text)
  /-- A line of keys was replayed. -/
  | replayed (line display : Text)
  /-- The transcript of a replay was written. -/
  | transcriptWritten (path : Text)
  /-- A script could not be replayed. -/
  | notReplayed (path reason : Text)
deriving DecidableEq

namespace Notice

/-- How much a notice matters. -/
def level : Notice → Level
  | tokens _ _ | notToggled _ | replayed _ _ => .debug
  | evaluated _ _ | transcriptWritten _ => .info
  | notEvaluated _ _ | unknownKey _ => .warning
  | notReplayed _ _ => .error

/-- The wording of a notice. -/
def message : Notice → Text
  | tokens expression stream =>
      "🔢 Tokens for " ++ Text.quoted expression ++ ": " ++
        Text.listed (stream.numbers.map Binary64.render) ++ [' '] ++
        Text.listed (stream.operators.map Text.quoted)
  | notToggled digits =>
      "± Ignored, trailing " ++ Text.quoted digits ++ " is not a number"
  | evaluated expression result =>
      "🧮✅ " ++ expression ++ [' ', '=', ' '] ++ result
  | notEvaluated expression cause =>
      "🧮❌ Could not evaluate " ++ Text.quoted expression ++ ": " ++
        cause.kind.name.toList ++ [' '] ++ cause.message
  | unknownKey token => "⌨️ Ignoring unknown key " ++ Text.quoted token
  | replayed line display => "▶️ " ++ line ++ " -> " ++ display
  | transcriptWritten path => "💾 Transcript written to " ++ path
  | notReplayed path reason =>
      "📄❌ Could not replay " ++ path ++ ": " ++ reason

/-- A notice as a line of the log. -/
def logLine (notice : Notice) : Text :=
  '[' :: notice.level.name.toList ++ [']', ' '] ++ notice.message

/-- Whether a threshold lets a notice through. -/
def passes (threshold : Level) (notice : Notice) : Bool :=
  threshold.rank ≤ notice.level.rank

/-- The log at a threshold: the notices that it lets through, in their order. -/
def log (threshold : Level) (notices : List Notice) : List Text :=
  (notices.filter (passes threshold)).map logLine

end Notice

end PocketCalc
