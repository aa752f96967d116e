import PocketCalc.Text.Basic

/-!
# Arguments

The command takes one path, or none.  An argument that begins with a dash is an
option, unless it is the dash alone, looks like a negative number, or holds a
space.  Two dashes end the options: every argument after them is a path.

The only option asks for help and takes no value.  Its long spelling may be
shortened.  The letter of its short one may be repeated, and the repetition may
stand behind an equals sign; anything else behind it is a value.  The first
argument that asks for help, or gives that option a value, settles what is done.
-/

namespace PocketCalc

namespace Arguments

/-- What one argument before the end of the options is. -/
inductive Role where
  | path
  | help
  | valueForHelp
  | unknownOption
deriving DecidableEq

/-- What the arguments ask for. -/
inductive Request where
  | interactive
  | script (path : Text)
  | help
  | refused
deriving DecidableEq

/--
The code points of the digits zero of all scripts; nine more digits follow each
of them.
-/
def zeroDigits : List Nat :=
  [0x30, 0x660, 0x6F0, 0x7C0, 0x966, 0x9E6, 0xA66, 0xAE6, 0xB66, 0xBE6, 0xC66,
    0xCE6, 0xD66, 0xDE6, 0xE50, 0xED0, 0xF20, 0x1040, 0x1090, 0x17E0, 0x1810,
    0x1946, 0x19D0, 0x1A80, 0x1A90, 0x1B50, 0x1BB0, 0x1C40, 0x1C50, 0xA620,
    0xA8D0, 0xA900, 0xA9D0, 0xA9F0, 0xAA50, 0xABF0, 0xFF10, 0x104A0, 0x10D30,
    0x11066, 0x110F0, 0x11136, 0x111D0, 0x112F0, 0x11450, 0x114D0, 0x11650,
    0x116C0, 0x11730, 0x118E0, 0x11950, 0x11C50, 0x11D50, 0x11DA0, 0x16A60,
    0x16AC0, 0x16B50, 0x1D7CE, 0x1D7D8, 0x1D7E2, 0x1D7EC, 0x1D7F6, 0x1E140,
    0x1E2F0, 0x1E950, 0x1FBF0]

/-- Whether a character is a decimal digit of any script. -/
def isDecimalDigit (character : Char) : Bool :=
  zeroDigits.any fun first =>
    first ≤ character.toNat && character.toNat ≤ first + 9

/-- Whether a text is digits only, or digits with a point before the last run. -/
def isUnsignedNumber (text : Text) : Bool :=
  match text.dropWhile isDecimalDigit with
  | [] => !text.isEmpty
  | '.' :: fraction => !fraction.isEmpty && fraction.all isDecimalDigit
  | _ => false

/-- Whether a text after a dash looks like a number; a line feed may follow it. -/
def looksNumeric (text : Text) : Bool :=
  isUnsignedNumber text ||
    (text.getLast? = some '\n' && isUnsignedNumber text.dropLast)

/-- The long spelling of the help option. -/
def helpOption : Text := "--help"

/-- Whether a text shortens the help option, to two dashes at most. -/
def shortensHelp (text : Text) : Bool :=
  2 ≤ text.length && text.isPrefixOf helpOption

/-- Whether a text behind the short help option only repeats its letter. -/
def repeatsHelp (text : Text) : Bool :=
  match text with
  | '=' :: letters => !letters.isEmpty && letters.all (· = 'h')
  | letters => letters.all (· = 'h')

/-- The role of an argument before the end of the options. -/
def role (argument : Text) : Role :=
  match argument with
  | '-' :: 'h' :: rest => if repeatsHelp rest then .help else .valueForHelp
  | '-' :: rest =>
      if rest = [] then
        .path
      else if shortensHelp argument then
        .help
      else if argument.contains '=' &&
          shortensHelp (argument.takeWhile (· ≠ '=')) then
        .valueForHelp
      else if looksNumeric rest || argument.contains ' ' then
        .path
      else
        .unknownOption
  | _ => .path

/-- The arguments before the end of the options, and the paths after it. -/
def splitAtEnd (arguments : List Text) : List Text × List Text :=
  let options := arguments.takeWhile (· ≠ ['-', '-'])
  (options, arguments.drop (options.length + 1))

/-- What the arguments ask for. -/
def request (arguments : List Text) : Request :=
  let (options, rest) := splitAtEnd arguments
  let roles := options.map role
  match roles.find? fun role => role = .help || role = .valueForHelp with
  | some .help => .help
  | some _ => .refused
  | none =>
      if roles.contains .unknownOption then
        .refused
      else
        match options ++ rest with
        | [] => .interactive
        | [path] => .script path
        | _ => .refused

end Arguments

end PocketCalc
