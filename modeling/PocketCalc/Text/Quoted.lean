import PocketCalc.Text.Printable

/-!
# Quoted text

Messages show a text between quotes, so that its ends and its invisible
characters can be seen.  The quotes are single ones, or double ones when the
text holds a single quote and no double one.  Inside, the backslash, the quote
in use and the unprintable characters are escaped.
-/

namespace PocketCalc

namespace Text

/-- A code point as lowercase hexadecimal digits, at least `width` of them. -/
def hexadecimal (width : Nat) (value : Nat) : Text :=
  List.leftpad width '0' (Nat.toDigits 16 value)

/-- The quote that surrounds a text. -/
def quoteFor (text : Text) : Char :=
  if '\'' ∈ text ∧ '"' ∉ text then '"' else '\''

/--
An unprintable character by its code point: two, four or eight hexadecimal
digits after a letter that says how many there are.
-/
def escapeCode (character : Char) : Text :=
  let code := character.toNat
  if code < 0x100 then
    '\\' :: 'x' :: hexadecimal 2 code
  else if code < 0x10000 then
    '\\' :: 'u' :: hexadecimal 4 code
  else
    '\\' :: 'U' :: hexadecimal 8 code

/-- A character as it stands between the given quotes. -/
def escape (quote : Char) (character : Char) : Text :=
  if character = quote ∨ character = '\\' then
    ['\\', character]
  else if character = '\n' then
    ['\\', 'n']
  else if character = '\r' then
    ['\\', 'r']
  else if character = '\t' then
    ['\\', 't']
  else if isPrintable character then
    [character]
  else
    escapeCode character

/-- A text between quotes. -/
def quoted (text : Text) : Text :=
  let quote := quoteFor text
  quote :: text.flatMap (escape quote) ++ [quote]

/-- A list of texts as messages show it: between brackets, separated by commas. -/
def listed (items : List Text) : Text :=
  '[' :: joined [',', ' '] items ++ [']']

end Text

end PocketCalc
