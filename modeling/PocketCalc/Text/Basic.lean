/-!
# Text

Everything that is typed, shown, stored or logged is a text: the list of its
characters, one for each Unicode code point.  Positions and lengths count
characters.  A literal in double quotes stands for its list of characters.

Words are separated by blanks: the space, the control characters that move the
position or separate records, and the spaces of other widths.  Characters of
zero width are not blanks.

A text is cut into lines at its line ends, which belong to no line.  A carriage
return directly before a line feed makes one line end with it.  There are two
kinds of cut: a stream knows only these two characters, while a script is also
cut at the other characters that end a line of print.  A text read from a plain
file has all its carriage returns turned into line feeds first.
-/

namespace PocketCalc

/-- A text is the list of its characters. -/
abbrev Text := List Char

instance : Coe String Text where
  coe := String.toList

namespace Text

/-- The decimal numeral of a natural number, without leading zeros. -/
def numeral (value : Nat) : Text :=
  Nat.toDigits 10 value

/-- The number that a run of decimal digits denotes; zero for the empty run. -/
def numeralValue (digits : Text) : Nat :=
  Nat.ofDigitChars 10 digits 0

@[simp]
theorem numeralValue_numeral (value : Nat) :
    numeralValue (numeral value) = value := by
  simp [numeralValue, numeral]

theorem numeral_ne_nil (value : Nat) : numeral value ≠ [] := by
  simp [numeral, Nat.toDigits_ne_nil]

/-- The parts one after the other, with `separator` between neighbours. -/
def joined (separator : Text) (parts : List Text) : Text :=
  separator.intercalate parts

/-- Each part followed by one line feed. -/
def asLines (parts : List Text) : Text :=
  parts.flatMap (· ++ ['\n'])

/-! ## Blanks and words -/

/-- The code points of all blanks. -/
def blankCodes : List Nat :=
  [0x09, 0x0A, 0x0B, 0x0C, 0x0D, 0x1C, 0x1D, 0x1E, 0x1F, 0x20, 0x85, 0xA0,
    0x1680, 0x2000, 0x2001, 0x2002, 0x2003, 0x2004, 0x2005, 0x2006, 0x2007,
    0x2008, 0x2009, 0x200A, 0x2028, 0x2029, 0x202F, 0x205F, 0x3000]

/-- Whether a character separates words. -/
def isBlank (character : Char) : Bool :=
  blankCodes.contains character.toNat

/-- A text without the blanks at its ends. -/
def strip (text : Text) : Text :=
  ((text.dropWhile isBlank).reverse.dropWhile isBlank).reverse

/-- The maximal runs of characters between blanks. -/
def words (text : Text) : List Text :=
  (text.splitOnP isBlank).filter (!·.isEmpty)

/-! ## Lines -/

/-- Whether a character ends a line of a stream. -/
def isStreamLineEnd (character : Char) : Bool :=
  character = '\n' || character = '\r'

/-- The code points that end a line of a script. -/
def lineEndCodes : List Nat :=
  [0x0A, 0x0B, 0x0C, 0x0D, 0x1C, 0x1D, 0x1E, 0x85, 0x2028, 0x2029]

/-- Whether a character ends a line of a script. -/
def isLineEnd (character : Char) : Bool :=
  lineEndCodes.contains character.toNat

/--
Cut a text into lines, the current one having begun with `begun`.  The text
after the last line end is a line only if it is not empty.
-/
def linesFrom (isEnd : Char → Bool) (begun : Text) : Text → List Text
  | [] => if begun.isEmpty then [] else [begun]
  | '\r' :: '\n' :: rest => begun :: linesFrom isEnd [] rest
  | character :: rest =>
      if isEnd character then
        begun :: linesFrom isEnd [] rest
      else
        linesFrom isEnd (begun ++ [character]) rest

/-- The lines of a stream. -/
def streamLines (text : Text) : List Text :=
  linesFrom isStreamLineEnd [] text

/-- The lines of a script. -/
def lines (text : Text) : List Text :=
  linesFrom isLineEnd [] text

/-- Write every line end of a stream as one line feed. -/
def unifyLineEnds : Text → Text
  | [] => []
  | '\r' :: '\n' :: rest => '\n' :: unifyLineEnds rest
  | character :: rest =>
      (if character = '\r' then '\n' else character) :: unifyLineEnds rest

/-- The lines without the blanks around them, and without those that were blank. -/
def stripLines (lines : List Text) : List Text :=
  (lines.map strip).filter (!·.isEmpty)

end Text

end PocketCalc
