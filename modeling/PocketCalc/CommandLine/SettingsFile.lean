import PocketCalc.Settings

/-!
# The syntax of the settings file

The command reads its settings file by these rules.  A binding is a name and,
behind an equals sign, a value; the word `export` may stand before it.  A value
either stands between quotes, where it can go on over several lines and some
characters are escaped, or ends with its line.  A comment begins with a number
sign, which needs a blank before it if the value has no quotes.  What is no
binding is skipped up to the end of its line.

A value can refer to another one by a name between braces behind a dollar sign:
to an earlier binding if there is one, and to the environment otherwise.  Behind
a colon and a dash stands what is used if neither has the name.
-/

namespace PocketCalc

namespace SettingsFile

/-- A name and its value, if it has one. -/
abbrev Binding := Text × Option Text

/-- Whether a character is a blank inside a line. -/
def isInnerBlank (character : Char) : Bool :=
  Text.isBlank character && !Text.isStreamLineEnd character

/-! ## Bindings

A part of a binding that cannot be read is given back as an error, so that the
rest of its line can be skipped.
-/

/-- The text behind the word `export`, if it stands at the front. -/
def withoutExport (text : Text) : Text :=
  let word : Text := "export"
  let rest := text.drop word.length
  if word.isPrefixOf text && rest.head?.any isInnerBlank then
    rest.dropWhile isInnerBlank
  else
    text

/-- Read a name; there is none if a comment begins. -/
def readName (text : Text) : Except Text (Option Text × Text) :=
  match text with
  | '#' :: _ => .ok (none, text)
  | '\'' :: quoted =>
      match quoted.span (· ≠ '\'') with
      | (first :: more, _ :: rest) => .ok (some (first :: more), rest)
      | _ => .error text
  | _ =>
      match text.span fun character =>
          character ≠ '=' && character ≠ '#' && !Text.isBlank character with
      | ([], _) => .error text
      | (name, rest) => .ok (some name, rest)

/--
The text up to a closing quote and what is behind it.  A quote behind a backslash
closes only if no later one does.
-/
def untilQuote (quote : Char) : Text → Option (Text × Text)
  | [] => none
  | '\\' :: next :: rest =>
      if next = quote then
        match untilQuote quote rest with
        | some (value, behind) => some ('\\' :: quote :: value, behind)
        | none => some (['\\'], rest)
      else
        (untilQuote quote (next :: rest)).map fun (value, behind) =>
          ('\\' :: value, behind)
  | character :: rest =>
      if character = quote then
        some ([], rest)
      else
        (untilQuote quote rest).map fun (value, behind) =>
          (character :: value, behind)

/-- The escapes between single quotes. -/
def singleEscapes : List (Char × Char) :=
  [('\\', '\\'), ('\'', '\'')]

/-- The escapes between double quotes. -/
def doubleEscapes : List (Char × Char) :=
  singleEscapes ++
    [('"', '"'), ('a', '\x07'), ('b', '\x08'), ('f', '\x0c'), ('n', '\n'),
      ('r', '\r'), ('t', '\t'), ('v', '\x0b')]

/-- A text with the characters that its escapes stand for. -/
def unescaped (escapes : List (Char × Char)) : Text → Text
  | [] => []
  | '\\' :: next :: rest =>
      match escapes.lookup next with
      | some character => character :: unescaped escapes rest
      | none => '\\' :: unescaped escapes (next :: rest)
  | character :: rest => character :: unescaped escapes rest

/-- A value without quotes up to the comment behind it. -/
def withoutComment : Text → Text
  | [] => []
  | character :: rest =>
      if Text.isBlank character &&
          (rest.dropWhile Text.isBlank).head? = some '#' then
        []
      else
        character :: withoutComment rest

/-- Read a value. -/
def readValue (text : Text) : Except Text (Text × Text) :=
  let closed (quote : Char) (escapes : List (Char × Char)) (rest : Text) :=
    match untilQuote quote rest with
    | some (value, behind) => .ok (unescaped escapes value, behind)
    | none => .error text
  match text with
  | '\'' :: rest => closed '\'' singleEscapes rest
  | '"' :: rest => closed '"' doubleEscapes rest
  | _ =>
      let (value, rest) := text.span (!Text.isStreamLineEnd ·)
      .ok (Text.strip (withoutComment value), rest)

/-- Read the end of a line, with a comment before it. -/
def readEnd (text : Text) : Except Text Text :=
  let rest := text.dropWhile isInnerBlank
  let behind :=
    if rest.head? = some '#' then
      rest.dropWhile (!Text.isStreamLineEnd ·)
    else
      rest
  match behind with
  | [] => .ok []
  | character :: rest =>
      if Text.isStreamLineEnd character then .ok rest else .error text

/-- Read a binding, or a comment. -/
def readBinding (text : Text) : Except Text (Option Binding × Text) := do
  let (name, text) ← readName (withoutExport text)
  match text.dropWhile isInnerBlank with
  | '=' :: rest =>
      let (value, text) ← readValue (rest.dropWhile isInnerBlank)
      let text ← readEnd text
      return (name.map (·, some value), text)
  | text =>
      let text ← readEnd text
      return (name.map (·, none), text)

/-- The bindings of a text; each of them takes a character at least. -/
def bindings : Nat → Text → List Binding
  | 0, _ => []
  | steps + 1, text =>
      match text.dropWhile Text.isBlank with
      | [] => []
      | text =>
          match readBinding text with
          | .ok (binding, rest) => binding.toList ++ bindings steps rest
          | .error text =>
              bindings steps (text.dropWhile (!Text.isStreamLineEnd ·))

/-! ## References -/

/--
Read a reference behind its opening brace: the name, what stands for it if it has
no value, and the text behind.
-/
def readReference (text : Text) : Option (Text × Text × Text) :=
  match text.span fun character => character ≠ '}' && character ≠ ':' with
  | (name, '}' :: rest) => some (name, [], rest)
  | (name, ':' :: '-' :: rest) =>
      match rest.span (· ≠ '}') with
      | (standard, _ :: rest) => some (name, standard, rest)
      | _ => none
  | _ => none

/-- A value with all its references replaced; each takes a character at least. -/
def expanded (valueOf : Text → Text → Text) : Nat → Text → Text
  | 0, text => text
  | _ + 1, [] => []
  | steps + 1, '$' :: '{' :: rest =>
      match readReference rest with
      | some (name, standard, rest) =>
          valueOf name standard ++ expanded valueOf steps rest
      | none => '$' :: expanded valueOf steps ('{' :: rest)
  | steps + 1, character :: rest => character :: expanded valueOf steps rest

/-- What a name stands for, after some bindings and in an environment. -/
def valueOf
    (environment : Settings.Source)
    (earlier : List Binding)
    (name standard : Text) :
    Text :=
  match earlier.find? (·.1 = name) with
  | some binding => binding.2.getD []
  | none => (environment.lookup name).getD standard

/-- Bind a name; a name that is bound already keeps its position. -/
def bind (earlier : List Binding) (binding : Binding) : List Binding :=
  if earlier.any (·.1 = binding.1) then
    earlier.map fun other => if other.1 = binding.1 then binding else other
  else
    earlier ++ [binding]

/-- The bindings with all references replaced. -/
def resolved (environment : Settings.Source) (found : List Binding) :
    List Binding :=
  found.foldl
    (fun earlier (name, value) =>
      bind earlier
        (name,
          value.map fun value =>
            expanded (valueOf environment earlier) value.length value))
    []

/-- The names and values that a settings file gives in an environment. -/
def read (environment : Settings.Source) (text : Text) : Settings.Source :=
  (resolved environment (bindings text.length text)).foldl
    (fun source (name, value) =>
      source.filter (fun entry =>
          entry.1.map Char.toUpper ≠ name.map Char.toUpper) ++
        value.toList.map (name, ·))
    []

/-- The names to which the text of a settings file can refer. -/
def referenced : Text → List Text
  | [] => []
  | '$' :: '{' :: rest =>
      rest.takeWhile (fun character => character ≠ '}' && character ≠ ':') ::
        referenced rest
  | _ :: rest => referenced rest

end SettingsFile

end PocketCalc
