import ShapeLint.Outline.Basic

/-!
Outlines as block YAML. A mapping inside a mapping is indented by two columns, the items of a list
stand at the column of their key, and a plain text that runs over the width is broken at its next
single space.
-/
namespace ShapeLint.BlockYaml

/-- The column after which a plain text is broken. -/
def width : Nat := 80

/-- Words that plain would read as null, as a flag, or as a merge. -/
def reserved : List String :=
  ["", "~", "null", "true", "false", "yes", "no", "on", "off", "=", "<<"]

/-- Characters that begin something else than a plain text. -/
def indicators : List Char :=
  ['#', ',', '[', ']', '\x7b', '\x7d', '&', '*', '!', '|', '>', '\'', '"', '%', '@', '\x60']

/-- Whether a text holds the two characters next to each other. -/
def holdsPair (first : Char) (second : Char → Bool) : List Char → Bool
  | a :: b :: rest => (a == first && second b) || holdsPair first second (b :: rest)
  | _ => false

/-- Whether a text may stand without quotes: nothing in it reads as another type, as a mark of the
format, as a comment or as a key. -/
def isPlain (s : String) : Bool :=
  let cs := s.toList
  let first := cs.headD ' '
  !(reserved.contains (String.ofList (cs.map Char.toLower)) || indicators.contains first
    || first == ' ' || cs.getLast? == some ' ' || cs.getLast? == some ':'
    || first.isDigit || first == '.' || first == '+'
    || (['-', '?', ':'].contains first && (cs.drop 1).headD ' ' == ' ')
    || (first == '-' && (((cs.drop 1).headD 'x').isDigit || (cs.drop 1).headD 'x' == '.'
      || cs.take 3 == ['-', '-', '-']))
    || holdsPair ':' (· == ' ') cs || holdsPair ' ' (· == '#') cs
    || cs.any fun c => c == '\n' || c == '\t')

/-- A text between single quotes, with each of its own quotes written twice. -/
def singleQuoted (s : String) : String :=
  "'" ++ String.ofList (s.toList.flatMap fun c => if c = '\'' then [c, c] else [c]) ++ "'"

/-- Joins words with spaces. A single space past the width becomes a line break. -/
def joinWords (indent : Nat) : Nat → String → List String → String
  | _, previous, [] => previous
  | column, previous, word :: rest =>
    let column := column + previous.length
    if width < column && !previous.isEmpty && !word.isEmpty then
      previous ++ "\n" ++ "".pushn ' ' indent ++ joinWords indent indent word rest
    else previous ++ " " ++ joinWords indent (column + 1) word rest

/-- A text at a column. Texts that are broken go on at the indent. -/
def textAt (column indent : Nat) (s : String) : String :=
  if isPlain s then
    match s.splitOn " " with
    | word :: rest => joinWords indent column word rest
    | [] => s
  else singleQuoted s

/-- A key or an item of a list, on one line. -/
def keyText (s : String) : String := if isPlain s then s else singleQuoted s

def floatText : Binary64 → String
  | .nan _ => ".nan"
  | .infinite negative => if negative then "-.inf" else ".inf"
  | x =>
    let written := x.text
    if written.toList.contains 'e' && !written.toList.contains '.' then written.replace "e" ".0e"
    else written

/-- A value that stands on one line. Containers are shown as texts of their own. -/
def valueAt (column indent : Nat) : Value → String
  | .scalar .null => "null"
  | .scalar (.bool b) => if b then "true" else "false"
  | .scalar (.int i) => toString i
  | .scalar (.float x) => floatText x
  | .scalar (.date d) => d.text
  | .scalar (.text s) => textAt column indent s
  | v => textAt column indent v.shown

mutual

/-- What follows a key at the given indent, with the line break that ends it. -/
def contentAfter (indent column : Nat) : Outline → String
  | .value v => " " ++ valueAt (column + 1) (indent + 2) v ++ "\n"
  | .list [] => " []\n"
  | .list items => "\n" ++ itemLines indent items
  | .fields [] => " \x7b\x7d\n"
  | .fields entries => "\n" ++ "".pushn ' ' (indent + 2) ++ entryLines (indent + 2) entries

/-- The lines of entries; the first one is already indented. -/
def entryLines (indent : Nat) : List (String × Outline) → String
  | [] => ""
  | [(key, content)] => keyText key ++ ":" ++ contentAfter indent (indent + key.length + 1) content
  | (key, content) :: rest =>
    keyText key ++ ":" ++ contentAfter indent (indent + key.length + 1) content
      ++ "".pushn ' ' indent ++ entryLines indent rest

/-- The lines of list items. -/
def itemLines (indent : Nat) : List Outline → String
  | [] => ""
  | .fields (entry :: entries) :: rest =>
    "".pushn ' ' indent ++ "- " ++ entryLines (indent + 2) (entry :: entries)
      ++ itemLines indent rest
  | item :: rest =>
    "".pushn ' ' indent ++ "-" ++ contentAfter indent (indent + 1) item ++ itemLines indent rest

end

/-- A document with these fields. -/
def document (entries : List (String × Outline)) : String := entryLines 0 entries

end ShapeLint.BlockYaml
