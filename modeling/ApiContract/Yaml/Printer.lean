import ApiContract.Json.Printer
import ApiContract.Text.Utf8
import ApiContract.Yaml.Document
import ApiContract.Yaml.Style

/-!
# Data as YAML text

Maps and lists are written as blocks, each level indented by two more columns than
the one around it; the items of a list stand below the start of their key.
-/

namespace ApiContract.Yaml

/-- An indentation. -/
def blanks (count : Nat) : List Char :=
  List.replicate count ' '

/-- The inside of a text in single quotes. What follows line breaks is indented. -/
def singleQuotedInside (indent : Nat) (afterBreak : Bool) : List Char → List Char
  | [] => if afterBreak then blanks indent else []
  | char :: rest =>
      if isBreak char then char :: singleQuotedInside indent true rest
      else
        (if afterBreak then blanks indent else []) ++
          (if char = '\'' then ['\'', '\''] else [char]) ++ singleQuotedInside indent false rest

/-- A text in single quotes. -/
def singleQuotedChars (indent : Nat) (chars : List Char) : List Char :=
  '\'' :: singleQuotedInside indent false chars ++ ['\'']

/-- Upper-case hexadecimal digits, filled up with zeros. -/
def upperHex (width number : Nat) : List Char :=
  Text.padLeft width '0' ((Text.hexText number).map Char.toUpper)

/-- The letter of the escape of a character that has one. -/
def shortEscapeOf? (char : Char) : Option Char :=
  [(0x00, '0'), (0x07, 'a'), (0x08, 'b'), (0x09, 't'), (0x0A, 'n'), (0x0B, 'v'), (0x0C, 'f'),
    (0x0D, 'r'), (0x1B, 'e'), (0x22, '"'), (0x5C, '\\'), (0x85, 'N'), (0xA0, '_'),
    (0x2028, 'L'), (0x2029, 'P')].lookup char.toNat

/-- A character by an escape. -/
def escapeChars (char : Char) : List Char :=
  let point := char.toNat
  match shortEscapeOf? char with
  | some letter => ['\\', letter]
  | none =>
      if point ≤ 0xFF then '\\' :: 'x' :: upperHex 2 point
      else if point ≤ 0xFFFF then '\\' :: 'u' :: upperHex 4 point
      else '\\' :: 'U' :: upperHex 8 point

/-- A text in double quotes. -/
def doubleQuotedChars (chars : List Char) : List Char :=
  let inside := chars.flatMap fun char =>
    if !isPrintable char || isBreak char || char == '"' || char == '\\' then escapeChars char
    else [char]
  '"' :: inside ++ ['"']

/-- The indicators of a literal block: how far it is indented, where that cannot be
seen, and what becomes of the breaks at its end. -/
def literalHeader (chars : List Char) : List Char :=
  let indentation :=
    if (chars.head?.map fun char => char == ' ' || isBreak char).getD false then ['2'] else []
  let chomping :=
    match chars.reverse with
    | [] => ['-']
    | [last] => if isBreak last then ['+'] else ['-']
    | last :: previous :: _ =>
        if !isBreak last then ['-'] else if isBreak previous then ['+'] else []
  '|' :: indentation ++ chomping

/-- The lines of a literal block. Only lines with text are indented. -/
def literalLines (indent : Nat) (atStart : Bool) : List Char → List Char
  | [] => []
  | char :: rest =>
      if isBreak char then char :: literalLines indent true rest
      else (if atStart then blanks indent else []) ++ char :: literalLines indent false rest

/-- A text whose further lines stand at an indentation. -/
def textChars (indent : Nat) (isKey : Bool) (text : String) : List Char :=
  let chars := text.toList
  match styleOf text isKey with
  | .plain => chars
  | .singleQuoted => singleQuotedChars indent chars
  | .doubleQuoted => doubleQuotedChars chars
  | .literal => literalHeader chars ++ '\n' :: literalLines indent true chars

/-- A float in the form that is read as one. -/
def floatChars : Binary64 → List Char
  | .finite value => (JsonNumber.float value).chars
  | .infinity negative => (if negative then ['-'] else []) ++ ".inf".toList
  | .nan => ".nan".toList

/-- A datum that takes no lines of its own; `none` for one that does. -/
def inlineChars? (indent : Nat) : Datum → Option (List Char)
  | .null => some "null".toList
  | .bool value => some (if value then "true" else "false").toList
  | .integer value => some (Text.integerText value).toList
  | .float value => some (floatChars value)
  | .string text => some (textChars indent false text)
  | .list [] => some ['[', ']']
  | .map [] => some ['{', '}']
  | .list _ | .map _ => none

/-- The text with a line break at its end. -/
def endLine (chars : List Char) : List Char :=
  if (chars.getLast?.map isBreak).getD false then chars else chars ++ ['\n']

/-- A key stands on the line of its value if it is one line and not too long. -/
def isShortKey (key : String) : Bool :=
  !key.toList.any isBreak && Text.utf8Length key ≤ 128

/-- A key up to its colon. A long key has lines of its own. -/
def keyChars (indent : Nat) (key : String) : List Char :=
  if isShortKey key then textChars (indent + 2) true key ++ [':']
  else
    '?' :: ' ' :: endLine (textChars (indent + 2) false key) ++ blanks indent ++ [':']

/-- What stands between a colon and the lines of a collection, and those lines. After a
long key they begin on the same line. -/
def afterColon (indent : Nat) (key : String) (block : List Char) : List Char :=
  if isShortKey key then '\n' :: block else ' ' :: block.drop indent

mutual

/-- The lines of a datum that stand at an indentation. -/
def blockChars (indent : Nat) : Datum → List Char
  | .list items => itemLines indent items
  | .map members => memberLines indent members
  | datum => blanks indent ++ endLine ((inlineChars? (indent + 2) datum).getD [])

/-- The lines of the items of a list. -/
def itemLines (indent : Nat) : List Datum → List Char
  | [] => []
  | item :: rest =>
      let chars :=
        match inlineChars? (indent + 2) item with
        | some chars => endLine chars
        | none => (blockChars (indent + 2) item).drop (indent + 2)
      blanks indent ++ '-' :: ' ' :: chars ++ itemLines indent rest

/-- The lines of the members of a map. The items of a list need no deeper indentation
than their key, unless that is long. -/
def memberLines (indent : Nat) : List (String × Datum) → List Char
  | [] => []
  | (key, value) :: rest =>
      let deeper := indent + 2
      let chars :=
        match inlineChars? deeper value, value with
        | some chars, _ => ' ' :: endLine chars
        | none, .list items =>
            if isShortKey key then '\n' :: itemLines indent items
            else ' ' :: (itemLines deeper items).drop deeper
        | none, value => afterColon deeper key (blockChars deeper value)
      blanks indent ++ keyChars indent key ++ chars ++ memberLines indent rest

end

/-- The text of a datum. -/
def write (datum : Datum) : String :=
  String.ofList (blockChars 0 datum)

end ApiContract.Yaml
