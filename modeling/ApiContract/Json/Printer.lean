import ApiContract.Json.Basic
import ApiContract.Number.Shortest

/-!
# JSON text

This module writes JSON in two layouts: compact, without any space, and indented
by two spaces.  A float shows the fewest digits that read back, in positional
notation while its leading digit has an exponent from `-5` to `15`.
-/

namespace ApiContract

namespace JsonNumber

/-- The digits of a decimal with a point, and with `.0` where there is no fraction. -/
def positionalText (decimal : DecimalMagnitude) : List Char :=
  let digits := decimal.digitText
  if decimal.digits = 0 then ['0', '.', '0']
  else if 0 ≤ decimal.exponent then
    digits ++ List.replicate decimal.exponent.toNat '0' ++ ['.', '0']
  else
    let places := (-decimal.exponent).toNat
    let padded := Text.padLeft (places + 1) '0' digits
    padded.take (padded.length - places) ++ '.' :: padded.drop (padded.length - places)

/-- The digits of a decimal with the point after the first one and a signed exponent. -/
def scientificText (decimal : DecimalMagnitude) : List Char :=
  let lead := decimal.leadExponent
  let exponentText :=
    (if lead < 0 then '-' else '+') :: Nat.toDigits 10 lead.natAbs
  match decimal.digitText with
  | [] => []
  | [digit] => digit :: 'e' :: exponentText
  | digit :: fraction => digit :: '.' :: fraction ++ 'e' :: exponentText

/-- A float in the notation that its size asks for. -/
def floatText (value : FiniteBinary64) : List Char :=
  let decimal := value.shortest
  let unsigned :=
    if value.isZero ∨ (-5 ≤ decimal.leadExponent ∧ decimal.leadExponent < 16) then
      positionalText decimal
    else
      scientificText decimal
  if value.negative then '-' :: unsigned else unsigned

/-- The text of a number. -/
def chars : JsonNumber → List Char
  | .integer value => (Text.integerText value.toInt).toList
  | .float value => floatText value

end JsonNumber

namespace Json

/-- A character inside a string. Only the quote, the backslash and the controls
below the blank are escaped. -/
def escapedChar (char : Char) : List Char :=
  if char = '"' then ['\\', '"']
  else if char = '\\' then ['\\', '\\']
  else if char = '\n' then ['\\', 'n']
  else if char = '\r' then ['\\', 'r']
  else if char = '\t' then ['\\', 't']
  else if char.toNat = 8 then ['\\', 'b']
  else if char.toNat = 12 then ['\\', 'f']
  else if char.toNat < 32 then
    '\\' :: 'u' :: '0' :: '0' :: Text.padLeft 2 '0' (Text.hexText char.toNat)
  else [char]

/-- A string in quotes. -/
def quoted (text : String) : List Char :=
  '"' :: text.toList.flatMap escapedChar ++ ['"']

mutual

/-- The compact text. -/
def chars : Json → List Char
  | .null => ['n', 'u', 'l', 'l']
  | .bool true => ['t', 'r', 'u', 'e']
  | .bool false => ['f', 'a', 'l', 's', 'e']
  | .number value => value.chars
  | .string text => quoted text
  | .array [] => ['[', ']']
  | .array (item :: rest) => '[' :: chars item ++ itemChars rest
  | .object [] => ['{', '}']
  | .object ((key, value) :: rest) =>
      '{' :: quoted key ++ ':' :: chars value ++ memberChars rest

/-- Further items, each after a comma, and the closing bracket. -/
def itemChars : List Json → List Char
  | [] => [']']
  | item :: rest => ',' :: chars item ++ itemChars rest

/-- Further members, each after a comma, and the closing brace. -/
def memberChars : List (String × Json) → List Char
  | [] => ['}']
  | (key, value) :: rest => ',' :: quoted key ++ ':' :: chars value ++ memberChars rest

end

/-- The compact text as a string. -/
def compact (json : Json) : String :=
  String.ofList (chars json)

/-- A line break followed by the blanks of an indentation level. -/
def lineBreak (level : Nat) : List Char :=
  '\n' :: List.replicate (2 * level) ' '

mutual

/-- The indented text at a level. -/
def indentedChars (level : Nat) : Json → List Char
  | .array (item :: rest) =>
      '[' :: lineBreak (level + 1) ++ indentedChars (level + 1) item ++
        indentedItems level rest
  | .object ((key, value) :: rest) =>
      '{' :: lineBreak (level + 1) ++ quoted key ++ ':' :: ' ' ::
        indentedChars (level + 1) value ++ indentedMembers level rest
  | json => chars json

/-- Further items on lines of their own, and the closing bracket. -/
def indentedItems (level : Nat) : List Json → List Char
  | [] => lineBreak level ++ [']']
  | item :: rest =>
      ',' :: lineBreak (level + 1) ++ indentedChars (level + 1) item ++
        indentedItems level rest

/-- Further members on lines of their own, and the closing brace. -/
def indentedMembers (level : Nat) : List (String × Json) → List Char
  | [] => lineBreak level ++ ['}']
  | (key, value) :: rest =>
      ',' :: lineBreak (level + 1) ++ quoted key ++ ':' :: ' ' ::
        indentedChars (level + 1) value ++ indentedMembers level rest

end

/-- The indented text as a string. -/
def indented (json : Json) : String :=
  String.ofList (indentedChars 0 json)

end Json

end ApiContract
