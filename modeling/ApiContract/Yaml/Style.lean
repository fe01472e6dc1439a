import ApiContract.Yaml.Cursor
import ApiContract.Yaml.Scalar

/-!
# How a text is written in YAML

A text is written plainly unless it would then be read as something else.  A text
with line breaks is written as a literal block where that keeps it, and one with
characters that cannot be seen in double quotes.
-/

namespace ApiContract.Yaml

/-- A way to write a text. -/
inductive TextStyle where
  | plain
  | singleQuoted
  | doubleQuoted
  | literal
  deriving DecidableEq

/-- The character can stand in a text as itself. -/
def isPrintable (char : Char) : Bool :=
  let point := char.toNat
  point == 0x0A || (0x20 ≤ point && point ≤ 0x7E) ||
    (0xA0 ≤ point && point ≤ 0xFFFD && point != 0xFEFF) || 0x10000 ≤ point

/-- A space, a tab or a line break. -/
def isGap (char : Char) : Bool :=
  isSpacing char || isBreak char

/-- Somewhere a character of the first kind stands right before one of the second. -/
def hasNeighbours (first second : Char → Bool) (chars : List Char) : Bool :=
  (chars.zip (chars.drop 1)).any fun (left, right) => first left && second right

/-- A space stands right before a line break. -/
def hasSpaceBeforeBreak (chars : List Char) : Bool :=
  hasNeighbours (· == ' ') isBreak chars

/-- A space stands right after a line break. -/
def hasSpaceAfterBreak (chars : List Char) : Bool :=
  hasNeighbours isBreak (· == ' ') chars

/-- Characters that cannot start a plain text. -/
def startIndicators : List Char :=
  ['#', ',', '[', ']', '{', '}', '&', '*', '!', '|', '>', '\'', '"', '%', '@', '\x60']

/-- The start of a text that would be read as an indicator or as the mark of a
document. -/
def startsWithIndicator : List Char → Bool
  | '-' :: '-' :: '-' :: _ => true
  | '.' :: '.' :: '.' :: _ => true
  | char :: rest =>
      startIndicators.contains char || (['?', ':', '-'].contains char && atGap rest)
  | [] => false

/-- A colon at the end or before a gap, or a number sign after a gap. -/
def hasIndicatorInside (chars : List Char) : Bool :=
  chars.getLast? == some ':' || hasNeighbours (· == ':') isGap chars ||
    hasNeighbours isGap (· == '#') chars

/-- A text that can be written plainly as it stands. -/
def allowsPlain (chars : List Char) : Bool :=
  let isEdge (char : Char) : Bool := char == ' ' || isBreak char
  chars.all (fun char => isPrintable char && !isBreak char) &&
    !(chars.head?.map isEdge).getD false && !(chars.getLast?.map isEdge).getD false &&
    !startsWithIndicator chars && !hasIndicatorInside chars

/-- A text that can be written in single quotes. -/
def allowsSingleQuotes (chars : List Char) : Bool :=
  chars.all isPrintable && !hasSpaceBeforeBreak chars && !hasSpaceAfterBreak chars

/-- A text that can be written as a literal block. -/
def allowsLiteral (chars : List Char) : Bool :=
  chars.all isPrintable && !hasSpaceBeforeBreak chars && chars.getLast? != some ' '

/-- Words that stood for truth values in earlier versions of the format. -/
def formerBoolWords : List String :=
  ["y", "Y", "yes", "Yes", "YES", "n", "N", "no", "No", "NO", "on", "On", "ON", "off", "Off",
    "OFF"]

/-- A plain text that would not be read as that text. -/
def isMistakable (text : String) : Bool :=
  match plainDatum text with
  | .string _ => text ∈ formerBoolWords || isZeroPadded text.toList
  | _ => true

/-- The style that suits a text, whatever characters it has. -/
def preferredStyle (text : String) : TextStyle :=
  if text.toList.contains '\n' then .literal
  else if isMistakable text then .singleQuoted
  else .plain

/-- The style in which a text is written. A key on one line with its value cannot be a
block. -/
def styleOf (text : String) (isKey : Bool) : TextStyle :=
  let chars := text.toList
  let quoted : TextStyle := if allowsSingleQuotes chars then .singleQuoted else .doubleQuoted
  match preferredStyle text with
  | .plain => if allowsPlain chars then .plain else quoted
  | .literal => if allowsLiteral chars && !isKey then .literal else .doubleQuoted
  | _ => quoted

end ApiContract.Yaml
