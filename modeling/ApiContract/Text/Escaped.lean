import ApiContract.Text.Ascii
import ApiContract.Text.Unicode.Invisible

/-!
# Text in quotes

Messages and generated code show a text in double quotes.  Quotes, backslashes and
the common controls are escaped by a backslash; any other character without a
picture of its own is shown by its number.
-/

namespace ApiContract.Text

/-- The code point lies in one of the ranges. -/
def inRanges (ranges : List (Nat × Nat)) (point : Nat) : Bool :=
  ranges.any fun (first, last) => first ≤ point && point ≤ last

/-- The character has no picture of its own. -/
def isInvisible (char : Char) : Bool :=
  let point := char.toNat
  if 0x20 ≤ point ∧ point < 0x7f then false else inRanges Unicode.invisibleRanges point

/-- A character by its number in braces. -/
def numberedChar (char : Char) : List Char :=
  '\\' :: 'u' :: '{' :: hexText char.toNat ++ ['}']

/-- A character inside double quotes. -/
def escapedChar (char : Char) : List Char :=
  if char = '"' then ['\\', '"']
  else if char = '\\' then ['\\', '\\']
  else if char = '\n' then ['\\', 'n']
  else if char = '\r' then ['\\', 'r']
  else if char = '\t' then ['\\', 't']
  else if char.toNat = 0 then ['\\', '0']
  else if isInvisible char then numberedChar char
  else [char]

/-- The text in double quotes. -/
def inQuotes (text : String) : String :=
  String.ofList ('"' :: text.toList.flatMap escapedChar ++ ['"'])

end ApiContract.Text
