/-!
# Blank characters

This module holds the characters of the Unicode property `White_Space` and the
trimming that rests on them.
-/

namespace ApiContract.Text

/-- The characters with the Unicode property `White_Space`. -/
def isBlank (char : Char) : Bool :=
  let point := char.toNat
  (9 ≤ point && point ≤ 13) || point == 0x20 || point == 0x85 || point == 0xA0 ||
    point == 0x1680 || (0x2000 ≤ point && point ≤ 0x200A) || point == 0x2028 ||
    point == 0x2029 || point == 0x202F || point == 0x205F || point == 0x3000

/-- The text without leading blanks. -/
def trimStart (chars : List Char) : List Char :=
  chars.dropWhile isBlank

/-- The text without trailing blanks. -/
def trimEnd (chars : List Char) : List Char :=
  (chars.reverse.dropWhile isBlank).reverse

/-- The text without blanks at either end. -/
def trim (chars : List Char) : List Char :=
  trimEnd (trimStart chars)

/-- The string without blanks at either end. -/
def trimmed (text : String) : String :=
  String.ofList (trim text.toList)

/-- The string without trailing blanks. -/
def trimmedEnd (text : String) : String :=
  String.ofList (trimEnd text.toList)

/-- A text is blank when it holds nothing but blanks. -/
def isBlankText (text : String) : Bool :=
  text.toList.all isBlank

end ApiContract.Text
