import ApiContract.Json.Basic

/-!
# Reading positions in JSON text

A cursor is the text that is still to be read together with the position reached.
Lines count from one; columns count the bytes since the last line break.  A fault
is reported either at the cursor or one byte past it, where the offending byte has
been seen but not consumed.
-/

namespace ApiContract.Json

/-- What can be wrong with a JSON text. -/
inductive Fault where
  | endInValue
  | endInString
  | endInList
  | endInObject
  | expectedValue
  | expectedIdent
  | expectedColon
  | expectedListEnd
  | expectedObjectEnd
  | trailingComma
  | trailingText
  | keyNotString
  | invalidNumber
  | numberTooLarge
  | invalidEscape
  | loneSurrogate
  | endOfHexEscape
  | controlCharacter
  | tooDeep
  | custom (message : String)
  deriving DecidableEq

/-- The wording of a fault. -/
def Fault.message : Fault → String
  | .endInValue => "EOF while parsing a value"
  | .endInString => "EOF while parsing a string"
  | .endInList => "EOF while parsing a list"
  | .endInObject => "EOF while parsing an object"
  | .expectedValue => "expected value"
  | .expectedIdent => "expected ident"
  | .expectedColon => "expected `:`"
  | .expectedListEnd => "expected `,` or `]`"
  | .expectedObjectEnd => "expected `,` or `\x7d`"
  | .trailingComma => "trailing comma"
  | .trailingText => "trailing characters"
  | .keyNotString => "key must be a string"
  | .invalidNumber => "invalid number"
  | .numberTooLarge => "number out of range"
  | .invalidEscape => "invalid escape"
  | .loneSurrogate => "lone leading surrogate in hex escape"
  | .endOfHexEscape => "unexpected end of hex escape"
  | .controlCharacter =>
      "control character (\\u0000-\\u001F) found while parsing a string"
  | .tooDeep => "recursion limit exceeded"
  | .custom message => message

/-- A fault and where it was found. -/
structure ReadError where
  fault : Fault
  line : Nat
  column : Nat
  deriving DecidableEq

/-- The fault with its position. -/
def ReadError.message (error : ReadError) : String :=
  s!"{error.fault.message} at line {error.line} column {error.column}"

/-- The text still to be read and the position reached. -/
structure Cursor where
  rest : List Char
  line : Nat
  column : Nat

namespace Cursor

/-- The start of a text. -/
def start (text : String) : Cursor :=
  ⟨text.toList, 1, 0⟩

/-- The position after a character. -/
def after (cursor : Cursor) (char : Char) (rest : List Char) : Cursor :=
  if char = '\n' then ⟨rest, cursor.line + 1, 0⟩
  else ⟨rest, cursor.line, cursor.column + char.utf8Size⟩

/-- Moves past the next character. -/
def advance (cursor : Cursor) : Cursor :=
  match cursor.rest with
  | [] => cursor
  | char :: rest => cursor.after char rest

/-- Moves past the given number of bytes. The rest is not to be read afterwards
when the bytes end inside a character. -/
def advanceBytes (cursor : Cursor) : Nat → List Char → Cursor
  | 0, rest => { cursor with rest := rest }
  | _, [] => { cursor with rest := [] }
  | bytes + 1, char :: rest =>
      if char.utf8Size ≤ bytes + 1 then
        advanceBytes (cursor.after char rest) (bytes + 1 - char.utf8Size) rest
      else { cursor with rest := rest, column := cursor.column + bytes + 1 }
termination_by _ rest => rest.length

/-- The next character, or NUL at the end. -/
def peek (cursor : Cursor) : Char :=
  cursor.rest.headD (Char.ofNat 0)

/-- A fault at the cursor. -/
def errorHere (cursor : Cursor) (fault : Fault) : ReadError :=
  ⟨fault, cursor.line, cursor.column⟩

/-- A fault at the byte that comes next. -/
def errorNext (cursor : Cursor) (fault : Fault) : ReadError :=
  match cursor.rest with
  | [] => cursor.errorHere fault
  | '\n' :: _ => ⟨fault, cursor.line + 1, 0⟩
  | _ :: _ => ⟨fault, cursor.line, cursor.column + 1⟩

/-- Moves past spaces, tabs and line breaks. -/
def skipBlanks (cursor : Cursor) : Cursor :=
  go cursor cursor.rest
where
  /-- Moves past the blanks at the head of the rest. -/
  go (cursor : Cursor) : List Char → Cursor
    | [] => cursor
    | char :: rest =>
        if char = ' ' ∨ char = '\n' ∨ char = '\t' ∨ char = '\r' then
          go (cursor.after char rest) rest
        else cursor

/-- Moves past decimal digits and returns them. -/
def takeDigits (cursor : Cursor) : List Char × Cursor :=
  let (digits, rest) := cursor.rest.span Char.isDigit
  (digits, ⟨rest, cursor.line, cursor.column + digits.length⟩)

end Cursor

end ApiContract.Json
