import ApiContract.Json.Cursor

/-!
# Reading JSON text

This module reads a JSON text into a value.  Of members with one key the last
stays and members are kept in order of their keys.  A number without point and
exponent is an integer as long as it fits 64 bits; any other number is a float,
formed from at most 64 bits of leading digits and one multiplication or division
by a power of ten.
-/

namespace ApiContract.Json

/-- How deep arrays and objects may nest. -/
def depthLimit : Nat := 128

/-- Reads the rest of a fixed word. -/
def readWord (value : Json) : List Char → Cursor → Except ReadError (Json × Cursor)
  | [], cursor => .ok (value, cursor)
  | expected :: more, cursor =>
      match cursor.rest with
      | [] => .error (cursor.errorHere .endInValue)
      | char :: _ =>
          if char = expected then readWord value more cursor.advance
          else .error (cursor.errorNext .expectedIdent)

/-- The value of four hexadecimal digits. -/
def fourHexDigits? : List Char → Option Nat
  | [first, second, third, fourth] => do
      let first ← Text.hexValue? first
      let second ← Text.hexValue? second
      let third ← Text.hexValue? third
      let fourth ← Text.hexValue? fourth
      some (((first * 16 + second) * 16 + third) * 16 + fourth)
  | _ => none

/-- The number of bytes of a text. -/
def byteCount (chars : List Char) : Nat :=
  chars.foldr (fun char count => char.utf8Size + count) 0

/-- Reads the four digits of an escaped code unit. -/
def readHexUnit (cursor : Cursor) : Except ReadError (Nat × Cursor) :=
  if byteCount (cursor.rest.take 4) < 4 then
    .error ((cursor.rest.foldl (fun reached char => reached.after char []) cursor).errorHere
      .endInString)
  else
    match fourHexDigits? (cursor.rest.take 4) with
    | some unit => .ok (unit, cursor.advanceBytes 4 cursor.rest)
    | none => .error ((cursor.advanceBytes 4 cursor.rest).errorHere .invalidEscape)

/-- Reads one expected character of the second half of a surrogate pair. -/
def readPairMark (expected : Char) (cursor : Cursor) : Except ReadError Cursor :=
  match cursor.rest with
  | [] => .error (cursor.errorHere .endInString)
  | char :: _ =>
      if char = expected then .ok cursor.advance
      else .error (cursor.errorNext .endOfHexEscape)

/-- Reads the digits of a `\u` escape, with the second half of a surrogate pair. -/
def readUnicodeEscape (cursor : Cursor) : Except ReadError (Char × Cursor) := do
  let (unit, cursor) ← readHexUnit cursor
  if 0xDC00 ≤ unit ∧ unit ≤ 0xDFFF then .error (cursor.errorHere .loneSurrogate)
  else if unit < 0xD800 ∨ 0xDBFF < unit then .ok (Char.ofNat unit, cursor)
  else
    let cursor ← readPairMark '\\' cursor
    let cursor ← readPairMark 'u' cursor
    let (second, cursor) ← readHexUnit cursor
    if second < 0xDC00 ∨ 0xDFFF < second then .error (cursor.errorHere .loneSurrogate)
    else
      .ok (Char.ofNat ((unit - 0xD800) * 0x400 + (second - 0xDC00) + 0x10000), cursor)

/-- Reads what follows a backslash. -/
def readEscape (cursor : Cursor) : Except ReadError (Char × Cursor) :=
  match cursor.rest with
  | [] => .error (cursor.errorHere .endInString)
  | char :: _ =>
      let next := cursor.advance
      if char = '"' ∨ char = '\\' ∨ char = '/' then .ok (char, next)
      else if char = 'b' then .ok (Char.ofNat 8, next)
      else if char = 'f' then .ok (Char.ofNat 12, next)
      else if char = 'n' then .ok ('\n', next)
      else if char = 'r' then .ok ('\r', next)
      else if char = 't' then .ok ('\t', next)
      else if char = 'u' then readUnicodeEscape next
      else .error (cursor.errorNext .invalidEscape)

/-- Reads the characters of a string after the opening quote. The first argument
bounds the number of characters. -/
def readStringChars : Nat → List Char → Cursor → Except ReadError (String × Cursor)
  | 0, _, cursor => .error (cursor.errorHere .endInString)
  | fuel + 1, reversed, cursor =>
      match cursor.rest with
      | [] => .error (cursor.errorHere .endInString)
      | '"' :: _ => .ok (String.ofList reversed.reverse, cursor.advance)
      | '\\' :: _ =>
          match readEscape cursor.advance with
          | .error error => .error error
          | .ok (char, cursor) => readStringChars fuel (char :: reversed) cursor
      | char :: _ =>
          if char.toNat < 32 then .error (cursor.errorNext .controlCharacter)
          else readStringChars fuel (char :: reversed) cursor.advance

/-- Reads a string after the opening quote. -/
def readString (cursor : Cursor) : Except ReadError (String × Cursor) :=
  readStringChars (cursor.rest.length + 1) [] cursor

/-- The leading digits whose value fits 64 bits, from the value so far. -/
def leadingDigits (value : Nat) : List Char → Nat × List Char
  | [] => (value, [])
  | digit :: rest =>
      let next := 10 * value + (digit.toNat - '0'.toNat)
      if next < twoTo 64 then leadingDigits next rest else (value, digit :: rest)

/-- A power of ten as a float. -/
def powerOfTen (exponent : Nat) : Binary64 :=
  .ofDecimal false 1 exponent

/-- Scales a float by a power of ten in steps of at most `10 ^ 308`; `none` when
the result is too large. The first argument bounds the number of steps. -/
def scaleByTen : Nat → FiniteBinary64 → Int → Option FiniteBinary64
  | 0, float, _ => some float
  | fuel + 1, float, exponent =>
      if exponent.natAbs ≤ 308 then
        match powerOfTen exponent.natAbs with
        | .finite power =>
            let scaled :=
              if 0 ≤ exponent then Binary64.mul float power else Binary64.div float power
            match scaled with
            | .finite result => some result
            | .infinity _ | .nan => none
        | .infinity _ | .nan => none
      else if float.isZero then some float
      else if 0 ≤ exponent then none
      else
        match powerOfTen 308 with
        | .finite power =>
            match Binary64.div float power with
            | .finite result => scaleByTen fuel result (exponent + 308)
            | .infinity _ | .nan => none
        | .infinity _ | .nan => none

/-- The float of leading digits and an exponent, reported at the cursor when it is
too large. -/
def floatOfParts (negative : Bool) (digits : Nat) (exponent : Int) (cursor : Cursor) :
    Except ReadError (JsonNumber × Cursor) :=
  match Binary64.ofInt digits with
  | .finite float =>
      match scaleByTen 8 float exponent with
      | some result =>
          .ok (.float (if negative then result.neg else result), cursor)
      | none => .error (cursor.errorHere .numberTooLarge)
  | .infinity _ | .nan => .error (cursor.errorHere .numberTooLarge)

/-- Reads the exponent after its mark and forms the number. -/
def readExponent (negative : Bool) (digits : Nat) (exponent : Int) (cursor : Cursor) :
    Except ReadError (JsonNumber × Cursor) :=
  let cursor := cursor.advance
  let (downward, cursor) :=
    if cursor.peek = '+' then (false, cursor.advance)
    else if cursor.peek = '-' then (true, cursor.advance)
    else (false, cursor)
  match cursor.rest with
  | [] => .error (cursor.errorHere .endInValue)
  | char :: _ =>
      if ¬ char.isDigit then .error (cursor.errorNext .invalidNumber)
      else
        let (exponentDigits, reached) := cursor.takeDigits
        let magnitude := Text.decimalValue exponentDigits
        if twoTo 31 ≤ magnitude then
          if digits ≠ 0 ∧ ¬ downward then
            .error ((overflowPosition cursor exponentDigits).errorHere .numberTooLarge)
          else .ok (.float (.zero negative), reached)
        else
          floatOfParts negative digits
            (if downward then exponent - magnitude else exponent + magnitude) reached
where
  /-- The position after the digit with which an exponent leaves 31 bits. -/
  overflowPosition (cursor : Cursor) (digits : List Char) : Cursor :=
    let fitting := (List.range digits.length).takeWhile fun count =>
      Text.decimalValue (digits.take (count + 1)) < twoTo 31
    { cursor with column := cursor.column + fitting.length + 1 }

/-- Reads the fraction after the point and forms the number. The exponent counts
whole digits that were left out. -/
def readFraction (negative : Bool) (digits : Nat) (exponent : Int) (cursor : Cursor) :
    Except ReadError (JsonNumber × Cursor) :=
  let (fraction, reached) := cursor.advance.takeDigits
  let (value, left) := leadingDigits digits fraction
  let used := fraction.length - left.length
  if fraction = [] then
    match reached.rest with
    | [] => .error (reached.errorNext .endInValue)
    | _ :: _ => .error (reached.errorNext .invalidNumber)
  else if used = 0 ∧ left = [] then .error (reached.errorNext .invalidNumber)
  else
    let exponent := exponent - used
    if reached.peek = 'e' ∨ reached.peek = 'E' then
      readExponent negative value exponent reached
    else floatOfParts negative value exponent reached

/-- Reads a number after its sign. -/
def readNumber (negative : Bool) (cursor : Cursor) : Except ReadError (JsonNumber × Cursor) :=
  match cursor.rest with
  | [] => .error (cursor.errorHere .endInValue)
  | char :: _ =>
      if ¬ char.isDigit then .error (cursor.errorNext .invalidNumber)
      else
        let (digits, reached) :=
          if char = '0' then (['0'], cursor.advance) else cursor.takeDigits
        if char = '0' ∧ reached.peek.isDigit then .error (reached.errorNext .invalidNumber)
        else
          let (value, left) := leadingDigits 0 digits
          if reached.peek = '.' then readFraction negative value left.length reached
          else if reached.peek = 'e' ∨ reached.peek = 'E' then
            readExponent negative value left.length reached
          else if left ≠ [] then floatOfParts negative value left.length reached
          else
            match wholeNumber? negative value with
            | some whole => .ok (.integer whole, reached)
            | none => floatOfParts negative value 0 reached
where
  /-- A whole number of 64 bits; a negative zero is none. -/
  wholeNumber? (negative : Bool) (value : Nat) : Option JsonInteger :=
    if negative then
      if value = 0 then none else JsonInteger.ofInt? (-(value : Int))
    else JsonInteger.ofInt? value

mutual

/-- Reads a value. The first argument bounds the number of steps, the second the
depth of nesting that is left. -/
def readValue : Nat → Nat → Cursor → Except ReadError (Json × Cursor)
  | 0, _, cursor => .error (cursor.errorHere .endInValue)
  | fuel + 1, depth, cursor =>
      let cursor := cursor.skipBlanks
      match cursor.rest with
      | [] => .error (cursor.errorNext .endInValue)
      | 'n' :: _ => readWord .null ['u', 'l', 'l'] cursor.advance
      | 't' :: _ => readWord (.bool true) ['r', 'u', 'e'] cursor.advance
      | 'f' :: _ => readWord (.bool false) ['a', 'l', 's', 'e'] cursor.advance
      | '-' :: _ => do
          let (numeral, cursor) ← readNumber true cursor.advance
          .ok (.number numeral, cursor)
      | '"' :: _ => do
          let (text, cursor) ← readString cursor.advance
          .ok (.string text, cursor)
      | '[' :: _ =>
          if depth ≤ 1 then .error (cursor.errorNext .tooDeep)
          else do
            let (items, cursor) ← readItems fuel (depth - 1) true [] cursor.advance
            .ok (.array items, cursor)
      | '{' :: _ =>
          if depth ≤ 1 then .error (cursor.errorNext .tooDeep)
          else do
            let (members, cursor) ← readMembers fuel (depth - 1) true [] cursor.advance
            .ok (.object members, cursor)
      | char :: _ =>
          if char.isDigit then do
            let (numeral, cursor) ← readNumber false cursor
            .ok (.number numeral, cursor)
          else .error (cursor.errorNext .expectedValue)

/-- Reads the items of an array and its closing bracket. -/
def readItems : Nat → Nat → Bool → List Json → Cursor → Except ReadError (List Json × Cursor)
  | 0, _, _, _, cursor => .error (cursor.errorHere .endInList)
  | fuel + 1, depth, first, reversed, cursor =>
      let cursor := cursor.skipBlanks
      match cursor.rest with
      | [] => .error (cursor.errorNext .endInList)
      | ']' :: _ => .ok (reversed.reverse, cursor.advance)
      | char :: _ =>
          if first then do
            let (item, cursor) ← readValue fuel depth cursor
            readItems fuel depth false (item :: reversed) cursor
          else if char = ',' then
            let cursor := cursor.advance.skipBlanks
            match cursor.rest with
            | [] => .error (cursor.errorNext .endInValue)
            | ']' :: _ => .error (cursor.errorNext .trailingComma)
            | _ :: _ => do
                let (item, cursor) ← readValue fuel depth cursor
                readItems fuel depth false (item :: reversed) cursor
          else .error (cursor.errorNext .expectedListEnd)

/-- Reads the members of an object and its closing brace. -/
def readMembers : Nat → Nat → Bool → Entries Json → Cursor → Except ReadError (Entries Json × Cursor)
  | 0, _, _, _, cursor => .error (cursor.errorHere .endInObject)
  | fuel + 1, depth, first, members, cursor =>
      let cursor := cursor.skipBlanks
      match cursor.rest with
      | [] => .error (cursor.errorNext .endInObject)
      | '}' :: _ => .ok (members, cursor.advance)
      | char :: _ =>
          if first then
            if char = '"' then readMember fuel depth members cursor
            else .error (cursor.errorNext .keyNotString)
          else if char = ',' then
            let cursor := cursor.advance.skipBlanks
            match cursor.rest with
            | [] => .error (cursor.errorNext .endInValue)
            | '"' :: _ => readMember fuel depth members cursor
            | '}' :: _ => .error (cursor.errorNext .trailingComma)
            | _ :: _ => .error (cursor.errorNext .keyNotString)
          else .error (cursor.errorNext .expectedObjectEnd)

/-- Reads a member from its opening quote, and the members after it. -/
def readMember : Nat → Nat → Entries Json → Cursor → Except ReadError (Entries Json × Cursor)
  | 0, _, _, cursor => .error (cursor.errorHere .endInObject)
  | fuel + 1, depth, members, cursor => do
      let (key, cursor) ← readString cursor.advance
      let cursor := cursor.skipBlanks
      match cursor.rest with
      | [] => .error (cursor.errorNext .endInObject)
      | ':' :: _ =>
          let (value, cursor) ← readValue fuel depth cursor.advance
          readMembers fuel depth false (Entries.insert key value members) cursor
      | _ :: _ => .error (cursor.errorNext .expectedColon)

end

/-- Checks that nothing but blanks follows. -/
def readEnd (cursor : Cursor) : Except ReadError Unit :=
  let cursor := cursor.skipBlanks
  match cursor.rest with
  | [] => .ok ()
  | _ :: _ => .error (cursor.errorNext .trailingText)

/-- Reads a whole text. -/
def read (text : String) : Except ReadError Json := do
  let (value, cursor) ← readValue (3 * text.length + 3) depthLimit (Cursor.start text)
  readEnd cursor
  .ok value

end ApiContract.Json
