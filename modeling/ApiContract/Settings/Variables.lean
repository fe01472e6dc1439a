import ApiContract.Datum.Basic
import ApiContract.Number.Decimal
import ApiContract.Settings.Layers
import ApiContract.Text.Blank
import ApiContract.Text.Search

/-!
# Settings in environment variables

The name of a variable is a path of keys with two underscores between them, after a
lead that tells it is a setting.  Its value is a scalar, a list in brackets or a map
in braces; what cannot be read as any of these is a text.
-/

namespace ApiContract.Settings

/-- Blanks around values. -/
def isValueBlank (char : Char) : Bool :=
  char == ' ' || char == '\t' || char == '\n' || char == '\r' || char.toNat == 12

/-- A character that ends a bare value. -/
def isSeparator (char : Char) : Bool :=
  [',', '{', '}', '[', ']'].contains char

/-- A character of a bare key. -/
def isKeyChar (char : Char) : Bool :=
  char.isAlphanum || char == '_' || char == '-'

/-- What a bare word denotes: a truth value, an integer of 64 bits, a float if it has a
point, or a text. -/
def bareDatum (chars : List Char) : Datum :=
  let word := String.ofList chars
  let float := if chars.contains '.' then Decimal.readBinary64 chars else none
  match float with
  | some value => .float value
  | none =>
      if word = "true" then .bool true
      else if word = "false" then .bool false
      else
        match (Decimal.readInt chars).filter fun value => Typed.fitsWord value with
        | some value => .integer value
        | none => .string word

/-- The character that an escape denotes, and what follows it. -/
def readEscape? : List Char → Option (Char × List Char)
  | 'b' :: rest => some (Char.ofNat 8, rest)
  | 'f' :: rest => some (Char.ofNat 12, rest)
  | 'n' :: rest => some ('\n', rest)
  | 'r' :: rest => some ('\r', rest)
  | 't' :: rest => some ('\t', rest)
  | '"' :: rest => some ('"', rest)
  | '\\' :: rest => some ('\\', rest)
  | char :: rest => do
      let length ← [('u', 4), ('U', 8)].lookup char
      let digits := rest.take length
      let number ← digits.foldlM
        (fun number digit => (Text.hexValue? digit).map (16 * number + ·)) 0
      if digits.length = length ∧ number.isValidChar then
        some (Char.ofNat number, rest.drop length)
      else none
  | [] => none

/-- Reads a text up to its closing quote. The first argument bounds its length. -/
def readQuoted? : Nat → List Char → Option (List Char × List Char)
  | 0, _ => none
  | _, [] => none
  | _, '"' :: rest => some ([], rest)
  | fuel + 1, '\\' :: rest => do
      let (char, rest) ← readEscape? rest
      let (chars, rest) ← readQuoted? fuel rest
      pure (char :: chars, rest)
  | fuel + 1, char :: rest => do
      let (chars, rest) ← readQuoted? fuel rest
      pure (char :: chars, rest)

/-- Reads a key, quoted or bare. -/
def readKey? (chars : List Char) : Option (String × List Char) :=
  match chars with
  | '"' :: rest => (readQuoted? (rest.length + 1) rest).map fun (key, rest) =>
      (String.ofList key, rest)
  | chars =>
      let key := chars.takeWhile isKeyChar
      if key = [] then none else some (String.ofList key, chars.drop key.length)

/-- The text without leading blanks. -/
def skipBlanks (chars : List Char) : List Char :=
  chars.dropWhile isValueBlank

mutual

/-- Reads a value and the blanks around it. The first argument bounds its length. -/
def readValue? : Nat → List Char → Option (Datum × List Char)
  | 0, _ => none
  | fuel + 1, chars => do
      let (value, rest) ←
        match skipBlanks chars with
        | '"' :: rest => (readQuoted? (rest.length + 1) rest).map fun (text, rest) =>
            (Datum.string (String.ofList text), rest)
        | '[' :: rest => (readItems? fuel rest).map fun (items, rest) => (Datum.list items, rest)
        | '{' :: rest => (readMembers? fuel rest).map fun (members, rest) =>
            (Datum.map (Entries.ofList members), rest)
        | chars =>
            let word := chars.takeWhile fun char => !isSeparator char
            some (bareDatum (Text.trim word), chars.drop word.length)
      pure (value, skipBlanks rest)

/-- Reads items and the closing bracket. -/
def readItems? : Nat → List Char → Option (List Datum × List Char)
  | 0, _ => none
  | _, ']' :: rest => some ([], rest)
  | fuel + 1, chars => do
      let (item, rest) ← readValue? fuel chars
      match rest with
      | ',' :: rest =>
          let (items, rest) ← readItems? fuel rest
          pure (item :: items, rest)
      | ']' :: rest => pure ([item], rest)
      | _ => none

/-- Reads members and the closing brace. -/
def readMembers? : Nat → List Char → Option (List (String × Datum) × List Char)
  | 0, _ => none
  | _, '}' :: rest => some ([], rest)
  | fuel + 1, chars => do
      let (key, rest) ← readKey? (skipBlanks chars)
      match skipBlanks rest with
      | '=' :: rest =>
          let (value, rest) ← readValue? fuel rest
          match rest with
          | ',' :: rest =>
              let (members, rest) ← readMembers? fuel rest
              pure ((key, value) :: members, rest)
          | '}' :: rest => pure ([(key, value)], rest)
          | _ => none
      | _ => none

end

/-- What the value of a variable denotes. -/
def variableDatum (text : String) : Datum :=
  let chars := text.toList
  match readValue? (2 * chars.length + 2) chars with
  | some (value, []) => value
  | _ => .string text

/-- The text with each two underscores in a row replaced by a point. -/
def withPoints : List Char → List Char
  | '_' :: '_' :: rest => '.' :: withPoints rest
  | char :: rest => char :: withPoints rest
  | [] => []

/-- The keys that the name of a variable leads through, if it has the lead and no key is
empty. Letter case does not count. -/
def variablePath? (lead name : String) : Option (List String) :=
  let chars := (Text.lowered name).toList
  let lead := (Text.lowered lead).toList
  if lead.isPrefixOf chars then
    let path := Text.trim (withPoints (chars.drop lead.length))
    let keys := (Text.splitOnChar '.' path).map String.ofList
    if keys.contains "" then none else some keys
  else none

/-- A datum under a path of keys. -/
def nested (datum : Datum) : List String → Datum
  | [] => datum
  | key :: path => .map [(key, nested datum path)]

/-- The members that variables describe, each laid over those before it. -/
def variableMembers (lead : String) (environment : List (String × String)) : Entries Datum :=
  environment.foldl (fun lower (name, text) =>
    match variablePath? lead name with
    | some (key :: path) =>
        Datum.membersOver [(key, nested (variableDatum text) path)] lower
    | _ => lower) []

end ApiContract.Settings
