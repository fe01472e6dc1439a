import ApiContract.Yaml.Cursor

/-!
# Quoted scalars

In single quotes a quote is written twice and nothing else is special.  In double
quotes a backslash starts an escape or hides a line break.
-/

namespace ApiContract.Yaml

/-- The character that an escape of one letter denotes. -/
def shortEscape? (letter : Char) : Option Char :=
  [('0', 0x00), ('a', 0x07), ('b', 0x08), ('t', 0x09), ('\t', 0x09), ('n', 0x0A),
    ('v', 0x0B), ('f', 0x0C), ('r', 0x0D), ('e', 0x1B), (' ', 0x20), ('"', 0x22),
    ('/', 0x2F), ('\\', 0x5C), ('N', 0x85), ('_', 0xA0), ('L', 0x2028),
    ('P', 0x2029)].lookup letter |>.map Char.ofNat

/-- How many hexadecimal digits follow the letter of an escape. -/
def escapeLength? (letter : Char) : Option Nat :=
  [('x', 2), ('u', 4), ('U', 8)].lookup letter

/-- The number that hexadecimal digits denote. -/
def hexNumber? (digits : List Char) : Option Nat :=
  digits.foldlM (fun number digit => (Text.hexValue? digit).map (16 * number + ·)) 0

/-- Reads an escape that is not a line break, from its backslash on. -/
def readEscape (start : Mark) (cursor : Cursor) : Except SyntaxFault (Char × Cursor) :=
  let fail (problem : Problem) (mark : Mark) : Except SyntaxFault (Char × Cursor) :=
    .error ⟨problem, mark, some (.parsingQuotedText, start)⟩
  let letter := (cursor.rest.drop 1).headD '\x00'
  match shortEscape? letter, escapeLength? letter with
  | some char, _ => .ok (char, cursor.skip 2)
  | none, none => fail .unknownEscape cursor.mark
  | none, some length =>
      let after := cursor.skip 2
      let digits := after.rest.take length
      match hexNumber? digits with
      | some number =>
          if digits.length < length then fail .escapeDigitsExpected after.mark
          else if number.isValidChar then .ok (Char.ofNat number, after.skip length)
          else fail .escapeOutOfRange after.mark
      | none => fail .escapeDigitsExpected after.mark

/-- What a word of a quoted scalar ends with. -/
structure QuotedWord where
  text : List Char
  hidesBreak : Bool := false
  after : Cursor

/-- Puts a character in front of a word. -/
def QuotedWord.cons (char : Char) (word : QuotedWord) : QuotedWord :=
  { word with text := char :: word.text }

/-- Reads a word of a quoted scalar, up to a gap or the closing quote. The first
argument bounds its length. -/
def readQuotedWord (isSingle : Bool) (start : Mark) :
    Nat → Cursor → Except SyntaxFault QuotedWord
  | 0, cursor => .ok { text := [], after := cursor }
  | fuel + 1, cursor =>
      match cursor.rest with
      | [] => .ok { text := [], after := cursor }
      | char :: rest =>
          if isSpacing char || isBreak char then .ok { text := [], after := cursor }
          else if isSingle ∧ char = '\'' ∧ rest.head? = some '\'' then
            return (← readQuotedWord isSingle start fuel (cursor.skip 2)).cons '\''
          else if char = (if isSingle then '\'' else '"') then
            .ok { text := [], after := cursor }
          else if !isSingle ∧ char = '\\' then
            if rest ≠ [] ∧ atLineEnd rest then
              .ok { text := [], hidesBreak := true, after := (cursor.skip 1).skipBreak }
            else do
              let (escaped, cursor) ← readEscape start cursor
              return (← readQuotedWord isSingle start fuel cursor).cons escaped
          else
            return (← readQuotedWord isSingle start fuel (cursor.skip 1)).cons char

/-- Reads the rest of a quoted scalar, given its text so far. The first argument bounds
its length. -/
def readQuotedFrom (isSingle : Bool) (start : Mark) :
    Nat → List Char → Cursor → Except SyntaxFault (List Char × Cursor)
  | 0, text, cursor => .ok (text, cursor)
  | fuel + 1, text, cursor =>
      let context := some (Activity.scanningQuotedText, start)
      if cursor.atDocumentMark then .error ⟨.documentMarkInQuotes, cursor.mark, context⟩
      else if cursor.rest = [] then .error ⟨.endInQuotes, cursor.mark, context⟩
      else do
        let word ← readQuotedWord isSingle start (cursor.rest.length + 1) cursor
        let text := text ++ word.text
        let after := word.after
        if after.rest.head? = some (if isSingle then '\'' else '"') then
          pure (text, after.skip 1)
        else
          let gap : Gap := { isBroken := word.hidesBreak, isEscaped := word.hidesBreak }
          let (gap, after) ← Cursor.readGap 0 (.scanningQuotedText, start) after.rest.length
            gap after
          readQuotedFrom isSingle start fuel (text ++ gap.folded) after

/-- Reads a quoted scalar from its opening quote on. -/
def readQuoted (isSingle : Bool) (cursor : Cursor) : Except SyntaxFault (List Char × Cursor) :=
  readQuotedFrom isSingle cursor.mark (cursor.rest.length + 1) [] (cursor.skip 1)

end ApiContract.Yaml
