import ApiContract.Yaml.Fault

/-!
# A cursor in YAML text

The characters that are still to be read and the mark of the first of them.  A line
ends at a carriage return, a line feed, both together, or at one of the line and
paragraph separators of Unicode.
-/

namespace ApiContract.Yaml

/-- A character that ends a line. -/
def isBreak (char : Char) : Bool :=
  char == '\n' || char == '\r' || char.toNat == 0x85 || char.toNat == 0x2028 ||
    char.toNat == 0x2029

/-- A space or a tab. -/
def isSpacing (char : Char) : Bool :=
  char == ' ' || char == '\t'

/-- A letter, a digit, a hyphen or an underscore of ASCII. -/
def isNameChar (char : Char) : Bool :=
  char.isAlphanum || char == '-' || char == '_'

/-- The text is at its end or at the end of a line. -/
def atLineEnd : List Char → Bool
  | [] => true
  | char :: _ => isBreak char

/-- The text is at its end, at the end of a line or at a space or tab. -/
def atGap : List Char → Bool
  | [] => true
  | char :: _ => isSpacing char || isBreak char

/-- The character by which a line break is kept in a scalar. -/
def keptBreak (char : Char) : Char :=
  if char.toNat = 0x2028 ∨ char.toNat = 0x2029 then char else '\n'

/-- The characters that are still to be read and where they begin. -/
structure Cursor where
  rest : List Char
  mark : Mark := {}

namespace Cursor

/-- Passes some characters of the same line. -/
def skip (cursor : Cursor) (count : Nat) : Cursor :=
  ⟨cursor.rest.drop count, cursor.mark.plus (min count cursor.rest.length)⟩

/-- Passes a line break. -/
def skipBreak (cursor : Cursor) : Cursor :=
  match cursor.rest with
  | '\r' :: '\n' :: rest => ⟨rest, cursor.mark.nextLine 2⟩
  | _ :: rest => ⟨rest, cursor.mark.nextLine 1⟩
  | [] => cursor

/-- The longest run of characters of a kind, and what follows it. -/
def span (kind : Char → Bool) (cursor : Cursor) : List Char × Cursor :=
  let taken := cursor.rest.takeWhile kind
  (taken, cursor.skip taken.length)

/-- Passes characters of a kind. -/
def skipWhile (kind : Char → Bool) (cursor : Cursor) : Cursor :=
  (cursor.span kind).2

/-- Passes the rest of a comment, if one begins here. -/
def skipComment (cursor : Cursor) : Cursor :=
  match cursor.rest with
  | '#' :: _ => cursor.skipWhile fun char => !isBreak char
  | _ => cursor

/-- Passes what may stand at the end of a line: spaces, a comment and the line break. -/
def skipLineEnd (cursor : Cursor) (context : Activity × Mark) : Except SyntaxFault Cursor :=
  let cursor := (cursor.skipWhile isSpacing).skipComment
  if atLineEnd cursor.rest then .ok cursor.skipBreak
  else .error ⟨.lineEndExpected, cursor.mark, some context⟩

/-- Three characters at the start of a line that start or end a document. -/
def atDocumentMark (cursor : Cursor) : Bool :=
  cursor.mark.column == 0 &&
    match cursor.rest with
    | '-' :: '-' :: '-' :: rest => atGap rest
    | '.' :: '.' :: '.' :: rest => atGap rest
    | _ => false

end Cursor

/-- The spaces and line breaks between two words of a scalar. Once a line is broken,
spaces do not count. -/
structure Gap where
  spaces : List Char := []
  breaks : List Char := []
  isBroken : Bool := false
  isEscaped : Bool := false

/-- What a gap becomes in the value of a scalar: a single line break is folded into a
space, and of several the first is dropped. -/
def Gap.folded (gap : Gap) : List Char :=
  if !gap.isBroken then gap.spaces
  else if gap.isEscaped then gap.breaks
  else
    match gap.breaks with
    | ['\n'] => [' ']
    | '\n' :: more => more
    | breaks => breaks

/-- Reads the rest of a gap. A tab left of the margin is a fault. The first argument
bounds the length of the gap. -/
def Cursor.readGap (margin : Nat) (context : Activity × Mark) :
    Nat → Gap → Cursor → Except SyntaxFault (Gap × Cursor)
  | 0, gap, cursor => .ok (gap, cursor)
  | fuel + 1, gap, cursor =>
      match cursor.rest with
      | [] => .ok (gap, cursor)
      | char :: _ =>
          if isSpacing char then
            if !gap.isBroken then
              readGap margin context fuel { gap with spaces := gap.spaces ++ [char] }
                (cursor.skip 1)
            else if char = '\t' ∧ cursor.mark.column < margin then
              .error ⟨.tabBeforeText, cursor.mark, some context⟩
            else readGap margin context fuel gap (cursor.skip 1)
          else if isBreak char then
            readGap margin context fuel
              { gap with isBroken := true, breaks := gap.breaks ++ [keptBreak char] }
              cursor.skipBreak
          else .ok (gap, cursor)

end ApiContract.Yaml
