import ApiContract.Yaml.Cursor

/-!
# Plain scalars

A scalar without quotes ends at a comment, at a colon before a gap, at a line that
is not indented enough, and inside brackets also at their indicators.
-/

namespace ApiContract.Yaml

/-- An indicator of a collection in brackets. -/
def isFlowIndicator (char : Char) : Bool :=
  char == ',' || char == '[' || char == ']' || char == '{' || char == '}'

/-- The plain scalar ends before these characters. -/
def endsPlain (inFlow : Bool) : List Char → Bool
  | [] => true
  | char :: rest =>
      isSpacing char || isBreak char || (char == ':' && atGap rest) ||
        (inFlow && isFlowIndicator char)

/-- A colon inside brackets right before one of their indicators. -/
def isColonInFlow (inFlow : Bool) : List Char → Bool
  | ':' :: char :: _ => inFlow && (isFlowIndicator char || char == '?')
  | _ => false

/-- Reads the characters of a plain scalar up to a gap or its end. The first list is
what is still to be read. -/
def readPlainWord (inFlow : Bool) (start : Mark) :
    List Char → Mark → Except SyntaxFault (List Char × Cursor)
  | [], mark => .ok ([], ⟨[], mark⟩)
  | char :: rest, mark =>
      if isSpacing char || isBreak char then .ok ([], ⟨char :: rest, mark⟩)
      else if isColonInFlow inFlow (char :: rest) then
        .error ⟨.colonInFlow, mark, some (.scanningPlainText, start)⟩
      else if endsPlain inFlow (char :: rest) then .ok ([], ⟨char :: rest, mark⟩)
      else do
        let (word, cursor) ← readPlainWord inFlow start rest (mark.plus 1)
        pure (char :: word, cursor)

/-- The text of a plain scalar, whether a line ended after its last word, and what
follows. -/
structure PlainScalar where
  text : List Char
  endsLine : Bool
  after : Cursor

/-- Reads the rest of a plain scalar, given its text so far and the gap after it. The
first argument bounds its length. -/
def readPlainFrom (inFlow : Bool) (margin : Nat) (start : Mark) :
    Nat → List Char → Gap → Cursor → Except SyntaxFault PlainScalar
  | 0, text, gap, cursor => .ok ⟨text, gap.isBroken, cursor⟩
  | fuel + 1, text, gap, cursor =>
      if cursor.atDocumentMark || cursor.rest.head? == some '#' then
        .ok ⟨text, gap.isBroken, cursor⟩
      else do
        let (word, cursor) ← readPlainWord inFlow start cursor.rest cursor.mark
        let (text, gap) := if word = [] then (text, gap) else (text ++ gap.folded ++ word, {})
        match cursor.rest with
        | [] => pure ⟨text, gap.isBroken, cursor⟩
        | char :: _ =>
            if isSpacing char || isBreak char then
              let (gap, cursor) ← Cursor.readGap margin (.scanningPlainText, start)
                cursor.rest.length gap cursor
              if !inFlow ∧ cursor.mark.column < margin then
                pure ⟨text, gap.isBroken, cursor⟩
              else readPlainFrom inFlow margin start fuel text gap cursor
            else pure ⟨text, gap.isBroken, cursor⟩

/-- Reads a plain scalar whose further lines begin at a margin or right of it. -/
def readPlain (inFlow : Bool) (margin : Nat) (cursor : Cursor) : Except SyntaxFault PlainScalar :=
  readPlainFrom inFlow margin cursor.mark (cursor.rest.length + 1) [] {} cursor

end ApiContract.Yaml
