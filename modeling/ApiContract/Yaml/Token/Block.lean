import ApiContract.Yaml.Cursor

/-!
# Block scalars

A scalar that is shown by indentation.  A literal one keeps its line breaks; in a
folded one a single break between two lines that do not start with a space becomes
a space.  An indicator decides about the breaks at the end.
-/

namespace ApiContract.Yaml

/-- What becomes of the line breaks at the end of a block scalar. -/
inductive Chomping where
  | strip
  | clip
  | keep
  deriving DecidableEq

/-- The indicators after the first character of a block scalar. -/
structure BlockHeader where
  chomping : Chomping := .clip
  indentation : Option Nat := none

/-- Reads a chomping indicator. -/
def readChomping (header : BlockHeader) (cursor : Cursor) : Option (BlockHeader × Cursor) :=
  match cursor.rest with
  | '+' :: _ => some ({ header with chomping := .keep }, cursor.skip 1)
  | '-' :: _ => some ({ header with chomping := .strip }, cursor.skip 1)
  | _ => none

/-- Reads an indentation indicator. -/
def readIndentation (start : Mark) (header : BlockHeader) (cursor : Cursor) :
    Except SyntaxFault (Option (BlockHeader × Cursor)) :=
  match cursor.rest with
  | char :: _ =>
      if char = '0' then
        .error ⟨.zeroIndentation, cursor.mark, some (.scanningBlockText, start)⟩
      else if char.isDigit then
        .ok (some ({ header with indentation := some (char.toNat - '0'.toNat) }, cursor.skip 1))
      else .ok none
  | [] => .ok none

/-- Reads the indicators of a block scalar, in either order. -/
def readBlockHeader (start : Mark) (cursor : Cursor) :
    Except SyntaxFault (BlockHeader × Cursor) := do
  match readChomping {} cursor with
  | some (header, cursor) => pure ((← readIndentation start header cursor).getD (header, cursor))
  | none =>
      match ← readIndentation start {} cursor with
      | some (header, cursor) => pure ((readChomping header cursor).getD (header, cursor))
      | none => pure ({}, cursor)

/-- Lines without text: their breaks, how far the widest indentation among them
reaches, and what follows. -/
structure BlankLines where
  breaks : List Char
  widest : Nat
  after : Cursor

/-- Reads lines without text and the indentation of the line after them. The margin is
zero while it is not known. The first argument bounds the number of lines. -/
def readBlankLines (margin : Nat) (start : Mark) :
    Nat → Nat → Cursor → Except SyntaxFault BlankLines
  | 0, widest, cursor => .ok ⟨[], widest, cursor⟩
  | fuel + 1, widest, cursor =>
      let spaces := (cursor.rest.takeWhile (· == ' ')).length
      let cursor := cursor.skip (if margin = 0 then spaces else min spaces (margin - cursor.mark.column))
      let widest := max widest cursor.mark.column
      match cursor.rest with
      | [] => .ok ⟨[], widest, cursor⟩
      | char :: _ =>
          if char = '\t' ∧ (margin = 0 ∨ cursor.mark.column < margin) then
            .error ⟨.tabInIndentation, cursor.mark, some (.scanningBlockText, start)⟩
          else if isBreak char then do
            let lines ← readBlankLines margin start fuel widest cursor.skipBreak
            pure { lines with breaks := keptBreak char :: lines.breaks }
          else .ok ⟨[], widest, cursor⟩

/-- A block scalar while it is read: its text, the break after its last line, the
breaks of the lines without text after that, and whether its last line starts with a
space. -/
structure BlockText where
  text : List Char := []
  lineBreak : List Char := []
  moreBreaks : List Char := []
  isIndented : Bool := false

/-- The text up to a further line, which starts with a space or not. -/
def BlockText.joined (block : BlockText) (isLiteral isIndented : Bool) : List Char :=
  let foldsBreak := !isLiteral && block.lineBreak == ['\n'] && !block.isIndented && !isIndented
  let lineBreak :=
    if !foldsBreak then block.lineBreak
    else if block.moreBreaks = [] then [' ']
    else []
  block.text ++ lineBreak ++ block.moreBreaks

/-- The text with the breaks at its end that are kept. -/
def BlockText.chomped (block : BlockText) : Chomping → List Char
  | .strip => block.text
  | .clip => block.text ++ block.lineBreak
  | .keep => block.text ++ block.lineBreak ++ block.moreBreaks

/-- Reads the lines that begin at the margin. The first argument bounds their number. -/
def readBlockLines (isLiteral : Bool) (margin : Nat) (start : Mark) :
    Nat → BlockText → Cursor → Except SyntaxFault (BlockText × Cursor)
  | 0, block, cursor => .ok (block, cursor)
  | fuel + 1, block, cursor =>
      if cursor.mark.column = margin ∧ cursor.rest ≠ [] then do
        let isIndented := (cursor.rest.head?.map isSpacing).getD false
        let text := block.joined isLiteral isIndented
        let (line, cursor) := cursor.span fun char => !isBreak char
        let lineBreak := (cursor.rest.head?.map keptBreak).toList
        let cursor := cursor.skipBreak
        let lines ← readBlankLines margin start (cursor.rest.length + 1) 0 cursor
        readBlockLines isLiteral margin start fuel
          ⟨text ++ line, lineBreak, lines.breaks, isIndented⟩ lines.after
      else .ok (block, cursor)

/-- Reads a block scalar from its indicator on. Its lines are indented by more than a
parent, whose column is counted from one; zero is no parent at all. -/
def readBlock (isLiteral : Bool) (parent : Nat) (cursor : Cursor) :
    Except SyntaxFault (List Char × Cursor) := do
  let start := cursor.mark
  let (header, cursor) ← readBlockHeader start (cursor.skip 1)
  let cursor ← cursor.skipLineEnd (.scanningBlockText, start)
  let margin := (header.indentation.map (parent - 1 + ·)).getD 0
  let lines ← readBlankLines margin start (cursor.rest.length + 1) 0 cursor
  let margin := if margin = 0 then max (max lines.widest parent) 1 else margin
  let (block, cursor) ← readBlockLines isLiteral margin start (lines.after.rest.length + 1)
    { moreBreaks := lines.breaks } lines.after
  pure (block.chomped header.chomping, cursor)

end ApiContract.Yaml
