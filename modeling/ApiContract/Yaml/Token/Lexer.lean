import ApiContract.Yaml.Token.Block
import ApiContract.Yaml.Token.Plain
import ApiContract.Yaml.Token.Quoted
import ApiContract.Yaml.Token.Tag

/-!
# From text to tokens

Indentation opens and closes block collections.  Whether a scalar is a key is known
only when a colon follows it on its line, so the place of a possible key is kept
until then, one for each level of brackets.
-/

namespace ApiContract.Yaml

/-- A token that is a key if a colon follows. -/
structure PendingKey where
  isRequired : Bool
  index : Nat
  mark : Mark

/-- No colon can follow any more: the line has ended, or the key is too long. -/
def PendingKey.isStale (key : PendingKey) (mark : Mark) : Bool :=
  key.mark.line < mark.line || key.mark.index + 1024 < mark.index

/-- What is known while a text is cut into tokens: the tokens so far; the column of the
innermost block collection, counted from one, where zero is no collection; those of the
collections around it; the possible keys, the innermost brackets first; and whether a
key may begin here. -/
structure Lexer where
  cursor : Cursor
  tokens : Array Token := #[]
  indentation : Nat := 0
  outer : List Nat := []
  keys : List (Option PendingKey) := [none]
  allowsKey : Bool := true

namespace Lexer

/-- The cursor is inside brackets. -/
def inFlow (lexer : Lexer) : Bool :=
  1 < lexer.keys.length

/-- The lexer with a token more. -/
def emit (lexer : Lexer) (kind : TokenKind) : Lexer :=
  { lexer with tokens := lexer.tokens.push ⟨kind, lexer.cursor.mark⟩ }

/-- Emits an indicator of some characters and passes it. -/
def emitIndicator (lexer : Lexer) (kind : TokenKind) (length : Nat) : Lexer :=
  let lexer := lexer.emit kind
  { lexer with cursor := lexer.cursor.skip length }

/-- Fails at the cursor. -/
def fail {α : Type} (lexer : Lexer) (problem : Problem)
    (context : Option (Activity × Mark) := none) : Except SyntaxFault α :=
  .error ⟨problem, lexer.cursor.mark, context⟩

/-- Fails if a key is required whose colon did not come. -/
def refuseMissingColon (lexer : Lexer) (key : PendingKey) : Except SyntaxFault Unit :=
  if key.isRequired then lexer.fail .colonExpected (some (.scanningKey, key.mark)) else .ok ()

/-- Gives up the possible key of the innermost brackets. -/
def dropKey (lexer : Lexer) : Except SyntaxFault Lexer := do
  match lexer.keys with
  | some key :: others =>
      lexer.refuseMissingColon key
      pure { lexer with keys := none :: others }
  | _ => pure lexer

/-- Notes that the next token may be a key. -/
def noteKey (lexer : Lexer) : Except SyntaxFault Lexer := do
  if lexer.allowsKey then
    let lexer ← lexer.dropKey
    let mark := lexer.cursor.mark
    let key : PendingKey :=
      ⟨!lexer.inFlow && lexer.indentation == mark.column + 1, lexer.tokens.size, mark⟩
    pure { lexer with keys := some key :: lexer.keys.drop 1 }
  else pure lexer

/-- A possible key, unless it is stale. -/
def freshKey (lexer : Lexer) (key : Option PendingKey) :
    Except SyntaxFault (Option PendingKey) := do
  match key with
  | none => pure none
  | some key =>
      if key.isStale lexer.cursor.mark then
        lexer.refuseMissingColon key
        pure none
      else pure (some key)

/-- Gives up the possible keys that are stale. -/
def dropStaleKeys (lexer : Lexer) : Except SyntaxFault Lexer := do
  pure { lexer with keys := ← lexer.keys.mapM lexer.freshKey }

/-- How many block collections end when indentation falls back, and what is left. -/
def closedBlocks (column : Nat) : Nat → List Nat → Nat × Nat × List Nat
  | indentation, [] => (0, indentation, [])
  | indentation, parent :: outer =>
      if indentation ≤ column then (0, indentation, parent :: outer)
      else
        let (count, rest) := closedBlocks column parent outer
        (count + 1, rest)

/-- Closes the block collections right of a column, counted from one. -/
def closeBlocks (lexer : Lexer) (column : Nat) : Lexer :=
  if lexer.inFlow then lexer
  else
    let (count, indentation, outer) := closedBlocks column lexer.indentation lexer.outer
    let ends := Array.replicate count (Token.mk .blockEnd lexer.cursor.mark)
    { lexer with tokens := lexer.tokens ++ ends, indentation := indentation, outer := outer }

/-- Opens a block collection at a mark if that is right of the innermost one. Its token
gets a place among the tokens. -/
def openBlock (lexer : Lexer) (kind : TokenKind) (mark : Mark) (index : Nat) : Lexer :=
  if lexer.inFlow || mark.column < lexer.indentation then lexer
  else
    { lexer with
      tokens := lexer.tokens.insertIdxIfInBounds index ⟨kind, mark⟩
      indentation := mark.column + 1
      outer := lexer.indentation :: lexer.outer }

/-- Opens a block collection at the cursor. -/
def openBlockHere (lexer : Lexer) (kind : TokenKind) : Lexer :=
  lexer.openBlock kind lexer.cursor.mark lexer.tokens.size

/-- Passes spaces, comments and line breaks. A tab at the start of a line is not passed
outside brackets. The first argument bounds the number of lines. -/
def skipGaps : Nat → Lexer → Lexer
  | 0, lexer => lexer
  | fuel + 1, lexer =>
      let passesTabs := lexer.inFlow || !lexer.allowsKey
      let cursor := lexer.cursor.skipWhile fun char =>
        char == ' ' || (passesTabs && char == '\t')
      let cursor := cursor.skipComment
      if cursor.rest ≠ [] ∧ atLineEnd cursor.rest then
        skipGaps fuel
          { lexer with cursor := cursor.skipBreak, allowsKey := lexer.allowsKey || !lexer.inFlow }
      else { lexer with cursor := cursor }

/-- Reads the end of the text. -/
def readEnd (lexer : Lexer) : Except SyntaxFault Lexer := do
  let mark := lexer.cursor.mark
  let mark := if mark.column = 0 then mark else mark.nextLine 0
  let lexer := { lexer with cursor := ⟨[], mark⟩ }
  let lexer ← (lexer.closeBlocks 0).dropKey
  pure ({ lexer with allowsKey := false }.emit .streamEnd)

/-- Reads a line that starts with a percent sign. -/
def readDirectiveLine (lexer : Lexer) : Except SyntaxFault Lexer := do
  let lexer ← (lexer.closeBlocks 0).dropKey
  let (kind, after) ← readDirective lexer.cursor
  pure { lexer.emit kind with allowsKey := false, cursor := after }

/-- Reads the mark of a document. -/
def readDocumentMark (lexer : Lexer) (kind : TokenKind) : Except SyntaxFault Lexer := do
  let lexer ← (lexer.closeBlocks 0).dropKey
  pure ({ lexer with allowsKey := false }.emitIndicator kind 3)

/-- Reads an opening bracket. -/
def readOpening (lexer : Lexer) (kind : TokenKind) : Except SyntaxFault Lexer := do
  let lexer ← lexer.noteKey
  pure ({ lexer with keys := none :: lexer.keys, allowsKey := true }.emitIndicator kind 1)

/-- Reads a closing bracket. -/
def readClosing (lexer : Lexer) (kind : TokenKind) : Except SyntaxFault Lexer := do
  let lexer ← lexer.dropKey
  let keys := if lexer.inFlow then lexer.keys.drop 1 else lexer.keys
  pure ({ lexer with keys := keys, allowsKey := false }.emitIndicator kind 1)

/-- Reads a comma. -/
def readComma (lexer : Lexer) : Except SyntaxFault Lexer := do
  let lexer ← lexer.dropKey
  pure ({ lexer with allowsKey := true }.emitIndicator .flowItem 1)

/-- Reads the dash of an item. -/
def readDash (lexer : Lexer) : Except SyntaxFault Lexer := do
  if !lexer.inFlow ∧ !lexer.allowsKey then lexer.fail .misplacedItem
  let lexer ← (lexer.openBlockHere .blockSequenceStart).dropKey
  pure ({ lexer with allowsKey := true }.emitIndicator .blockItem 1)

/-- Reads the question mark of a key. -/
def readQuestionMark (lexer : Lexer) : Except SyntaxFault Lexer := do
  if !lexer.inFlow ∧ !lexer.allowsKey then lexer.fail .misplacedKey
  let lexer ← (lexer.openBlockHere .blockMappingStart).dropKey
  pure ({ lexer with allowsKey := !lexer.inFlow }.emitIndicator .key 1)

/-- Reads the colon of a value. What was a possible key is one now. -/
def readColon (lexer : Lexer) : Except SyntaxFault Lexer := do
  match lexer.keys with
  | some key :: others =>
      let lexer := { lexer with
        keys := none :: others
        allowsKey := false
        tokens := lexer.tokens.insertIdxIfInBounds key.index ⟨.key, key.mark⟩ }
      pure ((lexer.openBlock .blockMappingStart key.mark key.index).emitIndicator .value 1)
  | _ =>
      if !lexer.inFlow ∧ !lexer.allowsKey then lexer.fail .misplacedValue
      let lexer := lexer.openBlockHere .blockMappingStart
      pure ({ lexer with allowsKey := !lexer.inFlow }.emitIndicator .value 1)

/-- Reads an anchor, an alias or a tag. -/
def readProperty (lexer : Lexer) (read : Cursor → Except SyntaxFault (TokenKind × Cursor)) :
    Except SyntaxFault Lexer := do
  let lexer ← lexer.noteKey
  let (kind, after) ← read lexer.cursor
  pure { lexer.emit kind with allowsKey := false, cursor := after }

/-- Reads an anchor. -/
def readAnchor (cursor : Cursor) : Except SyntaxFault (TokenKind × Cursor) := do
  let (name, after) ← readAnchorName .scanningAnchor cursor
  pure (.anchor name, after)

/-- Reads an alias. -/
def readAlias (cursor : Cursor) : Except SyntaxFault (TokenKind × Cursor) := do
  let (name, after) ← readAnchorName .scanningAlias cursor
  pure (.aliasOf name, after)

/-- Reads a block scalar. -/
def readBlockScalar (lexer : Lexer) (isLiteral : Bool) : Except SyntaxFault Lexer := do
  let lexer ← lexer.dropKey
  let (text, after) ← readBlock isLiteral lexer.indentation lexer.cursor
  let lexer := lexer.emit (.scalar (String.ofList text) false)
  pure { lexer with allowsKey := true, cursor := after }

/-- Reads a quoted scalar. -/
def readQuotedScalar (lexer : Lexer) (isSingle : Bool) : Except SyntaxFault Lexer := do
  let lexer ← lexer.noteKey
  let (text, after) ← readQuoted isSingle lexer.cursor
  let lexer := lexer.emit (.scalar (String.ofList text) false)
  pure { lexer with allowsKey := false, cursor := after }

/-- Reads a plain scalar. -/
def readPlainScalar (lexer : Lexer) : Except SyntaxFault Lexer := do
  let lexer ← lexer.noteKey
  let scalar ← readPlain lexer.inFlow lexer.indentation lexer.cursor
  let lexer := lexer.emit (.scalar (String.ofList scalar.text) true)
  pure { lexer with allowsKey := scalar.endsLine, cursor := scalar.after }

/-- A character that starts no plain scalar by itself. -/
def isIndicator (char : Char) : Bool :=
  ['-', '?', ':', ',', '[', ']', '{', '}', '#', '&', '*', '!', '|', '>', '\'', '"', '%', '@',
    '\x60'].contains char

/-- A plain scalar starts with these characters. -/
def startsPlain (inFlow : Bool) : List Char → Bool
  | [] => false
  | char :: rest =>
      (!isSpacing char && !isBreak char && !isIndicator char) ||
        (char == '-' && !(rest.head?.map isSpacing).getD false) ||
        (!inFlow && (char == '?' || char == ':') && !atGap rest)

/-- Reads the token at the cursor, which is at no gap. -/
def readToken (lexer : Lexer) : Except SyntaxFault Lexer :=
  match lexer.cursor.rest with
  | [] => lexer.readEnd
  | char :: rest =>
      if lexer.cursor.mark.column = 0 ∧ char = '%' then lexer.readDirectiveLine
      else if lexer.cursor.atDocumentMark then
        lexer.readDocumentMark (if char = '-' then .documentStart else .documentEnd)
      else
        let isApart := lexer.inFlow || atGap rest
        match char with
        | '[' => lexer.readOpening .flowSequenceStart
        | '{' => lexer.readOpening .flowMappingStart
        | ']' => lexer.readClosing .flowSequenceEnd
        | '}' => lexer.readClosing .flowMappingEnd
        | ',' => lexer.readComma
        | '*' => lexer.readProperty readAlias
        | '&' => lexer.readProperty readAnchor
        | '!' => lexer.readProperty (readTag lexer.inFlow)
        | '\'' => lexer.readQuotedScalar true
        | '"' => lexer.readQuotedScalar false
        | char =>
            if char = '-' ∧ atGap rest then lexer.readDash
            else if char = '?' ∧ isApart then lexer.readQuestionMark
            else if char = ':' ∧ isApart then lexer.readColon
            else if (char = '|' ∨ char = '>') ∧ !lexer.inFlow then
              lexer.readBlockScalar (char == '|')
            else if startsPlain lexer.inFlow (char :: rest) then lexer.readPlainScalar
            else lexer.fail .noTokenStart (some (.scanningToken, lexer.cursor.mark))

/-- Passes a gap and reads the token after it. -/
def next (lexer : Lexer) : Except SyntaxFault Lexer := do
  let lexer ← (lexer.skipGaps (lexer.cursor.rest.length + 1)).dropStaleKeys
  (lexer.closeBlocks (lexer.cursor.mark.column + 1)).readToken

/-- The end of the text has been read. -/
def isDone (lexer : Lexer) : Bool :=
  (lexer.tokens.back?.map fun token => token.kind == .streamEnd).getD false

/-- A colon may still make the token a key, or is missing. -/
def isOpenKey (lexer : Lexer) (key : PendingKey) : Bool :=
  key.isRequired || !key.isStale lexer.cursor.mark

/-- How many tokens can be used before the next one is known: all before a possible
key. -/
def settled (lexer : Lexer) : Nat :=
  ((lexer.keys.filterMap id).filter lexer.isOpenKey).foldl
    (fun count key => min count key.index) lexer.tokens.size

end Lexer

/-- The tokens that can be read from a text, and the fault after them, if there is one. -/
structure Tokens where
  tokens : List Token
  fault : Option SyntaxFault := none

/-- Reads tokens until the end or a fault. The first argument bounds their number. -/
def Lexer.run : Nat → Lexer → Tokens
  | 0, lexer => ⟨lexer.tokens.toList, none⟩
  | fuel + 1, lexer =>
      match lexer.next with
      | .error fault => ⟨lexer.tokens.toList.take lexer.settled, some fault⟩
      | .ok lexer => if lexer.isDone then ⟨lexer.tokens.toList, none⟩ else run fuel lexer

/-- The tokens of a text. -/
def Tokens.ofChars (chars : List Char) : Tokens :=
  Lexer.run (chars.length + 2) { cursor := { rest := chars } }

end ApiContract.Yaml
