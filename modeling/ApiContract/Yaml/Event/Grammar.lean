import ApiContract.Yaml.Event
import ApiContract.Yaml.Token.Lexer

/-!
# From tokens to events

What may come next depends on the collections that are open, which are kept in a
stack.  A node, a key or a value that is left out is an empty scalar.
-/

namespace ApiContract.Yaml

/-- What comes next. -/
inductive Expectation where
  | openDocument
  | document
  | documentContent
  | documentEnd
  | node
  | firstItem
  | item
  | compactItem
  | firstKey
  | key
  | value
  | firstFlowItem
  | flowItem
  | pairKey
  | pairValue
  | pairEnd
  | firstFlowKey
  | flowKey
  | flowValue
  | leftOutValue
  | nothing
  deriving DecidableEq

/-- What is known between two events: the tokens that are left and the fault after
them, what comes next, what comes after the open nodes, where the open collections
began, and what the handles of tags stand for. -/
structure Reading where
  tokens : List Token
  fault : Option SyntaxFault
  expected : Expectation := .openDocument
  pending : List Expectation := []
  starts : List Mark := []
  handles : List (String × String) := []

/-- A tag as it stands in the text. -/
structure RawTag where
  handle : String
  suffix : String
  mark : Mark

/-- A step of reading: an event, and what is known after it. -/
abbrev Step := Except SyntaxFault (Event × Reading)

namespace Reading

/-- The next token. -/
def peek (reading : Reading) : Except SyntaxFault Token :=
  match reading.tokens with
  | token :: _ => .ok token
  | [] => .error (reading.fault.getD ⟨.contentExpected, {}, none⟩)

/-- Passes a token. -/
def pass (reading : Reading) : Reading :=
  { reading with tokens := reading.tokens.drop 1 }

/-- Goes on with something. -/
def expecting (reading : Reading) (expected : Expectation) : Reading :=
  { reading with expected := expected }

/-- Goes on with something once a node has been read. -/
def afterwards (reading : Reading) (next : Expectation) : Reading :=
  { reading with pending := next :: reading.pending }

/-- Goes on after the end of a node. -/
def resume (reading : Reading) : Reading :=
  { reading with
    expected := reading.pending.headD .nothing
    pending := reading.pending.drop 1 }

/-- Enters a collection. -/
def enter (reading : Reading) (mark : Mark) : Reading :=
  { reading.pass with starts := mark :: reading.starts }

/-- Leaves a collection with its last event. -/
def leave (reading : Reading) (kind : EventKind) (mark : Mark) : Step :=
  .ok (⟨kind, mark⟩, { reading.resume with starts := reading.starts.drop 1 })

/-- Fails in the innermost open collection. -/
def failInside (reading : Reading) (problem : Problem) (activity : Activity) (mark : Mark) :
    Step :=
  .error ⟨problem, mark, some (activity, reading.starts.headD {})⟩

/-- A scalar that is left out. -/
def leftOut (reading : Reading) (mark : Mark) (next : Expectation) : Step :=
  .ok (⟨.scalar {} "" true, mark⟩, reading.expecting next)

/-- The handles that every document has. -/
def standardHandles : List (String × String) :=
  [("!", "!"), ("!!", "tag:yaml.org,2002:")]

/-- Reads the directives before a document. -/
def readDirectives (reading : Reading) (hasVersion : Bool) :
    List Token → Except SyntaxFault Reading
  | ⟨.versionDirective major minor, mark⟩ :: tokens => do
      if hasVersion then .error ⟨.repeatedVersion, mark, none⟩
      if major ≠ 1 ∨ (minor ≠ 1 ∧ minor ≠ 2) then .error ⟨.unsupportedVersion, mark, none⟩
      readDirectives reading true tokens
  | ⟨.handleDirective handle expansion, mark⟩ :: tokens => do
      if (reading.handles.lookup handle).isSome then .error ⟨.repeatedHandle, mark, none⟩
      readDirectives { reading with handles := (handle, expansion) :: reading.handles } hasVersion
        tokens
  | tokens =>
      .ok { reading with tokens := tokens, handles := reading.handles ++ standardHandles }

/-- Passes tokens that end a document. -/
def passDocumentEnds (reading : Reading) : Reading :=
  { reading with tokens := reading.tokens.dropWhile fun token => token.kind == .documentEnd }

/-- A document begins with directives or its mark. -/
def beginsExplicitly : TokenKind → Bool
  | .versionDirective .. | .handleDirective .. | .documentStart | .streamEnd => true
  | _ => false

/-- Reads the start of a document. The first one of a text may go without its mark. -/
def readDocument (reading : Reading) (isFirst : Bool) : Step := do
  let reading := if isFirst then reading else reading.passDocumentEnds
  let reading := { reading with handles := [] }
  let token ← reading.peek
  if isFirst ∧ !beginsExplicitly token.kind then
    let reading := { reading with handles := standardHandles, pending := [.documentEnd] }
    pure (⟨.documentStart, token.mark⟩, reading.expecting .node)
  else if token.kind = .streamEnd then
    pure (⟨.streamEnd, token.mark⟩, reading.pass.expecting .nothing)
  else
    let reading ← readDirectives reading false reading.tokens
    let start ← reading.peek
    if start.kind ≠ .documentStart then .error ⟨.documentStartExpected, start.mark, none⟩
    let reading := { reading.pass with pending := [.documentEnd] }
    pure (⟨.documentStart, token.mark⟩, reading.expecting .documentContent)

/-- Reads the end of a document. -/
def readDocumentEnd (reading : Reading) : Step := do
  let token ← reading.peek
  let reading := if token.kind = .documentEnd then reading.pass else reading
  pure (⟨.documentEnd, token.mark⟩, reading.expecting .document)

/-- What a tag stands for, given where its node starts. -/
def resolveTag (reading : Reading) (start : Mark) (tag : RawTag) : Except SyntaxFault String :=
  if tag.handle = "" then .ok tag.suffix
  else
    match reading.handles.lookup tag.handle with
    | some expansion => .ok (expansion ++ tag.suffix)
    | none => .error ⟨.undefinedHandle, tag.mark, some (.parsingNode, start)⟩

/-- Reads the anchor and the tag of a node, in either order, each at most once. The tag
is returned as it stands. -/
def readProperties (reading : Reading) :
    Except SyntaxFault (Option String × Option RawTag × Reading) := do
  let token ← reading.peek
  match token.kind with
  | .anchor name =>
      let next ← reading.pass.peek
      match next.kind with
      | .tag handle suffix => pure (some name, some ⟨handle, suffix, next.mark⟩, reading.pass.pass)
      | _ => pure (some name, none, reading.pass)
  | .tag handle suffix =>
      let next ← reading.pass.peek
      match next.kind with
      | .anchor name => pure (some name, some ⟨handle, suffix, token.mark⟩, reading.pass.pass)
      | _ => pure (none, some ⟨handle, suffix, token.mark⟩, reading.pass)
  | _ => pure (none, none, reading)

/-- Reads a node, in a block or in brackets. Where the items of a sequence may stand
below their key, they need no deeper indentation. -/
def readNode (reading : Reading) (isBlock allowsCompact : Bool) : Step := do
  let first ← reading.peek
  match first.kind with
  | .aliasOf name => pure (⟨.aliasOf name, first.mark⟩, reading.pass.resume)
  | _ =>
      let start := first.mark
      let (anchor, rawTag, reading) ← reading.readProperties
      let tag ← rawTag.mapM (reading.resolveTag start)
      let properties : Properties := ⟨anchor, tag⟩
      let collection (kind : EventKind) (expected : Expectation) : Step :=
        .ok (⟨kind, start⟩, reading.expecting expected)
      let token ← reading.peek
      match token.kind, isBlock, allowsCompact with
      | .blockItem, _, true => collection (.sequenceStart properties) .compactItem
      | .scalar text isPlain, _, _ =>
          pure (⟨.scalar properties text isPlain, start⟩, reading.pass.resume)
      | .flowSequenceStart, _, _ => collection (.sequenceStart properties) .firstFlowItem
      | .flowMappingStart, _, _ => collection (.mappingStart properties) .firstFlowKey
      | .blockSequenceStart, true, _ => collection (.sequenceStart properties) .firstItem
      | .blockMappingStart, true, _ => collection (.mappingStart properties) .firstKey
      | _, _, _ =>
          if anchor.isSome ∨ rawTag.isSome then
            pure (⟨.scalar properties "" true, start⟩, reading.resume)
          else
            let activity := if isBlock then Activity.parsingBlockNode else .parsingFlowNode
            .error ⟨.contentExpected, token.mark, some (activity, start)⟩

/-- Reads the content of a document that has a mark. -/
def readContent (reading : Reading) : Step := do
  let token ← reading.peek
  if beginsExplicitly token.kind ∨ token.kind = .documentEnd then
    pure (⟨.scalar {} "" true, token.mark⟩, reading.resume)
  else reading.readNode true false

/-- Reads an item of a block sequence, or its end. -/
def readItem (reading : Reading) : Step := do
  let token ← reading.peek
  match token.kind with
  | .blockItem =>
      let reading := reading.pass
      match (← reading.peek).kind with
      | .blockItem | .blockEnd => reading.leftOut token.mark .item
      | _ => (reading.afterwards .item).readNode true false
  | .blockEnd => reading.pass.leave .sequenceEnd token.mark
  | _ => reading.failInside .dashExpected .parsingBlockSequence token.mark

/-- Reads an item of a sequence that is as far left as the key above it, or its end. -/
def readCompactItem (reading : Reading) : Step := do
  let token ← reading.peek
  match token.kind with
  | .blockItem =>
      let reading := reading.pass
      match (← reading.peek).kind with
      | .blockItem | .key | .value | .blockEnd => reading.leftOut token.mark .compactItem
      | _ => (reading.afterwards .compactItem).readNode true false
  | _ => pure (⟨.sequenceEnd, token.mark⟩, reading.resume)

/-- Reads a node of a block mapping, which may be left out. -/
def readBlockPart (reading : Reading) (mark : Mark) (next : Expectation) : Step := do
  match (← reading.peek).kind with
  | .key | .value | .blockEnd => reading.leftOut mark next
  | _ => (reading.afterwards next).readNode true true

/-- Reads a key of a block mapping, or its end. -/
def readKey (reading : Reading) : Step := do
  let token ← reading.peek
  match token.kind with
  | .key => reading.pass.readBlockPart token.mark .value
  | .blockEnd => reading.pass.leave .mappingEnd token.mark
  | _ => reading.failInside .keyExpected .parsingBlockMapping token.mark

/-- Reads a value of a block mapping. -/
def readValue (reading : Reading) : Step := do
  let token ← reading.peek
  match token.kind with
  | .value => reading.pass.readBlockPart token.mark .key
  | _ => reading.leftOut token.mark .key

/-- Passes the comma before an item or key in brackets. -/
def passComma (reading : Reading) (isFirst : Bool) (closing : TokenKind) (problem : Problem)
    (activity : Activity) : Except SyntaxFault Reading := do
  let token ← reading.peek
  if isFirst ∨ token.kind = closing then pure reading
  else if token.kind = .flowItem then pure reading.pass
  else .error ⟨problem, token.mark, some (activity, reading.starts.headD {})⟩

/-- Reads an item of a sequence in brackets, or its end. -/
def readFlowItem (reading : Reading) (isFirst : Bool) : Step := do
  let reading ← reading.passComma isFirst .flowSequenceEnd .bracketExpected .parsingFlowSequence
  let token ← reading.peek
  match token.kind with
  | .flowSequenceEnd => reading.pass.leave .sequenceEnd token.mark
  | .key => pure (⟨.mappingStart {}, token.mark⟩, reading.pass.expecting .pairKey)
  | _ => (reading.afterwards .flowItem).readNode false false

/-- Reads the key of a mapping of a single pair in a sequence. -/
def readPairKey (reading : Reading) : Step := do
  let token ← reading.peek
  match token.kind with
  | .value | .flowItem | .flowSequenceEnd => reading.pass.leftOut token.mark .pairValue
  | _ => (reading.afterwards .pairValue).readNode false false

/-- Reads a node in brackets after its colon, which may be left out before a comma or
the closing bracket. -/
def readFlowPart (reading : Reading) (closing : TokenKind) (next : Expectation) : Step := do
  let token ← reading.peek
  if token.kind = .value then
    let reading := reading.pass
    let token ← reading.peek
    if token.kind = .flowItem ∨ token.kind = closing then reading.leftOut token.mark next
    else (reading.afterwards next).readNode false false
  else reading.leftOut token.mark next

/-- Reads the end of a mapping of a single pair. -/
def readPairEnd (reading : Reading) : Step := do
  let token ← reading.peek
  pure (⟨.mappingEnd, token.mark⟩, reading.expecting .flowItem)

/-- Reads a key of a mapping in braces, or its end. -/
def readFlowKey (reading : Reading) (isFirst : Bool) : Step := do
  let reading ← reading.passComma isFirst .flowMappingEnd .braceExpected .parsingFlowMapping
  let token ← reading.peek
  match token.kind with
  | .flowMappingEnd => reading.pass.leave .mappingEnd token.mark
  | .key =>
      let reading := reading.pass
      let token ← reading.peek
      match token.kind with
      | .value | .flowItem | .flowMappingEnd => reading.leftOut token.mark .flowValue
      | _ => (reading.afterwards .flowValue).readNode false false
  | _ => (reading.afterwards .leftOutValue).readNode false false

/-- Reads the next event. -/
def next (reading : Reading) : Step := do
  let mark := (reading.tokens.head?.map Token.mark).getD {}
  match reading.expected with
  | .openDocument => reading.readDocument true
  | .document => reading.readDocument false
  | .documentContent => reading.readContent
  | .documentEnd => reading.readDocumentEnd
  | .node => reading.readNode true false
  | .firstItem => (reading.enter mark).readItem
  | .item => reading.readItem
  | .compactItem => reading.readCompactItem
  | .firstKey => (reading.enter mark).readKey
  | .key => reading.readKey
  | .value => reading.readValue
  | .firstFlowItem => (reading.enter mark).readFlowItem true
  | .flowItem => reading.readFlowItem false
  | .pairKey => reading.readPairKey
  | .pairValue => reading.readFlowPart .flowSequenceEnd .pairEnd
  | .pairEnd => reading.readPairEnd
  | .firstFlowKey => (reading.enter mark).readFlowKey true
  | .flowKey => reading.readFlowKey false
  | .flowValue => reading.readFlowPart .flowMappingEnd .flowKey
  | .leftOutValue => reading.leftOut (← reading.peek).mark .flowKey
  | .nothing => pure (⟨.streamEnd, mark⟩, reading)

end Reading

/-- The events of the first document, where its text stops or is wrong, and whether
anything comes after it. -/
structure FirstDocument where
  events : List Event
  fault : Option SyntaxFault := none
  isFollowed : Bool := false

/-- Puts an event in front of a document. -/
def FirstDocument.cons (event : Event) (document : FirstDocument) : FirstDocument :=
  { document with events := event :: document.events }

/-- Reads events to the end of the first document. The first argument bounds their
number. -/
def Reading.run : Nat → Reading → FirstDocument
  | 0, _ => { events := [] }
  | fuel + 1, reading =>
      match reading.next with
      | .error fault => { events := [], fault := some fault }
      | .ok (event, reading) =>
          match event.kind with
          | .streamEnd => { events := [] }
          | .documentStart => run fuel reading
          | .documentEnd =>
              let isFollowed :=
                match reading.next with
                | .ok (event, _) => event.kind ≠ .streamEnd
                | .error _ => true
              { events := [], isFollowed := isFollowed }
          | _ => (run fuel reading).cons event

/-- The first document of a text. -/
def FirstDocument.ofChars (chars : List Char) : FirstDocument :=
  let read := Tokens.ofChars chars
  Reading.run (4 * read.tokens.length + 8) { tokens := read.tokens, fault := read.fault }

end ApiContract.Yaml
