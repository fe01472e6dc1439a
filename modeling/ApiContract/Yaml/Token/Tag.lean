import ApiContract.Text.Utf8
import ApiContract.Yaml.Cursor
import ApiContract.Yaml.Token

/-!
# Tags, anchors and directives

A tag is written out in angle brackets, or shortened by a handle that a directive
may define.  Directives stand before a document and start with a percent sign.
-/

namespace ApiContract.Yaml

/-- A character of a locator, apart from an escape. -/
def isLocatorChar (isVerbatim : Bool) (char : Char) : Bool :=
  isNameChar char || [';', '/', '?', ':', '@', '&', '=', '+', '$', '.', '!', '~', '*', '\'', '(',
    ')'].contains char || (isVerbatim && [',', '[', ']'].contains char)

/-- How many octets a character has whose first octet is given. -/
def octetCount (octet : Nat) : Nat :=
  if octet < 0x80 then 1
  else if 0xC0 ≤ octet ∧ octet < 0xE0 then 2
  else if 0xE0 ≤ octet ∧ octet < 0xF0 then 3
  else if 0xF0 ≤ octet ∧ octet < 0xF8 then 4
  else 0

/-- Reads an escaped octet. -/
def readOctet (context : Activity × Mark) (cursor : Cursor) :
    Except SyntaxFault (Nat × Cursor) :=
  match cursor.rest with
  | '%' :: high :: low :: _ =>
      match Text.hexValue? high, Text.hexValue? low with
      | some high, some low => .ok (16 * high + low, cursor.skip 3)
      | _, _ => .error ⟨.octetExpected, cursor.mark, some context⟩
  | _ => .error ⟨.octetExpected, cursor.mark, some context⟩

/-- Reads some further octets of a character. -/
def readTrailingOctets (context : Activity × Mark) :
    Nat → Cursor → Except SyntaxFault (List Nat × Cursor)
  | 0, cursor => .ok ([], cursor)
  | count + 1, cursor => do
      let (octet, after) ← readOctet context cursor
      if octet / 64 ≠ 2 then .error ⟨.trailingOctet, cursor.mark, some context⟩
      let (octets, after) ← readTrailingOctets context count after
      pure (octet :: octets, after)

/-- Reads a character whose octets are escaped. -/
def readEscapedChar (context : Activity × Mark) (cursor : Cursor) :
    Except SyntaxFault (List Char × Cursor) := do
  let (octet, after) ← readOctet context cursor
  match octetCount octet with
  | 0 => .error ⟨.leadingOctet, cursor.mark, some context⟩
  | count + 1 =>
      let (octets, after) ← readTrailingOctets context count after
      let text := Text.ofUtf8? ((octet :: octets).map Nat.toUInt8)
      pure ((text.getD "\ufffd").toList, after)

/-- Reads a locator. The first argument bounds its length. -/
def readLocator (isVerbatim : Bool) (context : Activity × Mark) :
    Nat → Cursor → Except SyntaxFault (List Char × Cursor)
  | 0, cursor => .ok ([], cursor)
  | fuel + 1, cursor =>
      match cursor.rest with
      | '%' :: _ => do
          let (chars, cursor) ← readEscapedChar context cursor
          let (more, cursor) ← readLocator isVerbatim context fuel cursor
          pure (chars ++ more, cursor)
      | char :: _ =>
          if isLocatorChar isVerbatim char then do
            let (more, cursor) ← readLocator isVerbatim context fuel (cursor.skip 1)
            pure (char :: more, cursor)
          else .ok ([], cursor)
      | [] => .ok ([], cursor)

/-- Reads a locator that is not empty once something is put in front of it. -/
def readSomeLocator (isVerbatim : Bool) (context : Activity × Mark) (front : List Char)
    (cursor : Cursor) : Except SyntaxFault (List Char × Cursor) := do
  let (chars, after) ← readLocator isVerbatim context (cursor.rest.length + 1) cursor
  if front = [] ∧ chars = [] then .error ⟨.locatorExpected, after.mark, some context⟩
  pure (front.drop 1 ++ chars, after)

/-- Reads a handle: an exclamation mark, a name and, where there is one, another
exclamation mark. -/
def readHandle (context : Activity × Mark) (cursor : Cursor) :
    Except SyntaxFault (List Char × Cursor) :=
  match cursor.rest with
  | '!' :: _ =>
      let (name, cursor) := (cursor.skip 1).span isNameChar
      match cursor.rest with
      | '!' :: _ => .ok ('!' :: name ++ ['!'], cursor.skip 1)
      | _ => .ok ('!' :: name, cursor)
  | _ => .error ⟨.exclamationExpected, cursor.mark, some context⟩

/-- The handle stands between two exclamation marks. -/
def isClosedHandle (handle : List Char) : Bool :=
  1 < handle.length && handle.getLast? == some '!'

/-- Reads the handle and the suffix of a tag. -/
def readTagParts (cursor : Cursor) : Except SyntaxFault (List Char × List Char × Cursor) := do
  let start := cursor.mark
  match cursor.rest with
  | _ :: '<' :: _ =>
      let (suffix, cursor) ← readSomeLocator true (.parsingTag, start) [] (cursor.skip 2)
      match cursor.rest with
      | '>' :: _ => pure ([], suffix, cursor.skip 1)
      | _ => .error ⟨.angleExpected, cursor.mark, some (.scanningTag, start)⟩
  | _ =>
      let (handle, cursor) ← readHandle (.scanningTag, start) cursor
      if isClosedHandle handle then
        let (suffix, cursor) ← readSomeLocator false (.parsingTag, start) [] cursor
        pure (handle, suffix, cursor)
      else
        let (suffix, cursor) ← readSomeLocator false (.parsingTag, start) handle cursor
        pure (if suffix = [] then ([], ['!'], cursor) else (['!'], suffix, cursor))

/-- Reads a tag, which ends at a gap or inside brackets at a comma. -/
def readTag (inFlow : Bool) (cursor : Cursor) : Except SyntaxFault (TokenKind × Cursor) := do
  let (handle, suffix, after) ← readTagParts cursor
  if atGap after.rest ∨ (inFlow ∧ after.rest.head? = some ',') then
    pure (.tag (String.ofList handle) (String.ofList suffix), after)
  else .error ⟨.blankOrBreakExpected, after.mark, some (.scanningTag, cursor.mark)⟩

/-- Reads the name after the indicator of an anchor or an alias. -/
def readAnchorName (activity : Activity) (cursor : Cursor) :
    Except SyntaxFault (String × Cursor) :=
  let (name, after) := (cursor.skip 1).span isNameChar
  let isEnd := atGap after.rest ||
    (after.rest.head?.map ['?', ':', ',', ']', '}', '%', '@', '\x60'].contains).getD false
  if name ≠ [] ∧ isEnd then .ok (String.ofList name, after)
  else .error ⟨.nameExpected, after.mark, some (activity, cursor.mark)⟩

/-- Reads a number of a version. -/
def readVersionNumber (start : Mark) (cursor : Cursor) : Except SyntaxFault (Nat × Cursor) :=
  let (digits, after) := cursor.span Char.isDigit
  let context := some (Activity.scanningVersion, start)
  if 9 < digits.length then .error ⟨.versionNumberLength, (cursor.skip 9).mark, context⟩
  else if digits = [] then .error ⟨.versionNumberExpected, after.mark, context⟩
  else .ok (Text.decimalValue digits, after)

/-- Reads the version in a directive. -/
def readVersion (start : Mark) (cursor : Cursor) : Except SyntaxFault (TokenKind × Cursor) := do
  let (major, cursor) ← readVersionNumber start (cursor.skipWhile isSpacing)
  match cursor.rest with
  | '.' :: _ =>
      let (minor, cursor) ← readVersionNumber start (cursor.skip 1)
      pure (.versionDirective major minor, cursor)
  | _ => .error ⟨.versionSeparatorExpected, cursor.mark, some (.scanningVersion, start)⟩

/-- Reads the handle that a directive defines, and what it stands for. -/
def readHandleDefinition (start : Mark) (cursor : Cursor) :
    Except SyntaxFault (TokenKind × Cursor) := do
  let (handle, after) ← readHandle (.scanningHandleOfDirective, start)
    (cursor.skipWhile isSpacing)
  if handle ≠ ['!'] ∧ !isClosedHandle handle then
    .error ⟨.exclamationExpected, after.mark, some (.parsingHandleOfDirective, start)⟩
  let context := some (Activity.scanningHandleDirective, start)
  if !(after.rest.head?.map isSpacing).getD false then
    .error ⟨.blankExpected, after.mark, context⟩
  let (expansion, after) ← readSomeLocator true (.parsingHandlePrefix, start) []
    (after.skipWhile isSpacing)
  if !atGap after.rest then .error ⟨.blankOrBreakExpected, after.mark, context⟩
  pure (.handleDirective (String.ofList handle) (String.ofList expansion), after)

/-- Reads a directive and its line. -/
def readDirective (cursor : Cursor) : Except SyntaxFault (TokenKind × Cursor) := do
  let start := cursor.mark
  let context := (Activity.scanningDirective, start)
  let (name, after) := (cursor.skip 1).span isNameChar
  if name = [] then .error ⟨.directiveNameExpected, after.mark, some context⟩
  if !atGap after.rest then .error ⟨.directiveNameEnd, after.mark, some context⟩
  let (kind, after) ←
    if name = ['Y', 'A', 'M', 'L'] then readVersion start after
    else if name = ['T', 'A', 'G'] then readHandleDefinition start after
    else .error ⟨.unknownDirective, after.mark, some context⟩
  pure (kind, ← after.skipLineEnd context)

end ApiContract.Yaml
