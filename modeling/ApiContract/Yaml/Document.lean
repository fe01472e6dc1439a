import ApiContract.Datum.Typed
import ApiContract.Number.Decimal
import ApiContract.Text.Utf8
import ApiContract.Yaml.Event.Grammar
import ApiContract.Yaml.Scalar

/-!
# YAML documents as data

A text holds one document, which denotes a map; no text at all denotes the empty map.
Keys are texts as they stand, and of members with one key the last counts.  An alias
stands for the node with its anchor.
-/

namespace ApiContract.Yaml

/-- Why a text does not denote a map. -/
inductive DocumentFault where
  | forbiddenChar (offset : Nat)
  | malformed (fault : SyntaxFault)
  | unknownAnchor (mark : Mark)
  | tooDeep (mark : Mark)
  | tooManyAliases
  | unfinished
  | severalDocuments
  | unsuitable (path : String) (problem : String) (mark : Mark)

/-- The wording of a fault. -/
def DocumentFault.message : DocumentFault → String
  | .forbiddenChar offset =>
      "control characters are not allowed" ++
        (if offset = 0 then "" else " at position " ++ Text.decimalText offset)
  | .malformed fault => fault.message
  | .unknownAnchor mark => "unknown anchor" ++ mark.suffix
  | .tooDeep mark => "recursion limit exceeded" ++ mark.suffix
  | .tooManyAliases => "repetition limit exceeded"
  | .unfinished => "EOF while parsing a value"
  | .severalDocuments =>
      "deserializing from YAML containing more than one document is not supported"
  | .unsuitable path problem mark =>
      (if path = "." then "" else path ++ ": ") ++ problem ++ mark.suffix

/-- A float with a point even where it is whole. -/
def floatText (value : Binary64) : String :=
  let text := Decimal.plainText value
  if value.isFinite ∧ !text.toList.contains '.' then text ++ ".0" else text

/-- A datum as a message names it. -/
def foundText : Datum → String
  | .null => "unit value"
  | .float value => s!"floating point `{floatText value}`"
  | .integer value =>
      let width := if value < 0 then "i128" else "u128"
      if Typed.fitsWord value then s!"integer `{Text.integerText value}`"
      else s!"integer `{Text.integerText value}` as {width}"
  | datum => TypeFault.foundText datum

/-- The message that a datum is not what is expected. -/
def mismatchText (datum : Datum) (expected : String) : String :=
  s!"invalid type: {foundText datum}, expected {expected}"

/-- What a document is read from: all its events, and why they stop. -/
structure Source where
  events : List Event
  fault : Option SyntaxFault

namespace Source

/-- The fault of a document whose events stop too early. -/
def endFault (source : Source) : DocumentFault :=
  (source.fault.map .malformed).getD .unfinished

/-- The event carries an anchor. -/
def hasAnchor (name : String) (event : Event) : Bool :=
  match event.kind with
  | .scalar properties _ _ | .sequenceStart properties | .mappingStart properties =>
      properties.anchor == some name
  | _ => false

/-- The events from the last node on that has an anchor, among some first events. -/
def lastAnchored? (name : String) : Nat → List Event → Option (List Event)
  | 0, _ => none
  | _, [] => none
  | count + 1, event :: rest =>
      match lastAnchored? name count rest with
      | some found => some found
      | none => if hasAnchor name event then some (event :: rest) else none

/-- The node that an alias stands for, given the events after the alias. -/
def anchored? (source : Source) (name : String) (rest : List Event) : Option (List Event) :=
  lastAnchored? name (source.events.length - rest.length) source.events

/-- How many aliases a document may follow. -/
def aliasLimit (source : Source) : Nat :=
  100 * source.events.length

end Source

/-- How deep collections may be nested. -/
def depthLimit : Nat := 128

/-- The path of a member. -/
def memberPath (path key : String) : String :=
  if path = "." then key else path ++ "." ++ key

/-- The path of an item. -/
def itemPath (path : String) (index : Nat) : String :=
  s!"{path}[{Text.decimalText index}]"

/-- What has been read, the events after it, and how many aliases were followed. -/
structure ReadNode (α : Type) where
  value : α
  rest : List Event
  aliases : Nat

/-- The fault of a node whose tag names a type that is not known. -/
def unknownTypeFault (path : String) (mark : Mark) : DocumentFault :=
  .unsuitable path "invalid type: enum, expected any valid value" mark

/-- Follows an alias. -/
def followAlias (source : Source) (name : String) (mark : Mark) (rest : List Event)
    (aliases : Nat) : Except DocumentFault (List Event) :=
  match source.anchored? name rest with
  | none => .error (.unknownAnchor mark)
  | some target => if source.aliasLimit < aliases then .error .tooManyAliases else .ok target

/-- Reads the key of a member, at a path of a map. -/
def readKey (source : Source) (path : String) (aliases : Nat) :
    List Event → Except DocumentFault (ReadNode String)
  | [] => .error source.endFault
  | ⟨.aliasOf name, mark⟩ :: rest => do
      match ← followAlias source name mark rest (aliases + 1) with
      | ⟨.scalar _ text _, _⟩ :: _ => pure ⟨text, rest, aliases + 1⟩
      | ⟨.sequenceStart _, mark⟩ :: _ =>
          .error (.unsuitable path (mismatchText (.list []) "a string") mark)
      | ⟨_, mark⟩ :: _ => .error (.unsuitable path (mismatchText (.map []) "a string") mark)
      | [] => .error source.endFault
  | ⟨.scalar _ text _, _⟩ :: rest => .ok ⟨text, rest, aliases⟩
  | ⟨.sequenceStart _, mark⟩ :: _ =>
      .error (.unsuitable path (mismatchText (.list []) "a string") mark)
  | ⟨_, mark⟩ :: _ => .error (.unsuitable path (mismatchText (.map []) "a string") mark)

/-- Reads a scalar. -/
def readScalar (path : String) (properties : Properties) (text : String) (isPlain : Bool)
    (mark : Mark) : Except DocumentFault Datum :=
  match scalarDatum properties.tag text isPlain with
  | .ok datum => .ok datum
  | .error .unknownType => .error (unknownTypeFault path mark)
  | .error (.notOfType text expected) =>
      .error (.unsuitable path
        s!"invalid value: string {Text.inQuotes text}, expected {expected}" mark)

mutual

/-- Reads a node. The first argument bounds the number of steps in a row, the second
one the depth that is left. -/
def readNode (source : Source) : Nat → Nat → String → Nat → List Event →
    Except DocumentFault (ReadNode Datum)
  | 0, _, _, _, _ => .error .tooManyAliases
  | _ + 1, _, _, _, [] => .error source.endFault
  | fuel + 1, depth, path, aliases, ⟨kind, mark⟩ :: rest => do
      match kind with
      | .aliasOf name =>
          let target ← followAlias source name mark rest (aliases + 1)
          let read ← readNode source fuel depth path (aliases + 1) target
          pure { read with rest := rest }
      | .scalar properties text isPlain =>
          pure ⟨← readScalar path properties text isPlain mark, rest, aliases⟩
      | .sequenceStart properties =>
          if isLocalTag properties.tag then .error (unknownTypeFault path mark)
          if depth = 0 then .error (.tooDeep mark)
          let read ← readItems source fuel (depth - 1) path 0 aliases rest
          pure ⟨.list read.value, read.rest, read.aliases⟩
      | .mappingStart properties =>
          if isLocalTag properties.tag then .error (unknownTypeFault path mark)
          if depth = 0 then .error (.tooDeep mark)
          let read ← readMembers source fuel (depth - 1) path aliases rest
          pure ⟨.map (Entries.ofList read.value), read.rest, read.aliases⟩
      | _ => .error source.endFault

/-- Reads items from an index on, and the end of their sequence. -/
def readItems (source : Source) : Nat → Nat → String → Nat → Nat → List Event →
    Except DocumentFault (ReadNode (List Datum))
  | 0, _, _, _, _, _ => .error .tooManyAliases
  | fuel + 1, depth, path, index, aliases, events => do
      match events with
      | ⟨.sequenceEnd, _⟩ :: rest => pure ⟨[], rest, aliases⟩
      | events =>
          let item ← readNode source fuel depth (itemPath path index) aliases events
          let others ← readItems source fuel depth path (index + 1) item.aliases item.rest
          pure { others with value := item.value :: others.value }

/-- Reads members, and the end of their map. -/
def readMembers (source : Source) : Nat → Nat → String → Nat → List Event →
    Except DocumentFault (ReadNode (List (String × Datum)))
  | 0, _, _, _, _ => .error .tooManyAliases
  | fuel + 1, depth, path, aliases, events => do
      match events with
      | ⟨.mappingEnd, _⟩ :: rest => pure ⟨[], rest, aliases⟩
      | events =>
          let key ← readKey source path aliases events
          let value ← readNode source fuel depth (memberPath path key.value) key.aliases key.rest
          let others ← readMembers source fuel depth path value.aliases value.rest
          pure { others with value := (key.value, value.value) :: others.value }

end

/-- How many steps in a row reading can take: on every level at most one for every
event. -/
def Source.steps (source : Source) : Nat :=
  (depthLimit + 2) * (source.events.length + 2)

/-- Reads the map that a document denotes. -/
def readRoot (source : Source) : Except DocumentFault (List (String × Datum)) := do
  let mismatch (datum : Datum) (mark : Mark) : Except DocumentFault (List (String × Datum)) :=
    .error (.unsuitable "." (mismatchText datum "a map") mark)
  match source.events with
  | [] => if source.fault.isSome then .error source.endFault else pure []
  | ⟨.scalar _ "" true, _⟩ :: _ => pure []
  | ⟨.scalar properties text isPlain, mark⟩ :: _ =>
      let tag := if isLocalTag properties.tag then none else properties.tag
      mismatch (← readScalar "." { properties with tag := tag } text isPlain mark) mark
  | ⟨.sequenceStart _, mark⟩ :: _ => mismatch (.list []) mark
  | ⟨.aliasOf _, mark⟩ :: _ => .error (.unknownAnchor mark)
  | ⟨_, _⟩ :: rest =>
      let read ← readMembers source source.steps (depthLimit - 1) "." 0 rest
      pure (Entries.ofList read.value)

/-- The character may stand in a text. -/
def isAllowed (char : Char) : Bool :=
  let point := char.toNat
  point == 0x09 || point == 0x0A || point == 0x0D || (0x20 ≤ point && point ≤ 0x7E) ||
    point == 0x85 || (0xA0 ≤ point && point ≤ 0xFFFD && point != 0xFEFF) || 0x10000 ≤ point

/-- How many bytes stand before the first character that is not allowed. -/
def forbiddenOffset? (chars : List Char) : Option Nat :=
  match chars.span isAllowed with
  | (_, []) => none
  | (before, _ :: _) => some (Text.utf8Length (String.ofList before))

/-- The text without a byte order mark, and how many bytes that mark has. -/
def dropByteOrderMark : List Char → List Char × Nat
  | char :: rest => if char.toNat = 0xFEFF then (rest, 3) else (char :: rest, 0)
  | [] => ([], 0)

/-- Reads the map that a text denotes. -/
def readMap (text : String) : Except DocumentFault (List (String × Datum)) := do
  let (chars, skipped) := dropByteOrderMark text.toList
  if let some offset := forbiddenOffset? chars then .error (.forbiddenChar (skipped + offset))
  let document := FirstDocument.ofChars chars
  let members ← readRoot ⟨document.events, document.fault⟩
  if let some fault := document.fault then .error (.malformed fault)
  if document.isFollowed then .error .severalDocuments
  pure members

end ApiContract.Yaml
