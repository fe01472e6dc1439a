import ApiContract.Contract.Basic
import ApiContract.Datum.Typed
import ApiContract.Json.Reader

/-!
# Contract options as JSON text

This module reads the options of a contract straight from JSON text, so that a
fault is reported where the text has it.  Options are an object, in which fields
that do not exist are passed over, or an array of the fields in order; fields left
out have their defaults.  A mode is its name, alone or as the key of a null.
-/

namespace ApiContract.ContractOptions

open Json (Cursor ReadError)

/-- The fault of a value that is not of the expected type. A scalar is read first
and the fault stands after it; a list or an object is left unread. -/
def mismatch {α : Type} (expected : String) (cursor : Cursor) : Except ReadError α := do
  let fault (found : Json) (cursor : Cursor) : Except ReadError α :=
    .error (cursor.errorHere (.custom (TypeFault.wrongType (.ofJson found) expected).message))
  match cursor.rest with
  | [] => .error (cursor.errorNext .endInValue)
  | '[' :: _ => fault (.array []) cursor
  | '{' :: _ => fault (.object []) cursor
  | _ :: _ =>
      let (found, cursor) ← Json.readValue (cursor.rest.length + 1) Json.depthLimit cursor
      fault found cursor

/-- Reads the name of a mode from its opening quote. -/
def readModeName (cursor : Cursor) : Except ReadError (ValidationMode × Cursor) := do
  let (name, cursor) ← Json.readString cursor.advance
  match ValidationMode.all.find? fun mode => mode.name = name with
  | some mode => .ok (mode, cursor)
  | none =>
      let fault := TypeFault.unknownVariant name (ValidationMode.all.map ValidationMode.name)
      .error (cursor.errorHere (.custom fault.message))

/-- Reads the colon after a key. -/
def readColon (cursor : Cursor) : Except ReadError Cursor :=
  let cursor := cursor.skipBlanks
  match cursor.rest with
  | [] => .error (cursor.errorNext .endInObject)
  | ':' :: _ => .ok cursor.advance
  | _ :: _ => .error (cursor.errorNext .expectedColon)

/-- Reads a null. -/
def readNull (cursor : Cursor) : Except ReadError Cursor := do
  let cursor := cursor.skipBlanks
  match cursor.rest with
  | 'n' :: _ =>
      let (_, cursor) ← Json.readWord .null ['u', 'l', 'l'] cursor.advance
      .ok cursor
  | _ => mismatch "unit" cursor

/-- Reads a mode that is the key of a null, after the opening brace. -/
def readKeyedMode (cursor : Cursor) : Except ReadError (ValidationMode × Cursor) := do
  let cursor := cursor.skipBlanks
  match cursor.rest with
  | '"' :: _ =>
      let (mode, cursor) ← readModeName cursor
      let cursor ← readColon cursor
      let cursor := (← readNull cursor).skipBlanks
      match cursor.rest with
      | [] => .error (cursor.errorHere .endInObject)
      | '}' :: _ => .ok (mode, cursor.advance)
      | _ :: _ => .error (cursor.errorHere .expectedValue)
  | _ => mismatch "variant identifier" cursor

/-- Reads a mode. -/
def readMode (cursor : Cursor) : Except ReadError (ValidationMode × Cursor) :=
  let cursor := cursor.skipBlanks
  match cursor.rest with
  | [] => .error (cursor.errorNext .endInValue)
  | '{' :: _ => readKeyedMode cursor.advance
  | '"' :: _ => readModeName cursor
  | _ :: _ => .error (cursor.errorNext .expectedValue)

/-- Reads the next item of a list of modes, if there is one. -/
def readNextMode (first : Bool) (cursor : Cursor) :
    Except ReadError (Option ValidationMode × Cursor) := do
  let cursor := cursor.skipBlanks
  match cursor.rest with
  | [] => .error (cursor.errorNext .endInList)
  | ']' :: _ => .ok (none, cursor)
  | char :: _ =>
      if first then
        let (mode, cursor) ← readMode cursor
        .ok (some mode, cursor)
      else if char = ',' then
        let cursor := cursor.advance.skipBlanks
        match cursor.rest with
        | [] => .error (cursor.errorNext .endInValue)
        | ']' :: _ => .error (cursor.errorNext .trailingComma)
        | _ :: _ =>
            let (mode, cursor) ← readMode cursor
            .ok (some mode, cursor)
      else .error (cursor.errorNext .expectedListEnd)

/-- Reads the end of a list of which all items were read. -/
def readListEnd (cursor : Cursor) : Except ReadError Cursor :=
  let cursor := cursor.skipBlanks
  match cursor.rest with
  | [] => .error (cursor.errorNext .endInList)
  | ']' :: _ => .ok cursor.advance
  | ',' :: _ =>
      let cursor := cursor.advance.skipBlanks
      if cursor.peek = ']' then .error (cursor.errorNext .trailingComma)
      else .error (cursor.errorNext .trailingText)
  | _ :: _ => .error (cursor.errorNext .trailingText)

/-- Reads options from a list of modes, after the opening bracket. -/
def readList (cursor : Cursor) : Except ReadError (ContractOptions × Cursor) := do
  let (request, cursor) ← readNextMode true cursor
  let (response, cursor) ← readNextMode request.isNone cursor
  let cursor ← readListEnd cursor
  .ok (⟨request.getD .error, response.getD .error⟩, cursor)

/-- The fields that were read so far. -/
structure ReadFields where
  request : Option ValidationMode := none
  response : Option ValidationMode := none

/-- The name of the field that holds the mode for requests. -/
def requestField : String := "request_validation"

/-- The name of the field that holds the mode for responses. -/
def responseField : String := "response_validation"

/-- Reads the value of a field, after the key. -/
def readField (key : String) (fields : ReadFields) (cursor : Cursor) :
    Except ReadError (ReadFields × Cursor) := do
  let repeated : Except ReadError (ReadFields × Cursor) :=
    .error (cursor.errorHere (.custom s!"duplicate field `{key}`"))
  if key = requestField then
    if fields.request.isSome then repeated
    else
      let (mode, cursor) ← readMode (← readColon cursor)
      .ok ({ fields with request := some mode }, cursor)
  else if key = responseField then
    if fields.response.isSome then repeated
    else
      let (mode, cursor) ← readMode (← readColon cursor)
      .ok ({ fields with response := some mode }, cursor)
  else
    let cursor ← readColon cursor
    let (_, cursor) ← Json.readValue (3 * cursor.rest.length + 3) Json.depthLimit cursor
    .ok (fields, cursor)

/-- Reads fields and the closing brace. The first argument bounds their number. -/
def readFields : Nat → Bool → ReadFields → Cursor → Except ReadError (ReadFields × Cursor)
  | 0, _, _, cursor => .error (cursor.errorHere .endInObject)
  | fuel + 1, first, fields, cursor =>
      let continueAt (cursor : Cursor) : Except ReadError (ReadFields × Cursor) := do
        let (key, cursor) ← Json.readString cursor.advance
        let (fields, cursor) ← readField key fields cursor
        readFields fuel false fields cursor
      let cursor := cursor.skipBlanks
      match cursor.rest with
      | [] => .error (cursor.errorNext .endInObject)
      | '}' :: _ => .ok (fields, cursor.advance)
      | char :: _ =>
          if first then
            if char = '"' then continueAt cursor else .error (cursor.errorNext .keyNotString)
          else if char = ',' then
            let cursor := cursor.advance.skipBlanks
            match cursor.rest with
            | [] => .error (cursor.errorNext .endInValue)
            | '"' :: _ => continueAt cursor
            | '}' :: _ => .error (cursor.errorNext .trailingComma)
            | _ :: _ => .error (cursor.errorNext .keyNotString)
          else .error (cursor.errorNext .expectedObjectEnd)

/-- Reads options of either form. -/
def readAt (cursor : Cursor) : Except ReadError (ContractOptions × Cursor) := do
  let cursor := cursor.skipBlanks
  match cursor.rest with
  | '[' :: _ => readList cursor.advance
  | '{' :: _ =>
      let (fields, cursor) ← readFields (cursor.rest.length + 1) true {} cursor.advance
      .ok (⟨fields.request.getD .error, fields.response.getD .error⟩, cursor)
  | _ => mismatch "struct ContractOptions" cursor

/-- Reads options from a whole text. -/
def read (text : String) : Except ReadError ContractOptions := do
  let (options, cursor) ← readAt (Cursor.start text)
  Json.readEnd cursor
  .ok options

end ApiContract.ContractOptions
