import ApiContract.Datum.Basic
import ApiContract.Json.Printer
import ApiContract.Text.Escaped

/-!
# Typed reading of data

This module reads values of fixed types out of a datum and tells, when that fails,
where it did, what was found and what was expected.
-/

namespace ApiContract

/-- Why a datum is not of the type that is read. -/
inductive TypeFault where
  | wrongType (found : Datum) (expected : String)
  | outOfRange (found : Int) (expected : String)
  | wrongLength (found : Nat) (expected : String)
  | missingField (name : String)
  | unknownField (found : String) (expected : List String)
  | unknownVariant (found : String) (expected : List String)

namespace TypeFault

/-- A datum as a message names it. -/
def foundText : Datum → String
  | .null => "null"
  | .bool value => s!"boolean `{value}`"
  | .integer value => s!"integer `{Text.integerText value}`"
  | .float value => s!"floating point `{(Datum.jsonOfBinary64 value).compact}`"
  | .string text => "string " ++ Text.inQuotes text
  | .list _ => "sequence"
  | .map _ => "map"

/-- The names of alternatives in a message. -/
def alternativesText (none : String) (names : List String) : String :=
  match names with
  | [] => none
  | [name] => s!"expected `{name}`"
  | [first, second] => s!"expected `{first}` or `{second}`"
  | names => "expected one of " ++ ", ".intercalate (names.map fun name => s!"`{name}`")

/-- The wording of a type fault. -/
def message : TypeFault → String
  | .wrongType found expected => s!"invalid type: {foundText found}, expected {expected}"
  | .outOfRange found expected =>
      s!"invalid value: integer `{Text.integerText found}`, expected {expected}"
  | .wrongLength found expected =>
      s!"invalid length {Text.decimalText found}, expected {expected}"
  | .missingField name => s!"missing field `{name}`"
  | .unknownField found expected =>
      s!"unknown field `{found}`, " ++ alternativesText "there are no fields" expected
  | .unknownVariant found expected =>
      s!"unknown variant `{found}`, " ++ alternativesText "there are no variants" expected

end TypeFault

/-- A type fault and the path of keys and indices that leads to it. -/
structure Misfit where
  path : List String := []
  cause : TypeFault

/-- The fault as seen from around the datum that is under a key. -/
def Misfit.under (key : String) (misfit : Misfit) : Misfit :=
  { misfit with path := key :: misfit.path }

/-- A reader of one type. -/
abbrev Typed (α : Type) := Datum → Except Misfit α

namespace Typed

variable {α β : Type}

/-- Fails at this very datum. -/
def fail (cause : TypeFault) : Except Misfit α :=
  .error { cause := cause }

/-- Reads what is under a key. -/
def under (key : String) (result : Except Misfit α) : Except Misfit α :=
  result.mapError (Misfit.under key)

/-- Reads a boolean. -/
def bool : Typed Bool
  | .bool value => .ok value
  | datum => fail (.wrongType datum "a boolean")

/-- Reads a string. -/
def string : Typed String
  | .string text => .ok text
  | datum => fail (.wrongType datum "a string")

/-- The integer has a place in the signed or the unsigned 64-bit range. -/
def fitsWord (value : Int) : Bool :=
  -twoTo 63 ≤ value && value < twoTo 64

/-- Reads an integer that is not negative and below a limit. -/
def below (limit : Nat) (expected : String) : Typed Nat
  | .integer value =>
      if 0 ≤ value ∧ value < limit then .ok value.toNat
      else if fitsWord value then fail (.outOfRange value expected)
      else fail (.wrongType (.integer value) expected)
  | datum => fail (.wrongType datum expected)

/-- Reads items from an index on. -/
def itemsFrom (item : Typed α) (index : Nat) : List Datum → Except Misfit (List α)
  | [] => .ok []
  | datum :: rest => do
      let value ← under (Text.decimalText index) (item datum)
      pure (value :: (← itemsFrom item (index + 1) rest))

/-- Reads the items of a list. -/
def list (item : Typed α) : Typed (List α)
  | .list items => itemsFrom item 0 items
  | datum => fail (.wrongType datum "a sequence")

/-- Reads the members of a map, whatever their keys. -/
def entries (item : Typed α) : Typed (Entries α)
  | .map members => Entries.ofList <$> members.mapM fun (key, datum) => do
      pure (key, ← under key (item datum))
  | datum => fail (.wrongType datum "a map")

/-- Reads null as nothing. -/
def optional (item : Typed α) : Typed (Option α)
  | .null => .ok none
  | datum => item datum |>.map some

/-- Whether a field of a record may be left out. -/
inductive Presence where
  | optional
  | neededByPlace
  | needed
  deriving DecidableEq

/-- A field of a record of type `α` that is being read. -/
structure Field (α : Type) where
  name : String
  presence : Presence := .optional
  assign : Datum → α → Except Misfit α

/-- What there is to know about a record: its name, its fields, whether it refuses
keys that are no fields, and what it is before any field is read. -/
structure Shape (α : Type) where
  name : String
  fields : List (Field α)
  closed : Bool := false
  start : α

/-- Assigns the fields of a record by name, in the order of the names. -/
def assignByName (shape : Shape α) (members : List (String × Datum)) : Except Misfit α := do
  let record ← members.foldlM (fun record (key, datum) =>
    match shape.fields.find? fun field => field.name = key with
    | some field => under key (field.assign datum record)
    | none =>
        if shape.closed then
          under key (fail (.unknownField key (shape.fields.map Field.name)))
        else .ok record) shape.start
  match shape.fields.find? fun field =>
      field.presence = .needed ∧ (members.lookup field.name).isNone with
  | some field => fail (.missingField field.name)
  | none => .ok record

/-- Assigns the fields of a record by place, from an index on. -/
def assignFrom (shape : Shape α) (record : α) (index : Nat) :
    List (Field α) → List Datum → Except Misfit α
  | [], _ => .ok record
  | field :: fields, datum :: rest => do
      let record ← under (Text.decimalText index) (field.assign datum record)
      assignFrom shape record (index + 1) fields rest
  | field :: fields, [] =>
      if field.presence = .optional then assignFrom shape record (index + 1) fields []
      else
        let count := Text.decimalText shape.fields.length
        fail (.wrongLength index s!"struct {shape.name} with {count} elements")

/-- Assigns the fields of a record by place. Items beyond the fields are refused or
passed over. -/
def assignByPlace (shape : Shape α) (surplus : Bool) (items : List Datum) : Except Misfit α := do
  let record ← assignFrom shape shape.start 0 shape.fields items
  if !surplus ∧ shape.fields.length < items.length then
    fail (.wrongLength items.length "fewer elements in array")
  else .ok record

/-- Reads a record from a map by the names of its fields, or from a list by their
places; a list may be allowed to have a surplus of items. -/
def record (shape : Shape α) (surplus : Bool) : Typed α
  | .map members => assignByName shape members
  | .list items => assignByPlace shape surplus items
  | datum => fail (.wrongType datum s!"struct {shape.name}")

end Typed

end ApiContract
