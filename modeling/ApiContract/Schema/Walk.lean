import ApiContract.Schema.Coercion
import ApiContract.Schema.Issue
import ApiContract.Schema.Basic

/-!
# Walking a value along a schema

The walk goes through a value along a schema and states an issue for every leaf
that does not fit.  A converting walk turns the leaves that the schema asks to be
numbers, big integers, truth values or instants into such; an exact walk takes them
only as they are.  Either always has a result: what does not fit stays as it is.
-/

namespace ApiContract

/-- What a walk makes of a value, and what is wrong with the value. -/
structure Walked where
  value : Value
  issues : List Issue

namespace Walked

/-- A value without issues. -/
def accepted (value : Value) : Walked where
  value := value
  issues := []

/-- A value with one issue of its own. -/
def rejected (value : Value) (message : String) : Walked where
  value := value
  issues := [.here message]

/-- A value that is not of the kind asked for. -/
def mismatch (expected : String) (value : Value) : Walked :=
  rejected value s!"expected {expected}, received {value.kind}"

/-- A value that must satisfy a condition. -/
def require (condition : Bool) (value : Value) (message : String) : Walked :=
  if condition then accepted value else rejected value message

/-- The issues as seen from the enclosing value. -/
def issuesBelow (walked : Walked) (key : String) : List Issue :=
  walked.issues.map (Issue.below key)

end Walked

/-- What became of a declared field: absent and allowed to be, absent though
required, or walked. -/
inductive FieldOutcome where
  | omitted
  | missing
  | present (walked : Walked)

namespace FieldOutcome

/-- The issues of the field of the given name. -/
def issues (name : String) : FieldOutcome → List Issue
  | .omitted => []
  | .missing => [.at_ name "required"]
  | .present walked => walked.issuesBelow name

/-- The converted value of the field. -/
def value? : FieldOutcome → Option Value
  | .present walked => some walked.value
  | .omitted | .missing => none

end FieldOutcome

/-- Whether leaves are converted or taken as they are. -/
inductive WalkMode where
  | converting
  | exact
  deriving DecidableEq

namespace WalkMode

/-- The number that a value passes for. -/
def number? : WalkMode → Value → Option Binary64
  | .converting, value => value.coerceNumber
  | .exact, .number value => some value
  | .exact, _ => none

/-- What a value that passes for a big integer becomes. -/
def bigint? : WalkMode → Value → Option Value
  | .converting, value => value.coerceBigint.map .bigint
  | .exact, value => if value.isWhole then some value else none

/-- What a value that passes for a truth value becomes. -/
def boolean? : WalkMode → Value → Option Value
  | .converting, value => value.coerceBoolean.map .bool
  | .exact, value => value.asBool?.map .bool

/-- What a value that passes for an instant becomes. -/
def date? : WalkMode → Value → Option Value
  | .converting, value => value.coerceDate.map .date
  | .exact, value => if value.isDate then some value else none

end WalkMode

namespace Schema

/-- A number, which an integer must be without a fraction. -/
def walkNumber (mode : WalkMode) (whole : Bool) (value : Value) : Walked :=
  match mode.number? value with
  | some converted =>
      if whole ∧ !converted.isIntegral then
        .rejected value s!"expected integer, received {Decimal.plainText converted}"
      else .accepted (.number converted)
  | none => .mismatch (if whole then "integer" else "number") value

/-- A leaf that fits, as what it becomes, or does not fit. -/
def walkLeaf (expected : String) (fitting : Option Value) (value : Value) : Walked :=
  match fitting with
  | some converted => .accepted converted
  | none => .mismatch expected value

/-- The members of an object after its fields were walked. A member that is not
declared is kept, or dropped from a strict object. -/
def walkedMembers (outcomes : List (String × FieldOutcome)) (strict : Bool)
    (members : Entries Value) : Entries Value :=
  members.filterMap fun (name, value) =>
    match outcomes.lookup name with
    | some outcome => outcome.value?.map fun converted => (name, converted)
    | none => if strict then none else some (name, value)

/-- The issues of members that a strict object does not declare. -/
def undeclaredIssues (outcomes : List (String × FieldOutcome)) (members : Entries Value) :
    List Issue :=
  members.filterMap fun (name, _) =>
    match outcomes.lookup name with
    | some _ => none
    | none => some (.at_ name s!"unrecognized key '{name}'")

/-- An object from the outcomes of its declared fields. -/
def walkedObject (outcomes : List (String × FieldOutcome)) (strict : Bool)
    (members : Entries Value) : Walked where
  value := .object (walkedMembers outcomes strict members)
  issues :=
    (outcomes.flatMap fun (name, outcome) => outcome.issues name) ++
      (if strict then undeclaredIssues outcomes members else [])

/-- An array from its walked items. -/
def walkedArray (items : List Walked) : Walked where
  value := .array (items.map Walked.value)
  issues := items.zipIdx.flatMap fun (item, index) =>
    item.issuesBelow (Text.decimalText index)

/-- A record from its walked members. -/
def walkedRecord (members : List (String × Walked)) : Walked where
  value := .object (members.map fun (name, walked) => (name, walked.value))
  issues := members.flatMap fun (name, walked) => walked.issuesBelow name

mutual

/-- Walks a value along a schema. -/
def walk (mode : WalkMode) : Schema → Value → Walked
  | .any, value | .unknown, value => .accepted value
  | .null, value =>
      .require value.isNull value s!"expected null, received {value.kind}"
  | .string, value =>
      .require value.asString?.isSome value s!"expected string, received {value.kind}"
  | .number, value => walkNumber mode false value
  | .integer, value => walkNumber mode true value
  | .bigint, value => walkLeaf "bigint" (mode.bigint? value) value
  | .boolean, value => walkLeaf "boolean" (mode.boolean? value) value
  | .date, value => walkLeaf "date" (mode.date? value) value
  | .literal expected, value =>
      .require (expected.isMatchedBy value) value
        s!"expected literal {expected.text}, received {value.text}"
  | .enumeration literals, value =>
      .require (literals.any fun expected => expected.isMatchedBy value) value
        s!"expected one of [{Literal.listText literals}], received {value.text}"
  | .array items, .array values => walkedArray (values.map fun value => walk mode items value)
  | .object fields strict, .object members =>
      walkedObject (walkFields mode fields members) strict members
  | .record values, .object members =>
      walkedRecord (members.map fun (name, value) => (name, walk mode values value))
  | .union schemas, value =>
      match walkUnion mode schemas value with
      | some converted => .accepted converted
      | none => .rejected value s!"no union member matched {value.kind}"
  | .optional inner, value => if value.isNull then .accepted .null else walk mode inner value
  | .promise resolved, value => walk mode resolved value
  | .array _, value => .mismatch "array" value
  | .object _ _, value | .record _, value => .mismatch "object" value
  | .function _ _, value => .rejected value "expected function"

/-- Walks the members of an object along its declared fields. -/
def walkFields (mode : WalkMode) :
    List (String × Schema) → Entries Value → List (String × FieldOutcome)
  | [], _ => []
  | (name, schema) :: rest, members =>
      let outcome : FieldOutcome :=
        match Entries.get? members name with
        | some value => .present (walk mode schema value)
        | none => if schema.isOptional then .omitted else .missing
      (name, outcome) :: walkFields mode rest members

/-- The result along the first schema that finds no issue. -/
def walkUnion (mode : WalkMode) : List Schema → Value → Option Value
  | [], _ => none
  | schema :: rest, value =>
      let walked := walk mode schema value
      if walked.issues.isEmpty then some walked.value else walkUnion mode rest value

end

/-- Converts a value to the shape of a schema, or tells what is wrong with it. -/
def parse (schema : Schema) (value : Value) : Except (List Issue) Value :=
  let walked := walk .converting schema value
  if walked.issues.isEmpty then .ok walked.value else .error walked.issues

/-- The value has the shape of the schema as it stands. -/
def accepts (schema : Schema) (value : Value) : Bool :=
  (walk .exact schema value).issues.isEmpty

end Schema

end ApiContract
