import ApiContract.Schema.Basic

/-!
# Well-formed schemas

A schema is well formed when no enumeration and no union in it is empty and no
object declares one name twice.  The check walks a schema depth first and reports
the first fault; of a field, its name is checked before its schema.
-/

namespace ApiContract

/-- What can be wrong with a schema. -/
inductive SchemaError where
  | emptyEnumeration
  | emptyUnion
  | duplicateField (name : String)
  deriving DecidableEq

/-- The wording of a schema error. -/
def SchemaError.message : SchemaError → String
  | .emptyEnumeration => "invalid schema: enum needs at least one value"
  | .emptyUnion => "invalid schema: union needs at least one member"
  | .duplicateField name => s!"invalid schema: duplicate property '{name}'"

namespace Schema

mutual

/-- The first fault of a schema. -/
def fault? : Schema → Option SchemaError
  | .enumeration [] => some .emptyEnumeration
  | .union [] => some .emptyUnion
  | .union (member :: rest) => faultOfEach? (member :: rest)
  | .object fields _ => faultOfFields? [] fields
  | .array inner | .record inner | .optional inner | .promise inner => fault? inner
  | .function parameters result => (faultOfEach? parameters).or (fault? result)
  | _ => none

/-- The first fault of several schemas. -/
def faultOfEach? : List Schema → Option SchemaError
  | [] => none
  | schema :: rest => (fault? schema).or (faultOfEach? rest)

/-- The first fault of fields that follow fields of the given names. -/
def faultOfFields? (seen : List String) : List (String × Schema) → Option SchemaError
  | [] => none
  | (name, schema) :: rest =>
      if seen.contains name then some (.duplicateField name)
      else (fault? schema).or (faultOfFields? (name :: seen) rest)

end

/-- The schema has no fault. -/
def wellFormed (schema : Schema) : Bool :=
  schema.fault?.isNone

end Schema

end ApiContract
