import ApiContract.Schema.Document.Judgement
import ApiContract.Schema.Document
import ApiContract.Schema.Walk
import ApiContract.Schema.WellFormed

/-!
# Checkers

A checker is a well-formed schema together with the way to check values against
it.  The native way walks the value along the schema.  The other way judges the
JSON rendering of the walked value by the document of the schema.
-/

namespace ApiContract

/-- A way of checking values. -/
inductive Backend where
  | native
  | document
  deriving DecidableEq

/-- A schema that values can be checked against. -/
structure Checker where
  backend : Backend
  schema : Schema
  wellFormed : schema.wellFormed

namespace Checker

/-- The checker of a schema, if the schema is well formed. -/
def compile (backend : Backend) (schema : Schema) : Except SchemaError Checker :=
  match fault : schema.fault? with
  | some error => .error error
  | none => .ok ⟨backend, schema, by simp [Schema.wellFormed, fault]⟩

/-- The value has the shape of the schema without any conversion. -/
def accepts (checker : Checker) (value : Value) : Bool :=
  match checker.backend with
  | .native => checker.schema.accepts value
  | .document => value.toJson.conformsTo checker.schema.document

/-- Converts a value to the shape of the schema, or tells what is wrong with it. -/
def parse (checker : Checker) (value : Value) : Except (List Issue) Value :=
  match checker.backend with
  | .native => checker.schema.parse value
  | .document =>
      let converted := (checker.schema.walk .converting value).value
      match checker.schema.document.violations converted.toJson with
      | [] => .ok converted
      | violations => .error (violations.map Json.Violation.toIssue)

end Checker

end ApiContract
