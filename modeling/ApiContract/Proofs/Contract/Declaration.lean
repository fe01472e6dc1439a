import ApiContract.Proofs.Contract.Parts
import Mathlib.Data.List.Induction

/-!
# Contracts as they are described

A contract starts with a name and is described by one setting after the other.  A later setting
replaces an earlier one of the same thing, so that the schema of a section is the one that was
declared for it last, where names of headers are folded to lower case.
-/

namespace ApiContract

/-- A place of a contract for which a schema can be declared. -/
inductive Contract.Section where
  | request (part : Part)
  | response (status : Nat)
  | responseHeaders
  deriving DecidableEq

/-- What becomes of a schema that is declared for a section. -/
def Contract.Section.folded : Contract.Section → Schema → Schema
  | .request .headers | .responseHeaders => Schema.withLoweredNames
  | _ => id

/-- One thing that is said of a contract. -/
inductive Setting where
  | summary (text : String)
  | description (text : String)
  | declare (place : Contract.Section) (shape : Shorthand)
  | auth (policy : AuthPolicy)
  | requestValidation (mode : ValidationMode)
  | responseValidation (mode : ValidationMode)

/-- The schema that a setting declares for a section, if it does. -/
def Setting.schemaFor? (place : Contract.Section) : Setting → Option Schema
  | .declare other shape => if place = other then some shape.toSchema else none
  | _ => none

namespace Contract

/-- The schema that a contract has for a section. -/
def schemaFor? (contract : Contract) : Section → Option Schema
  | .request part => part.schema? contract
  | .response status => ByStatus.get? contract.responses status
  | .responseHeaders => contract.responseHeaders

/-- The contract with a schema for a section. -/
def withSchema (contract : Contract) (place : Section) (schema : Schema) : Contract :=
  match place with
  | .request .params => contract.withParams schema
  | .request .headers => contract.withRequestHeaders schema
  | .request .query => contract.withQuery schema
  | .request .body => contract.withBody schema
  | .response status => contract.withResponse status schema
  | .responseHeaders => contract.withResponseHeaders schema

/-- The contract after a setting. -/
def set (contract : Contract) : Setting → Contract
  | .summary text => { contract with summary := some text }
  | .description text => { contract with description := some text }
  | .declare place shape => contract.withSchema place shape.toSchema
  | .auth policy => contract.withAuth policy
  | .requestValidation mode =>
      contract.withOptions { contract.options with requestValidation := mode }
  | .responseValidation mode =>
      contract.withOptions { contract.options with responseValidation := mode }

/-- The contract of a name that settings describe, one after the other. -/
def described (name : String) (settings : List Setting) : Contract :=
  settings.foldl set { name := name }

/-- The schema that was declared for a section last. -/
def declared? (settings : List Setting) (place : Section) : Option Schema :=
  (settings.filterMap (Setting.schemaFor? place)).getLast?

variable {contract : Contract} {name : String} {settings : List Setting} {place : Section}

/-! ## The schemas of sections -/

theorem schemaFor?_withSchema (other : Section) (schema : Schema) :
    (contract.withSchema other schema).schemaFor? place =
      if place = other then some (place.folded schema) else contract.schemaFor? place := by
  cases other with
  | response status =>
      cases place with
      | response found =>
          simp [withSchema, schemaFor?, withResponse, ByStatus.get?_insert, Section.folded]
      | request part => cases part <;> rfl
      | responseHeaders => rfl
  | responseHeaders =>
      cases place with
      | request part => cases part <;> rfl
      | _ => rfl
  | request part =>
      cases place with
      | request found => cases part <;> cases found <;> rfl
      | _ => cases part <;> rfl

theorem schemaFor?_set (setting : Setting) :
    (contract.set setting).schemaFor? place =
      ((setting.schemaFor? place).map place.folded).or (contract.schemaFor? place) := by
  cases setting with
  | declare other shape =>
      rw [set, schemaFor?_withSchema, Setting.schemaFor?]
      split <;> rfl
  | _ =>
      cases place with
      | request part => cases part <;> rfl
      | _ => rfl

/-- A contract has for a section what was declared for it last. -/
theorem schemaFor?_described :
    (described name settings).schemaFor? place = (declared? settings place).map place.folded := by
  induction settings using List.reverseRecOn with
  | nil =>
      cases place with
      | request part => cases part <;> rfl
      | _ => rfl
  | append_singleton settings setting ih =>
      simp only [described, declared?] at ih ⊢
      rw [List.foldl_append, List.foldl_cons, List.foldl_nil, schemaFor?_set, ih,
        List.filterMap_append, List.getLast?_append]
      cases declares : setting.schemaFor? place <;> simp [declares]

/-! ## The responses -/

theorem ascending_set (setting : Setting)
    (ascending : (ByStatus.statuses contract.responses).Pairwise (· < ·)) :
    (ByStatus.statuses (contract.set setting).responses).Pairwise (· < ·) := by
  cases setting with
  | declare place shape =>
      cases place with
      | response status => exact ByStatus.ascending_insert ascending
      | request part => cases part <;> exact ascending
      | responseHeaders => exact ascending
  | _ => exact ascending

/-- The responses of a contract are listed by ascending status. -/
theorem ascending_described :
    (ByStatus.statuses (described name settings).responses).Pairwise (· < ·) := by
  induction settings using List.reverseRecOn with
  | nil => exact List.Pairwise.nil
  | append_singleton settings setting ih =>
      rw [described, List.foldl_append]
      exact ascending_set setting ih

end Contract

end ApiContract
