import ApiContract.Proofs.Schema.Structure
import ApiContract.Proofs.Value.Json
import ApiContract.Schema.Document
import ApiContract.Schema.Document.Judgement

/-!
# What the document of a schema demands

The document of a schema is judged keyword by keyword.  This module says node by node
what a JSON value must be like so that the document of a schema finds nothing wrong
with it.
-/

namespace ApiContract

namespace Json

/-- The document finds nothing wrong with the value. -/
def Meets (subject document : Json) : Prop :=
  violations document subject = []

end Json

namespace Schema

variable {subject : Json}

-- A document is a short list of keywords, so to judge by it is to run through the list.
attribute [local simp] document leafDocument formatDocument Json.Meets Json.violations
  Json.nodeViolations Json.keywordViolations

/-! ## Leaves -/

theorem meets_any : subject.Meets (document .any) := by
  simp

theorem meets_leafDocument_iff {expected typeName : String} :
    subject.Meets (leafDocument expected typeName) ↔ subject.hasType typeName := by
  simp

/-- An instant is asked for by its texts. -/
theorem meets_date_iff :
    subject.Meets (document .date) ↔
      ∃ text, subject = .string text ∧ (Value.readDate text).isSome := by
  cases subject with
  | string text =>
      simp [Json.hasType, Json.kind, Option.isSome_iff_ne_none]
  | _ =>
      simp [Json.hasType, Json.kind]

/-- The width that the document of big integers names is not judged. -/
theorem meets_bigint_iff : subject.Meets (document .bigint) ↔ subject.hasType "integer" := by
  cases subject <;> simp

theorem meets_literal_iff {expected : Literal} :
    subject.Meets (document (.literal expected)) ↔
      Json.matchesConstant expected.toJson subject ∧ subject.hasType expected.typeName := by
  cases expected with
  | string text =>
      simp [Literal.toJson]
  | bool value =>
      simp [Literal.toJson]
  | number value =>
      rcases value.toJson_null_or_number with written | ⟨number, written⟩ <;>
        simp [Literal.toJson, written]

theorem meets_enumeration_iff {literals : List Literal} :
    subject.Meets (document (.enumeration literals)) ↔
      ∃ literal ∈ literals, Json.sameValue literal.toJson subject := by
  simp

theorem not_meets_function {parameters : List Schema} {result : Schema} :
    ¬subject.Meets (document (.function parameters result)) := by
  simp

/-! ## Arrays and records -/

/-- The document of every schema is a node with keywords. -/
theorem exists_keywords (schema : Schema) : ∃ keywords, document schema = .object keywords := by
  induction schema with
  | promise resolved ih => simpa only [document] using ih
  | _ => simp [objectDocument]

theorem meets_array_iff {items : Schema} :
    subject.Meets (document (.array items)) ↔
      ∃ values, subject = .array values ∧ ∀ value ∈ values, value.Meets (document items) := by
  rcases exists_keywords items with ⟨keywords, shape⟩
  cases subject with
  | array values =>
      simpa [shape, Json.hasType, Json.kind] using
        @List.forall_mem_zipIdx_iff _ values
          fun value => Json.nodeViolations (.of keywords) keywords value = []
  | _ =>
      simp [shape, Json.hasType, Json.kind]

theorem meets_record_iff {values : Schema} :
    subject.Meets (document (.record values)) ↔
      ∃ members, subject = .object members ∧
        ∀ member ∈ members, member.2.Meets (document values) := by
  rcases exists_keywords values with ⟨keywords, shape⟩
  cases subject with
  | object members =>
      simp [shape, Json.hasType, Json.kind]
  | _ =>
      simp [shape, Json.hasType, Json.kind]

/-! ## Objects -/

/-- What was found under the name of a field meets the document of the field, or nothing
was and the field is optional. -/
def FieldMet (schema : Schema) : Option Json → Prop
  | some member => member.Meets (document schema)
  | none => schema.isOptional

theorem fieldDocuments_eq_map (fields : List (String × Schema)) :
    fieldDocuments fields = fields.map fun field => (field.1, document field.2) := by
  induction fields with
  | nil => simp [fieldDocuments]
  | cons field rest ih => rw [fieldDocuments, ih, List.map_cons]

theorem keys_fieldDocuments (fields : List (String × Schema)) :
    Entries.keys (fieldDocuments fields) = Entries.keys fields := by
  simp [fieldDocuments_eq_map, Entries.keys]

theorem memberViolations_eq_nil_iff {operands : List (String × Json)} {members : Entries Json} :
    Json.memberViolations operands members = [] ↔
      ∀ operand ∈ operands, ∀ member, Entries.get? members operand.1 = some member →
        member.Meets operand.2 := by
  induction operands with
  | nil => simp [Json.memberViolations]
  | cons operand rest ih =>
      rw [Json.memberViolations, List.append_eq_nil_iff, ih, List.forall_mem_cons]
      apply and_congr_left
      intro _
      cases Entries.get? members operand.1 <;> simp

theorem mem_missingNames_iff {names : List String} {members : Entries Json} {name : String} :
    name ∈ Json.missingNames (names.map .string) members ↔
      name ∈ names ∧ Entries.get? members name = none := by
  rw [Json.missingNames, Json.filterMap_asString?_map_string, List.mem_filter,
    Entries.get?_eq_none_iff, Bool.not_eq_true', ← Bool.not_eq_true, Entries.contains_iff]

theorem missingNames_eq_nil_iff {names : List String} {members : Entries Json} :
    Json.missingNames (names.map .string) members = [] ↔
      ∀ name ∈ names, name ∈ Entries.keys members := by
  simp only [List.eq_nil_iff_forall_not_mem, mem_missingNames_iff, Entries.get?_eq_none_iff,
    not_and, not_not]

theorem mem_requiredNames_iff {fields : List (String × Schema)} {name : String} :
    name ∈ requiredNames fields ↔
      ∃ field ∈ fields, field.2.isOptional = false ∧ field.1 = name := by
  simp [requiredNames, and_assoc]

theorem undeclaredViolations_eq_nil_iff {declared members : Entries Json} :
    Json.undeclaredViolations declared members = [] ↔
      ∀ name ∈ Entries.keys members, name ∈ Entries.keys declared := by
  have silent : Json.undeclaredViolations declared members = [] ↔
      ((Entries.keys members).filter fun name => !Entries.contains declared name) = [] := by
    rw [Json.undeclaredViolations]
    split <;> simp_all
  rw [silent, List.filter_eq_nil_iff]
  simp

theorem meets_objectDocument_iff {fields : List (String × Json)} {required : List String}
    {strict : Bool} :
    subject.Meets (objectDocument fields required strict) ↔
      ∃ members, subject = .object members ∧
        Json.memberViolations (Entries.ofList fields) members = [] ∧
        Json.missingNames (required.map .string) members = [] ∧
        (strict → Json.undeclaredViolations (Entries.ofList fields) members = []) := by
  cases subject with
  | object members =>
      cases strict <;> cases required <;>
        simp [objectDocument, Json.NodeFacts.of, Json.hasType, Json.kind, Json.ofStrings,
          Json.asBool?, Json.missingNames, and_comm]
  | _ =>
      cases strict <;> cases required <;>
        simp [objectDocument, Json.hasType, Json.kind]

theorem meets_object_iff {fields : List (String × Schema)} {strict : Bool}
    (distinct : (Entries.keys fields).Nodup) :
    subject.Meets (document (.object fields strict)) ↔
      ∃ members, subject = .object members ∧
        (∀ field ∈ fields, FieldMet field.2 (Entries.get? members field.1)) ∧
        (strict → ∀ name ∈ Entries.keys members, name ∈ Entries.keys fields) := by
  have documentsDistinct : (Entries.keys (fieldDocuments fields)).Nodup := by
    rwa [keys_fieldDocuments]
  rw [document, meets_objectDocument_iff]
  apply exists_congr
  intro members
  apply and_congr_right
  intro _
  rw [← and_assoc, memberViolations_eq_nil_iff, missingNames_eq_nil_iff]
  refine and_congr ?_ ?_
  · simp only [Entries.mem_ofList documentsDistinct, mem_requiredNames_iff]
    rw [fieldDocuments_eq_map, List.forall_mem_map]
    constructor
    · rintro ⟨met, present⟩ field isField
      cases found : Entries.get? members field.1 with
      | some member => exact met field isField member found
      | none =>
          by_contra required
          have isKey := present field.1 ⟨field, isField, by simpa [FieldMet] using required, rfl⟩
          exact Entries.get?_eq_none_iff.mp found isKey
    · intro met
      constructor
      · intro field isField member found
        have fieldMet := met field isField
        rwa [found] at fieldMet
      · rintro name ⟨field, isField, required, rfl⟩
        by_contra absent
        have optional := met field isField
        rw [Entries.get?_eq_none_iff.mpr absent, FieldMet, required] at optional
        exact Bool.false_ne_true optional
  · simp only [undeclaredViolations_eq_nil_iff, Entries.mem_keys_ofList,
      keys_fieldDocuments]

/-! ## Unions and wrappers -/

theorem meets_anyOf_iff {operands : List Json} :
    subject.Meets (.object [("anyOf", .array operands)]) ↔
      ∃ operand ∈ operands, subject.Meets operand := by
  have holds : Json.someHolds operands subject ↔ ∃ operand ∈ operands, subject.Meets operand := by
    induction operands with
    | nil => simp [Json.someHolds]
    | cons operand rest ih =>
        rw [Json.someHolds, Bool.or_eq_true, ih, List.isEmpty_iff, ← Json.Meets]
        simp
  rw [← holds]
  simp

theorem documents_eq_map (members : List Schema) : documents members = members.map document := by
  induction members with
  | nil => simp [documents]
  | cons member rest ih => rw [documents, ih, List.map_cons]

theorem meets_union_iff {members : List Schema} :
    subject.Meets (document (.union members)) ↔
      ∃ member ∈ members, subject.Meets (document member) := by
  rw [document, meets_anyOf_iff, documents_eq_map]
  simp only [List.mem_map, exists_exists_and_eq_and]

theorem meets_optional_iff {inner : Schema} :
    subject.Meets (document (.optional inner)) ↔
      subject.Meets (document inner) ∨ subject.hasType "null" := by
  have null : subject.Meets (.object [("type", .string "null")]) ↔ subject.hasType "null" := by
    simp
  rw [document, meets_anyOf_iff, ← null]
  simp

theorem meets_promise_iff {resolved : Schema} :
    subject.Meets (document (.promise resolved)) ↔ subject.Meets (document resolved) := by
  rw [document]

end Schema

end ApiContract
