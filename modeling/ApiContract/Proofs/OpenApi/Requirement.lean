import ApiContract.Proofs.OpenApi.Portrayal
import ApiContract.Proofs.Schema.Publication

/-!
# What is published as required

An object schema says in four places which of its keys an object must have: in its document,
in the document as it is published, in the schema object of an OpenAPI document, and in the
parameters that its fields become.  All four say it of the keys that parsing asks for, and of
no other key does parsing say anything when an object lacks it.
-/

namespace ApiContract

/-! ## What parsing says of a key -/

theorem FieldOutcome.head?_path_of_mem_issues {name : String} {outcome : FieldOutcome}
    {issue : Issue} (member : issue ∈ outcome.issues name) : issue.path.head? = some name := by
  cases outcome with
  | omitted => cases member
  | missing =>
      rw [List.mem_singleton.mp member]
      rfl
  | present walked =>
      rcases List.mem_map.mp member with ⟨_, _, rfl⟩
      rfl

theorem FieldOutcome.filter_issues (outcome : FieldOutcome) (name key : String) :
    ((outcome.issues name).filter fun issue => issue.path.head? = some key) =
      if name = key then outcome.issues name else [] := by
  split
  · next same =>
      rw [List.filter_eq_self]
      intro issue member
      rw [FieldOutcome.head?_path_of_mem_issues member, same]
      exact decide_eq_true rfl
  · next differ =>
      rw [List.filter_eq_nil_iff]
      intro issue member
      rw [FieldOutcome.head?_path_of_mem_issues member]
      simpa using differ

namespace Schema

variable {fields : List (String × Schema)} {strict : Bool} {field : String × Schema}
  {members : Entries Value} {key : String}

/-- The issues that parsing a value states at a key of it or below. -/
def objectionsAt (schema : Schema) (key : String) (value : Value) : List Issue :=
  match schema.parse value with
  | .ok _ => []
  | .error issues => issues.filter fun issue => issue.path.head? = some key

/-- Parsing asks for a key: of every object that lacks it, the key is said to be required. -/
def Demands (schema : Schema) (key : String) : Prop :=
  ∀ members : Entries Value, key ∉ Entries.keys members →
    Issue.at_ key "required" ∈ schema.objectionsAt key (.object members)

theorem objectionsAt_eq_filter (schema : Schema) (key : String) (value : Value) :
    schema.objectionsAt key value =
      (schema.walk .converting value).issues.filter fun issue => issue.path.head? = some key := by
  rw [objectionsAt]
  cases parsed : schema.parse value with
  | ok result =>
      have clean : (schema.walk .converting value).issues = [] := (parse_eq_ok_iff.mp parsed).1
      rw [clean]
      rfl
  | error issues => rw [(parse_eq_error_iff.mp parsed).2]

/-- Of the issues of the fields, those at a key are the ones of the fields of this name. -/
theorem filter_issues_fields (fields : List (String × Schema)) (members : Entries Value)
    (key : String) :
    ((fields.flatMap fun field =>
        (outcome .converting field.2 (Entries.get? members field.1)).issues field.1).filter
          fun issue => issue.path.head? = some key) =
      (fields.filter fun field => field.1 = key).flatMap fun field =>
        (outcome .converting field.2 (Entries.get? members field.1)).issues field.1 := by
  induction fields with
  | nil => rfl
  | cons field rest ih =>
      rw [List.flatMap_cons, List.filter_append, ih, FieldOutcome.filter_issues, List.filter_cons]
      by_cases same : field.1 = key <;> simp [same]

/-- A member that is not declared is reported at its own key. -/
theorem filter_undeclaredIssues_of_absent (outcomes : List (String × FieldOutcome))
    (absent : key ∉ Entries.keys members) :
    ((undeclaredIssues outcomes members).filter fun issue => issue.path.head? = some key) = [] := by
  rw [List.filter_eq_nil_iff]
  intro issue reported
  rcases List.mem_filterMap.mp reported with ⟨⟨name, value⟩, isMember, isReported⟩
  have other : name ≠ key := by
    rintro rfl
    exact absent (Entries.mem_keys_of_mem isMember)
  cases looked : outcomes.lookup name with
  | some outcome => simp [looked] at isReported
  | none =>
      obtain rfl : Issue.at_ name _ = issue := by simpa [looked] using isReported
      simpa [Issue.at_] using other

/-- Of an object that lacks a declared key, nothing is said at the key unless its field must be
present, and then only that it is required. -/
theorem objectionsAt_object (distinct : (Entries.keys fields).Nodup) (declared : field ∈ fields)
    (absent : field.1 ∉ Entries.keys members) :
    (object fields strict).objectionsAt field.1 (.object members) =
      if field.2.isOptional then [] else [Issue.at_ field.1 "required"] := by
  have ofUndeclared :
      ((if strict then undeclaredIssues (walkFields .converting fields members) members
          else []).filter fun issue => issue.path.head? = some field.1) = [] := by
    cases strict with
    | false => rfl
    | true => exact filter_undeclaredIssues_of_absent _ absent
  -- One field has the name of the key, so its outcome is all that is said of the key.
  have found : Entries.get? fields field.1 = some field.2 :=
    (Entries.get?_eq_some_iff distinct).mpr declared
  rw [objectionsAt_eq_filter, issues_walk_object, List.filter_append, ofUndeclared,
    filter_issues_fields, Entries.filter_eq_toList distinct, found]
  have missing : Entries.get? members field.1 = none := Entries.get?_eq_none_iff.mpr absent
  cases optional : field.2.isOptional <;> simp [outcome, optional, missing, FieldOutcome.issues]

theorem demands_object_iff (distinct : (Entries.keys fields).Nodup) (declared : field ∈ fields) :
    (object fields strict).Demands field.1 ↔ field.2.isOptional = false := by
  constructor
  · intro demands
    have objected := demands [] List.not_mem_nil
    rw [objectionsAt_object distinct declared List.not_mem_nil] at objected
    cases optional : field.2.isOptional with
    | false => rfl
    | true => simp [optional] at objected
  · intro present members absent
    rw [objectionsAt_object distinct declared absent, present]
    exact List.mem_singleton_self _

end Schema

/-! ## What documents list -/

/-- The names that a document lists as required. -/
def Json.required (document : Json) : List String :=
  ((document.get? "required" >>= Json.asArray?).getD []).filterMap Json.asString?

/-- The names that a schema object lists as required. -/
def OpenApi.SchemaObject.required : OpenApi.SchemaObject → List String
  | .plain _ _ _ _ required _ _ _ => required
  | _ => []

namespace Schema

variable {fields : List (String × Schema)} {strict : Bool} {field : String × Schema}

/-- The document is that of an object, neither a choice nor an array, which lists the names. -/
structure ListsRequired (names : List String) (document : Json) : Prop where
  required : document.required = names
  typeName : document.get? "type" = some (.string "object")
  anyOf : document.get? "anyOf" = none
  oneOf : document.get? "oneOf" = none

theorem listsRequired_objectDocument (properties : List (String × Json)) (names : List String)
    (strict : Bool) : ListsRequired names (objectDocument properties names strict) := by
  have listed : (names.map Json.string).filterMap Json.asString? = names :=
    Json.filterMap_asString?_map_string names
  constructor <;> cases strict <;> cases names <;>
    simp_all [objectDocument, Json.required, Json.get?, Json.asArray?, Json.ofStrings]

theorem listsRequired_published (properties : List (String × Json)) (names : List String)
    (strict : Bool) : ListsRequired names (objectDocument properties names strict).published := by
  have listed : (names.map Json.string).filterMap Json.asString? = names :=
    Json.filterMap_asString?_map_string names
  have looked (name : String) : (objectDocument properties names strict).published.get? name =
      Entries.get? (publishedKeywords (.object (Entries.mapValues Json.published
        (Entries.ofList properties))) names strict) name := by
    rw [published_objectDocument]
    exact Entries.get?_ofList (nodup_keys_publishedKeywords _ names strict) name
  constructor <;> simp only [Json.required, looked] <;> cases strict <;> cases names <;>
    simp_all [publishedKeywords, Json.asArray?, Json.ofStrings]

theorem mem_requiredNames_iff_of_mem (distinct : (Entries.keys fields).Nodup)
    (declared : field ∈ fields) :
    field.1 ∈ requiredNames fields ↔ field.2.isOptional = false := by
  rw [mem_requiredNames_iff]
  constructor
  · rintro ⟨other, isOther, present, same⟩
    have both : some other.2 = some field.2 := by
      rw [← (Entries.get?_eq_some_iff distinct).mpr declared,
        ← (Entries.get?_eq_some_iff distinct).mpr isOther, same]
    rwa [← Option.some.inj both]
  · intro present
    exact ⟨field, declared, present, rfl⟩

/-- The document of an object lists the keys that parsing asks for. -/
theorem mem_requiredNames_iff_demands (distinct : (Entries.keys fields).Nodup)
    (declared : field ∈ fields) :
    field.1 ∈ requiredNames fields ↔ (object fields strict).Demands field.1 :=
  (mem_requiredNames_iff_of_mem distinct declared).trans
    (demands_object_iff distinct declared).symm

theorem document_object (fields : List (String × Schema)) (strict : Bool) :
    (object fields strict).document =
      objectDocument (fieldDocuments fields) (requiredNames fields) strict := by
  rw [document]

end Schema

namespace OpenApi

theorem SchemaObject.operandsOf_eq_map (keywords : List (String × Json)) :
    operandsOf keywords =
      keywords.map fun keyword => (keyword.1, operandOf keyword.1 keyword.2) := by
  induction keywords with
  | nil => simp [operandsOf]
  | cons keyword rest ih => rw [operandsOf, ih, List.map_cons]

theorem SchemaObject.get?_operandsOf (keywords : List (String × Json)) (name : String) :
    Entries.get? (operandsOf keywords) name = (Entries.get? keywords name).map (operandOf name) := by
  rw [operandsOf_eq_map]
  exact Entries.get?_map operandOf keywords name

theorem SchemaObject.plain?_operandOf_required (operand : Json) :
    (operandOf "required" operand).plain? = some operand := by
  cases operand <;> simp [operandOf, Operand.plain?]

/-- The schema object of such a document lists the same names. -/
theorem required_ofJson {names : List String} {document : Json}
    (lists : Schema.ListsRequired names document) :
    (SchemaObject.ofJson document).required = names := by
  cases document with
  | object keywords =>
      have noChoice : Entries.get? keywords "anyOf" = none := lists.anyOf
      have noSingleChoice : Entries.get? keywords "oneOf" = none := lists.oneOf
      have isObject : Entries.get? keywords "type" = some (.string "object") := lists.typeName
      have plainName : SchemaObject.operandOf "type" (.string "object") =
          .other (.string "object") := by simp [SchemaObject.operandOf]
      have plainNames : ((Entries.get? keywords "required").map (SchemaObject.operandOf "required")
            >>= SchemaObject.Operand.plain?) = Entries.get? keywords "required" := by
        cases Entries.get? keywords "required" with
        | none => rfl
        | some operand => exact SchemaObject.plain?_operandOf_required operand
      rw [SchemaObject.ofJson, SchemaObject.ofOperands]
      simp only [SchemaObject.get?_operandsOf, noChoice, noSingleChoice, isObject, plainNames,
        Option.map_some, plainName]
      exact lists.required
  | _ => cases lists.typeName

/-- An operation that lists the fields of an object marks those as required that parsing asks
for. -/
theorem ListsFields.exists_demanded {fields : List (String × Schema)} {strict : Bool}
    {location : Location} {portrait : Operation} {field : String × Schema}
    (lists : ListsFields (some (.object fields strict)) location portrait)
    (distinct : (Entries.keys fields).Nodup) (declared : field ∈ fields) :
    ∃ listed, portrait.parametersAt location field.1 = [listed] ∧
      (listed.required ↔ (Schema.object fields strict).Demands field.1) := by
  rcases lists.fields fields strict rfl field declared with ⟨listed, single, required_iff⟩
  refine ⟨listed, single, required_iff.trans ?_⟩
  rw [Schema.demands_object_iff distinct declared, Bool.not_eq_true]

/-! ## Publishing and parsing -/

/-- What is published of a key of an object schema is what parsing asks for. -/
structure PublishesDemand (schema : Schema) (key : String) : Prop where
  document_iff : key ∈ schema.document.required ↔ schema.Demands key
  published_iff : key ∈ schema.publishedDocument.required ↔ schema.Demands key
  schemaObject_iff : key ∈ (schemaObject schema).required ↔ schema.Demands key
  query : ∀ {State : Type} (route : Route State), route.contract.query = some schema →
    ∃ listed, (operation route).parametersAt .query key = [listed] ∧
      (listed.required ↔ schema.Demands key)
  requestHeaders : ∀ {State : Type} (route : Route State),
    route.contract.requestHeaders = some schema →
      ∃ listed, (operation route).parametersAt .header key = [listed] ∧
        (listed.required ↔ schema.Demands key)
  /-- Where a key is asked for, nothing else is said of it when it is absent. -/
  once : schema.Demands key → ∀ members : Entries Value, key ∉ Entries.keys members →
    schema.objectionsAt key (.object members) = [Issue.at_ key "required"]
  /-- Where it is not, nothing at all is said. -/
  spared : ¬schema.Demands key → ∀ members : Entries Value, key ∉ Entries.keys members →
    schema.objectionsAt key (.object members) = []

/-- Of every key that a well-formed object schema declares, whatever the schema of its field,
it is published as required exactly when parsing asks for it. -/
theorem publishesDemand_object {fields : List (String × Schema)} {strict : Bool}
    (wellFormed : (Schema.object fields strict).wellFormed) {key : String}
    (isKey : key ∈ Entries.keys fields) : PublishesDemand (.object fields strict) key := by
  have distinct := (Schema.wellFormed_object_iff.mp wellFormed).1
  rcases List.mem_map.mp isKey with ⟨field, declared, rfl⟩
  have demands_iff : (Schema.object fields strict).Demands field.1 ↔
      field.2.isOptional = false :=
    Schema.demands_object_iff distinct declared
  have listed_iff : field.1 ∈ Schema.requiredNames fields ↔
      (Schema.object fields strict).Demands field.1 :=
    Schema.mem_requiredNames_iff_demands distinct declared
  have published := Schema.listsRequired_published (Schema.fieldDocuments fields)
    (Schema.requiredNames fields) strict
  rw [← Schema.document_object] at published
  have wellFormedPart : ∀ schema ∈ some (Schema.object fields strict), schema.wellFormed := by
    rintro _ ⟨⟩
    exact wellFormed
  constructor
  · rw [Schema.document_object, (Schema.listsRequired_objectDocument _ _ _).required]
    exact listed_iff
  · rw [Schema.publishedDocument, published.required]
    exact listed_iff
  · rw [schemaObject, Schema.publishedDocument, required_ofJson published]
    exact listed_iff
  · intro State route isPart
    exact (listsFields_operation wellFormedPart (isPart ▸ rfl)).exists_demanded distinct declared
  · intro State route isPart
    exact (listsFields_operation wellFormedPart (isPart ▸ rfl)).exists_demanded distinct declared
  · intro demands members absent
    rw [Schema.objectionsAt_object distinct declared absent, demands_iff.mp demands]
    rfl
  · intro spares members absent
    rw [demands_iff, Bool.not_eq_false] at spares
    rw [Schema.objectionsAt_object distinct declared absent, spares]
    rfl

/-- A promise hides that what it becomes is optional; an optional schema may hold another. -/
def wrappedFields : List (String × Schema) :=
  [("later", .promise (.optional .string)), ("twice", .optional (.optional .number)),
    ("plain", .string)]

theorem wrappedFields_published :
    "later" ∈ (schemaObject (.object wrappedFields true)).required ∧
      "twice" ∉ (schemaObject (.object wrappedFields true)).required ∧
      ∀ members : Entries Value, "twice" ∉ Entries.keys members →
        (Schema.object wrappedFields true).objectionsAt "twice" (.object members) = [] := by
  have wellFormed : (Schema.object wrappedFields true).wellFormed := by decide +kernel
  have later : PublishesDemand (.object wrappedFields true) "later" :=
    publishesDemand_object wellFormed (by decide)
  have twice : PublishesDemand (.object wrappedFields true) "twice" :=
    publishesDemand_object wellFormed (by decide)
  have demandsLater : (Schema.object wrappedFields true).Demands "later" := by
    by_contra spares
    cases later.spared spares [] List.not_mem_nil
  have sparesTwice : ¬(Schema.object wrappedFields true).Demands "twice" := by
    intro demands
    cases twice.once demands [] List.not_mem_nil
  exact ⟨later.schemaObject_iff.mpr demandsLater, mt twice.schemaObject_iff.mp sparesTwice,
    twice.spared sparesTwice⟩

end OpenApi

end ApiContract
