import ApiContract.Proofs.OpenApi.Requirement
import ApiContract.Proofs.Schema.Nodes

/-!
# Schema objects say what was published

The published document of a schema is read keyword by keyword into a schema object, and an OpenAPI
document prints the schema object, its keywords in an order of its own.  Of a schema without
functions and without empty objects, whatever its depth, nothing gets lost on the way: what is
printed has the keywords of the published document and no others.
-/

namespace ApiContract

/-- Where no key repeats, sorting does not see the order. -/
theorem Entries.ofList_eq_of_perm {α : Type} {left right : Entries α} (same : left.Perm right)
    (distinct : (Entries.keys left).Nodup) : Entries.ofList left = Entries.ofList right := by
  have distinctToo : (Entries.keys right).Nodup := (same.map Prod.fst).nodup_iff.mp distinct
  have sorted : ∀ entries : Entries α, (Entries.ofList entries).Pairwise fun left right =>
      left.1 < right.1 := Entries.ascending_ofList
  have nodup : ∀ entries : Entries α, (Entries.ofList entries).Nodup := fun entries =>
    (Entries.ascending_ofList entries).nodup_keys.of_map
  refine List.Perm.eq_of_pairwise ?_ (sorted left) (sorted right) ?_
  · intro first second _ _ before after
    exact absurd after (String.lt_asymm before)
  · rw [List.perm_ext_iff_of_nodup (nodup left) (nodup right)]
    intro entry
    rw [Entries.mem_ofList distinct, Entries.mem_ofList distinctToo, same.mem_iff]

namespace Json

variable {items : List Json} {members : List (String × Json)}

mutual

/-- The document with the members of every object in the order of their keys. -/
def inKeyOrder : Json → Json
  | .array items => .array (itemsInKeyOrder items)
  | .object members => .object (Entries.ofList (membersInKeyOrder members))
  | document => document

/-- Several documents, each in key order. -/
def itemsInKeyOrder : List Json → List Json
  | [] => []
  | document :: rest => inKeyOrder document :: itemsInKeyOrder rest

/-- Members whose documents are each in key order. -/
def membersInKeyOrder : List (String × Json) → List (String × Json)
  | [] => []
  | (name, document) :: rest => (name, inKeyOrder document) :: membersInKeyOrder rest

end

/-- No object in the document has two members of one name. -/
inductive KeysDistinct : Json → Prop where
  | null : KeysDistinct .null
  | bool (truth : Bool) : KeysDistinct (.bool truth)
  | number (value : JsonNumber) : KeysDistinct (.number value)
  | string (text : String) : KeysDistinct (.string text)
  | array {items : List Json} (each : ∀ item ∈ items, KeysDistinct item) :
      KeysDistinct (.array items)
  | object {members : List (String × Json)} (distinct : (Entries.keys members).Nodup)
      (each : ∀ member ∈ members, KeysDistinct member.2) : KeysDistinct (.object members)

@[simp] theorem inKeyOrder_string (text : String) : inKeyOrder (.string text) = .string text := rfl

@[simp] theorem inKeyOrder_bool (truth : Bool) : inKeyOrder (.bool truth) = .bool truth := rfl

theorem inKeyOrder_array (items : List Json) :
    inKeyOrder (.array items) = .array (items.map inKeyOrder) := by
  have each : itemsInKeyOrder items = items.map inKeyOrder := by
    induction items with
    | nil => rfl
    | cons item rest ih => rw [itemsInKeyOrder, ih, List.map_cons]
  rw [inKeyOrder, each]

theorem inKeyOrder_object (members : List (String × Json)) :
    inKeyOrder (.object members) =
      .object (Entries.ofList (Entries.mapValues inKeyOrder members)) := by
  have each : membersInKeyOrder members = Entries.mapValues inKeyOrder members := by
    induction members with
    | nil => rfl
    | cons member rest ih =>
        rw [membersInKeyOrder, ih]
        rfl
  rw [inKeyOrder, each]

theorem keysDistinct_array_iff :
    KeysDistinct (.array items) ↔ ∀ item ∈ items, KeysDistinct item := by
  constructor
  · intro distinct
    cases distinct with
    | array each => exact each
  · exact .array

end Json

/-- A literal is written without objects. -/
theorem Literal.exists_scalar_toJson (literal : Literal) :
    literal.toJson.inKeyOrder = literal.toJson ∧ literal.toJson.KeysDistinct := by
  cases literal with
  | string text => exact ⟨rfl, .string text⟩
  | bool value => exact ⟨rfl, .bool value⟩
  | number value =>
      rw [toJson]
      rcases value.toJson_null_or_number with written | ⟨number, written⟩
      · rw [written]
        exact ⟨rfl, .null⟩
      · rw [written]
        exact ⟨rfl, .number number⟩

/-- A schema object can say all of the node: it is neither a function nor an object without
fields. -/
def Schema.isExpressible : Schema → Bool
  | .function _ _ => false
  | .object fields _ => !fields.isEmpty
  | _ => true

namespace OpenApi

open SchemaObject

theorem SchemaObject.listToJson_eq_map (objects : List SchemaObject) :
    listToJson objects = objects.map toJson := by
  induction objects with
  | nil => rfl
  | cons object rest ih => rw [listToJson, ih, List.map_cons]

theorem SchemaObject.propertiesToJson_eq (properties : List (String × SchemaObject)) :
    propertiesToJson properties = Entries.mapValues toJson properties := by
  induction properties with
  | nil => rfl
  | cons property rest ih =>
      rw [propertiesToJson, ih]
      rfl

theorem SchemaObject.listOf_eq_map (documents : List Json) :
    listOf documents = documents.map ofJson := by
  induction documents with
  | nil => simp [listOf]
  | cons document rest ih => rw [listOf, ih, List.map_cons]

theorem SchemaObject.propertiesOf_eq (members : List (String × Json)) :
    propertiesOf members = Entries.mapValues ofJson members := by
  induction members with
  | nil => simp [propertiesOf, Entries.mapValues]
  | cons member rest ih =>
      rw [propertiesOf, ih]
      rfl

/-- Where no keyword repeats, the order of keywords does not matter to what is read. -/
theorem SchemaObject.ofJson_ofList {keywords : List (String × Json)}
    (distinct : (Entries.keys keywords).Nodup) :
    ofJson (.object (Entries.ofList keywords)) = ofOperands (operandsOf keywords) := by
  have same : ∀ keyword, Entries.get? (operandsOf (Entries.ofList keywords)) keyword =
      Entries.get? (operandsOf keywords) keyword := by
    intro keyword
    rw [get?_operandsOf, get?_operandsOf, Entries.get?_ofList distinct]
  rw [ofJson, ofOperands, ofOperands]
  simp only [same]

/-! ## Reading and printing node by node -/

/-- What is printed of a schema is its published document, but for the order of members: no key
is printed twice, and in key order it is the document. -/
structure IsTranscribed (schema : Schema) : Prop where
  keysDistinct : (schemaObject schema).toJson.KeysDistinct
  inKeyOrder : (schemaObject schema).toJson.inKeyOrder = schema.publishedDocument

variable {schema : Schema} {keywords members : List (String × Json)}

/-- Keywords are printed in the opposite order of their keys, so it is enough that the members
that are printed are the published keywords from the last to the first. -/
theorem isTranscribed_of_printed
    (published : schema.publishedDocument = .object (Entries.ofList keywords))
    (distinct : (Entries.keys keywords).Nodup)
    (printed : (ofOperands (operandsOf keywords)).toJson = .object members)
    (sameMembers : Entries.mapValues Json.inKeyOrder members = keywords.reverse)
    (each : ∀ member ∈ members, member.2.KeysDistinct) : IsTranscribed schema := by
  have read : (schemaObject schema).toJson = .object members := by
    rw [schemaObject, published, ofJson_ofList distinct, printed]
  have sameKeys : Entries.keys members = (Entries.keys keywords).reverse := by
    rw [← Entries.keys_mapValues Json.inKeyOrder, sameMembers, Entries.keys, List.map_reverse]
    rfl
  constructor
  · rw [read]
    exact .object (sameKeys ▸ List.nodup_reverse.mpr distinct) each
  · rw [read, Json.inKeyOrder_object, sameMembers, published,
      Entries.ofList_eq_of_perm keywords.reverse_perm.symm distinct]

theorem exists_publishedDocument_eq (schema : Schema) :
    ∃ keywords, schema.publishedDocument = .object keywords := by
  induction schema with
  | promise resolved ih =>
      rw [Schema.publishedDocument, Schema.document]
      exact ih
  | object fields strict => exact ⟨_, Schema.publishedDocument_object fields strict⟩
  | _ =>
      rw [Schema.publishedDocument, Schema.document]
      exact ⟨_, Json.published_object _⟩

theorem operandOf_publishedDocument {keyword : String}
    (single : keyword = "items" ∨ keyword = "additionalProperties") (schema : Schema) :
    operandOf keyword schema.publishedDocument = .single (schemaObject schema) := by
  rcases exists_publishedDocument_eq schema with ⟨keywords, isObject⟩
  rw [schemaObject, isObject, operandOf, if_pos single, ofJson]

-- A published document is a short list of keywords, which are read and printed one by one.
attribute [local simp] operandsOf operandOf ofOperands Json.asString? Json.asArray? Json.asBool?
  Operand.plain? Operand.schema? Operand.schemas? Operand.properties? toJson optionToJson
  optionalMember nonEmptyMember Entries.mapValues Entries.keys Option.filter_some
  Json.inKeyOrder_array Json.inKeyOrder_object Json.keysDistinct_array_iff Json.KeysDistinct.string
  Literal.exists_scalar_toJson

-- The published document of a schema is made of the published documents of its parts.
attribute [local simp] Schema.document Schema.leafDocument Schema.formatDocument
  Json.published_object Json.publishedKeywords Json.publishedOperand_eq

section Leaves

variable {expected typeName format : String}

theorem isTranscribed_leaf (isLeaf : schema.document = Schema.leafDocument expected typeName)
    (known : typeName ∈ knownTypes) : IsTranscribed schema := by
  have notArray : typeName ≠ "array" := ne_of_mem_of_not_mem known (by decide)
  have published : schema.publishedDocument =
      .object (Entries.ofList [("type", .string typeName)]) := by
    simp [Schema.publishedDocument, isLeaf]
  have printed : (ofOperands (operandsOf [("type", .string typeName)])).toJson =
      .object [("type", .string typeName)] := by
    simp [notArray, known]
  exact isTranscribed_of_printed published (by simp) printed (by simp) (by simp)

theorem isTranscribed_formatted
    (isLeaf : schema.document = Schema.formatDocument expected format typeName)
    (known : typeName ∈ knownTypes) : IsTranscribed schema := by
  have notArray : typeName ≠ "array" := ne_of_mem_of_not_mem known (by decide)
  have published : schema.publishedDocument = .object
      (Entries.ofList [("format", .string format), ("type", .string typeName)]) := by
    simp [Schema.publishedDocument, isLeaf]
  have printed : (ofOperands (operandsOf
      [("format", .string format), ("type", .string typeName)])).toJson =
        .object [("type", .string typeName), ("format", .string format)] := by
    simp [notArray, known]
  exact isTranscribed_of_printed published (by simp) printed (by simp) (by simp)

theorem isTranscribed_any : IsTranscribed .any := by
  have published : Schema.any.publishedDocument = .object (Entries.ofList []) := by
    simp [Schema.publishedDocument]
  have printed : (ofOperands (operandsOf [])).toJson = .object [] := by
    simp
  exact isTranscribed_of_printed published (by simp) printed (by simp) (by simp)

theorem isTranscribed_literal (value : Literal) : IsTranscribed (.literal value) := by
  have published : (Schema.literal value).publishedDocument = .object (Entries.ofList
      [("enum", .array [value.toJson]), ("type", .string value.typeName)]) := by
    simp [Schema.publishedDocument]
  have printed : (ofOperands (operandsOf
      [("enum", .array [value.toJson]), ("type", .string value.typeName)])).toJson =
        .object [("type", .string value.typeName), ("enum", .array [value.toJson])] := by
    cases value <;> simp [Literal.typeName, knownTypes]
  exact isTranscribed_of_printed published (by simp) printed (by simp) (by simp)

theorem isTranscribed_enumeration (values : List Literal) :
    IsTranscribed (.enumeration values) := by
  have published : (Schema.enumeration values).publishedDocument = .object
      (Entries.ofList [("enum", .array (values.map Literal.toJson))]) := by
    simp [Schema.publishedDocument]
  have printed : (ofOperands (operandsOf [("enum", .array (values.map Literal.toJson))])).toJson =
      .object [("enum", .array (values.map Literal.toJson))] := by
    simp
  exact isTranscribed_of_printed published (by simp) printed (by simp) (by simp)

end Leaves

theorem isTranscribed_array {items : Schema} (inner : IsTranscribed items) :
    IsTranscribed (.array items) := by
  have published : (Schema.array items).publishedDocument = .object
      (Entries.ofList [("items", items.publishedDocument), ("type", .string "array")]) := by
    simp [Schema.publishedDocument]
  have printed : (ofOperands (operandsOf
      [("items", items.publishedDocument), ("type", .string "array")])).toJson =
        .object [("type", .string "array"), ("items", (schemaObject items).toJson)] := by
    simp [operandOf_publishedDocument]
  refine isTranscribed_of_printed published (by simp) printed ?_ ?_
  · simp [inner.inKeyOrder]
  · simp [inner.keysDistinct]

theorem isTranscribed_record {values : Schema} (inner : IsTranscribed values) :
    IsTranscribed (.record values) := by
  have published : (Schema.record values).publishedDocument = .object (Entries.ofList
      [("additionalProperties", values.publishedDocument), ("type", .string "object")]) := by
    simp [Schema.publishedDocument]
  have printed : (ofOperands (operandsOf
      [("additionalProperties", values.publishedDocument), ("type", .string "object")])).toJson =
        .object [("type", .string "object"),
          ("additionalProperties", (schemaObject values).toJson)] := by
    simp [operandOf_publishedDocument, knownTypes]
  refine isTranscribed_of_printed published (by simp) printed ?_ ?_
  · simp [inner.inKeyOrder]
  · simp [inner.keysDistinct]

theorem isTranscribed_union {members : List Schema}
    (each : ∀ member ∈ members, IsTranscribed member) : IsTranscribed (.union members) := by
  have published : (Schema.union members).publishedDocument = .object
      (Entries.ofList [("anyOf", .array (members.map Schema.publishedDocument))]) :=
    Schema.publishedDocument_union members
  have printed : (ofOperands (operandsOf
      [("anyOf", .array (members.map Schema.publishedDocument))])).toJson =
        .object [("anyOf", .array (members.map fun member => (schemaObject member).toJson))] := by
    simp [listOf_eq_map, listToJson_eq_map, schemaObject]
  have sameMembers : (members.map fun member => (schemaObject member).toJson.inKeyOrder) =
      members.map Schema.publishedDocument :=
    List.map_congr_left fun member isMember => (each member isMember).inKeyOrder
  refine isTranscribed_of_printed published (by simp) printed ?_ ?_
  · simp [sameMembers, Function.comp_def]
  · simpa using fun member isMember => (each member isMember).keysDistinct

/-- Where two schemas are published alike, they are transcribed alike. -/
theorem IsTranscribed.of_publishedAlike {other : Schema} (transcribed : IsTranscribed other)
    (alike : schema.publishedDocument = other.publishedDocument) : IsTranscribed schema := by
  have same : schemaObject schema = schemaObject other := by
    rw [schemaObject, schemaObject, alike]
  constructor
  · rw [same]
    exact transcribed.keysDistinct
  · rw [same, alike]
    exact transcribed.inKeyOrder

theorem isTranscribed_optional {inner : Schema} (transcribed : IsTranscribed inner) :
    IsTranscribed (.optional inner) := by
  have null : IsTranscribed .null := isTranscribed_leaf rfl (by decide)
  have orNull : IsTranscribed (.union [inner, .null]) :=
    isTranscribed_union (by simp [transcribed, null])
  refine orNull.of_publishedAlike ?_
  rw [Schema.publishedDocument_optional, Schema.publishedDocument_union]
  rfl

section Object

variable {fields : List (String × Schema)} {strict : Bool}

/-- The members that are printed of an object with some properties. -/
def objectMembers (properties : Entries Json) (names : List String) (strict : Bool) :
    List (String × Json) :=
  [("type", .string "object")] ++ nonEmptyMember "required" names (.ofStrings names) ++
    [("properties", .object properties)] ++
    if strict then [("additionalProperties", .bool false)] else []

theorem toJson_ofOperands_object {properties : Entries Json} (filled : properties ≠ [])
    (names : List String) (strict : Bool) :
    (ofOperands (operandsOf
      (Schema.publishedKeywords (.object properties) names strict))).toJson =
        .object (objectMembers
          (Entries.mapValues (fun document => (ofJson document).toJson) properties) names
          strict) := by
  have named : ∀ names : List String, (names.map Json.string).filterMap Json.asString? = names :=
    Json.filterMap_asString?_map_string
  cases strict <;> cases names <;>
    simp [Schema.publishedKeywords, objectMembers, propertiesOf_eq, propertiesToJson_eq,
      knownTypes, Json.ofStrings, filled, named, -List.filterMap_map]

theorem mapValues_objectMembers {printed published : Entries Json}
    (same : (Json.object printed).inKeyOrder = .object published) (names : List String)
    (strict : Bool) :
    Entries.mapValues Json.inKeyOrder (objectMembers printed names strict) =
      (Schema.publishedKeywords (.object published) names strict).reverse := by
  cases strict <;> cases names <;>
    simp [objectMembers, Schema.publishedKeywords, Json.ofStrings, same, -Json.inKeyOrder_object]

theorem keysDistinct_objectMembers {printed : Entries Json}
    (distinct : (Json.object printed).KeysDistinct) (names : List String) (strict : Bool) :
    ∀ member ∈ objectMembers printed names strict, member.2.KeysDistinct := by
  cases strict <;> cases names <;>
    simp [objectMembers, Json.ofStrings, Json.KeysDistinct.bool, distinct]

/-- The properties of an object are printed as they are published. -/
theorem transcribed_properties (each : ∀ field ∈ fields, IsTranscribed field.2) :
    let printed := Entries.mapValues (fun document => (ofJson document).toJson)
      (Entries.mapValues Schema.publishedDocument (Entries.ofList fields))
    (Json.object printed).KeysDistinct ∧ (Json.object printed).inKeyOrder =
      .object (Entries.mapValues Schema.publishedDocument (Entries.ofList fields)) := by
  intro printed
  have ofField : ∀ field ∈ Entries.ofList fields, IsTranscribed field.2 :=
    fun field isField => each field (Entries.mem_of_mem_ofList isField)
  constructor
  · apply Json.KeysDistinct.object
    · rw [Entries.keys_mapValues, Entries.keys_mapValues]
      exact (Entries.ascending_ofList fields).nodup_keys
    · simp only [printed, Entries.mapValues, List.map_map, List.forall_mem_map]
      exact fun field isField => (ofField field isField).keysDistinct
  · have same : Entries.mapValues Json.inKeyOrder printed =
        Entries.mapValues Schema.publishedDocument (Entries.ofList fields) := by
      simp only [printed, Entries.mapValues, List.map_map]
      exact List.map_congr_left fun field isField =>
        congrArg (Prod.mk field.1) (ofField field isField).inKeyOrder
    rw [Json.inKeyOrder_object, same, Entries.ofList_mapValues,
      Entries.ofList_of_ascending (Entries.ascending_ofList fields)]

theorem isTranscribed_object (filled : fields ≠ [])
    (each : ∀ field ∈ fields, IsTranscribed field.2) : IsTranscribed (.object fields strict) := by
  have someProperty : Entries.mapValues Schema.publishedDocument (Entries.ofList fields) ≠ [] := by
    rcases List.exists_mem_of_ne_nil fields filled with ⟨field, isField⟩
    have isKey : field.1 ∈ Entries.keys (Entries.ofList fields) :=
      Entries.mem_keys_ofList.mpr (Entries.mem_keys_of_mem isField)
    intro none
    rw [← Entries.keys_mapValues Schema.publishedDocument, none] at isKey
    cases isKey
  rcases transcribed_properties each with ⟨distinct, sameProperties⟩
  exact isTranscribed_of_printed (Schema.publishedDocument_object fields strict)
    (Schema.nodup_keys_publishedKeywords _ _ _) (toJson_ofOperands_object someProperty _ _)
    (mapValues_objectMembers sameProperties _ _) (keysDistinct_objectMembers distinct _ _)

end Object

/-! ## Schemas -/

/-- A schema is transcribed when its node can be said in full and its parts are transcribed. -/
theorem isTranscribed_of_parts (expressible : schema.isExpressible)
    (each : ∀ part ∈ schema.parts, IsTranscribed part) : IsTranscribed schema := by
  cases schema with
  | any => exact isTranscribed_any
  | unknown => exact isTranscribed_any.of_publishedAlike (by simp [Schema.publishedDocument])
  | null | string | number | integer | boolean => exact isTranscribed_leaf rfl (by decide)
  | bigint | date => exact isTranscribed_formatted rfl (by decide)
  | literal value => exact isTranscribed_literal value
  | enumeration values => exact isTranscribed_enumeration values
  | array items => exact isTranscribed_array (each items (List.mem_singleton_self _))
  | object fields strict =>
      have filled : fields ≠ [] := by simpa [Schema.isExpressible] using expressible
      exact isTranscribed_object filled (List.forall_mem_map.mp each)
  | record values => exact isTranscribed_record (each values (List.mem_singleton_self _))
  | union members => exact isTranscribed_union each
  | optional inner => exact isTranscribed_optional (each inner (List.mem_singleton_self _))
  | promise resolved =>
      refine (each resolved (List.mem_singleton_self _)).of_publishedAlike ?_
      rw [Schema.publishedDocument, Schema.document, Schema.publishedDocument]
  | function parameters result => cases expressible

/-- Of a schema without functions and without empty objects, whatever its depth, everything that is
published is printed, and nothing else. -/
theorem isTranscribed_of_expressible (schema : Schema)
    (expressible : ∀ node ∈ schema.nodes, node.isExpressible) :
    IsTranscribed schema := by
  induction schema using Schema.partsInduction with
  | step schema ih =>
      rcases Schema.forall_mem_nodes_iff.mp expressible with ⟨top, below⟩
      exact isTranscribed_of_parts top fun part isPart => ih part isPart (below part isPart)

/-- An invoice, with a node of nearly every kind. -/
def invoiceSchema : Schema :=
  .object [("kind", .literal (.string "invoice")),
    ("state", .enumeration [.string "open", .bool true]),
    ("lines", .array (.object [("at", .date), ("meta", .record (.union [.number, .any]))] false)),
    ("total", .optional (.promise .bigint))] true

theorem invoiceSchema_isTranscribed :
    (∀ node ∈ invoiceSchema.nodes, node.isExpressible) ∧ IsTranscribed invoiceSchema := by
  have expressible : ∀ node ∈ invoiceSchema.nodes, node.isExpressible := by decide
  exact ⟨expressible, isTranscribed_of_expressible invoiceSchema expressible⟩

/-- An object without fields is published with properties and printed without them. -/
example :
    Schema.publishedDocument (.object [] false) =
        .object [("properties", .object []), ("type", .string "object")] ∧
      (schemaObject (.object [] false)).toJson = .object [("type", .string "object")] :=
  ⟨rfl, rfl⟩

end OpenApi

end ApiContract
