import ApiContract.Proofs.Schema.Conformance
import ApiContract.Schema.Document.Published

/-!
# Published documents

Publishing a document takes the keywords `errorType` and `const` out of it wherever a document
stands in it, and nothing remains to be published in what it makes.  The published document of a
schema has a place for every place of the schema, and at an object it names the properties that are
declared there, whatever they are called.
-/

namespace ApiContract

namespace Json

variable {document operand inner : Json} {keyword : String} {keywords : List (String × Json)}

/-! ## What publishing does -/

theorem publishedMembers_eq (members : List (String × Json)) :
    publishedMembers members = Entries.mapValues published members := by
  induction members with
  | nil => rfl
  | cons member rest ih =>
      rw [publishedMembers, ih]
      rfl

theorem publishedItems_eq_map (items : List Json) : publishedItems items = items.map published := by
  induction items with
  | nil => rfl
  | cons item rest ih => rw [publishedItems, ih, List.map_cons]

/-- What becomes of an operand is decided by its keyword.  What should be an object or an array of
documents is taken for an empty one when it is not. -/
theorem publishedOperand_eq (keyword : String) (operand : Json) :
    publishedOperand keyword operand =
      if keyword = "properties" then
        .object (Entries.ofList (Entries.mapValues published (operand.asObject?.getD [])))
      else if keyword = "anyOf" ∨ keyword = "oneOf" then
        .array ((operand.asArray?.getD []).map published)
      else if keyword = "items" ∨ keyword = "additionalProperties" then operand.published
      else operand := by
  cases operand <;>
    simp [publishedOperand, published, publishedMembers_eq, publishedItems_eq_map, asObject?,
      asArray?, Entries.ofList, Entries.mapValues]

/-- A keyword that publishing leaves as it is. -/
structure IsPlain (keyword : String) (operand : Json) : Prop where
  notErrorType : keyword ≠ "errorType"
  notConst : keyword ≠ "const"
  operand : publishedOperand keyword operand = operand

theorem publishedKeywords_of_plain (plain : ∀ entry ∈ keywords, IsPlain entry.1 entry.2) :
    publishedKeywords keywords = keywords := by
  induction keywords with
  | nil => rfl
  | cons entry rest ih =>
      rcases List.forall_mem_cons.mp plain with ⟨first, others⟩
      rw [publishedKeywords, if_neg first.notErrorType, if_neg first.notConst, first.operand,
        ih others]

/-! ## What is published stays as it is -/

/-- Publishing once is enough. -/
def PublishesOnce (document : Json) : Prop :=
  document.published.published = document.published

theorem publishesOnce_of_other (other : ∀ members, document ≠ .object members) :
    PublishesOnce document := by
  cases document with
  | object members => exact absurd rfl (other members)
  | _ => simp only [PublishesOnce, published]

theorem publishedOperand_publishedOperand (whole : PublishesOnce operand)
    (members : ∀ member ∈ operand.asObject?.getD [], PublishesOnce member.2)
    (items : ∀ item ∈ operand.asArray?.getD [], PublishesOnce item) (keyword : String) :
    publishedOperand keyword (publishedOperand keyword operand) =
      publishedOperand keyword operand := by
  simp only [publishedOperand_eq keyword]
  split
  · have again : Entries.mapValues published (Entries.mapValues published
        (operand.asObject?.getD [])) = Entries.mapValues published (operand.asObject?.getD []) := by
      simp only [Entries.mapValues, List.map_map]
      exact List.map_congr_left fun member isMember => congrArg (Prod.mk member.1)
        (members member isMember)
    rw [asObject?, Option.getD_some, ← Entries.ofList_mapValues, again,
      Entries.ofList_of_ascending (Entries.ascending_ofList _)]
  · split
    · rw [asArray?, Option.getD_some, List.map_map]
      exact congrArg Json.array (List.map_congr_left items)
    · split
      · exact whole
      · rfl

theorem plain_of_mem_publishedKeywords
    (once : ∀ entry ∈ keywords, publishedOperand entry.1 (publishedOperand entry.1 entry.2) =
      publishedOperand entry.1 entry.2) :
    ∀ entry ∈ publishedKeywords keywords, IsPlain entry.1 entry.2 := by
  induction keywords with
  | nil => exact fun _ isEntry => absurd isEntry List.not_mem_nil
  | cons entry rest ih =>
      rcases List.forall_mem_cons.mp once with ⟨first, others⟩
      rw [publishedKeywords]
      split
      · exact ih others
      · next notErrorType =>
          split
          · have isPlain : IsPlain "enum" (.array [entry.2]) :=
              ⟨by decide, by decide, by rw [publishedOperand_eq]; rfl⟩
            exact List.forall_mem_cons.mpr ⟨isPlain, ih others⟩
          · next notConst =>
              exact List.forall_mem_cons.mpr ⟨⟨notErrorType, notConst, first⟩, ih others⟩

theorem published_object (keywords : List (String × Json)) :
    published (.object keywords) = .object (Entries.ofList (publishedKeywords keywords)) := by
  rw [published]

/-- Where no keyword repeats, those that are published are found. -/
theorem get?_published_object (distinct : (Entries.keys (publishedKeywords keywords)).Nodup)
    (keyword : String) :
    (published (.object keywords)).get? keyword =
      Entries.get? (publishedKeywords keywords) keyword := by
  rw [published_object]
  exact Entries.get?_ofList distinct keyword

/-- The keywords of a published object are plain, so that they are published as they are. -/
theorem publishesOnce_object
    (once : ∀ entry ∈ keywords, publishedOperand entry.1 (publishedOperand entry.1 entry.2) =
      publishedOperand entry.1 entry.2) : PublishesOnce (.object keywords) := by
  have plain := plain_of_mem_publishedKeywords once
  rw [PublishesOnce, published_object, published_object, publishedKeywords_of_plain
    fun entry isEntry => plain entry (Entries.mem_of_mem_ofList isEntry),
    Entries.ofList_of_ascending (Entries.ascending_ofList _)]

/-- Publishing a document or an operand once is enough.  Both are said at once, for a keyword of an
object may publish its operand as a document or the documents in it. -/
theorem publishesOnce_and_operand (document : Json) :
    PublishesOnce document ∧ ∀ keyword,
      publishedOperand keyword (publishedOperand keyword document) =
        publishedOperand keyword document := by
  induction document with
  | array items ih =>
      have whole : PublishesOnce (.array items) := publishesOnce_of_other nofun
      refine ⟨whole, publishedOperand_publishedOperand whole ?_
        fun item isItem => (ih item isItem).1⟩
      exact fun _ isMember => absurd isMember List.not_mem_nil
  | object members ih =>
      have whole := publishesOnce_object fun entry isEntry => (ih entry isEntry).2 entry.1
      refine ⟨whole, publishedOperand_publishedOperand whole
        (fun entry isEntry => (ih entry isEntry).1) ?_⟩
      exact fun _ isItem => absurd isItem List.not_mem_nil
  | _ =>
      exact ⟨publishesOnce_of_other nofun, publishedOperand_publishedOperand
        (publishesOnce_of_other nofun)
        (fun _ isMember => absurd isMember List.not_mem_nil)
        (fun _ isItem => absurd isItem List.not_mem_nil)⟩

theorem publishesOnce (document : Json) : PublishesOnce document :=
  (publishesOnce_and_operand document).1

/-! ## Places in documents -/

/-- A way from a document to a document in it. -/
inductive Branch where
  | property (name : String)
  | items
  | additional
  | anyOf (index : Nat)
  | oneOf (index : Nat)

/-- The document that a branch leads to. -/
def branch? (document : Json) : Branch → Option Json
  | .property name => (document.get? "properties").bind fun properties => properties.get? name
  | .items => document.get? "items"
  | .additional => document.get? "additionalProperties"
  | .anyOf index => ((document.get? "anyOf").bind asArray?).bind fun members => members[index]?
  | .oneOf index => ((document.get? "oneOf").bind asArray?).bind fun members => members[index]?

/-- The document at a place. -/
def at? (document : Json) : List Branch → Option Json
  | [] => some document
  | branch :: path => (document.branch? branch).bind fun inner => inner.at? path

/-- The names of the properties of a document. -/
def propertyNames (document : Json) : List String :=
  Entries.keys (((document.get? "properties").bind asObject?).getD [])

/-- Neither of the keywords that are not published stands in the document. -/
structure IsClean (document : Json) : Prop where
  errorType : document.get? "errorType" = none
  const : document.get? "const" = none

theorem plain_of_get? (once : document.published = document)
    (found : document.get? keyword = some operand) : IsPlain keyword operand := by
  cases document with
  | object keywords =>
      rw [published_object] at once
      have isEntry : (keyword, operand) ∈ keywords := Entries.mem_of_get? found
      rw [← Json.object.inj once] at isEntry
      refine plain_of_mem_publishedKeywords ?_ _ (Entries.mem_of_mem_ofList isEntry)
      exact fun entry _ => (publishesOnce_and_operand entry.2).2 entry.1
  | _ => cases found

theorem isClean_of_published (once : document.published = document) : document.IsClean := by
  constructor <;> by_contra found
  · rcases Option.ne_none_iff_exists'.mp found with ⟨operand, isOperand⟩
    exact (plain_of_get? once isOperand).notErrorType rfl
  · rcases Option.ne_none_iff_exists'.mp found with ⟨operand, isOperand⟩
    exact (plain_of_get? once isOperand).notConst rfl

theorem published_of_property {name : String} (once : document.published = document)
    (found : document.branch? (.property name) = some inner) : inner.published = inner := by
  rcases Option.bind_eq_some_iff.mp found with ⟨properties, isProperties, isInner⟩
  have plain := (plain_of_get? once isProperties).operand
  rw [publishedOperand_eq, if_pos rfl] at plain
  rw [← plain] at isInner
  rcases List.mem_map.mp (Entries.mem_of_get?_ofList isInner) with ⟨member, _, same⟩
  rw [← (Prod.mk.inj same).2]
  exact publishesOnce member.2

theorem published_of_document (isDocument : keyword = "items" ∨ keyword = "additionalProperties")
    (once : document.published = document) (found : document.get? keyword = some inner) :
    inner.published = inner := by
  have plain := (plain_of_get? once found).operand
  rcases isDocument with rfl | rfl <;> rwa [publishedOperand_eq] at plain

theorem published_of_choice {index : Nat} (isChoice : keyword = "anyOf" ∨ keyword = "oneOf")
    (once : document.published = document)
    (found : (((document.get? keyword).bind asArray?).bind fun members => members[index]?) =
      some inner) : inner.published = inner := by
  rcases Option.bind_eq_some_iff.mp found with ⟨members, isArray, isInner⟩
  rcases Option.bind_eq_some_iff.mp isArray with ⟨operand, isOperand, areMembers⟩
  have notProperties : keyword ≠ "properties" := by
    rintro rfl
    exact absurd isChoice (by decide)
  have plain := (plain_of_get? once isOperand).operand
  rw [publishedOperand_eq, if_neg notProperties, if_pos isChoice] at plain
  rw [← plain, asArray?, Option.some.injEq] at areMembers
  rw [← areMembers] at isInner
  rcases List.mem_map.mp (List.mem_of_getElem? isInner) with ⟨member, _, rfl⟩
  exact publishesOnce member

theorem published_of_branch? {branch : Branch} (once : document.published = document)
    (found : document.branch? branch = some inner) : inner.published = inner := by
  cases branch with
  | property name => exact published_of_property once found
  | items => exact published_of_document (.inl rfl) once found
  | additional => exact published_of_document (.inr rfl) once found
  | anyOf index => exact published_of_choice (.inl rfl) once found
  | oneOf index => exact published_of_choice (.inr rfl) once found

/-- Whatever stands in a published document is published, too. -/
theorem published_of_at? {path : List Branch} (once : document.published = document)
    (found : document.at? path = some inner) : inner.published = inner := by
  induction path generalizing document with
  | nil =>
      cases found
      exact once
  | cons branch path ih =>
      rcases Option.bind_eq_some_iff.mp found with ⟨next, isNext, foundNext⟩
      exact ih (published_of_branch? once isNext) foundNext

theorem mem_propertyNames_iff {name : String} :
    name ∈ document.propertyNames ↔ ∃ inner, document.branch? (.property name) = some inner := by
  rw [propertyNames, branch?]
  cases document.get? "properties" with
  | none => exact iff_of_false List.not_mem_nil nofun
  | some properties =>
      cases properties with
      | object members => exact Entries.exists_get?_iff.symm
      | _ => exact iff_of_false List.not_mem_nil nofun

theorem nodup_propertyNames (once : document.published = document) :
    document.propertyNames.Nodup := by
  rw [propertyNames]
  cases isProperties : document.get? "properties" with
  | none => exact List.nodup_nil
  | some properties =>
      have plain := (plain_of_get? once isProperties).operand
      rw [publishedOperand_eq, if_pos rfl] at plain
      rw [← plain]
      exact (Entries.ascending_ofList _).nodup_keys

end Json

namespace Schema

open Json (Branch)

variable {schema part : Schema} {node : Json}

/-! ## The document of an object -/

/-- What remains of the document of an object when it is published. -/
def publishedKeywords (properties : Json) (names : List String) (strict : Bool) :
    List (String × Json) :=
  (if strict then [("additionalProperties", .bool false)] else []) ++
    [("properties", properties)] ++
    (if names.isEmpty then [] else [("required", .ofStrings names)]) ++ [("type", .string "object")]

theorem nodup_keys_publishedKeywords (properties : Json) (names : List String) (strict : Bool) :
    (Entries.keys (publishedKeywords properties names strict)).Nodup := by
  cases strict <;> cases names <;> simp [publishedKeywords, Entries.keys]

theorem published_objectDocument (properties : List (String × Json)) (names : List String)
    (strict : Bool) :
    (objectDocument properties names strict).published =
      .object (Entries.ofList (publishedKeywords
        (.object (Entries.mapValues Json.published (Entries.ofList properties))) names
        strict)) := by
  have sorted : Entries.ofList (Entries.mapValues Json.published (Entries.ofList properties)) =
      Entries.mapValues Json.published (Entries.ofList properties) := by
    rw [Entries.ofList_mapValues, Entries.ofList_of_ascending (Entries.ascending_ofList _)]
  cases strict <;> cases names <;>
    simp [objectDocument, publishedKeywords, Json.published, Json.publishedKeywords,
      Json.publishedOperand, Json.publishedMembers_eq, Json.ofStrings, sorted]

/-- The published document of a field stands under its name. -/
theorem publishedDocument_object (fields : List (String × Schema)) (strict : Bool) :
    (object fields strict).publishedDocument =
      .object (Entries.ofList (publishedKeywords
        (.object (Entries.mapValues publishedDocument (Entries.ofList fields)))
        (requiredNames fields) strict)) := by
  have documents : fieldDocuments fields = Entries.mapValues document fields :=
    fieldDocuments_eq_map fields
  rw [publishedDocument, document, published_objectDocument, documents, Entries.ofList_mapValues]
  simp only [Entries.mapValues, List.map_map]
  rfl

/-! ## Places in schemas -/

/-- What a promise becomes. -/
def awaited : Schema → Schema
  | .promise resolved => resolved.awaited
  | schema => schema

/-- The schema that a branch leads to. -/
def part? : Schema → Branch → Option Schema
  | .object fields _, .property name => Entries.get? (Entries.ofList fields) name
  | .array items, .items => some items
  | .record values, .additional => some values
  | .union members, .anyOf index => members[index]?
  | .optional inner, .anyOf 0 => some inner
  | _, _ => none

/-- The schema at a place. -/
def at? (schema : Schema) : List Branch → Option Schema
  | [] => some schema.awaited
  | branch :: path => (schema.awaited.part? branch).bind fun part => part.at? path

/-- The names that an object declares. -/
def declaredNames : Schema → List String
  | .object fields _ => Entries.keys fields
  | _ => []

/-- What a document has beside the parts of its schema: null for what is optional, and nothing for
what is not declared in a strict object. -/
def addition? : Schema → Branch → Option Json
  | .optional _, .anyOf 1 => some (.object [("type", .string "null")])
  | .object _ true, .additional => some (.bool false)
  | _, _ => none

/-- No property is added. -/
theorem addition?_property (schema : Schema) (name : String) :
    schema.addition? (.property name) = none := by
  rw [addition?.eq_def]
  split
  · next isAnyOf => cases isAnyOf
  · next isAdditional => cases isAdditional
  · rfl

theorem publishedDocument_awaited (schema : Schema) :
    schema.awaited.publishedDocument = schema.publishedDocument := by
  induction schema with
  | promise resolved ih => rw [awaited, ih, publishedDocument, publishedDocument, document]
  | _ => rfl

theorem get?_publishedDocument_object (fields : List (String × Schema)) (strict : Bool)
    (keyword : String) :
    (object fields strict).publishedDocument.get? keyword =
      Entries.get? (publishedKeywords
        (.object (Entries.mapValues publishedDocument (Entries.ofList fields)))
        (requiredNames fields) strict) keyword := by
  rw [publishedDocument_object]
  exact Entries.get?_ofList (nodup_keys_publishedKeywords _ _ _) keyword

theorem branch?_publishedDocument_object (fields : List (String × Schema)) (strict : Bool)
    (branch : Branch) :
    (object fields strict).publishedDocument.branch? branch =
      (((object fields strict).part? branch).map publishedDocument).or
        ((object fields strict).addition? branch) := by
  have looked := get?_publishedDocument_object fields strict
  generalize requiredNames fields = names at looked
  cases branch with
  | property name =>
      have properties : (object fields strict).publishedDocument.get? "properties" =
          some (.object (Entries.mapValues publishedDocument (Entries.ofList fields))) := by
        rw [looked]
        cases strict <;> simp [publishedKeywords]
      rw [Json.branch?, properties, addition?_property, Option.or_none]
      exact Entries.get?_mapValues name (Entries.ofList fields)
  | _ =>
      cases strict <;> cases names <;>
        simp [Json.branch?, looked, publishedKeywords, part?, addition?]

theorem publishedDocument_union (members : List Schema) :
    (union members).publishedDocument =
      .object [("anyOf", .array (members.map publishedDocument))] := by
  simp [publishedDocument, document, documents_eq_map, Json.published, Json.publishedKeywords,
    Json.publishedOperand_eq, Json.asArray?, Entries.ofList, Entries.insert]

theorem publishedDocument_optional (inner : Schema) :
    (optional inner).publishedDocument = .object [("anyOf",
      .array [inner.publishedDocument, .object [("type", .string "null")]])] := by
  simp [publishedDocument, document, Json.published, Json.publishedKeywords,
    Json.publishedOperand_eq, Json.asArray?, Entries.ofList, Entries.insert]

theorem branch?_publishedDocument_optional (inner : Schema) (branch : Branch) :
    (optional inner).publishedDocument.branch? branch =
      (((optional inner).part? branch).map publishedDocument).or
        ((optional inner).addition? branch) := by
  rw [publishedDocument_optional]
  cases branch with
  | anyOf index =>
      rcases index with _ | _ | index
      · rfl
      · rfl
      · rfl
  | _ => rfl

theorem branch?_publishedDocument_union (members : List Schema) (branch : Branch) :
    (union members).publishedDocument.branch? branch =
      (((union members).part? branch).map publishedDocument).or
        ((union members).addition? branch) := by
  rw [publishedDocument_union]
  cases branch with
  | anyOf index => simp [Json.branch?, Json.get?, Json.asArray?, part?, addition?]
  | _ => rfl

theorem branch?_publishedDocument (schema : Schema) (branch : Branch) :
    schema.awaited.publishedDocument.branch? branch =
      ((schema.awaited.part? branch).map publishedDocument).or
        (schema.awaited.addition? branch) := by
  induction schema with
  | promise resolved ih => exact ih
  | object fields strict => exact branch?_publishedDocument_object fields strict branch
  | optional inner => exact branch?_publishedDocument_optional inner branch
  | union members => exact branch?_publishedDocument_union members branch
  | _ =>
      cases branch <;>
        simp [awaited, publishedDocument, document, leafDocument, formatDocument, Json.branch?,
          Json.get?_published_object, Json.publishedKeywords, Json.publishedOperand_eq,
          Entries.keys, part?, addition?]

/-- Every place of a schema has its document. -/
theorem at?_publishedDocument {path : List Branch} (found : schema.at? path = some part) :
    schema.publishedDocument.at? path = some part.publishedDocument := by
  induction path generalizing schema with
  | nil =>
      obtain rfl : schema.awaited = part := Option.some.inj found
      rw [Json.at?, publishedDocument_awaited]
  | cons branch path ih =>
      rcases Option.bind_eq_some_iff.mp found with ⟨next, isNext, foundNext⟩
      rw [Json.at?, ← publishedDocument_awaited, branch?_publishedDocument, isNext, Option.map_some,
        Option.some_or, Option.bind_some]
      exact ih foundNext

/-- The document has something beside the parts of its schema. -/
def IsAddition (node : Json) : Prop :=
  node = .object [("type", .string "null")] ∨ node = .bool false

theorem isAddition_of_addition? {branch : Branch} (isAdded : schema.addition? branch = some node) :
    IsAddition node ∧ ∀ branch, node.branch? branch = none := by
  rw [addition?.eq_def] at isAdded
  split at isAdded
  · obtain rfl := Option.some.inj isAdded
    refine ⟨.inl rfl, fun branch => ?_⟩
    cases branch <;> rfl
  · obtain rfl := Option.some.inj isAdded
    refine ⟨.inr rfl, fun branch => ?_⟩
    cases branch <;> rfl
  · cases isAdded

/-- What stands at a place of a document stands for the schema at this place, or has been added
there. -/
theorem part_or_addition_of_at? {path : List Branch}
    (found : schema.publishedDocument.at? path = some node) :
    (∃ part, schema.at? path = some part ∧ part.publishedDocument = node) ∨ IsAddition node := by
  induction path generalizing schema with
  | nil =>
      obtain rfl : schema.publishedDocument = node := Option.some.inj found
      exact .inl ⟨schema.awaited, rfl, publishedDocument_awaited schema⟩
  | cons branch path ih =>
      rcases Option.bind_eq_some_iff.mp found with ⟨next, isNext, foundNext⟩
      rw [← publishedDocument_awaited, branch?_publishedDocument] at isNext
      rcases Option.or_eq_some_iff.mp isNext with isMapped | ⟨_, isAdded⟩
      · rcases Option.map_eq_some_iff.mp isMapped with ⟨part, isPart, rfl⟩
        have step : schema.at? (branch :: path) = part.at? path := by
          rw [at?, isPart, Option.bind_some]
        rw [step]
        exact ih foundNext
      · rcases isAddition_of_addition? isAdded with ⟨isAddition, leaf⟩
        cases path with
        | nil =>
            obtain rfl : next = node := Option.some.inj foundNext
            exact .inr isAddition
        | cons other path =>
            rw [Json.at?, leaf] at foundNext
            cases foundNext

/-! ## Names of properties -/

theorem part?_property_isSome_iff {name : String} :
    (∃ inner, schema.part? (.property name) = some inner) ↔ name ∈ schema.declaredNames := by
  cases schema with
  | object fields strict => exact Entries.exists_get?_iff.trans Entries.mem_keys_ofList
  | _ => exact iff_of_false nofun List.not_mem_nil

theorem mem_propertyNames_publishedDocument (schema : Schema) (name : String) :
    name ∈ schema.awaited.publishedDocument.propertyNames ↔
      name ∈ schema.awaited.declaredNames := by
  rw [Json.mem_propertyNames_iff, branch?_publishedDocument, addition?_property, Option.or_none,
    ← part?_property_isSome_iff]
  simp only [Option.map_eq_some_iff, exists_comm (α := Json), exists_and_left, exists_eq', and_true]

theorem exists_awaited_of_at? {path : List Branch} (found : schema.at? path = some part) :
    ∃ origin : Schema, origin.awaited = part := by
  induction path generalizing schema with
  | nil => exact ⟨schema, Option.some.inj found⟩
  | cons branch path ih =>
      rcases Option.bind_eq_some_iff.mp found with ⟨next, _, foundNext⟩
      exact ih foundNext

/-- What is published of a schema: every part of it at the place that it has in the schema, little
else, none of the keywords that are not published, and the names of properties as they are
declared. -/
structure PublishesFaithfully (schema : Schema) : Prop where
  clean : ∀ path node, schema.publishedDocument.at? path = some node → node.IsClean
  places : ∀ path part, schema.at? path = some part →
    schema.publishedDocument.at? path = some part.publishedDocument
  onlyPlaces : ∀ path node, schema.publishedDocument.at? path = some node →
    (∃ part, schema.at? path = some part ∧ part.publishedDocument = node) ∨ IsAddition node
  names : ∀ path part, schema.at? path = some part →
    part.publishedDocument.propertyNames.Nodup ∧
      ∀ name, name ∈ part.publishedDocument.propertyNames ↔ name ∈ part.declaredNames

/-- Publishing a document once is enough, and it neither hides nor adds a property of a schema. -/
theorem published_faithfully :
    (∀ document : Json, document.published.published = document.published) ∧
      ∀ schema : Schema, schema.PublishesFaithfully := by
  refine ⟨Json.publishesOnce, fun schema => ⟨?_, ?_, ?_, ?_⟩⟩
  · intro path node found
    exact Json.isClean_of_published (Json.published_of_at? (Json.publishesOnce _) found)
  · exact fun path part => at?_publishedDocument
  · exact fun path node => part_or_addition_of_at?
  · intro path part found
    rcases exists_awaited_of_at? found with ⟨origin, rfl⟩
    exact ⟨Json.nodup_propertyNames (Json.publishesOnce _),
      mem_propertyNames_publishedDocument origin⟩

/-- Properties that are called like keywords. -/
example :
    (object [("errorType", .string), ("const", .literal (.string "a")), ("enum", .number),
        ("items", .array .date), ("properties", .object [("anyOf", .null)] true), ("anyOf", .any)]
        false).publishedDocument.propertyNames =
      ["anyOf", "const", "enum", "errorType", "items", "properties"] := by
  decide +kernel

end Schema

end ApiContract
