import ApiContract.Proofs.Schema.Agreement
import ApiContract.Proofs.Schema.Pointer
import Mathlib.Data.Finset.Insert

/-!
# The two checkers blame the same places

What is wrong with a value stands at the same places for both checkers.  The native one puts the
steps to an issue together while it comes back from the parts of the value.  The other one reads
them from a pointer into what the walk made of the value, and goes on to a member that is missing
there.
-/

namespace ApiContract

/-- The places of the issues of a walk. -/
def Walked.places (walked : Walked) : List (List String) :=
  walked.issues.map Issue.path

/-- The places where a document finds fault with a value. -/
def Json.places (document subject : Json) : List (List String) :=
  (violations document subject).map Violation.path

/-- The places that a checker blames in a value. -/
def Checker.blames (checker : Checker) (value : Value) : Finset (List String) :=
  match checker.parse value with
  | .ok _ => ∅
  | .error issues => (issues.map Issue.path).toFinset

theorem Walked.places_eq_nil_iff {walked : Walked} : walked.places = [] ↔ walked.Clean := by
  rw [places, List.map_eq_nil_iff, Clean]

theorem Json.places_eq_nil_iff {document subject : Json} :
    places document subject = [] ↔ subject.Meets document := by
  rw [places, List.map_eq_nil_iff, Meets]

@[simp] theorem Json.NodeFacts.path_mismatch {facts : NodeFacts} {subject : Json} :
    (facts.mismatch subject).path = [] :=
  rfl

namespace Schema

/-- A schema of which a value is right or wrong as a whole. -/
inductive Leaf : Schema → Prop where
  | any : Leaf .any
  | unknown : Leaf .unknown
  | null : Leaf .null
  | string : Leaf .string
  | number : Leaf .number
  | integer : Leaf .integer
  | boolean : Leaf .boolean
  | literal {expected : Literal} (exact : expected.isTextOrTruth) : Leaf (.literal expected)
  | enumeration {literals : List Literal}
      (exact : ∀ expected ∈ literals, expected.isTextOrTruth) : Leaf (.enumeration literals)
  | function {parameters : List Schema} {result : Schema} : Leaf (.function parameters result)
  | optional {inner : Schema} (leaf : Leaf inner) : Leaf (.optional inner)
  | promise {resolved : Schema} (leaf : Leaf resolved) : Leaf (.promise resolved)

/-- A schema built from leaves by parts alone.  Where the document offers a choice, it states one
issue for all that is wrong below, so only leaves are optional. -/
inductive Traceable : Schema → Prop where
  | leaf {schema : Schema} (leaf : Leaf schema) : Traceable schema
  | array {items : Schema} (inner : Traceable items) : Traceable (.array items)
  | object {fields : List (String × Schema)} (each : ∀ field ∈ fields, Traceable field.2) :
      Traceable (.object fields false)
  | record {values : Schema} (inner : Traceable values) : Traceable (.record values)
  | promise {resolved : Schema} (inner : Traceable resolved) : Traceable (.promise resolved)

variable {schema : Schema} {value : Value} {mode : WalkMode} {subject : Json}

theorem Leaf.shared (leaf : Leaf schema) : schema.Shared := by
  induction leaf with
  | any => exact .any
  | unknown => exact .unknown
  | null => exact .null
  | string => exact .string
  | number => exact .number
  | integer => exact .integer
  | boolean => exact .boolean
  | literal exact => exact .literal exact
  | enumeration exact => exact .enumeration exact
  | function => exact .function
  | optional _ ih => exact .optional ih
  | promise _ ih => exact .promise ih

theorem Traceable.shared (traceable : Traceable schema) : schema.Shared := by
  induction traceable with
  | leaf leaf => exact leaf.shared
  | array _ ih => exact .array ih
  | object _ ih => exact .object ih
  | record _ ih => exact .record ih
  | promise _ ih => exact .promise ih

/-! ## Leaves -/

/-- All places are that of the value at hand. -/
def AllHere (places : List (List String)) : Prop :=
  ∀ path ∈ places, path = []

theorem allHere_nil : AllHere [] := by
  simp [AllHere]

theorem allHere_rejected {message : String} : AllHere (Walked.rejected value message).places := by
  simp [AllHere, Walked.places, Walked.rejected, Issue.here]

theorem allHere_require {condition : Bool} {message : String} :
    AllHere (Walked.require condition value message).places := by
  cases condition with
  | true => exact allHere_nil
  | false => exact allHere_rejected

theorem allHere_walkLeaf {expected : String} {fitting : Option Value} :
    AllHere (walkLeaf expected fitting value).places := by
  cases fitting with
  | some converted => exact allHere_nil
  | none => exact allHere_rejected

theorem allHere_walkNumber {whole : Bool} : AllHere (walkNumber mode whole value).places := by
  rw [walkNumber]
  split
  · split
    · exact allHere_rejected
    · exact allHere_nil
  · exact allHere_rejected

theorem Leaf.allHere_walk (leaf : Leaf schema) : AllHere (walk mode schema value).places := by
  induction leaf with
  | any | unknown => exact allHere_nil
  | null | string | literal _ | enumeration _ => exact allHere_require
  | number | integer => exact allHere_walkNumber
  | boolean => exact allHere_walkLeaf
  | function => exact allHere_rejected
  | optional _ ih =>
      rw [walk_optional]
      split
      · exact allHere_nil
      · exact ih
  | promise _ ih => exact ih

section Documents

-- A document is a short list of keywords, so to judge by it is to run through the list.
attribute [local simp] AllHere Json.places document leafDocument Json.violations
  Json.nodeViolations Json.keywordViolations

theorem allHere_leafDocument {expected typeName : String} :
    AllHere (Json.places (leafDocument expected typeName) subject) := by
  simp

theorem allHere_document_literal {expected : Literal} (exact : expected.isTextOrTruth) :
    AllHere (Json.places (document (.literal expected)) subject) := by
  cases expected with
  | number value => cases exact
  | string text => simp [Literal.toJson, or_imp]
  | bool truth => simp [Literal.toJson, or_imp]

theorem allHere_document_enumeration {literals : List Literal} :
    AllHere (Json.places (document (.enumeration literals)) subject) := by
  simp

theorem allHere_document_function {parameters : List Schema} {result : Schema} :
    AllHere (Json.places (document (.function parameters result)) subject) := by
  simp

theorem allHere_document_optional {inner : Schema} :
    AllHere (Json.places (document (.optional inner)) subject) := by
  simp

theorem Leaf.allHere_document (leaf : Leaf schema) :
    AllHere (Json.places (document schema) subject) := by
  induction leaf with
  | any | unknown => simp
  | null | string | number | integer | boolean => exact allHere_leafDocument
  | literal exact => exact allHere_document_literal exact
  | enumeration _ => exact allHere_document_enumeration
  | function => exact allHere_document_function
  | optional _ _ => exact allHere_document_optional
  | promise _ ih => simpa using ih

/-! ## Parts -/

theorem allHere_document_array {items : Schema} (other : ∀ values, subject ≠ .array values) :
    AllHere (Json.places (document (.array items)) subject) := by
  obtain ⟨keywords, shape⟩ := exists_keywords items
  cases subject with
  | array values => exact absurd rfl (other values)
  | _ => simp [shape]

theorem allHere_document_record {values : Schema} (other : ∀ members, subject ≠ .object members) :
    AllHere (Json.places (document (.record values)) subject) := by
  obtain ⟨keywords, shape⟩ := exists_keywords values
  cases subject with
  | object members => exact absurd rfl (other members)
  | _ => simp [shape]

theorem allHere_objectDocument {fields : List (String × Json)} {required : List String}
    (other : ∀ members, subject ≠ .object members) :
    AllHere (Json.places (objectDocument fields required false) subject) := by
  cases subject with
  | object members => exact absurd rfl (other members)
  | _ => cases required <;> simp [objectDocument, Json.ofStrings]

theorem places_document_array (items : Schema) (values : List Json) :
    Json.places (document (.array items)) (.array values) =
      values.zipIdx.flatMap fun item =>
        (Json.places (document items) item.1).map (List.cons (Text.decimalText item.2)) := by
  obtain ⟨keywords, shape⟩ := exists_keywords items
  simp [shape, Json.hasType, Json.kind, List.map_flatMap, Function.comp_def]

theorem places_document_record (values : Schema) (members : Entries Json) :
    Json.places (document (.record values)) (.object members) =
      members.flatMap fun member =>
        (Json.places (document values) member.2).map (List.cons member.1) := by
  obtain ⟨keywords, shape⟩ := exists_keywords values
  simp [shape, Json.hasType, Json.kind, List.map_flatMap, Function.comp_def]

theorem places_objectDocument (fields : List (String × Json)) (required : List String)
    (members : Entries Json) :
    Json.places (objectDocument fields required false) (.object members) =
      (Json.memberViolations (Entries.ofList fields) members).map Json.Violation.path ++
        (Json.missingNames (required.map .string) members).map fun name => [name] := by
  cases required <;>
    simp [objectDocument, Json.hasType, Json.kind, Json.ofStrings, Json.NodeFacts.of,
      Json.missingNames, Function.comp_def]

end Documents

theorem map_path_issuesBelow (walked : Walked) (key : String) :
    (walked.issuesBelow key).map Issue.path = walked.places.map (List.cons key) := by
  rw [Walked.issuesBelow, Walked.places, List.map_map, List.map_map]
  rfl

theorem places_walk_array (items : Schema) (values : List Value) :
    (walk mode (.array items) (.array values)).places =
      values.zipIdx.flatMap fun item =>
        (walk mode items item.1).places.map (List.cons (Text.decimalText item.2)) := by
  simp only [Walked.places, issues_walk_array, List.map_flatMap, map_path_issuesBelow]

theorem places_walk_record (values : Schema) (members : Entries Value) :
    (walk mode (.record values) (.object members)).places =
      members.flatMap fun member =>
        (walk mode values member.2).places.map (List.cons member.1) := by
  simp only [Walked.places, issues_walk_record, List.map_flatMap, map_path_issuesBelow]

/-- The path leads below the member of a field, or to the member where it is missing. -/
def FieldBlamed (field : String × Schema) (found : Option (List (List String)))
    (path : List String) : Prop :=
  match found with
  | some places => ∃ rest ∈ places, path = field.1 :: rest
  | none => field.2.isOptional = false ∧ path = [field.1]

theorem mem_places_walk_object_iff {fields : List (String × Schema)} {members : Entries Value}
    {path : List String} :
    path ∈ (walk mode (.object fields false) (.object members)).places ↔
      ∃ field ∈ fields, FieldBlamed field
        ((Entries.get? members field.1).map fun part => (walk mode field.2 part).places) path := by
  rw [Walked.places, issues_walk_object, if_neg Bool.false_ne_true, List.append_nil,
    List.map_flatMap, List.mem_flatMap]
  apply exists_congr
  intro field
  apply and_congr_right
  intro _
  cases Entries.get? members field.1 with
  | some part =>
      simp [outcome, FieldOutcome.issues, FieldBlamed, map_path_issuesBelow, eq_comm]
  | none =>
      cases optional : field.2.isOptional <;>
        simp [outcome, FieldOutcome.issues, FieldBlamed, optional, Issue.at_]

theorem mem_path_memberViolations_iff {operands : List (String × Json)} {members : Entries Json}
    {path : List String} :
    path ∈ (Json.memberViolations operands members).map Json.Violation.path ↔
      ∃ operand ∈ operands, ∃ part, Entries.get? members operand.1 = some part ∧
        ∃ rest ∈ Json.places operand.2 part, path = operand.1 :: rest := by
  induction operands with
  | nil => simp [Json.memberViolations]
  | cons operand others ih =>
      rw [Json.memberViolations, List.map_append, List.mem_append, ih, List.exists_mem_cons_iff]
      apply or_congr_left
      cases Entries.get? members operand.1 with
      | none => simp
      | some part => simp [Json.places, eq_comm]

theorem mem_places_document_object_iff {fields : List (String × Schema)}
    (distinct : (Entries.keys fields).Nodup) {members : Entries Json} {path : List String} :
    path ∈ Json.places (document (.object fields false)) (.object members) ↔
      ∃ field ∈ fields, FieldBlamed field
        ((Entries.get? members field.1).map (Json.places (document field.2))) path := by
  have documentsDistinct : (Entries.keys (fieldDocuments fields)).Nodup := by
    rwa [keys_fieldDocuments]
  rw [document, places_objectDocument, List.mem_append, mem_path_memberViolations_iff]
  simp only [Entries.mem_ofList documentsDistinct]
  simp only [fieldDocuments_eq_map, List.mem_map, mem_missingNames_iff, mem_requiredNames_iff]
  constructor
  · rintro (⟨_, ⟨field, isField, rfl⟩, part, found, blamed⟩ |
      ⟨_, ⟨⟨field, isField, required, rfl⟩, absent⟩, rfl⟩)
    · exact ⟨field, isField, by rwa [found]⟩
    · exact ⟨field, isField, by rw [absent]; exact ⟨required, rfl⟩⟩
  · rintro ⟨field, isField, blamed⟩
    cases found : Entries.get? members field.1 with
    | some part =>
        rw [found] at blamed
        exact .inl ⟨_, ⟨field, isField, rfl⟩, part, found, blamed⟩
    | none =>
        rw [found] at blamed
        exact .inr ⟨_, ⟨⟨field, isField, blamed.1, rfl⟩, found⟩, blamed.2.symm⟩

/-- A field is blamed alike by whoever blames the same places in its member. -/
theorem fieldBlamed_congr {field : String × Schema} {found : Option Value}
    {left right : Value → List (List String)}
    (same : ∀ part, found = some part → ∀ path, path ∈ left part ↔ path ∈ right part)
    (path : List String) :
    FieldBlamed field (found.map left) path ↔ FieldBlamed field (found.map right) path := by
  cases found with
  | none => rfl
  | some part => simp only [Option.map_some, FieldBlamed, same part rfl]

/-! ## Both checkers -/

/-- The walk and the document blame the same places. -/
def PlacesAgree (schema : Schema) (value : Value) : Prop :=
  ∀ path, path ∈ (walk .converting schema value).places ↔
    path ∈ Json.places (document schema) (walk .converting schema value).value.toJson

theorem AllHere.mem_iff {places : List (List String)} {path : List String}
    (here : AllHere places) : path ∈ places ↔ path = [] ∧ places ≠ [] := by
  constructor
  · intro isPlace
    exact ⟨here path isPlace, List.ne_nil_of_mem isPlace⟩
  · rintro ⟨rfl, some⟩
    obtain ⟨first, isFirst⟩ := List.exists_mem_of_ne_nil places some
    rwa [here first isFirst] at isFirst

/-- What is wrong as a whole for both is wrong for both or for neither. -/
theorem placesAgree_of_allHere (wellFormed : schema.wellFormed) (shared : schema.Shared)
    (plain : value.Plain) (walked : AllHere (walk .converting schema value).places)
    (judged : AllHere
      (Json.places (document schema) (walk .converting schema value).value.toJson)) :
    PlacesAgree schema value := by
  intro path
  have sameJudgement : (walk .converting schema value).places = [] ↔
      Json.places (document schema) (walk .converting schema value).value.toJson = [] := by
    rw [Walked.places_eq_nil_iff, Json.places_eq_nil_iff]
    exact ⟨meets_of_clean wellFormed shared plain, clean_of_walked_meets wellFormed shared plain⟩
  rw [walked.mem_iff, judged.mem_iff, Ne, sameJudgement]

/-- A value that the walk takes for one of another kind is wrong as a whole. -/
theorem placesAgree_of_mismatch (wellFormed : schema.wellFormed) (shared : schema.Shared)
    (plain : value.Plain) {expected : String}
    (kept : walk .converting schema value = .mismatch expected value)
    (judged : AllHere (Json.places (document schema) value.toJson)) :
    PlacesAgree schema value := by
  apply placesAgree_of_allHere wellFormed shared plain
  · rw [kept]
    exact allHere_rejected
  · rwa [kept, Walked.value_mismatch]

theorem mem_flatMap_below_congr {α : Type} {items : List α} {step : α → String}
    {left right : α → List (List String)}
    (same : ∀ item ∈ items, ∀ path, path ∈ left item ↔ path ∈ right item) (path : List String) :
    (path ∈ items.flatMap fun item => (left item).map (List.cons (step item))) ↔
      path ∈ items.flatMap fun item => (right item).map (List.cons (step item)) := by
  simp only [List.mem_flatMap, List.mem_map]
  apply exists_congr
  intro item
  apply and_congr_right
  intro isItem
  simp only [same item isItem]

theorem placesAgree_array {items : Schema} (wellFormed : (array items).wellFormed)
    (shared : (array items).Shared) (plain : value.Plain)
    (each : ∀ {item : Value}, item.Plain → PlacesAgree items item) :
    PlacesAgree (.array items) value := by
  by_cases isArray : ∃ values, value = .array values
  · obtain ⟨values, rfl⟩ := isArray
    cases plain with
    | array plainEach =>
        intro path
        rw [places_walk_array, value_walk_array, Value.toJson_array, places_document_array,
          List.map_map, List.zipIdx_map, List.flatMap_map]
        apply mem_flatMap_below_congr
        intro item isItem
        exact each (plainEach _ (List.fst_mem_of_mem_zipIdx isItem))
  · rw [not_exists] at isArray
    apply placesAgree_of_mismatch wellFormed shared plain (walk_array_of_other isArray)
    exact allHere_document_array (Value.toJson_ne_array isArray)

theorem placesAgree_record {values : Schema} (wellFormed : (record values).wellFormed)
    (shared : (record values).Shared) (plain : value.Plain)
    (each : ∀ {part : Value}, part.Plain → PlacesAgree values part) :
    PlacesAgree (.record values) value := by
  by_cases isObject : ∃ members, value = .object members
  · obtain ⟨members, rfl⟩ := isObject
    cases plain with
    | object plainEach =>
        intro path
        rw [places_walk_record, value_walk_record, Value.toJson_object, places_document_record,
          List.map_map, List.flatMap_map]
        apply mem_flatMap_below_congr
        intro member isMember
        exact each (plainEach member isMember)
  · rw [not_exists] at isObject
    apply placesAgree_of_mismatch wellFormed shared plain (walk_record_of_other isObject)
    exact allHere_document_record (Value.toJson_ne_object isObject)

theorem placesAgree_object {fields : List (String × Schema)}
    (wellFormed : (object fields false).wellFormed) (shared : (object fields false).Shared)
    (plain : value.Plain)
    (each : ∀ field ∈ fields, ∀ {part : Value}, part.Plain → PlacesAgree field.2 part) :
    PlacesAgree (.object fields false) value := by
  by_cases isObject : ∃ members, value = .object members
  · obtain ⟨members, rfl⟩ := isObject
    obtain ⟨distinct, _⟩ := wellFormed_object_iff.mp wellFormed
    cases plain with
    | object plainEach =>
        intro path
        -- The walk takes the fields as they are declared.  The document takes them by name, and
        -- those that are missing last, so the two lists have their members alone in common.
        rw [mem_places_walk_object_iff, value_walk_object, Value.toJson_object,
          mem_places_document_object_iff distinct]
        apply exists_congr
        intro field
        apply and_congr_right
        intro isField
        rw [Entries.get?_map (fun _ => Value.toJson), get?_walkedMembers_of_mem distinct isField,
          Option.map_map, Option.map_map]
        apply fieldBlamed_congr
        intro part found
        exact each field isField (plainEach _ (Entries.mem_of_get? found))
  · rw [not_exists] at isObject
    apply placesAgree_of_mismatch wellFormed shared plain (walk_object_of_other isObject)
    rw [document]
    exact allHere_objectDocument (Value.toJson_ne_object isObject)

theorem placesAgree {schema : Schema} (wellFormed : schema.wellFormed)
    (traceable : Traceable schema) (plain : value.Plain) : PlacesAgree schema value := by
  have shared := traceable.shared
  induction traceable generalizing value with
  | leaf leaf =>
      exact placesAgree_of_allHere wellFormed shared plain leaf.allHere_walk leaf.allHere_document
  | array inner ih =>
      apply placesAgree_array wellFormed shared plain
      intro item itemPlain
      exact ih (wellFormed_array ▸ wellFormed) itemPlain inner.shared
  | object each ih =>
      obtain ⟨_, fieldsWellFormed⟩ := wellFormed_object_iff.mp wellFormed
      apply placesAgree_object wellFormed shared plain
      intro field isField part partPlain
      exact ih field isField (fieldsWellFormed field isField) partPlain (each field isField).shared
  | record inner ih =>
      apply placesAgree_record wellFormed shared plain
      intro part partPlain
      exact ih (wellFormed_record ▸ wellFormed) partPlain inner.shared
  | promise inner ih => exact ih (wellFormed_promise ▸ wellFormed) plain inner.shared

end Schema

/-! ## What is reported -/

namespace Checker

variable {schema : Schema} {wellFormed : schema.wellFormed} {value : Value}

theorem blames_native :
    blames ⟨.native, schema, wellFormed⟩ value =
      (schema.walk .converting value).places.toFinset := by
  cases parsed : parse ⟨.native, schema, wellFormed⟩ value with
  | ok converted =>
      obtain ⟨clean, _⟩ := parse_native_eq_ok_iff.mp parsed
      rw [blames, parsed, Walked.places_eq_nil_iff.mpr clean]
      rfl
  | error issues =>
      obtain ⟨_, same⟩ := Schema.parse_eq_error_iff.mp parsed
      rw [blames, parsed, Walked.places, same]

theorem blames_document :
    blames ⟨.document, schema, wellFormed⟩ value =
      (Json.places schema.document (schema.walk .converting value).value.toJson).toFinset := by
  simp only [blames, parse, Json.places]
  cases schema.document.violations (schema.walk .converting value).value.toJson with
  | nil => rfl
  | cons violation rest =>
      have paths : (violation :: rest).map (Issue.path ∘ Json.Violation.toIssue) =
          (violation :: rest).map Json.Violation.path :=
        List.map_congr_left fun _ _ => Json.Violation.path_toIssue
      exact congrArg List.toFinset (List.map_map.trans paths)

end Checker

/-- Both checkers blame the same places in whatever was read from JSON. -/
theorem Schema.blames_document_eq_blames_native (schema : Schema) (wellFormed : schema.wellFormed)
    (traceable : schema.Traceable) (json : Json) :
    Checker.blames ⟨.document, schema, wellFormed⟩ (.ofJson json) =
      Checker.blames ⟨.native, schema, wellFormed⟩ (.ofJson json) := by
  rw [Checker.blames_native, Checker.blames_document]
  ext path
  rw [List.mem_toFinset, List.mem_toFinset]
  exact (placesAgree wellFormed traceable (Value.plain_ofJson json) path).symm

/-- Names with slashes and tildes: an item of a list lacks a member and has another of the wrong
kind, and an optional member is no truth value. -/
theorem Schema.blames_document_sample :
    Checker.blames
        ⟨.document,
          .object [("a/b", .array (.object [("~1", .number), ("/", .null)] false)),
            ("~", .optional .boolean)] false,
          by decide⟩
        (.ofJson (.object [("a/b", .array [.object [("~1", .string "x")]]), ("~", .array [])])) =
      {["a/b", "0", "~1"], ["a/b", "0", "/"], ["~"]} :=
  (blames_document_eq_blames_native _ (by decide)
    (.object (by
      simp only [List.forall_mem_cons, List.not_mem_nil, false_implies, implies_true, and_true]
      refine ⟨.array (.object ?_), .leaf (.optional .boolean)⟩
      simp only [List.forall_mem_cons, List.not_mem_nil, false_implies, implies_true, and_true]
      exact ⟨.leaf .number, .leaf .null⟩)) _).trans (by rfl)

end ApiContract
