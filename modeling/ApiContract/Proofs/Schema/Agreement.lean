import ApiContract.Proofs.Schema.Conformance
import ApiContract.Proofs.Schema.Walk
import ApiContract.Schema.Backend

/-!
# The two checkers agree

The native checker judges a value while it walks along the schema.  The other one
judges by the document of the schema, and what it judges is the result of that same
walk: converted where the leaves fit, and left as it was where they do not.  So both
directions of the agreement need a fact about values that no walk has touched: one
that meets the document as it stands is clean under the converting walk.
-/

namespace ApiContract

/-! ## The JSON of plain values -/

namespace Value

variable {value : Value}

/-- The value is of a type of JSON values. Big integers count as numbers. -/
def isOfType (typeName : String) (value : Value) : Bool :=
  match value.asBinary64? with
  | some float => typeName == "number" || (typeName == "integer" && float.isIntegral)
  | none => typeName == value.kind

theorem Plain.exists_written {float : Binary64} (plain : Plain value)
    (reads : value.asBinary64? = some float) :
    ∃ written : JsonNumber, value.toJson = .number written ∧
      written.isIntegral = float.isIntegral := by
  cases plain with
  | @number found finite =>
      obtain rfl : found = float := by simpa [asBinary64?] using reads
      cases found with
      | finite finiteFloat => exact Binary64.exists_toJson_finite finiteFloat
      | infinity _ | nan => simp [Binary64.isFinite] at finite
  | @bigint found lower upper =>
      obtain rfl : found.toBinary64 = float := by simpa [asBinary64?] using reads
      rcases Int128.exists_toJson lower upper with ⟨written, shape, integral⟩
      exact ⟨written, shape, integral.trans found.isIntegral_toBinary64.symm⟩
  | _ => simp [asBinary64?] at reads

theorem Plain.isFinite {float : Binary64} (plain : Plain value)
    (reads : value.asBinary64? = some float) : float.isFinite := by
  cases plain with
  | @number found finite =>
      obtain rfl : found = float := by simpa [asBinary64?] using reads
      exact finite
  | @bigint found _ _ =>
      obtain rfl : found.toBinary64 = float := by simpa [asBinary64?] using reads
      exact Binary64.isFinite_of_isIntegral found.isIntegral_toBinary64
  | _ => simp [asBinary64?] at reads

/-- A plain value and its JSON are of the same types. -/
theorem Plain.hasType_toJson (plain : Plain value) (typeName : String) :
    value.toJson.hasType typeName = value.isOfType typeName := by
  rw [isOfType]
  cases reads : value.asBinary64? with
  | some float =>
      rcases plain.exists_written reads with ⟨written, shape, integral⟩
      rw [shape, Json.hasType, integral]
  | none =>
      cases plain with
      | number _ | bigint _ _ => simp [asBinary64?] at reads
      | _ => simp [toJson, Json.hasType, Json.kind, kind]

theorem exists_array_of_toJson {items : List Json} (shape : value.toJson = .array items) :
    ∃ values, value = .array values ∧ items = values.map toJson := by
  cases value with
  | array values => exact ⟨values, rfl, by simpa using shape.symm⟩
  | _ => simp [toJson] at shape

theorem exists_object_of_toJson {entries : Entries Json}
    (shape : value.toJson = .object entries) :
    ∃ members, value = .object members ∧
      entries = members.map fun member => (member.1, toJson member.2) := by
  cases value with
  | object members => exact ⟨members, rfl, by simpa using shape.symm⟩
  | _ => simp [toJson] at shape

theorem toJson_ne_array (other : ∀ values, value ≠ .array values) (items : List Json) :
    value.toJson ≠ .array items := by
  intro shape
  rcases exists_array_of_toJson shape with ⟨values, same, _⟩
  exact other values same

theorem toJson_ne_object (other : ∀ members, value ≠ .object members) (entries : Entries Json) :
    value.toJson ≠ .object entries := by
  intro shape
  rcases exists_object_of_toJson shape with ⟨members, same, _⟩
  exact other members same

end Value

theorem Value.isOfType_null_iff {value : Value} : value.isOfType "null" ↔ value.isNull := by
  cases value <;> simp [isOfType, asBinary64?, kind, isNull]

/-- The literal is a text or a truth value. -/
def Literal.isTextOrTruth : Literal → Bool
  | .string _ | .bool _ => true
  | .number _ => false

namespace Schema

/-- A schema of which both checkers have the same notion.  Big integers, instants and
numeric literals have no exact likeness in JSON, and the walk drops what a strict
object does not declare before the document is asked. -/
inductive Shared : Schema → Prop where
  | any : Shared .any
  | unknown : Shared .unknown
  | null : Shared .null
  | string : Shared .string
  | number : Shared .number
  | integer : Shared .integer
  | boolean : Shared .boolean
  | literal {expected : Literal} (exact : expected.isTextOrTruth) : Shared (.literal expected)
  | enumeration {literals : List Literal}
      (exact : ∀ expected ∈ literals, expected.isTextOrTruth) : Shared (.enumeration literals)
  | array {items : Schema} (inner : Shared items) : Shared (.array items)
  | object {fields : List (String × Schema)} (each : ∀ field ∈ fields, Shared field.2) :
      Shared (.object fields false)
  | record {values : Schema} (inner : Shared values) : Shared (.record values)
  | union {members : List Schema} (each : ∀ member ∈ members, Shared member) :
      Shared (.union members)
  | optional {inner : Schema} (shared : Shared inner) : Shared (.optional inner)
  | promise {resolved : Schema} (inner : Shared resolved) : Shared (.promise resolved)
  | function {parameters : List Schema} {result : Schema} : Shared (.function parameters result)

variable {value : Value}

/-! ## Leaves of plain values -/

theorem meets_type_iff {expected typeName : String} (plain : value.Plain) :
    value.toJson.Meets (leafDocument expected typeName) ↔ value.isOfType typeName := by
  rw [meets_leafDocument_iff, plain.hasType_toJson]

theorem meets_null_iff (plain : value.Plain) :
    value.toJson.Meets (document .null) ↔ value.isNull := by
  rw [document, meets_type_iff plain, Value.isOfType_null_iff]

theorem meets_string_iff (plain : value.Plain) :
    value.toJson.Meets (document .string) ↔ value.asString?.isSome := by
  rw [document, meets_type_iff plain]
  cases value <;> simp [Value.isOfType, Value.asBinary64?, Value.kind, Value.asString?]

theorem meets_number_iff (plain : value.Plain) :
    value.toJson.Meets (document .number) ↔ ∃ float, value.asBinary64? = some float := by
  rw [document, meets_type_iff plain]
  cases value <;> simp [Value.isOfType, Value.asBinary64?, Value.kind]

theorem meets_integer_iff (plain : value.Plain) :
    value.toJson.Meets (document .integer) ↔
      ∃ float, value.asBinary64? = some float ∧ float.isIntegral := by
  rw [document, meets_type_iff plain]
  cases value <;> simp [Value.isOfType, Value.asBinary64?, Value.kind]

theorem meets_boolean_iff (plain : value.Plain) :
    value.toJson.Meets (document .boolean) ↔ ∃ truth, value = .bool truth := by
  rw [document, meets_type_iff plain]
  cases value <;> simp [Value.isOfType, Value.asBinary64?, Value.kind]

theorem sameValue_toJson_iff {expected : Literal} (exact : expected.isTextOrTruth)
    (plain : value.Plain) :
    Json.sameValue expected.toJson value.toJson ↔ expected.isMatchedBy value := by
  cases reads : value.asBinary64? with
  | some float =>
      rcases plain.exists_written reads with ⟨written, shape, _⟩
      cases expected <;> cases value <;>
        simp_all [Literal.toJson, Literal.isMatchedBy, Literal.isTextOrTruth, Json.sameValue,
          Value.asBinary64?]
  | none =>
      cases plain with
      | number _ | bigint _ _ => simp [Value.asBinary64?] at reads
      | _ =>
          cases expected <;>
            simp_all [Literal.toJson, Literal.isMatchedBy, Literal.isTextOrTruth, Json.sameValue,
              Value.toJson]

theorem matchesConstant_toJson_iff {expected : Literal} (exact : expected.isTextOrTruth)
    (plain : value.Plain) :
    Json.matchesConstant expected.toJson value.toJson ↔ expected.isMatchedBy value := by
  rw [← sameValue_toJson_iff exact plain]
  cases expected with
  | number _ => simp [Literal.isTextOrTruth] at exact
  | _ => simp [Literal.toJson, Json.matchesConstant]

theorem isOfType_of_isMatchedBy {expected : Literal} (matched : expected.isMatchedBy value) :
    value.isOfType expected.typeName := by
  cases expected <;> cases value <;>
    simp_all [Literal.isMatchedBy, Literal.typeName, Value.isOfType, Value.asBinary64?, Value.kind]

/-- The type that the document of a literal names beside the constant asks for nothing
more. -/
theorem meets_matched_iff {expected : Literal} (exact : expected.isTextOrTruth)
    (plain : value.Plain) :
    value.toJson.Meets (document (.literal expected)) ↔ expected.isMatchedBy value := by
  rw [meets_literal_iff, matchesConstant_toJson_iff exact plain, plain.hasType_toJson]
  exact and_iff_left_of_imp isOfType_of_isMatchedBy

/-! ## Fields -/

section Fields

variable {mode : WalkMode} {schema : Schema} {found : Option Value} {toDocument : Value → Json}

/-- A field is clean whose document is met, if a clean walk follows for a value that was
found. -/
theorem clean_outcome_of_fieldMet (met : FieldMet schema (found.map toDocument))
    (follows : ∀ value, found = some value → (toDocument value).Meets (document schema) →
      (walk mode schema value).Clean) :
    (outcome mode schema found).Clean := by
  cases found with
  | none => exact clean_outcome_none.mpr met
  | some value => exact follows value rfl met

/-- The document of a clean field is met, if it follows for a value that was found. -/
theorem fieldMet_of_clean_outcome (clean : (outcome mode schema found).Clean)
    (follows : ∀ value, found = some value → (walk mode schema value).Clean →
      (toDocument value).Meets (document schema)) :
    FieldMet schema (found.map toDocument) := by
  cases found with
  | none => exact clean_outcome_none.mp clean
  | some value => exact follows value rfl clean

end Fields

/-! ## Values that no walk has touched -/

theorem coerceNumber_of_reads {float : Binary64} (reads : value.asBinary64? = some float) :
    value.coerceNumber = some float := by
  cases value <;> simp_all [Value.asBinary64?, Value.coerceNumber]

/-- A plain value that meets the document of a schema is clean under the converting
walk. -/
theorem clean_of_meets {schema : Schema} (wellFormed : schema.wellFormed)
    (shared : schema.Shared) (plain : value.Plain)
    (meets : value.toJson.Meets (document schema)) :
    (walk .converting schema value).Clean := by
  induction shared generalizing value with
  | any | unknown => simp
  | null =>
      rw [walk_null, Walked.clean_require]
      exact (meets_null_iff plain).mp meets
  | string =>
      rw [walk_string, Walked.clean_require]
      exact (meets_string_iff plain).mp meets
  | number =>
      rcases (meets_number_iff plain).mp meets with ⟨float, reads⟩
      rw [walk_number, clean_walkNumber]
      exact ⟨float, coerceNumber_of_reads reads, by simp⟩
  | integer =>
      rcases (meets_integer_iff plain).mp meets with ⟨float, reads, integral⟩
      rw [walk_integer, clean_walkNumber]
      exact ⟨float, coerceNumber_of_reads reads, fun _ => integral⟩
  | boolean =>
      rcases (meets_boolean_iff plain).mp meets with ⟨truth, rfl⟩
      simp [walk_boolean, walkLeaf, WalkMode.boolean?, Value.coerceBoolean]
  | literal exact =>
      rw [walk_literal, Walked.clean_require]
      exact (meets_matched_iff exact plain).mp meets
  | enumeration exact =>
      rcases meets_enumeration_iff.mp meets with ⟨expected, isListed, same⟩
      rw [walk_enumeration, Walked.clean_require, List.any_eq_true]
      exact ⟨expected, isListed, (sameValue_toJson_iff (exact expected isListed) plain).mp same⟩
  | array _ ih =>
      rcases meets_array_iff.mp meets with ⟨items, shape, itemsMeet⟩
      rcases Value.exists_array_of_toJson shape with ⟨values, rfl, rfl⟩
      cases plain with
      | array each =>
          rw [clean_walk_array_iff]
          refine ⟨values, rfl, ?_⟩
          intro value member
          exact ih (wellFormed_array ▸ wellFormed) (each value member)
            (itemsMeet _ (List.mem_map_of_mem member))
  | @object fields _ ih =>
      rcases wellFormed_object_iff.mp wellFormed with ⟨distinct, fieldsWellFormed⟩
      rcases (meets_object_iff distinct).mp meets with ⟨entries, shape, fieldsMet, _⟩
      rcases Value.exists_object_of_toJson shape with ⟨members, rfl, rfl⟩
      cases plain with
      | object each =>
          rw [clean_walk_object_iff]
          refine ⟨members, rfl, ?_, by simp⟩
          intro field isField
          have fieldMet := fieldsMet field isField
          rw [Entries.get?_map (fun _ => Value.toJson)] at fieldMet
          apply clean_outcome_of_fieldMet fieldMet
          intro value found valueMeets
          exact ih field isField (fieldsWellFormed field isField)
            (each _ (Entries.mem_of_get? found)) valueMeets
  | record _ ih =>
      rcases meets_record_iff.mp meets with ⟨entries, shape, membersMeet⟩
      rcases Value.exists_object_of_toJson shape with ⟨members, rfl, rfl⟩
      cases plain with
      | object each =>
          rw [clean_walk_record_iff]
          refine ⟨members, rfl, ?_⟩
          intro member isMember
          exact ih (wellFormed_record ▸ wellFormed) (each member isMember)
            (membersMeet _ (List.mem_map_of_mem isMember))
  | union each ih =>
      rcases meets_union_iff.mp meets with ⟨member, isMember, memberMeets⟩
      have memberWellFormed := (wellFormed_union_iff.mp wellFormed).2 member isMember
      rw [clean_walk_union_iff]
      exact ⟨member, isMember, ih member isMember memberWellFormed plain memberMeets⟩
  | optional _ ih =>
      rw [clean_walk_optional_iff]
      rcases meets_optional_iff.mp meets with innerMeets | isNull
      · right
        exact ih (wellFormed_optional ▸ wellFormed) plain innerMeets
      · left
        rwa [plain.hasType_toJson, Value.isOfType_null_iff] at isNull
  | promise _ ih =>
      rw [walk_promise]
      exact ih (wellFormed_promise ▸ wellFormed) plain (meets_promise_iff.mp meets)
  | function => exact absurd meets not_meets_function

/-! ## Values that a walk has converted -/

theorem isFinite_coerceNumber {float : Binary64} (plain : value.Plain)
    (passes : value.coerceNumber = some float) : float.isFinite := by
  cases reads : value.asBinary64? with
  | some found =>
      obtain rfl : found = float := by simpa [coerceNumber_of_reads reads] using passes
      exact plain.isFinite reads
  | none =>
      cases plain with
      | number _ | bigint _ _ => simp [Value.asBinary64?] at reads
      | null =>
          obtain rfl : Binary64.zero = float := by simpa [Value.coerceNumber] using passes
          rfl
      | bool truth =>
          obtain rfl : Binary64.ofInt (if truth then 1 else 0) = float := by
            simpa [Value.coerceNumber] using passes
          cases truth <;> rfl
      | string text =>
          rw [Value.coerceNumber, Value.readNumber] at passes
          exact (Option.filter_eq_some_iff.mp passes).2
      | array _ | object _ => simp [Value.coerceNumber] at passes

/-- What a clean converting walk makes of a plain value meets the document. -/
theorem meets_of_clean {schema : Schema} (wellFormed : schema.wellFormed)
    (shared : schema.Shared) (plain : value.Plain)
    (clean : (walk .converting schema value).Clean) :
    (walk .converting schema value).value.toJson.Meets (document schema) := by
  induction shared generalizing value with
  | any | unknown => exact meets_any
  | null =>
      rw [walk_null, Walked.clean_require] at clean
      rw [walk_null, Walked.value_require]
      exact (meets_null_iff plain).mpr clean
  | string =>
      rw [walk_string, Walked.clean_require] at clean
      rw [walk_string, Walked.value_require]
      exact (meets_string_iff plain).mpr clean
  | number =>
      rw [walk_number] at clean ⊢
      rcases clean_walkNumber.mp clean with ⟨float, passes, _⟩
      have converted : (Value.number float).Plain := .number (isFinite_coerceNumber plain passes)
      rw [value_walkNumber_of_clean passes clean]
      exact (meets_number_iff converted).mpr ⟨float, rfl⟩
  | integer =>
      rw [walk_integer] at clean ⊢
      rcases clean_walkNumber.mp clean with ⟨float, passes, integral⟩
      have converted : (Value.number float).Plain := .number (isFinite_coerceNumber plain passes)
      rw [value_walkNumber_of_clean passes clean]
      exact (meets_integer_iff converted).mpr ⟨float, rfl, integral rfl⟩
  | boolean =>
      rw [walk_boolean] at clean ⊢
      rcases exists_value_walkLeaf_of_clean clean with ⟨_, fits, result⟩
      rcases Option.map_eq_some_iff.mp fits with ⟨truth, _, rfl⟩
      rw [result]
      exact (meets_boolean_iff (.bool truth)).mpr ⟨truth, rfl⟩
  | literal exact =>
      rw [walk_literal, Walked.clean_require] at clean
      rw [walk_literal, Walked.value_require]
      exact (meets_matched_iff exact plain).mpr clean
  | enumeration exact =>
      rw [walk_enumeration, Walked.clean_require, List.any_eq_true] at clean
      rcases clean with ⟨expected, isListed, matched⟩
      rw [walk_enumeration, Walked.value_require, meets_enumeration_iff]
      exact ⟨expected, isListed, (sameValue_toJson_iff (exact expected isListed) plain).mpr matched⟩
  | array _ ih =>
      rcases clean_walk_array_iff.mp clean with ⟨values, rfl, itemsClean⟩
      cases plain with
      | array each =>
          rw [value_walk_array, Value.toJson_array, meets_array_iff]
          refine ⟨_, rfl, ?_⟩
          simp only [List.forall_mem_map]
          intro item member
          exact ih (wellFormed_array ▸ wellFormed) (each item member) (itemsClean item member)
  | @object fields _ ih =>
      rcases wellFormed_object_iff.mp wellFormed with ⟨distinct, fieldsWellFormed⟩
      rcases clean_walk_object_iff.mp clean with ⟨members, rfl, fieldsClean, _⟩
      cases plain with
      | object each =>
          rw [value_walk_object, Value.toJson_object, meets_object_iff distinct]
          refine ⟨_, rfl, ?_, by simp⟩
          intro field isField
          rw [Entries.get?_map (fun _ => Value.toJson), get?_walkedMembers_of_mem distinct isField,
            Option.map_map]
          apply fieldMet_of_clean_outcome (fieldsClean field isField)
          intro value found valueClean
          exact ih field isField (fieldsWellFormed field isField)
            (each _ (Entries.mem_of_get? found)) valueClean
  | record _ ih =>
      rcases clean_walk_record_iff.mp clean with ⟨members, rfl, membersClean⟩
      cases plain with
      | object each =>
          rw [value_walk_record, Value.toJson_object, meets_record_iff]
          refine ⟨_, rfl, ?_⟩
          simp only [List.forall_mem_map]
          intro member isMember
          exact ih (wellFormed_record ▸ wellFormed) (each member isMember)
            (membersClean member isMember)
  | union each ih =>
      rcases exists_value_walk_union clean with ⟨member, isMember, memberClean, result⟩
      have memberWellFormed := (wellFormed_union_iff.mp wellFormed).2 member isMember
      rw [result, meets_union_iff]
      exact ⟨member, isMember, ih member isMember memberWellFormed plain memberClean⟩
  | optional _ ih =>
      rw [meets_optional_iff]
      cases null : value.isNull with
      | true =>
          right
          rw [walk_optional, if_pos null]
          rfl
      | false =>
          left
          rw [walk_optional_of_present null] at clean ⊢
          exact ih (wellFormed_optional ▸ wellFormed) plain clean
  | promise _ ih =>
      rw [walk_promise] at clean ⊢
      exact meets_promise_iff.mpr (ih (wellFormed_promise ▸ wellFormed) plain clean)
  | function => exact absurd clean not_clean_walk_function

/-! ## Values that a walk has given up on -/

/-- A value that a walk finds fault with is kept, or is a list or an object as before. -/
theorem value_walk_of_not_clean {mode : WalkMode} {schema : Schema}
    (unclean : ¬(walk mode schema value).Clean) :
    (walk mode schema value).value = value ∨
      (walk mode schema value).value.toJson.hasType "null" = false := by
  induction schema with
  | any | unknown => exact .inl (by simp)
  | null | string | literal _ | enumeration _ =>
      exact .inl (by simp [walk_null, walk_string, walk_literal, walk_enumeration])
  | number | integer =>
      simp only [walk_number, walk_integer] at unclean ⊢
      exact .inl (value_walkNumber_of_not_clean unclean)
  | bigint | boolean | date =>
      simp only [walk_bigint, walk_boolean, walk_date] at unclean ⊢
      exact .inl (value_walkLeaf_of_not_clean unclean)
  | array items _ =>
      cases value with
      | array values => exact .inr (by simp [value_walk_array, Json.hasType, Json.kind])
      | _ => exact .inl (by simp [walk_array_of_other])
  | object fields strict _ =>
      cases value with
      | object members => exact .inr (by simp [value_walk_object, Json.hasType, Json.kind])
      | _ => exact .inl (by simp [walk_object_of_other])
  | record values _ =>
      cases value with
      | object members => exact .inr (by simp [value_walk_record, Json.hasType, Json.kind])
      | _ => exact .inl (by simp [walk_record_of_other])
  | union members _ => exact .inl (value_walk_union_of_not_clean unclean)
  | optional inner ih =>
      rw [clean_walk_optional_iff, not_or, Bool.not_eq_true] at unclean
      rw [walk_optional_of_present unclean.1]
      exact ih unclean.2
  | promise resolved ih =>
      rw [walk_promise] at unclean ⊢
      exact ih unclean
  | function parameters result _ _ => exact .inl (by rw [walk_function, Walked.value_rejected])

/-- Where a walk keeps what it finds fault with, the document finds the fault too. -/
theorem clean_of_keeps {schema : Schema} (wellFormed : schema.wellFormed)
    (shared : schema.Shared) (plain : value.Plain)
    (keeps : ¬(walk .converting schema value).Clean →
      (walk .converting schema value).value = value)
    (meets : (walk .converting schema value).value.toJson.Meets (document schema)) :
    (walk .converting schema value).Clean := by
  by_contra unclean
  rw [keeps unclean] at meets
  exact unclean (clean_of_meets wellFormed shared plain meets)

/-- When what the converting walk makes of a plain value meets the document, the walk
was clean. -/
theorem clean_of_walked_meets {schema : Schema} (wellFormed : schema.wellFormed)
    (shared : schema.Shared) (plain : value.Plain)
    (meets : (walk .converting schema value).value.toJson.Meets (document schema)) :
    (walk .converting schema value).Clean := by
  induction shared generalizing value with
  | any | unknown => simp
  | null =>
      refine clean_of_keeps wellFormed .null plain (fun _ => ?_) meets
      rw [walk_null, Walked.value_require]
  | string =>
      refine clean_of_keeps wellFormed .string plain (fun _ => ?_) meets
      rw [walk_string, Walked.value_require]
  | number =>
      refine clean_of_keeps wellFormed .number plain (fun unclean => ?_) meets
      rw [walk_number] at unclean ⊢
      exact value_walkNumber_of_not_clean unclean
  | integer =>
      refine clean_of_keeps wellFormed .integer plain (fun unclean => ?_) meets
      rw [walk_integer] at unclean ⊢
      exact value_walkNumber_of_not_clean unclean
  | boolean =>
      refine clean_of_keeps wellFormed .boolean plain (fun unclean => ?_) meets
      rw [walk_boolean] at unclean ⊢
      exact value_walkLeaf_of_not_clean unclean
  | literal exact =>
      refine clean_of_keeps wellFormed (.literal exact) plain (fun _ => ?_) meets
      rw [walk_literal, Walked.value_require]
  | enumeration exact =>
      refine clean_of_keeps wellFormed (.enumeration exact) plain (fun _ => ?_) meets
      rw [walk_enumeration, Walked.value_require]
  | array _ ih =>
      rcases meets_array_iff.mp meets with ⟨items, shape, itemsMeet⟩
      rcases Value.exists_array_of_toJson shape with ⟨results, arrived, rfl⟩
      rcases exists_array_of_value_walk arrived with ⟨values, rfl, rfl⟩
      cases plain with
      | array each =>
          simp only [List.forall_mem_map] at itemsMeet
          rw [clean_walk_array_iff]
          refine ⟨values, rfl, ?_⟩
          intro item member
          exact ih (wellFormed_array ▸ wellFormed) (each item member) (itemsMeet item member)
  | @object fields _ ih =>
      rcases wellFormed_object_iff.mp wellFormed with ⟨distinct, fieldsWellFormed⟩
      rcases (meets_object_iff distinct).mp meets with ⟨entries, shape, fieldsMet, _⟩
      rcases Value.exists_object_of_toJson shape with ⟨results, arrived, rfl⟩
      rcases exists_object_of_value_walk_object arrived with ⟨members, rfl, rfl⟩
      cases plain with
      | object each =>
          rw [clean_walk_object_iff]
          refine ⟨members, rfl, ?_, by simp⟩
          intro field isField
          have fieldMet := fieldsMet field isField
          rw [Entries.get?_map (fun _ => Value.toJson),
            get?_walkedMembers_of_mem distinct isField, Option.map_map] at fieldMet
          apply clean_outcome_of_fieldMet fieldMet
          intro value found valueMeets
          exact ih field isField (fieldsWellFormed field isField)
            (each _ (Entries.mem_of_get? found)) valueMeets
  | record _ ih =>
      rcases meets_record_iff.mp meets with ⟨entries, shape, membersMeet⟩
      rcases Value.exists_object_of_toJson shape with ⟨results, arrived, rfl⟩
      rcases exists_object_of_value_walk_record arrived with ⟨members, rfl, rfl⟩
      cases plain with
      | object each =>
          simp only [List.forall_mem_map] at membersMeet
          rw [clean_walk_record_iff]
          refine ⟨members, rfl, ?_⟩
          intro member isMember
          exact ih (wellFormed_record ▸ wellFormed) (each member isMember)
            (membersMeet member isMember)
  | union each ih =>
      -- No member converts a value that none accepts, so nothing needs to be known of them.
      exact clean_of_keeps wellFormed (.union each) plain value_walk_union_of_not_clean meets
  | optional _ ih =>
      rw [clean_walk_optional_iff]
      cases null : value.isNull with
      | true => exact .inl rfl
      | false =>
          right
          rw [walk_optional_of_present null] at meets
          rcases meets_optional_iff.mp meets with innerMeets | isNull
          · exact ih (wellFormed_optional ▸ wellFormed) plain innerMeets
          · by_contra unclean
            -- The null branch of the document must not save a value that the walk gave up on.
            rcases value_walk_of_not_clean unclean with kept | notNull
            · rw [kept, plain.hasType_toJson, Value.isOfType_null_iff, null] at isNull
              exact Bool.false_ne_true isNull
            · rw [notNull] at isNull
              exact Bool.false_ne_true isNull
  | promise _ ih =>
      rw [walk_promise] at meets ⊢
      exact ih (wellFormed_promise ▸ wellFormed) plain (meets_promise_iff.mp meets)
  | function => exact absurd meets not_meets_function

end Schema

/-! ## The two checkers -/

namespace Checker

variable {schema : Schema} {wellFormed : schema.wellFormed} {value converted : Value}

theorem parse_native_eq_ok_iff :
    parse ⟨.native, schema, wellFormed⟩ value = .ok converted ↔
      (schema.walk .converting value).Clean ∧ (schema.walk .converting value).value = converted :=
  Schema.parse_eq_ok_iff

theorem parse_document_eq_ok_iff :
    parse ⟨.document, schema, wellFormed⟩ value = .ok converted ↔
      (schema.walk .converting value).value.toJson.Meets schema.document ∧
        (schema.walk .converting value).value = converted := by
  simp only [parse, Json.Meets]
  cases schema.document.violations (schema.walk .converting value).value.toJson <;> simp

end Checker

/-- The two checkers return the same values for everything read from JSON, and refuse
the same. -/
theorem Schema.parse_document_iff_parse_native (schema : Schema) (wellFormed : schema.wellFormed)
    (shared : schema.Shared) (json : Json) (converted : Value) :
    Checker.parse ⟨.document, schema, wellFormed⟩ (.ofJson json) = .ok converted ↔
      Checker.parse ⟨.native, schema, wellFormed⟩ (.ofJson json) = .ok converted := by
  have plain := Value.plain_ofJson json
  rw [Checker.parse_document_eq_ok_iff, Checker.parse_native_eq_ok_iff]
  apply and_congr_left
  intro _
  exact ⟨clean_of_walked_meets wellFormed shared plain, meets_of_clean wellFormed shared plain⟩

/-- A text becomes an integer in both, and a member that is not declared is kept. -/
theorem Schema.parse_document_sample :
    Checker.parse
        ⟨.document,
          .object [("count", .union [.integer, .boolean]), ("tags", .optional (.array .string))]
            false,
          by decide⟩
        (.ofJson (.object [("count", .string " 7 "), ("extra", .bool true), ("tags", .null)])) =
      .ok (.object [("count", .number (.ofInt 7)), ("extra", .bool true), ("tags", .null)]) :=
  (parse_document_iff_parse_native _ (by decide)
    (.object (by
      simp only [List.mem_cons, List.not_mem_nil, or_false, forall_eq_or_imp, forall_eq]
      exact ⟨.union (by simp [Shared.integer, Shared.boolean]),
        .optional (.array .string)⟩)) _ _).mpr rfl

end ApiContract
