import ApiContract.Proofs.Schema.Agreement

/-!
# Members that a strict object does not declare

The native checker reports a member that a strict object does not declare.  The walk
also drops the member, so that the document is asked about a value in which the member
no longer stands.  This module takes such members out of a value beforehand and shows
what remains of either verdict.
-/

namespace ApiContract

/-- The issue reports a member that a strict object does not declare. -/
def Issue.isUndeclared (issue : Issue) : Bool :=
  "unrecognized key '".toList.isPrefixOf issue.message.toList

/-- An issue whose wording begins with another letter reports something else. -/
theorem Issue.not_isUndeclared_of_head {issue : Issue}
    (other : issue.message.toList.head? ≠ some 'u') : issue.isUndeclared = false := by
  rw [isUndeclared]
  cases shape : issue.message.toList with
  | nil => rfl
  | cons first rest =>
      have differ : first ≠ 'u' := by
        rintro rfl
        simp [shape] at other
      simp [List.isPrefixOf, differ.symm]

/-- The walk without the reports of undeclared members. -/
def Walked.withoutUndeclared (walked : Walked) : Walked where
  value := walked.value
  issues := walked.issues.filter fun issue => !issue.isUndeclared

/-- The outcome without the reports of undeclared members. -/
def FieldOutcome.withoutUndeclared : FieldOutcome → FieldOutcome
  | .omitted => .omitted
  | .missing => .missing
  | .present walked => .present walked.withoutUndeclared

namespace Schema

mutual

/-- The value without the members that strict objects in the schema do not declare.
Nothing below a union is taken out, since only the members of the union know what is
declared there. -/
def withoutUndeclared : Schema → Value → Value
  | .array items, .array values => .array (values.map fun value => withoutUndeclared items value)
  | .object fields strict, .object members =>
      .object <| members.filterMap fun member =>
        (remainder fields strict member.1).map fun convert => (member.1, convert member.2)
  | .record values, .object members =>
      .object (members.map fun member => (member.1, withoutUndeclared values member.2))
  | .optional inner, value => withoutUndeclared inner value
  | .promise resolved, value => withoutUndeclared resolved value
  | .any, value | .unknown, value | .null, value | .string, value | .number, value
  | .integer, value | .bigint, value | .boolean, value | .date, value | .literal _, value
  | .enumeration _, value | .union _, value | .function _ _, value => value
  | .array _, value | .object _ _, value | .record _, value => value

/-- What remains of a member of the given name, unless it is taken out. -/
def remainder : List (String × Schema) → Bool → String → Option (Value → Value)
  | [], strict, _ => if strict then none else some id
  | (declared, schema) :: rest, strict, name =>
      if name = declared then some fun value => withoutUndeclared schema value
      else remainder rest strict name

end

end Schema

/-! ## Walks without the reports -/

namespace Walked

variable {value : Value} {condition : Bool} {message : String}

@[simp] theorem withoutUndeclared_accepted : (accepted value).withoutUndeclared = accepted value :=
  rfl

theorem withoutUndeclared_rejected (other : message.toList.head? ≠ some 'u') :
    (rejected value message).withoutUndeclared = rejected value message := by
  have kept : (Issue.here message).isUndeclared = false :=
    Issue.not_isUndeclared_of_head other
  simp [withoutUndeclared, rejected, kept]

theorem withoutUndeclared_require (other : message.toList.head? ≠ some 'u') :
    (require condition value message).withoutUndeclared = require condition value message := by
  cases condition with
  | true => rfl
  | false => exact withoutUndeclared_rejected other

@[simp] theorem withoutUndeclared_mismatch (expected : String) :
    (mismatch expected value).withoutUndeclared = mismatch expected value := by
  apply withoutUndeclared_rejected
  simp [toString]

theorem issuesBelow_withoutUndeclared (walked : Walked) (key : String) :
    walked.withoutUndeclared.issuesBelow key =
      (walked.issuesBelow key).filter fun issue => !issue.isUndeclared := by
  rw [issuesBelow, issuesBelow, List.filter_map]
  rfl

end Walked

namespace FieldOutcome

theorem issues_withoutUndeclared (outcome : FieldOutcome) (name : String) :
    outcome.withoutUndeclared.issues name =
      (outcome.issues name).filter fun issue => !issue.isUndeclared := by
  cases outcome with
  | omitted => rfl
  | missing =>
      have kept : (Issue.at_ name "required").isUndeclared = false :=
        Issue.not_isUndeclared_of_head (by simp [Issue.at_])
      simp [withoutUndeclared, issues, kept]
  | present walked => exact walked.issuesBelow_withoutUndeclared name

@[simp] theorem value?_withoutUndeclared (outcome : FieldOutcome) :
    outcome.withoutUndeclared.value? = outcome.value? := by
  cases outcome <;> rfl

end FieldOutcome

namespace Schema

variable {mode : WalkMode} {value : Value}

theorem withoutUndeclared_walkLeaf {expected : String} {fitting : Option Value} :
    (walkLeaf expected fitting value).withoutUndeclared = walkLeaf expected fitting value := by
  cases fitting with
  | none => exact Walked.withoutUndeclared_mismatch expected
  | some converted => rfl

theorem withoutUndeclared_walkNumber {whole : Bool} :
    (walkNumber mode whole value).withoutUndeclared = walkNumber mode whole value := by
  rw [walkNumber]
  split
  · split
    · apply Walked.withoutUndeclared_rejected
      simp [toString]
    · rfl
  · exact Walked.withoutUndeclared_mismatch _

theorem withoutUndeclared_walkedArray (items : List Walked) :
    (walkedArray items).withoutUndeclared = walkedArray (items.map Walked.withoutUndeclared) := by
  simp only [walkedArray, Walked.withoutUndeclared, List.map_map, Walked.mk.injEq]
  refine ⟨rfl, ?_⟩
  rw [List.filter_flatMap, List.zipIdx_map, List.flatMap_map]
  apply List.flatMap_congr
  intro placed _
  exact (placed.1.issuesBelow_withoutUndeclared _).symm

theorem withoutUndeclared_walkedRecord (members : List (String × Walked)) :
    (walkedRecord members).withoutUndeclared =
      walkedRecord (members.map fun member => (member.1, member.2.withoutUndeclared)) := by
  simp only [walkedRecord, Walked.withoutUndeclared, List.map_map, Walked.mk.injEq]
  refine ⟨rfl, ?_⟩
  rw [List.filter_flatMap, List.flatMap_map]
  apply List.flatMap_congr
  intro member _
  exact (member.2.issuesBelow_withoutUndeclared _).symm

/-! ## Objects -/

/-- A member keeps what remains of it below its field; without a field it stays where
the object is not strict. -/
theorem remainder_eq (fields : List (String × Schema)) (strict : Bool) (name : String) :
    remainder fields strict name =
      match Entries.get? fields name with
      | some schema => some (withoutUndeclared schema)
      | none => if strict then none else some id := by
  induction fields with
  | nil => rw [remainder, Entries.get?_nil]
  | cons field rest ih =>
      rw [remainder, Entries.get?_cons, ih]
      split <;> rfl

/-- The members of an object that remain. -/
def remainingMembers (fields : List (String × Schema)) (strict : Bool) (members : Entries Value) :
    Entries Value :=
  members.filterMap fun member =>
    (remainder fields strict member.1).map fun convert => (member.1, convert member.2)

theorem get?_remainingMembers (fields : List (String × Schema)) (strict : Bool)
    (members : Entries Value) (name : String) :
    Entries.get? (remainingMembers fields strict members) name =
      (remainder fields strict name).bind fun convert => (Entries.get? members name).map convert :=
  Entries.get?_filterMap (remainder fields strict) members name

/-- No member remains that a strict object does not declare. -/
theorem mem_keys_of_mem_keys_remainingMembers {fields : List (String × Schema)}
    {members : Entries Value} {name : String}
    (member : name ∈ Entries.keys (remainingMembers fields true members)) :
    name ∈ Entries.keys fields := by
  rcases Entries.exists_get?_iff.mpr member with ⟨value, found⟩
  rw [get?_remainingMembers, remainder_eq] at found
  by_contra undeclared
  rw [Entries.get?_eq_none_iff.mpr undeclared] at found
  simp at found

section Fields

variable {fields : List (String × Schema)} {strict : Bool} {members : Entries Value}

theorem walkFields_remainingMembers (distinct : (Entries.keys fields).Nodup)
    (commutes : ∀ field ∈ fields, ∀ value, walk mode field.2 (withoutUndeclared field.2 value) =
      (walk mode field.2 value).withoutUndeclared) :
    walkFields mode fields (remainingMembers fields strict members) =
      (walkFields mode fields members).map fun field => (field.1, field.2.withoutUndeclared) := by
  rw [walkFields_eq_map, walkFields_eq_map, List.map_map]
  apply List.map_congr_left
  intro field isField
  have declared := (Entries.get?_eq_some_iff distinct).mpr isField
  rw [get?_remainingMembers, remainder_eq, declared]
  cases found : Entries.get? members field.1 with
  | none =>
      cases optional : field.2.isOptional <;>
        simp [outcome, found, optional, FieldOutcome.withoutUndeclared]
  | some value => simp [outcome, found, commutes field isField, FieldOutcome.withoutUndeclared]

/-- The walk makes the same members of those that remain. -/
theorem walkedMembers_remainingMembers :
    walkedMembers
        ((walkFields mode fields members).map fun field => (field.1, field.2.withoutUndeclared))
        strict (remainingMembers fields strict members) =
      walkedMembers (walkFields mode fields members) strict members := by
  rw [walkedMembers, remainingMembers, List.filterMap_filterMap]
  apply List.filterMap_congr
  intro member _
  rcases member with ⟨name, value⟩
  have changed := Entries.get?_map (fun _ => FieldOutcome.withoutUndeclared)
    (walkFields mode fields members) name
  have original := @get?_walkFields mode fields members name
  simp only [remainder_eq]
  cases declared : Entries.get? fields name with
  | none =>
      rw [declared, Option.map_none, Entries.get?] at original
      rw [Entries.get?, Entries.get?, original, Option.map_none] at changed
      cases strict <;> simp [original, changed]
  | some schema =>
      rw [declared, Option.map_some, Entries.get?] at original
      rw [Entries.get?, Entries.get?, original, Option.map_some] at changed
      simp [original, changed]

theorem filter_undeclaredIssues (outcomes : List (String × FieldOutcome))
    (members : Entries Value) :
    (undeclaredIssues outcomes members).filter (fun issue => !issue.isUndeclared) = [] := by
  rw [List.filter_eq_nil_iff]
  intro issue reported
  rcases List.mem_filterMap.mp reported with ⟨member, _, found⟩
  dsimp only at found
  split at found
  · cases found
  · obtain rfl := Option.some.inj found
    simp [Issue.at_, Issue.isUndeclared, toString, List.isPrefixOf]

theorem withoutUndeclared_walkedObject (distinct : (Entries.keys fields).Nodup)
    (commutes : ∀ field ∈ fields, ∀ value, walk mode field.2 (withoutUndeclared field.2 value) =
      (walk mode field.2 value).withoutUndeclared) :
    walk mode (.object fields strict) (.object (remainingMembers fields strict members)) =
      (walk mode (.object fields strict) (.object members)).withoutUndeclared := by
  simp only [walk_object, walkFields_remainingMembers distinct commutes, walkedObject,
    Walked.withoutUndeclared, walkedMembers_remainingMembers, List.filter_append,
    List.filter_flatMap, List.flatMap_map, FieldOutcome.issues_withoutUndeclared, Walked.mk.injEq,
    true_and]
  congr 1
  cases strict with
  | false => rfl
  | true =>
      rw [if_pos rfl, if_pos rfl, filter_undeclaredIssues, undeclaredIssues_eq_nil_iff]
      intro name member
      have declared := mem_keys_of_mem_keys_remainingMembers member
      simpa [Entries.keys, walkFields_eq_map] using declared

end Fields

/-! ## Whole schemas -/

theorem isNull_withoutUndeclared (schema : Schema) (value : Value) :
    (withoutUndeclared schema value).isNull = value.isNull := by
  induction schema with
  | optional inner ih => rw [withoutUndeclared, ih]
  | promise resolved ih => rw [withoutUndeclared, ih]
  | array | object | record => cases value <;> simp [withoutUndeclared, Value.isNull]
  | _ => simp [withoutUndeclared]

/-- To take undeclared members out of a value is to take their reports out of the
walk. -/
theorem walk_withoutUndeclared {schema : Schema} (wellFormed : schema.wellFormed)
    (value : Value) :
    walk mode schema (withoutUndeclared schema value) =
      (walk mode schema value).withoutUndeclared := by
  induction schema generalizing value with
  | any | unknown => simp [withoutUndeclared]
  | null | string | literal _ | enumeration _ =>
      simp only [withoutUndeclared, walk_null, walk_string, walk_literal, walk_enumeration]
      rw [Walked.withoutUndeclared_require]
      simp [toString]
  | number | integer =>
      simp only [withoutUndeclared, walk_number, walk_integer, withoutUndeclared_walkNumber]
  | bigint | boolean | date =>
      simp only [withoutUndeclared, walk_bigint, walk_boolean, walk_date,
        withoutUndeclared_walkLeaf]
  | array items ih =>
      cases value with
      | array values =>
          simp only [withoutUndeclared, walk_array, withoutUndeclared_walkedArray, List.map_map]
          congr 1
          exact List.map_congr_left fun value _ => ih (wellFormed_array ▸ wellFormed) value
      | _ => simp [withoutUndeclared, walk_array_of_other]
  | object fields strict ih =>
      rcases wellFormed_object_iff.mp wellFormed with ⟨distinct, fieldsWellFormed⟩
      cases value with
      | object members =>
          rw [withoutUndeclared]
          exact withoutUndeclared_walkedObject distinct fun field isField value =>
            ih field isField (fieldsWellFormed field isField) value
      | _ => simp [withoutUndeclared, walk_object_of_other]
  | record values ih =>
      cases value with
      | object members =>
          simp only [withoutUndeclared, walk_record, withoutUndeclared_walkedRecord, List.map_map]
          congr 1
          apply List.map_congr_left
          intro member _
          exact congrArg (Prod.mk member.1) (ih (wellFormed_record ▸ wellFormed) member.2)
      | _ => simp [withoutUndeclared, walk_record_of_other]
  | union members _ =>
      rw [withoutUndeclared, walk_union]
      split
      · rfl
      · rw [Walked.withoutUndeclared_rejected]
        simp [toString]
  | optional inner ih =>
      rw [withoutUndeclared, walk_optional, walk_optional, isNull_withoutUndeclared]
      cases value.isNull with
      | true => rfl
      | false => exact ih (wellFormed_optional ▸ wellFormed) value
  | promise resolved ih =>
      rw [withoutUndeclared, walk_promise, walk_promise]
      exact ih (wellFormed_promise ▸ wellFormed) value
  | function parameters result _ _ =>
      rw [withoutUndeclared, walk_function, Walked.withoutUndeclared_rejected]
      simp

end Schema

/-! ## The verdicts of the checkers -/

namespace Checker

/-- The checker states issues instead of a value. -/
def Refuses (checker : Checker) (value : Value) : Prop :=
  ∃ issues, checker.parse value = .error issues

variable {schema : Schema} {wellFormed : schema.wellFormed} {value : Value}

theorem parse_native_eq_error_iff {issues : List Issue} :
    parse ⟨.native, schema, wellFormed⟩ value = .error issues ↔
      issues ≠ [] ∧ (schema.walk .converting value).issues = issues :=
  Schema.parse_eq_error_iff

/-- The document is asked about the same value once undeclared members are taken out. -/
theorem parse_document_withoutUndeclared :
    parse ⟨.document, schema, wellFormed⟩ (schema.withoutUndeclared value) =
      parse ⟨.document, schema, wellFormed⟩ value := by
  simp only [parse, Schema.walk_withoutUndeclared wellFormed value, Walked.withoutUndeclared]

end Checker

/-- The document refuses a value with undeclared members exactly when it refuses what
remains without them, and of that the native checker reports the other issues only. -/
theorem Schema.document_refuses_iff_of_undeclared (schema : Schema) (wellFormed : schema.wellFormed)
    (value : Value) (issues : List Issue)
    (refused : Checker.parse ⟨.native, schema, wellFormed⟩ value = .error issues)
    (reported : ∃ issue ∈ issues, issue.isUndeclared) :
    (Checker.Refuses ⟨.document, schema, wellFormed⟩ value ↔
        Checker.Refuses ⟨.document, schema, wellFormed⟩ (schema.withoutUndeclared value)) ∧
      schema.withoutUndeclared value ≠ value ∧
      ∀ others, Checker.parse ⟨.native, schema, wellFormed⟩ (schema.withoutUndeclared value) =
          .error others ↔
        others ≠ [] ∧ others = issues.filter fun issue => !issue.isUndeclared := by
  rcases Checker.parse_native_eq_error_iff.mp refused with ⟨_, found⟩
  have remaining : (schema.walk .converting (schema.withoutUndeclared value)).issues =
      issues.filter fun issue => !issue.isUndeclared := by
    rw [walk_withoutUndeclared wellFormed, Walked.withoutUndeclared, found]
  refine ⟨?_, ?_, ?_⟩
  · rw [Checker.Refuses, Checker.Refuses, Checker.parse_document_withoutUndeclared]
  · intro unchanged
    rcases reported with ⟨issue, isReported, undeclared⟩
    rw [unchanged, found] at remaining
    rw [remaining] at isReported
    simpa [undeclared] using (List.mem_filter.mp isReported).2
  · intro others
    rw [Checker.parse_native_eq_error_iff, remaining, eq_comm (a := others)]

/-- A wrong field beside an undeclared one is refused by either checker. -/
theorem Schema.document_refuses_sample :
    (Checker.Refuses ⟨.document, .object [("a", .number)] true, by decide⟩
        (.object [("a", .string "x"), ("b", .null)]) ↔
      Checker.Refuses ⟨.document, .object [("a", .number)] true, by decide⟩
        (.object [("a", .string "x")])) ∧
      Checker.parse ⟨.native, .object [("a", .number)] true, by decide⟩
          (.object [("a", .string "x")]) =
        .error [⟨["a"], "expected number, received string"⟩] := by
  have verdicts := document_refuses_iff_of_undeclared (.object [("a", .number)] true) (by decide)
    (.object [("a", .string "x"), ("b", .null)]) _ rfl (by decide)
  exact ⟨verdicts.1, (verdicts.2.2 _).mpr ⟨by simp, rfl⟩⟩

/-- An empty strict object takes an undeclared member by its document. -/
theorem Schema.document_accepts_undeclared :
    Checker.parse ⟨.native, .object [] true, by decide⟩ (.object [("a", .number (.ofInt 1))]) =
        .error [⟨["a"], "unrecognized key 'a'"⟩] ∧
      Checker.parse ⟨.document, .object [] true, by decide⟩
          (.object [("a", .number (.ofInt 1))]) =
        .ok (.object []) := by
  refine ⟨rfl, Checker.parse_document_eq_ok_iff.mpr ⟨?_, rfl⟩⟩
  exact (meets_object_iff (by decide)).mpr ⟨[], rfl, by simp, by simp [Entries.keys]⟩

end ApiContract
