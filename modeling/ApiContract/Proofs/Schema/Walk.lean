import ApiContract.Proofs.Schema.Structure
import ApiContract.Schema.Walk

/-!
# What a walk does at each node

A walk states issues below a node exactly where the walks of its parts do.  This
module says so for every kind of node, and says what value the walk arrives at, so
that later proofs need not open the walk itself.
-/

namespace ApiContract

theorem Value.eq_null_of_isNull {value : Value} (isNull : value.isNull) : value = .null := by
  cases value with
  | null => rfl
  | _ => cases isNull

/-- The walk found nothing wrong. -/
def Walked.Clean (walked : Walked) : Prop :=
  walked.issues = []

namespace Walked

variable {value : Value} {message key : String} {condition : Bool}

@[simp] theorem clean_accepted : (accepted value).Clean :=
  rfl

@[simp] theorem value_accepted : (accepted value).value = value :=
  rfl

@[simp] theorem not_clean_rejected : ¬(rejected value message).Clean := by
  simp [Clean, rejected]

@[simp] theorem value_rejected : (rejected value message).value = value :=
  rfl

@[simp] theorem not_clean_mismatch : ¬(mismatch message value).Clean :=
  not_clean_rejected

@[simp] theorem value_mismatch : (mismatch message value).value = value :=
  rfl

@[simp] theorem clean_require : (require condition value message).Clean ↔ condition := by
  cases condition <;> simp [require]

@[simp] theorem value_require : (require condition value message).value = value := by
  cases condition <;> rfl

theorem issuesBelow_eq_nil_iff {walked : Walked} : walked.issuesBelow key = [] ↔ walked.Clean := by
  simp [issuesBelow, Clean]

theorem isEmpty_issues_iff {walked : Walked} : walked.issues.isEmpty ↔ walked.Clean := by
  simp [Clean]

end Walked

namespace FieldOutcome

/-- Nothing is wrong with the field. -/
def Clean : FieldOutcome → Prop
  | .omitted => True
  | .missing => False
  | .present walked => walked.Clean

theorem issues_eq_nil_iff {name : String} {outcome : FieldOutcome} :
    outcome.issues name = [] ↔ outcome.Clean := by
  cases outcome with
  | omitted => simp [issues, Clean]
  | missing => simp [issues, Clean]
  | present walked => exact Walked.issuesBelow_eq_nil_iff

end FieldOutcome

namespace Schema

variable {mode : WalkMode} {value : Value}

/-! ## The walk node by node -/

@[simp] theorem walk_any : walk mode .any value = .accepted value :=
  rfl

@[simp] theorem walk_unknown : walk mode .unknown value = .accepted value :=
  rfl

theorem walk_null :
    walk mode .null value =
      .require value.isNull value s!"expected null, received {value.kind}" :=
  rfl

theorem walk_string :
    walk mode .string value =
      .require value.asString?.isSome value s!"expected string, received {value.kind}" :=
  rfl

theorem walk_number : walk mode .number value = walkNumber mode false value :=
  rfl

theorem walk_integer : walk mode .integer value = walkNumber mode true value :=
  rfl

theorem walk_bigint : walk mode .bigint value = walkLeaf "bigint" (mode.bigint? value) value :=
  rfl

theorem walk_boolean :
    walk mode .boolean value = walkLeaf "boolean" (mode.boolean? value) value :=
  rfl

theorem walk_date : walk mode .date value = walkLeaf "date" (mode.date? value) value :=
  rfl

theorem walk_literal {expected : Literal} :
    walk mode (.literal expected) value =
      .require (expected.isMatchedBy value) value
        s!"expected literal {expected.text}, received {value.text}" :=
  rfl

theorem walk_enumeration {literals : List Literal} :
    walk mode (.enumeration literals) value =
      .require (literals.any fun expected => expected.isMatchedBy value) value
        s!"expected one of [{Literal.listText literals}], received {value.text}" :=
  rfl

theorem walk_array {items : Schema} {values : List Value} :
    walk mode (.array items) (.array values) =
      walkedArray (values.map fun value => walk mode items value) :=
  rfl

theorem walk_array_of_other {items : Schema} (other : ∀ values, value ≠ .array values) :
    walk mode (.array items) value = .mismatch "array" value := by
  cases value with
  | array values => exact absurd rfl (other values)
  | _ => rfl

theorem walk_object {fields : List (String × Schema)} {strict : Bool}
    {members : Entries Value} :
    walk mode (.object fields strict) (.object members) =
      walkedObject (walkFields mode fields members) strict members :=
  rfl

theorem walk_object_of_other {fields : List (String × Schema)} {strict : Bool}
    (other : ∀ members, value ≠ .object members) :
    walk mode (.object fields strict) value = .mismatch "object" value := by
  cases value with
  | object members => exact absurd rfl (other members)
  | _ => rfl

theorem walk_record {values : Schema} {members : Entries Value} :
    walk mode (.record values) (.object members) =
      walkedRecord (members.map fun member => (member.1, walk mode values member.2)) :=
  rfl

theorem walk_record_of_other {values : Schema} (other : ∀ members, value ≠ .object members) :
    walk mode (.record values) value = .mismatch "object" value := by
  cases value with
  | object members => exact absurd rfl (other members)
  | _ => rfl

theorem walk_union {members : List Schema} :
    walk mode (.union members) value =
      match walkUnion mode members value with
      | some converted => .accepted converted
      | none => .rejected value s!"no union member matched {value.kind}" :=
  rfl

theorem walk_optional {inner : Schema} :
    walk mode (.optional inner) value =
      if value.isNull then .accepted .null else walk mode inner value :=
  rfl

theorem walk_promise {resolved : Schema} :
    walk mode (.promise resolved) value = walk mode resolved value :=
  rfl

theorem walk_function {parameters : List Schema} {result : Schema} :
    walk mode (.function parameters result) value = .rejected value "expected function" :=
  rfl

/-! ## Leaves -/

theorem clean_walkLeaf {expected : String} {fitting : Option Value} :
    (walkLeaf expected fitting value).Clean ↔ fitting.isSome := by
  cases fitting <;> simp [walkLeaf]

theorem value_walkLeaf {expected : String} {fitting : Option Value} :
    (walkLeaf expected fitting value).value = fitting.getD value := by
  cases fitting <;> rfl

theorem value_walkLeaf_of_not_clean {expected : String} {fitting : Option Value}
    (unclean : ¬(walkLeaf expected fitting value).Clean) :
    (walkLeaf expected fitting value).value = value := by
  rw [clean_walkLeaf, Option.not_isSome_iff_eq_none] at unclean
  rw [value_walkLeaf, unclean, Option.getD_none]

/-- A clean leaf is what the value passes for. -/
theorem exists_value_walkLeaf_of_clean {expected : String} {fitting : Option Value}
    (clean : (walkLeaf expected fitting value).Clean) :
    ∃ converted, fitting = some converted ∧
      (walkLeaf expected fitting value).value = converted := by
  rcases Option.isSome_iff_exists.mp (clean_walkLeaf.mp clean) with ⟨converted, fits⟩
  refine ⟨converted, fits, ?_⟩
  rw [value_walkLeaf, fits, Option.getD_some]

/-- A number is clean when the value passes for one, which has no fraction where none
is allowed. -/
theorem clean_walkNumber {whole : Bool} :
    (walkNumber mode whole value).Clean ↔
      ∃ converted, mode.number? value = some converted ∧
        (whole → converted.isIntegral) := by
  rw [walkNumber]
  cases passes : mode.number? value with
  | none => simp
  | some converted =>
      cases whole <;> cases integral : converted.isIntegral <;> simp [integral]

theorem value_walkNumber_of_clean {whole : Bool} {converted : Binary64}
    (passes : mode.number? value = some converted)
    (clean : (walkNumber mode whole value).Clean) :
    (walkNumber mode whole value).value = .number converted := by
  rw [walkNumber, passes] at clean ⊢
  cases whole <;> cases integral : converted.isIntegral <;> simp_all

theorem value_walkNumber_of_not_clean {whole : Bool}
    (unclean : ¬(walkNumber mode whole value).Clean) :
    (walkNumber mode whole value).value = value := by
  rw [walkNumber] at unclean ⊢
  cases passes : mode.number? value with
  | none => rfl
  | some converted =>
      cases whole <;> cases integral : converted.isIntegral <;> simp_all

/-! ## Arrays and records -/

theorem issues_walk_array (items : Schema) (values : List Value) :
    (walk mode (.array items) (.array values)).issues =
      values.zipIdx.flatMap fun item =>
        (walk mode items item.1).issuesBelow (Text.decimalText item.2) := by
  rw [walk_array, walkedArray, List.zipIdx_map, List.flatMap_map]
  rfl

theorem clean_walk_array_iff {items : Schema} :
    (walk mode (.array items) value).Clean ↔
      ∃ values, value = .array values ∧ ∀ item ∈ values, (walk mode items item).Clean := by
  cases value with
  | array values =>
      simp only [Walked.Clean, issues_walk_array, List.flatMap_eq_nil_iff, Value.array.injEq,
        exists_eq_left', Walked.issuesBelow_eq_nil_iff]
      exact @List.forall_mem_zipIdx_iff _ values fun item => (walk mode items item).Clean
  | _ => simp [walk_array_of_other]

theorem value_walk_array {items : Schema} (values : List Value) :
    (walk mode (.array items) (.array values)).value =
      .array (values.map fun item => (walk mode items item).value) := by
  simp only [walk_array, walkedArray, List.map_map]
  rfl

/-- A walk arrives at an array only from one. -/
theorem exists_array_of_value_walk {items : Schema} {results : List Value}
    (arrived : (walk mode (.array items) value).value = .array results) :
    ∃ values, value = .array values ∧
      results = values.map fun item => (walk mode items item).value := by
  cases value with
  | array values =>
      rw [value_walk_array, Value.array.injEq] at arrived
      exact ⟨values, rfl, arrived.symm⟩
  | _ => simp [walk_array_of_other] at arrived

theorem issues_walk_record (values : Schema) (members : Entries Value) :
    (walk mode (.record values) (.object members)).issues =
      members.flatMap fun member => (walk mode values member.2).issuesBelow member.1 := by
  rw [walk_record, walkedRecord, List.flatMap_map]

theorem clean_walk_record_iff {values : Schema} :
    (walk mode (.record values) value).Clean ↔
      ∃ members, value = .object members ∧
        ∀ member ∈ members, (walk mode values member.2).Clean := by
  cases value with
  | object members =>
      simp only [Walked.Clean, issues_walk_record, List.flatMap_eq_nil_iff, Value.object.injEq,
        exists_eq_left', Walked.issuesBelow_eq_nil_iff]
  | _ => simp [walk_record_of_other]

theorem value_walk_record {values : Schema} (members : Entries Value) :
    (walk mode (.record values) (.object members)).value =
      .object (members.map fun member => (member.1, (walk mode values member.2).value)) := by
  simp only [walk_record, walkedRecord, List.map_map]
  rfl

theorem exists_object_of_value_walk_record {values : Schema} {results : Entries Value}
    (arrived : (walk mode (.record values) value).value = .object results) :
    ∃ members, value = .object members ∧
      results = members.map fun member => (member.1, (walk mode values member.2).value) := by
  cases value with
  | object members =>
      rw [value_walk_record, Value.object.injEq] at arrived
      exact ⟨members, rfl, arrived.symm⟩
  | _ => simp [walk_record_of_other] at arrived

/-! ## Objects -/

/-- What becomes of a declared field under which the given value was found. -/
def outcome (mode : WalkMode) (schema : Schema) (found : Option Value) : FieldOutcome :=
  match found with
  | some value => .present (walk mode schema value)
  | none => if schema.isOptional then .omitted else .missing

@[simp] theorem clean_outcome_some {schema : Schema} :
    (outcome mode schema (some value)).Clean ↔ (walk mode schema value).Clean :=
  Iff.rfl

@[simp] theorem clean_outcome_none {schema : Schema} :
    (outcome mode schema none).Clean ↔ schema.isOptional := by
  cases optional : schema.isOptional <;> simp [outcome, optional, FieldOutcome.Clean]

theorem walkFields_eq_map (fields : List (String × Schema)) (members : Entries Value) :
    walkFields mode fields members =
      fields.map fun field =>
        (field.1, outcome mode field.2 (Entries.get? members field.1)) := by
  induction fields with
  | nil => simp [walkFields]
  | cons field rest ih =>
      rcases field with ⟨name, schema⟩
      rw [walkFields, ih, List.map_cons]
      cases Entries.get? members name <;> simp [outcome]

theorem keys_walkFields (fields : List (String × Schema)) (members : Entries Value) :
    Entries.keys (walkFields mode fields members) = Entries.keys fields := by
  simp [walkFields_eq_map, Entries.keys]

theorem get?_walkFields (fields : List (String × Schema)) (members : Entries Value)
    (name : String) :
    Entries.get? (walkFields mode fields members) name =
      (Entries.get? fields name).map fun schema =>
        outcome mode schema (Entries.get? members name) := by
  rw [walkFields_eq_map]
  exact Entries.get?_map
    (fun name schema => outcome mode schema (Entries.get? members name)) fields name

/-- The members that a strict object does not declare are reported one by one. -/
theorem undeclaredIssues_eq_nil_iff {outcomes : List (String × FieldOutcome)}
    {members : Entries Value} :
    undeclaredIssues outcomes members = [] ↔
      ∀ name ∈ Entries.keys members, name ∈ Entries.keys outcomes := by
  rw [undeclaredIssues, List.filterMap_eq_nil_iff, Entries.keys, List.forall_mem_map]
  apply forall₂_congr
  intro member _
  rw [← Entries.exists_get?_iff, Entries.get?]
  cases found : outcomes.lookup member.1 <;> simp [found]

/-- The issues of an object are those of its fields in declared order, each seen from the
object, and those of undeclared members where it is strict. -/
theorem issues_walk_object (fields : List (String × Schema)) (strict : Bool)
    (members : Entries Value) :
    (walk mode (.object fields strict) (.object members)).issues =
      (fields.flatMap fun field =>
          (outcome mode field.2 (Entries.get? members field.1)).issues field.1) ++
        if strict then undeclaredIssues (walkFields mode fields members) members else [] := by
  rw [walk_object, walkedObject, walkFields_eq_map, List.flatMap_map]

theorem clean_walk_object_iff {fields : List (String × Schema)} {strict : Bool} :
    (walk mode (.object fields strict) value).Clean ↔
      ∃ members, value = .object members ∧
        (∀ field ∈ fields,
          (outcome mode field.2 (Entries.get? members field.1)).Clean) ∧
        (strict → ∀ name ∈ Entries.keys members, name ∈ Entries.keys fields) := by
  cases value with
  | object members =>
      simp only [walk_object, walkedObject, Walked.Clean, List.append_eq_nil_iff,
        Value.object.injEq, exists_eq_left']
      refine and_congr ?_ ?_
      · simp only [walkFields_eq_map, List.flatMap_eq_nil_iff, List.forall_mem_map,
          FieldOutcome.issues_eq_nil_iff]
      · cases strict with
        | false => simp
        | true => simp [undeclaredIssues_eq_nil_iff, keys_walkFields]
  | _ => simp [walk_object_of_other]

/-- The members of a walked object: declared ones as their fields make of them,
undeclared ones only where the object is not strict. -/
theorem value_walk_object {fields : List (String × Schema)} {strict : Bool}
    (members : Entries Value) :
    (walk mode (.object fields strict) (.object members)).value =
      .object (walkedMembers (walkFields mode fields members) strict members) := by
  rw [walk_object, walkedObject]

theorem exists_object_of_value_walk_object {fields : List (String × Schema)} {strict : Bool}
    {results : Entries Value}
    (arrived : (walk mode (.object fields strict) value).value = .object results) :
    ∃ members, value = .object members ∧
      results = walkedMembers (walkFields mode fields members) strict members := by
  cases value with
  | object members =>
      rw [value_walk_object, Value.object.injEq] at arrived
      exact ⟨members, rfl, arrived.symm⟩
  | _ => simp [walk_object_of_other] at arrived

/-- What a walk along an object makes of a member. -/
def memberResult (mode : WalkMode) (fields : List (String × Schema)) (strict : Bool)
    (name : String) (value : Value) : Option Value :=
  match Entries.get? fields name with
  | some schema => some (walk mode schema value).value
  | none => if strict then none else some value

/-- How a walked object changes the members of a name.  They all share the outcome of its
field, that of the first of them. -/
def memberChange (outcomes : List (String × FieldOutcome)) (strict : Bool) (name : String) :
    Option (Value → Value) :=
  match outcomes.lookup name with
  | some outcome => outcome.value?.map fun converted _ => converted
  | none => if strict then none else some id

theorem walkedMembers_eq_filterMap (outcomes : List (String × FieldOutcome)) (strict : Bool)
    (members : Entries Value) :
    walkedMembers outcomes strict members =
      members.filterMap fun member =>
        (memberChange outcomes strict member.1).map fun convert =>
          (member.1, convert member.2) := by
  apply List.filterMap_congr
  intro member _
  simp only [memberChange]
  cases outcomes.lookup member.1 with
  | none => cases strict <;> rfl
  | some outcome => cases outcome <;> rfl

theorem memberChange_walkFields (fields : List (String × Schema)) (strict : Bool)
    (members : Entries Value) (name : String) :
    memberChange (walkFields mode fields members) strict name =
      match Entries.get? fields name with
      | some schema =>
          (outcome mode schema (Entries.get? members name)).value?.map fun converted _ => converted
      | none => if strict then none else some id := by
  have looked : (walkFields mode fields members).lookup name =
      (Entries.get? fields name).map fun schema =>
        outcome mode schema (Entries.get? members name) :=
    get?_walkFields fields members name
  rw [memberChange, looked]
  cases Entries.get? fields name <;> rfl

theorem get?_walkedMembers (fields : List (String × Schema)) (strict : Bool)
    (members : Entries Value) (name : String) :
    Entries.get? (walkedMembers (walkFields mode fields members) strict members) name =
      (Entries.get? members name).bind (memberResult mode fields strict name) := by
  rw [walkedMembers_eq_filterMap, Entries.get?_filterMap, memberChange_walkFields]
  cases declared : Entries.get? fields name with
  | none =>
      cases strict <;> cases Entries.get? members name <;> simp [memberResult, declared]
  | some schema =>
      cases Entries.get? members name with
      | none => simp
      | some value => simp [memberResult, declared, outcome, FieldOutcome.value?]

/-- A member of a walked object is declared, and as the walk left the first member of its
name, or it is undeclared and as it was. -/
theorem declared_or_kept_of_mem_walkedMembers {fields : List (String × Schema)} {strict : Bool}
    {members : Entries Value} {member : String × Value}
    (isMember : member ∈ walkedMembers (walkFields mode fields members) strict members) :
    (∃ schema value, Entries.get? fields member.1 = some schema ∧
        Entries.get? members member.1 = some value ∧ member.2 = (walk mode schema value).value) ∨
      (Entries.get? fields member.1 = none ∧ strict = false ∧ member ∈ members) := by
  rw [walkedMembers_eq_filterMap, List.mem_filterMap] at isMember
  rcases isMember with ⟨⟨name, given⟩, isGiven, changed⟩
  rcases Option.map_eq_some_iff.mp changed with ⟨convert, change, rfl⟩
  rw [memberChange_walkFields] at change
  cases declared : Entries.get? fields name with
  | none =>
      cases strict with
      | true => simp [declared] at change
      | false =>
          obtain rfl : id = convert := by simpa [declared] using change
          exact .inr ⟨rfl, rfl, isGiven⟩
  | some schema =>
      rcases Entries.exists_get?_iff.mpr (Entries.mem_keys_of_mem isGiven) with ⟨first, found⟩
      obtain rfl : (fun _ => (walk mode schema first).value) = convert := by
        simpa [declared, found, outcome, FieldOutcome.value?] using change
      exact .inl ⟨schema, first, rfl, found, rfl⟩

/-- A declared field of a walked object is found where the object had it, as the walk
of its value left it. -/
theorem get?_walkedMembers_of_mem {mode : WalkMode} {fields : List (String × Schema)}
    {strict : Bool} {members : Entries Value} {field : String × Schema}
    (distinct : (Entries.keys fields).Nodup) (declared : field ∈ fields) :
    Entries.get? (walkedMembers (walkFields mode fields members) strict members) field.1 =
      (Entries.get? members field.1).map fun value => (walk mode field.2 value).value := by
  rw [get?_walkedMembers]
  have found := (Entries.get?_eq_some_iff distinct).mpr declared
  cases Entries.get? members field.1 with
  | none => rfl
  | some value => simp [memberResult, found]

/-! ## Unions and wrappers -/

/-- A union takes the result of its first clean member. -/
theorem walkUnion_eq_find? (mode : WalkMode) (members : List Schema) (value : Value) :
    walkUnion mode members value =
      (members.find? fun member => (walk mode member value).issues.isEmpty).map
        fun member => (walk mode member value).value := by
  induction members with
  | nil => simp [walkUnion]
  | cons member rest ih =>
      rw [walkUnion, List.find?_cons]
      cases (walk mode member value).issues.isEmpty with
      | true => rfl
      | false => exact ih

/-- A clean union is the walk along its first clean member. -/
theorem exists_first_walk_union {members : List Schema}
    (clean : (walk mode (.union members) value).Clean) :
    ∃ member,
      (members.find? fun member => (walk mode member value).issues.isEmpty) = some member ∧
        (walk mode member value).Clean ∧
        (walk mode (.union members) value).value = (walk mode member value).value := by
  rw [walk_union, walkUnion_eq_find?] at clean ⊢
  cases found : members.find? fun member => (walk mode member value).issues.isEmpty with
  | none => simp [found] at clean
  | some member =>
      have silent : (walk mode member value).issues.isEmpty := by
        simpa using List.find?_some found
      exact ⟨member, rfl, Walked.isEmpty_issues_iff.mp silent, rfl⟩

theorem exists_value_walk_union {members : List Schema}
    (clean : (walk mode (.union members) value).Clean) :
    ∃ member ∈ members, (walk mode member value).Clean ∧
      (walk mode (.union members) value).value = (walk mode member value).value := by
  rcases exists_first_walk_union clean with ⟨member, first, memberClean, result⟩
  exact ⟨member, List.mem_of_find?_eq_some first, memberClean, result⟩

theorem clean_walk_union_iff {members : List Schema} :
    (walk mode (.union members) value).Clean ↔
      ∃ member ∈ members, (walk mode member value).Clean := by
  constructor
  · intro clean
    rcases exists_value_walk_union clean with ⟨member, isMember, memberClean, _⟩
    exact ⟨member, isMember, memberClean⟩
  · rintro ⟨member, isMember, memberClean⟩
    rw [walk_union, walkUnion_eq_find?]
    cases found : members.find? fun member => (walk mode member value).issues.isEmpty with
    | some first => exact Walked.clean_accepted
    | none =>
        have silent := List.find?_eq_none.mp found member isMember
        exact absurd (Walked.isEmpty_issues_iff.mpr memberClean) silent

theorem value_walk_union_of_not_clean {members : List Schema}
    (unclean : ¬(walk mode (.union members) value).Clean) :
    (walk mode (.union members) value).value = value := by
  rw [walk_union] at unclean ⊢
  cases found : walkUnion mode members value with
  | none => rfl
  | some converted => simp [found] at unclean

theorem clean_walk_optional_iff {inner : Schema} :
    (walk mode (.optional inner) value).Clean ↔
      value.isNull ∨ (walk mode inner value).Clean := by
  rw [walk_optional]
  cases value.isNull with
  | true =>
      rw [if_pos rfl]
      constructor
      · intro _
        exact .inl rfl
      · intro _
        exact Walked.clean_accepted
  | false =>
      rw [if_neg Bool.false_ne_true]
      constructor
      · exact .inr
      · intro clean
        exact clean.resolve_left Bool.false_ne_true

theorem walk_optional_of_present {inner : Schema} (present : value.isNull = false) :
    walk mode (.optional inner) value = walk mode inner value := by
  rw [walk_optional, present]
  rfl

theorem not_clean_walk_function {parameters : List Schema} {result : Schema} :
    ¬(walk mode (.function parameters result) value).Clean := by
  rw [walk_function]
  exact Walked.not_clean_rejected

/-! ## Parsing and accepting -/

theorem parse_eq_ok_iff {schema : Schema} {converted : Value} :
    schema.parse value = .ok converted ↔
      (walk .converting schema value).Clean ∧
        (walk .converting schema value).value = converted := by
  rw [parse]
  by_cases clean : (walk .converting schema value).Clean
  · simp [Walked.isEmpty_issues_iff.mpr clean, clean]
  · have found : ¬(walk .converting schema value).issues.isEmpty :=
      fun empty => clean (Walked.isEmpty_issues_iff.mp empty)
    simp [found, clean]

theorem parse_eq_error_iff {schema : Schema} {issues : List Issue} :
    schema.parse value = .error issues ↔
      issues ≠ [] ∧ (walk .converting schema value).issues = issues := by
  rw [parse]
  cases (walk .converting schema value).issues with
  | nil => simp [eq_comm]
  | cons issue rest =>
      rw [if_neg (by simp), Except.error.injEq]
      constructor
      · intro same
        exact ⟨same ▸ List.cons_ne_nil issue rest, same⟩
      · rintro ⟨_, same⟩
        exact same

theorem accepts_iff {schema : Schema} :
    schema.accepts value ↔ (walk .exact schema value).Clean :=
  Walked.isEmpty_issues_iff

end Schema

end ApiContract
