import ApiContract.Proofs.Schema.Agreement
import ApiContract.Proofs.Value.Place

/-!
# How far conversion goes

A successful conversion changes scalars and nothing else.  Every list keeps its length and every
object its members, and a scalar changes only where the walk comes to it with a schema that
converts.  The walk comes to a place through the fields that are declared, the items and members
on the way and the member that a union settles on; all else is as it was.
-/

namespace ApiContract

namespace Schema

/-- The schema asks for a kind of scalars that other scalars are converted to. -/
def isConverting : Schema → Bool
  | .number | .integer | .bigint | .boolean | .date => true
  | _ => false

/-- The schema takes values of any kind, or scalars only as they are. -/
def isKeeping : Schema → Bool
  | .any | .unknown | .null | .string | .literal _ | .enumeration _ => true
  | _ => false

/-- The walk of a value along a schema goes on to a part of the value with an inner schema. -/
inductive Descends : Schema → Value → String → Schema → Value → Prop where
  | item {items : Schema} {values : List Value} {step : String} {part : Value}
      (found : Entries.get? (Value.array values).parts step = some part) :
      Descends (.array items) (.array values) step items part
  | field {fields : List (String × Schema)} {strict : Bool} {members : Entries Value}
      {name : String} {inner : Schema} {part : Value}
      (declared : Entries.get? fields name = some inner)
      (found : Entries.get? members name = some part) :
      Descends (.object fields strict) (.object members) name inner part
  | member {values : Schema} {members : Entries Value} {name : String} {part : Value}
      (found : Entries.get? members name = some part) :
      Descends (.record values) (.object members) name values part

/-- The converting walk of a value along a schema comes to the end of a path with a schema.  It
goes through a union by the first member that finds no issue. -/
inductive Reaches : Schema → Value → List String → Schema → Prop where
  | here (schema : Schema) (value : Value) : Reaches schema value [] schema
  | part {schema inner reached : Schema} {value part : Value} {step : String} {path : List String}
      (descends : Descends schema value step inner part) (reaches : Reaches inner part path reached) :
      Reaches schema value (step :: path) reached
  | union {members : List Schema} {member reached : Schema} {value : Value} {path : List String}
      (first : (members.find? fun member => (walk .converting member value).issues.isEmpty) =
        some member)
      (reaches : Reaches member value path reached) : Reaches (.union members) value path reached
  | optional {inner reached : Schema} {value : Value} {path : List String}
      (present : value.isNull = false) (reaches : Reaches inner value path reached) :
      Reaches (.optional inner) value path reached
  | promise {resolved reached : Schema} {value : Value} {path : List String}
      (reaches : Reaches resolved value path reached) :
      Reaches (.promise resolved) value path reached

variable {schema : Schema} {value : Value} {step : String}

/-! ## Leaves -/

/-- A leaf that converts takes scalars and makes scalars of them. -/
theorem scalar_of_walkLeaf {expected : String} {α : Type} {coerce : Value → Option α}
    {wrap : α → Value} (refuses : ∀ given : Value, given.frame ≠ .scalar → coerce given = none)
    (wraps : ∀ content, (wrap content).frame = .scalar)
    (clean : (walkLeaf expected ((coerce value).map wrap) value).Clean) :
    value.frame = .scalar ∧
      (walkLeaf expected ((coerce value).map wrap) value).value.frame = .scalar := by
  cases passes : coerce value with
  | none => simp [passes, clean_walkLeaf] at clean
  | some content =>
      constructor
      · by_contra other
        simp [refuses value other] at passes
      · exact wraps content

theorem scalar_of_walkNumber {whole : Bool}
    (clean : (walkNumber .converting whole value).Clean) :
    value.frame = .scalar ∧ (walkNumber .converting whole value).value.frame = .scalar := by
  obtain ⟨float, passes, _⟩ := clean_walkNumber.mp clean
  rw [value_walkNumber_of_clean passes clean]
  cases value with
  | array items => simp [WalkMode.number?, Value.coerceNumber] at passes
  | object members => simp [WalkMode.number?, Value.coerceNumber] at passes
  | _ => exact ⟨rfl, rfl⟩

theorem scalar_of_isConverting (converting : schema.isConverting)
    (clean : (walk .converting schema value).Clean) :
    value.frame = .scalar ∧ (walk .converting schema value).value.frame = .scalar := by
  cases schema with
  | number => exact scalar_of_walkNumber clean
  | integer => exact scalar_of_walkNumber clean
  | bigint =>
      refine scalar_of_walkLeaf ?_ (fun _ => rfl) clean
      intro given
      cases given <;> simp [Value.frame, Value.coerceBigint]
  | boolean =>
      refine scalar_of_walkLeaf ?_ (fun _ => rfl) clean
      intro given
      cases given <;> simp [Value.frame, Value.coerceBoolean]
  | date =>
      refine scalar_of_walkLeaf ?_ (fun _ => rfl) clean
      intro given
      cases given <;> simp [Value.frame, Value.coerceDate]
  | _ => cases converting

theorem value_walk_of_isKeeping (keeping : schema.isKeeping) :
    (walk .converting schema value).value = value := by
  cases schema with
  | any | unknown => rfl
  | null | string | literal _ | enumeration _ =>
      simp only [walk_null, walk_string, walk_literal, walk_enumeration, Walked.value_require]
  | _ => cases keeping

/-! ## One step -/

namespace Descends

variable {inner : Schema} {part : Value}

theorem found (descends : Descends schema value step inner part) :
    Entries.get? value.parts step = some part := by
  cases descends <;> assumption

theorem clean (descends : Descends schema value step inner part)
    (clean : (walk .converting schema value).Clean) : (walk .converting inner part).Clean := by
  cases descends with
  | item found =>
      obtain ⟨values, same, each⟩ := clean_walk_array_iff.mp clean
      cases same
      exact each part (Value.mem_of_mem_parts_array (Entries.mem_of_get? found))
  | field declared found =>
      obtain ⟨members, same, each, _⟩ := clean_walk_object_iff.mp clean
      cases same
      have fieldClean := each _ (Entries.mem_of_get? declared)
      rw [found, clean_outcome_some] at fieldClean
      exact fieldClean
  | member found =>
      obtain ⟨members, same, each⟩ := clean_walk_record_iff.mp clean
      cases same
      exact each _ (Entries.mem_of_get? found)

/-- What the inner schema makes of the part stands in the place of the part. -/
theorem result (descends : Descends schema value step inner part) :
    Entries.get? (walk .converting schema value).value.parts step =
      some (walk .converting inner part).value := by
  cases descends with
  | item found =>
      rw [value_walk_array, Value.get?_parts_array_map fun item => (walk .converting inner item).value,
        found, Option.map_some]
  | field declared found =>
      rw [value_walk_object, Value.parts_object, get?_walkedMembers, found, Option.bind_some,
        memberResult, declared]
  | member found =>
      rw [value_walk_record, Value.parts_object,
        Entries.get?_map fun _ value => (walk .converting inner value).value, found,
        Option.map_some]

end Descends

/-- A result is like the value at its own place, and each part of the value is kept or walked on. -/
structure Confined (schema : Schema) (value result : Value) : Prop where
  frame : result.frame = value.frame
  scalar : value.frame = .scalar →
    result = value ∨ ∃ leaf : Schema, leaf.isConverting ∧ Reaches schema value [] leaf
  part : ∀ step part, Entries.get? value.parts step = some part →
    Entries.get? result.parts step = some part ∨
      ∃ inner, (walk .converting inner part).Clean ∧
        Entries.get? result.parts step = some (walk .converting inner part).value ∧
        ∀ path reached, Reaches inner part path reached →
          Reaches schema value (step :: path) reached

namespace Confined

variable {result : Value}

theorem refl (schema : Schema) (value : Value) : Confined schema value value where
  frame := rfl
  scalar := fun _ => .inl rfl
  part := fun _ _ found => .inl found

theorem ofConverting (converting : schema.isConverting) (scalar : value.frame = .scalar)
    (resultScalar : result.frame = .scalar) : Confined schema value result where
  frame := resultScalar.trans scalar.symm
  scalar := fun _ => .inr ⟨schema, converting, .here schema value⟩
  part := by
    intro step part found
    simp [Value.parts_of_scalar scalar] at found

/-- A node that walks or keeps each part of a list or an object confines what it makes of it. -/
theorem ofParts (clean : (walk .converting schema value).Clean)
    (sameFrame : (walk .converting schema value).value.frame = value.frame)
    (composite : value.frame ≠ .scalar)
    (each : ∀ step part, Entries.get? value.parts step = some part →
      Entries.get? (walk .converting schema value).value.parts step = some part ∨
        ∃ inner, Descends schema value step inner part) :
    Confined schema value (walk .converting schema value).value where
  frame := sameFrame
  scalar := fun scalar => absurd scalar composite
  part := by
    intro step part found
    apply (each step part found).imp_right
    rintro ⟨inner, descends⟩
    exact ⟨inner, descends.clean clean, descends.result, fun _ _ => .part descends⟩

/-- A wrapper confines what the schema in it confines. -/
theorem through {inner : Schema} (confined : Confined inner value result)
    (passes : ∀ path reached, Reaches inner value path reached →
      Reaches schema value path reached) : Confined schema value result where
  frame := confined.frame
  scalar := by
    intro scalar
    apply (confined.scalar scalar).imp_right
    rintro ⟨leaf, converting, reaches⟩
    exact ⟨leaf, converting, passes [] leaf reaches⟩
  part := by
    intro step part found
    apply (confined.part step part found).imp_right
    rintro ⟨below, clean, changed, reaches⟩
    exact ⟨below, clean, changed, fun path reached isReached =>
      passes (step :: path) reached (reaches path reached isReached)⟩

end Confined

/-- A clean walk keeps all members, declared ones since they are walked and others since a strict
object has none. -/
theorem keys_walkedMembers {fields : List (String × Schema)} {strict : Bool}
    {members : Entries Value}
    (declared : strict → ∀ name ∈ Entries.keys members, name ∈ Entries.keys fields) :
    Entries.keys (walkedMembers (walkFields .converting fields members) strict members) =
      Entries.keys members := by
  have kept : ∀ member ∈ members,
      ((memberChange (walkFields .converting fields members) strict member.1).map
        fun convert => (member.1, convert member.2)).map Prod.fst = some member.1 := by
    intro member isMember
    have isKey := Entries.mem_keys_of_mem isMember
    rw [memberChange_walkFields]
    cases field : Entries.get? fields member.1 with
    | none =>
        cases strict with
        | true => exact absurd (declared rfl member.1 isKey) (Entries.get?_eq_none_iff.mp field)
        | false => rfl
    | some schema =>
        obtain ⟨value, found⟩ := Entries.exists_get?_iff.mpr isKey
        simp [found, outcome, FieldOutcome.value?]
  rw [walkedMembers_eq_filterMap, Entries.keys, List.map_filterMap, List.filterMap_congr kept,
    List.filterMap_eq_map']
  rfl

/-- Members that are not declared are as they were. -/
theorem get?_walkedMembers_of_undeclared {fields : List (String × Schema)} {strict : Bool}
    {members : Entries Value} {name : String}
    (declared : strict → ∀ name ∈ Entries.keys members, name ∈ Entries.keys fields)
    (undeclared : name ∉ Entries.keys fields) :
    Entries.get? (walkedMembers (walkFields .converting fields members) strict members) name =
      Entries.get? members name := by
  rw [get?_walkedMembers]
  cases found : Entries.get? members name with
  | none => rfl
  | some part =>
      rw [Option.bind_some, memberResult, Entries.get?_eq_none_iff.mpr undeclared]
      cases strict with
      | false => rfl
      | true =>
          have isKey := Entries.mem_keys_of_mem (Entries.mem_of_get? found)
          exact absurd (declared rfl name isKey) undeclared

theorem confined_walk (clean : (walk .converting schema value).Clean) :
    Confined schema value (walk .converting schema value).value := by
  induction schema with
  | any | unknown | null | string | literal _ | enumeration _ =>
      rw [value_walk_of_isKeeping rfl]
      exact .refl _ value
  | number | integer | bigint | boolean | date =>
      obtain ⟨scalar, resultScalar⟩ := scalar_of_isConverting rfl clean
      exact .ofConverting rfl scalar resultScalar
  | array items _ =>
      obtain ⟨values, rfl, _⟩ := clean_walk_array_iff.mp clean
      refine .ofParts clean ?_ (by simp [Value.frame]) ?_
      · rw [value_walk_array]
        simp [Value.frame]
      · intro step part found
        exact .inr ⟨items, .item found⟩
  | object fields strict _ =>
      obtain ⟨members, rfl, _, declared⟩ := clean_walk_object_iff.mp clean
      refine .ofParts clean ?_ (by simp [Value.frame]) ?_
      · rw [value_walk_object]
        exact congrArg Value.Frame.object (keys_walkedMembers declared)
      · intro step part found
        cases field : Entries.get? fields step with
        | some inner => exact .inr ⟨inner, .field field found⟩
        | none =>
            left
            have undeclared := Entries.get?_eq_none_iff.mp field
            rw [value_walk_object, Value.parts_object,
              get?_walkedMembers_of_undeclared declared undeclared]
            exact found
  | record values _ =>
      obtain ⟨members, rfl, _⟩ := clean_walk_record_iff.mp clean
      refine .ofParts clean ?_ (by simp [Value.frame]) ?_
      · rw [value_walk_record]
        simp [Value.frame, Entries.keys]
      · intro step part found
        exact .inr ⟨values, .member found⟩
  | union members ih =>
      obtain ⟨member, first, memberClean, result⟩ := exists_first_walk_union clean
      have isMember := List.mem_of_find?_eq_some first
      rw [result]
      exact (ih member isMember memberClean).through fun _ _ => .union first
  | optional inner ih =>
      cases absent : value.isNull with
      | true =>
          rw [Value.eq_null_of_isNull absent]
          exact .refl _ .null
      | false =>
          rw [walk_optional_of_present absent] at clean ⊢
          exact (ih clean).through fun _ _ => .optional absent
  | promise resolved ih => exact (ih clean).through fun _ _ => .promise
  | function parameters result => exact absurd clean not_clean_walk_function

/-! ## Whole paths -/

/-- What the walk comes to passes the schema that it comes with and stands in the result as that
schema converts it. -/
theorem Reaches.exists_converted {path : List String} {reached : Schema}
    (reaches : Reaches schema value path reached)
    (clean : (walk .converting schema value).Clean) :
    ∃ old, value.atPath? path = some old ∧ (walk .converting reached old).Clean ∧
      (walk .converting schema value).value.atPath? path =
        some (walk .converting reached old).value := by
  induction reaches with
  | here schema value => exact ⟨value, rfl, clean, rfl⟩
  | part descends _ ih =>
      obtain ⟨old, isOld, oldClean, converted⟩ := ih (descends.clean clean)
      rw [Value.atPath?_of_part descends.found, Value.atPath?_of_part descends.result]
      exact ⟨old, isOld, oldClean, converted⟩
  | union first _ ih =>
      obtain ⟨member, isFirst, memberClean, result⟩ := exists_first_walk_union clean
      obtain rfl := Option.some.inj (first.symm.trans isFirst)
      rw [result]
      exact ih memberClean
  | optional present _ ih =>
      rw [walk_optional_of_present present] at clean ⊢
      exact ih clean
  | promise _ ih => exact ih clean

/-- The result has the frames of the value everywhere. -/
theorem frame_atPath?_walk (clean : (walk .converting schema value).Clean) (path : List String) :
    ((walk .converting schema value).value.atPath? path).map Value.frame =
      (value.atPath? path).map Value.frame := by
  induction path generalizing schema value with
  | nil => exact congrArg some (confined_walk clean).frame
  | cons step rest ih =>
      have confined := confined_walk clean
      rw [Value.atPath?_cons, Value.atPath?_cons]
      cases found : Entries.get? value.parts step with
      | none =>
          have absent := Entries.get?_eq_none_iff.mp found
          rw [← Value.keys_parts_of_frame confined.frame] at absent
          rw [Entries.get?_eq_none_iff.mpr absent]
      | some part =>
          obtain kept | ⟨inner, innerClean, walked, _⟩ := confined.part step part found
          · rw [kept]
          · rw [walked]
            exact ih innerClean

/-- A scalar in the result is the one in the value, or the walk comes to it with a schema that
converts. -/
theorem scalar_atPath?_walk (clean : (walk .converting schema value).Clean) {path : List String}
    {old new : Value} (isOld : value.atPath? path = some old)
    (isNew : (walk .converting schema value).value.atPath? path = some new)
    (scalar : old.frame = .scalar) :
    new = old ∨ ∃ leaf : Schema, leaf.isConverting ∧ Reaches schema value path leaf := by
  induction path generalizing schema value with
  | nil =>
      cases isOld
      cases isNew
      exact (confined_walk clean).scalar scalar
  | cons step rest ih =>
      have confined := confined_walk clean
      rw [Value.atPath?_cons] at isOld
      obtain ⟨part, found, below⟩ := Option.bind_eq_some_iff.mp isOld
      obtain kept | ⟨inner, innerClean, walked, passes⟩ := confined.part step part found
      · rw [Value.atPath?_of_part kept, below] at isNew
        exact .inl (Option.some.inj isNew).symm
      · rw [Value.atPath?_of_part walked] at isNew
        apply (ih innerClean below isNew).imp_right
        rintro ⟨leaf, converting, reaches⟩
        exact ⟨leaf, converting, passes rest leaf reaches⟩

/-- A conversion changed scalars only, and those only where the walk came with a schema that
converts. -/
structure ChangesOnlyScalars (schema : Schema) (value converted : Value) : Prop where
  /-- At every path there is nothing in either, a scalar in both, arrays of one length or objects
  with the same members. -/
  frames : ∀ path,
    (converted.atPath? path).map Value.frame = (value.atPath? path).map Value.frame
  changed : ∀ path old new, value.atPath? path = some old → converted.atPath? path = some new →
    old.frame = .scalar → old ≠ new →
      ∃ leaf : Schema, leaf.isConverting ∧ Reaches schema value path leaf ∧ leaf.parse old = .ok new
  kept : ∀ path reached, Reaches schema value path reached → reached.isKeeping →
    converted.atPath? path = value.atPath? path
  undeclared : ∀ path fields strict name, Reaches schema value path (.object fields strict) →
    name ∉ Entries.keys fields →
      converted.atPath? (path ++ [name]) = value.atPath? (path ++ [name])

end Schema

/-- A successful parse changes only scalars. -/
theorem Schema.changesOnlyScalars_of_parse (schema : Schema) (wellFormed : schema.wellFormed)
    (value converted : Value)
    (parsed : Checker.parse ⟨.native, schema, wellFormed⟩ value = .ok converted) :
    ChangesOnlyScalars schema value converted := by
  obtain ⟨clean, rfl⟩ := Checker.parse_native_eq_ok_iff.mp parsed
  constructor
  · exact frame_atPath?_walk clean
  · intro path old new isOld isNew scalar differ
    obtain same | ⟨leaf, converting, reaches⟩ := scalar_atPath?_walk clean isOld isNew scalar
    · exact absurd same.symm differ
    · obtain ⟨found, isFound, leafClean, isConverted⟩ := reaches.exists_converted clean
      obtain rfl : found = old := Option.some.inj (isFound.symm.trans isOld)
      have result := Option.some.inj (isConverted.symm.trans isNew)
      exact ⟨leaf, converting, reaches, parse_eq_ok_iff.mpr ⟨leafClean, result⟩⟩
  · intro path reached reaches keeping
    obtain ⟨old, isOld, _, isConverted⟩ := reaches.exists_converted clean
    rw [isConverted, isOld, value_walk_of_isKeeping keeping]
  · intro path fields strict name reaches undeclared
    obtain ⟨old, isOld, objectClean, isConverted⟩ := reaches.exists_converted clean
    obtain ⟨members, rfl, _, declared⟩ := clean_walk_object_iff.mp objectClean
    rw [Value.atPath?_append, Value.atPath?_append, isConverted, isOld, Option.bind_some,
      Option.bind_some, Value.atPath?_cons, Value.atPath?_cons, value_walk_object,
      Value.parts_object, Value.parts_object,
      get?_walkedMembers_of_undeclared declared undeclared]

/-- A union settles on its second member, which converts the items of a list, beside a literal, an
absent optional member and one that is not declared. -/
theorem Schema.changesOnlyScalars_sample :
    ChangesOnlyScalars
      (.object [("kind", .literal (.string "1")), ("note", .optional .number),
        ("sizes", .union [.number, .array .bigint])] false)
      (.object [("extra", .string "2"), ("kind", .string "1"),
        ("sizes", .array [.string "3", .bigint (.saturate 4)])])
      (.object [("extra", .string "2"), ("kind", .string "1"),
        ("sizes", .array [.bigint (.saturate 3), .bigint (.saturate 4)])]) :=
  changesOnlyScalars_of_parse _ (by decide) _ _ rfl

end ApiContract
