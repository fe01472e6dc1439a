import ApiContract.Proofs.Schema.Agreement
import ApiContract.Proofs.Value.RoundTrip

/-!
# Converted values that travel as JSON

What a schema has converted can be sent as JSON: read back, it is converted to the same value
again.  The decoder does not tell which number was a big integer and which text an instant, so
it is for the schema to find out, leaf by leaf.  A union could not, since an earlier member may
take the digits of a big integer or the text of an instant for its own.
-/

namespace ApiContract

/-- A literal that matches a value matches every value that is the same. -/
theorem Literal.isMatchedBy_of_same {expected : Literal} {left right : Value}
    (same : left.Same right) (matched : expected.isMatchedBy right) :
    expected.isMatchedBy left := by
  cases same with
  | number same =>
      cases expected with
      | number float => exact Binary64.sameNumber_trans matched (Binary64.sameNumber_symm same)
      | string _ | bool _ => simp [isMatchedBy] at matched
  | array _ | object _ _ => cases expected <;> simp [isMatchedBy] at matched
  | _ => exact matched

namespace Schema

/-- No union is part of the schema. -/
inductive UnionFree : Schema → Prop where
  | any : UnionFree .any
  | unknown : UnionFree .unknown
  | null : UnionFree .null
  | string : UnionFree .string
  | number : UnionFree .number
  | integer : UnionFree .integer
  | bigint : UnionFree .bigint
  | boolean : UnionFree .boolean
  | date : UnionFree .date
  | literal (expected : Literal) : UnionFree (.literal expected)
  | enumeration (literals : List Literal) : UnionFree (.enumeration literals)
  | array {items : Schema} (inner : UnionFree items) : UnionFree (.array items)
  | object {fields : List (String × Schema)} {strict : Bool}
      (each : ∀ field ∈ fields, UnionFree field.2) : UnionFree (.object fields strict)
  | record {values : Schema} (inner : UnionFree values) : UnionFree (.record values)
  | optional {inner : Schema} (unionFree : UnionFree inner) : UnionFree (.optional inner)
  | promise {resolved : Schema} (inner : UnionFree resolved) : UnionFree (.promise resolved)
  | function {parameters : List Schema} {result : Schema}
      (each : ∀ parameter ∈ parameters, UnionFree parameter) (inner : UnionFree result) :
      UnionFree (.function parameters result)

/-- The value comes back from JSON as one that the schema converts to the same value. -/
structure TakesBack (schema : Schema) (value : Value) : Prop where
  clean : (walk .converting schema value.carried).Clean
  same : (walk .converting schema value.carried).value.Same value
  /-- An optional place must not take for absent what was there. -/
  present : value.carried.isNull → value.isNull

/-- The schema converts the value, which comes back from JSON as it was, and the text of every
instant in the result says all about it. -/
structure Converts (schema : Schema) (value : Value) : Prop where
  plain : value.Plain
  unchanged : value.carried.Same value
  clean : (walk .converting schema value).Clean
  writable : (walk .converting schema value).value.EveryInstant Instant.IsWritable

/-- The schema takes back all that it converts. -/
def Persists (schema : Schema) : Prop :=
  ∀ value, Converts schema value → TakesBack schema (walk .converting schema value).value

variable {schema : Schema} {expected : String}

/-! ## Leaves -/

/-- What comes back as it was is taken back where it is accepted as it stands. -/
theorem takesBack_of_accepted {value : Value} (unchanged : value.carried.Same value)
    (accepted : walk .converting schema value.carried = .accepted value.carried) :
    TakesBack schema value where
  clean := by
    rw [accepted]
    exact Walked.clean_accepted
  same := by
    rw [accepted]
    exact unchanged
  present := by
    rw [unchanged.isNull_eq]
    exact id

/-- A leaf that keeps its value persists when it asks for nothing that values lose on the
way. -/
theorem persists_of_require {asks : Value → Bool} {message : Value → String}
    (walks : ∀ given, walk .converting schema given = .require (asks given) given (message given))
    (kept : ∀ value : Value, value.carried.Same value → asks value → asks value.carried) :
    Persists schema := by
  rintro value ⟨_, unchanged, clean, _⟩
  rw [walks, Walked.clean_require] at clean
  rw [walks, Walked.value_require]
  apply takesBack_of_accepted unchanged
  rw [walks, Walked.require, if_pos (kept value unchanged clean)]

/-- A leaf that converts persists when what it converts to comes back as something that it
converts to the same. -/
theorem persists_of_walkLeaf {α : Type} {coerce : Value → Option α} {wrap : α → Value}
    (walks : ∀ given,
      walk .converting schema given = walkLeaf expected ((coerce given).map wrap) given)
    (again : ∀ content, (wrap content).EveryInstant Instant.IsWritable →
      coerce (wrap content).carried = some content)
    (nullUnfit : coerce .null = none)
    (same : ∀ content, (wrap content).Same (wrap content)) : Persists schema := by
  rintro value ⟨_, _, clean, writable⟩
  rw [walks] at clean writable ⊢
  rcases exists_value_walkLeaf_of_clean clean with ⟨_, fits, result⟩
  rcases Option.map_eq_some_iff.mp fits with ⟨content, _, rfl⟩
  rw [result] at writable ⊢
  have fitsAgain := again content writable
  constructor
  · rw [walks, clean_walkLeaf, fitsAgain]
    rfl
  · rw [walks, value_walkLeaf, fitsAgain]
    exact same content
  · intro null
    cases comesBack : (wrap content).carried with
    | null => simp [comesBack, nullUnfit] at fitsAgain
    | _ => simp [comesBack, Value.isNull] at null

theorem persists_of_walkNumber {whole : Bool}
    (walks : ∀ given, walk .converting schema given = walkNumber .converting whole given) :
    Persists schema := by
  rintro value ⟨plain, _, clean, _⟩
  rw [walks] at clean ⊢
  rcases clean_walkNumber.mp clean with ⟨float, passes, integral⟩
  rw [value_walkNumber_of_clean passes clean]
  cases float with
  | finite number =>
      rcases Value.exists_carried_number number with ⟨found, comesBack, same⟩
      have passesAgain : WalkMode.converting.number? (.number found) = some found := rfl
      have cleanAgain : (walkNumber .converting whole (.number found)).Clean :=
        clean_walkNumber.mpr ⟨found, passesAgain,
          fun asked => Binary64.isIntegral_of_sameNumber same (integral asked)⟩
      constructor
      · rw [comesBack, walks]
        exact cleanAgain
      · rw [comesBack, walks, value_walkNumber_of_clean passesAgain cleanAgain]
        exact .number same
      · rw [comesBack]
        exact id
  | infinity _ | nan => cases isFinite_coerceNumber plain passes

theorem persists_null : Persists .null := by
  refine persists_of_require (fun _ => walk_null) ?_
  intro value unchanged isNull
  rwa [unchanged.isNull_eq]

theorem persists_string : Persists .string := by
  refine persists_of_require (fun _ => walk_string) ?_
  intro value unchanged isString
  rwa [unchanged.asString?_eq]

theorem persists_literal (expected : Literal) : Persists (.literal expected) :=
  persists_of_require (fun _ => walk_literal) fun _ => Literal.isMatchedBy_of_same

theorem persists_enumeration (literals : List Literal) : Persists (.enumeration literals) := by
  refine persists_of_require (fun _ => walk_enumeration) ?_
  intro value unchanged matched
  rw [List.any_eq_true] at matched ⊢
  rcases matched with ⟨expected, isListed, matched⟩
  exact ⟨expected, isListed, Literal.isMatchedBy_of_same unchanged matched⟩

theorem persists_boolean : Persists .boolean :=
  persists_of_walkLeaf (fun _ => walk_boolean) (fun _ _ => rfl) rfl .bool

theorem persists_bigint : Persists .bigint :=
  persists_of_walkLeaf (fun _ => walk_bigint) (fun integer _ => Value.coerceBigint_carried integer)
    rfl .bigint

theorem persists_date : Persists .date := by
  refine persists_of_walkLeaf (fun _ => walk_date) ?_ rfl .date
  intro instant writable
  cases writable with
  | date shown => exact Value.coerceDate_carried shown

/-! ## Lists, records and objects -/

namespace TakesBack

theorem ofArray {items : Schema} {values : List Value}
    (each : ∀ value ∈ values, TakesBack items value) :
    TakesBack (.array items) (.array values) where
  clean := by
    rw [Value.carried_array, clean_walk_array_iff]
    exact ⟨_, rfl, List.forall_mem_map.mpr fun value isItem => (each value isItem).clean⟩
  same := by
    rw [Value.carried_array, value_walk_array, List.map_map]
    exact (Value.Same.arrayMap_iff fun value => (walk .converting items value.carried).value).mpr
      fun value isItem => (each value isItem).same
  present := by
    rw [Value.carried_array]
    exact id

theorem ofRecord {values : Schema} {members : Entries Value}
    (each : ∀ member ∈ members, TakesBack values member.2) :
    TakesBack (.record values) (.object members) where
  clean := by
    rw [Value.carried_object, clean_walk_record_iff]
    exact ⟨_, rfl, List.forall_mem_map.mpr fun member isMember => (each member isMember).clean⟩
  same := by
    rw [Value.carried_object, value_walk_record, List.map_map]
    exact (Value.Same.objectMap_iff fun value => (walk .converting values value.carried).value).mpr
      fun member isMember => (each member isMember).same
  present := by
    rw [Value.carried_object]
    exact id

theorem ofObject {fields : List (String × Schema)} {strict : Bool} {members : Entries Value}
    (distinct : (Entries.keys fields).Nodup)
    (fieldsClean : ∀ field ∈ fields,
      (outcome .converting field.2 (Entries.get? members field.1)).Clean)
    (each : ∀ field ∈ fields, ∀ value, Entries.get? members field.1 = some value →
      TakesBack field.2 (walk .converting field.2 value).value)
    (undeclaredSame : ∀ member ∈ members, member.2.carried.Same member.2) :
    TakesBack (.object fields strict)
      (walk .converting (.object fields strict) (.object members)).value := by
  have found : ∀ field ∈ fields,
      Entries.get? ((walkedMembers (walkFields .converting fields members) strict members).map
          fun member => (member.1, member.2.carried)) field.1 =
        (Entries.get? members field.1).map fun value =>
          (walk .converting field.2 value).value.carried := by
    intro field isField
    rw [Entries.get?_map (fun _ => Value.carried), get?_walkedMembers_of_mem distinct isField,
      Option.map_map]
    rfl
  rw [value_walk_object]
  constructor
  · rw [Value.carried_object, clean_walk_object_iff]
    refine ⟨_, rfl, ?_, ?_⟩
    · intro field isField
      rw [found field isField]
      have isClean := fieldsClean field isField
      cases present : Entries.get? members field.1 with
      | none =>
          rw [present] at isClean
          exact isClean
      | some value => exact (each field isField value present).clean
    · intro isStrict
      simp only [Entries.keys, List.map_map, List.forall_mem_map, Function.comp_apply]
      intro member isMember
      rcases declared_or_kept_of_mem_walkedMembers isMember with
        ⟨schema, _, declared, _⟩ | ⟨_, notStrict, _⟩
      · exact Entries.mem_keys_of_mem (Entries.mem_of_get? declared)
      · simp [notStrict] at isStrict
  · rw [Value.carried_object, value_walk_object, walkedMembers_eq_filterMap _ _ (List.map _ _),
      List.filterMap_map]
    apply Value.Same.objectFilterMap
    intro member isMember
    simp only [Function.comp_apply, memberChange_walkFields]
    rcases declared_or_kept_of_mem_walkedMembers isMember with
      ⟨schema, value, declared, present, result⟩ | ⟨undeclared, notStrict, isGiven⟩
    · -- All members of one name have become the same, and so they do again.
      have isField := Entries.mem_of_get? declared
      refine ⟨(walk .converting schema member.2.carried).value, ?_, ?_⟩
      · simp [declared, found _ isField, present, outcome, FieldOutcome.value?, result]
      · rw [result]
        exact (each _ isField value present).same
    · refine ⟨member.2.carried, ?_, undeclaredSame member isGiven⟩
      simp [undeclared, notStrict]
  · rw [Value.carried_object]
    exact id

end TakesBack

theorem persists_array {items : Schema} (inner : Persists items) : Persists (.array items) := by
  rintro value ⟨plain, unchanged, clean, writable⟩
  rcases clean_walk_array_iff.mp clean with ⟨values, rfl, itemsClean⟩
  have itemsUnchanged := Value.same_carried_array_iff.mp unchanged
  rw [value_walk_array] at writable ⊢
  cases plain with
  | array itemsPlain =>
      cases writable with
      | array itemsWritable =>
          apply TakesBack.ofArray
          rw [List.forall_mem_map] at itemsWritable ⊢
          intro item isItem
          exact inner item ⟨itemsPlain item isItem, itemsUnchanged item isItem,
            itemsClean item isItem, itemsWritable item isItem⟩

theorem persists_record {values : Schema} (inner : Persists values) :
    Persists (.record values) := by
  rintro value ⟨plain, unchanged, clean, writable⟩
  rcases clean_walk_record_iff.mp clean with ⟨members, rfl, membersClean⟩
  have membersUnchanged := Value.same_carried_object_iff.mp unchanged
  rw [value_walk_record] at writable ⊢
  cases plain with
  | object membersPlain =>
      cases writable with
      | object membersWritable =>
          apply TakesBack.ofRecord
          rw [List.forall_mem_map] at membersWritable ⊢
          intro member isMember
          exact inner member.2 ⟨membersPlain member isMember, membersUnchanged member isMember,
            membersClean member isMember, membersWritable member isMember⟩

theorem persists_object {fields : List (String × Schema)} {strict : Bool}
    (distinct : (Entries.keys fields).Nodup) (each : ∀ field ∈ fields, Persists field.2) :
    Persists (.object fields strict) := by
  rintro value ⟨plain, unchanged, clean, writable⟩
  rcases clean_walk_object_iff.mp clean with ⟨members, rfl, fieldsClean, _⟩
  have membersUnchanged := Value.same_carried_object_iff.mp unchanged
  rw [value_walk_object] at writable
  cases plain with
  | object membersPlain =>
      cases writable with
      | object membersWritable =>
          refine .ofObject distinct fieldsClean ?_ membersUnchanged
          intro field isField value found
          have isMember := Entries.mem_of_get? found
          have isClean := fieldsClean field isField
          have converted : Entries.get?
              (walkedMembers (walkFields .converting fields members) strict members) field.1 = _ :=
            get?_walkedMembers_of_mem distinct isField
          rw [found] at isClean converted
          exact each field isField value ⟨membersPlain _ isMember, membersUnchanged _ isMember,
            isClean, membersWritable _ (Entries.mem_of_get? converted)⟩

/-! ## Wrappers -/

theorem TakesBack.ofOptional {inner : Schema} {value : Value}
    (takesBack : TakesBack inner value) : TakesBack (.optional inner) value where
  clean := clean_walk_optional_iff.mpr (.inr takesBack.clean)
  same := by
    cases null : value.carried.isNull with
    | true =>
        rw [walk_optional, if_pos null, Value.eq_null_of_isNull (takesBack.present null)]
        exact .null
    | false =>
        rw [walk_optional_of_present null]
        exact takesBack.same
  present := takesBack.present

theorem persists_optional {inner : Schema} (persists : Persists inner) :
    Persists (.optional inner) := by
  rintro value ⟨plain, unchanged, clean, writable⟩
  cases null : value.isNull with
  | true =>
      rw [walk_optional, if_pos null]
      exact takesBack_of_accepted .null rfl
  | false =>
      rw [walk_optional_of_present null] at clean writable ⊢
      exact .ofOptional (persists value ⟨plain, unchanged, clean, writable⟩)

theorem persists_promise {resolved : Schema} (persists : Persists resolved) :
    Persists (.promise resolved) := by
  rintro value ⟨plain, unchanged, clean, writable⟩
  rw [walk_promise] at clean writable ⊢
  have takesBack := persists value ⟨plain, unchanged, clean, writable⟩
  exact ⟨takesBack.clean, takesBack.same, takesBack.present⟩

theorem persists_of_unionFree (wellFormed : schema.wellFormed) (unionFree : schema.UnionFree) :
    Persists schema := by
  induction unionFree with
  | any => exact fun _ converts => takesBack_of_accepted converts.unchanged walk_any
  | unknown => exact fun _ converts => takesBack_of_accepted converts.unchanged walk_unknown
  | null => exact persists_null
  | string => exact persists_string
  | number => exact persists_of_walkNumber fun _ => walk_number
  | integer => exact persists_of_walkNumber fun _ => walk_integer
  | bigint => exact persists_bigint
  | boolean => exact persists_boolean
  | date => exact persists_date
  | literal expected => exact persists_literal expected
  | enumeration literals => exact persists_enumeration literals
  | array _ ih => exact persists_array (ih (wellFormed_array ▸ wellFormed))
  | record _ ih => exact persists_record (ih (wellFormed_record ▸ wellFormed))
  | object _ ih =>
      rcases wellFormed_object_iff.mp wellFormed with ⟨distinct, fieldsWellFormed⟩
      apply persists_object distinct
      intro field isField
      exact ih field isField (fieldsWellFormed field isField)
  | optional _ ih => exact persists_optional (ih (wellFormed_optional ▸ wellFormed))
  | promise _ ih => exact persists_promise (ih (wellFormed_promise ▸ wellFormed))
  | function => exact fun _ converts => absurd converts.clean not_clean_walk_function

end Schema

/-- What a schema without unions has converted from JSON comes back from JSON as the same
value. -/
theorem Schema.parse_carried (schema : Schema) (wellFormed : schema.wellFormed)
    (unionFree : schema.UnionFree) (json : Json) (converted : Value)
    (parsed : Checker.parse ⟨.native, schema, wellFormed⟩ (.ofJson json) = .ok converted)
    (writable : converted.EveryInstant Instant.IsWritable) :
    ∃ again, Checker.parse ⟨.native, schema, wellFormed⟩ (.ofJson converted.toJson) = .ok again ∧
      again.Same converted := by
  rcases Checker.parse_native_eq_ok_iff.mp parsed with ⟨clean, rfl⟩
  have takesBack := persists_of_unionFree wellFormed unionFree _
    ⟨Value.plain_ofJson json, Value.same_carried_ofJson json, clean, writable⟩
  exact ⟨_, Checker.parse_native_eq_ok_iff.mpr ⟨takesBack.clean, rfl⟩, takesBack.same⟩

/-- An instant in a leap second, a zero that loses its sign, a big integer in each of its three
forms and a member that is not declared. -/
theorem Schema.parse_carried_sample :
    ∃ again,
      Checker.parse
          ⟨.native,
            .object [("at", .date), ("rate", .number), ("sizes", .array .bigint),
              ("note", .optional .string)] false,
            by decide⟩
          (.ofJson (Value.toJson (.object
            [("at", .date ⟨1483228799, 1250000000, by decide⟩),
              ("rate", .number (.finite (.zero true))),
              ("sizes", .array [.bigint (.saturate 7), .bigint (.saturate (2 ^ 60)),
                .bigint (.saturate (-2 ^ 100))]),
              ("extra", .bool true)]))) =
        .ok again ∧
      again.Same (.object
        [("at", .date ⟨1483228799, 1250000000, by decide⟩),
          ("rate", .number (.finite (.zero true))),
          ("sizes", .array [.bigint (.saturate 7), .bigint (.saturate (2 ^ 60)),
            .bigint (.saturate (-2 ^ 100))]),
          ("extra", .bool true)]) := by
  have unionFree : (Schema.object [("at", .date), ("rate", .number), ("sizes", .array .bigint),
      ("note", .optional .string)] false).UnionFree := by
    refine .object ?_
    simp only [List.forall_mem_cons, List.not_mem_nil, false_implies, implies_true, and_true]
    exact ⟨.date, .number, .array .bigint, .optional .string⟩
  refine parse_carried _ (by decide) unionFree
    (.object
      [("at", .string " 2016-12-31T23:59:60.25Z"), ("rate", .string "-0"),
        ("sizes", .array [.string "+7", .number (.integer ⟨2 ^ 60, by decide, by decide⟩),
          .string "-1267650600228229401496703205376"]),
        ("extra", .bool true)])
    _ (by rfl) ?_
  refine .object ?_
  simp only [List.forall_mem_cons, List.not_mem_nil, false_implies, implies_true, and_true]
  refine ⟨.date (by decide), .number _, .array ?_, .bool true⟩
  simp only [List.forall_mem_cons, List.not_mem_nil, false_implies, implies_true, and_true]
  exact ⟨.bigint _, .bigint _, .bigint _⟩

end ApiContract
