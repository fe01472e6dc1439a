import ApiContract.Proofs.Schema.Agreement
import ApiContract.Proofs.Time.Reader

/-!
# Values that conversion spoils

The document of a schema judges JSON.  When it accepts a value it has seen the JSON of the
value as it came; when the value is parsed, it sees the JSON of what the converting walk made
of it.  The two differ where a kind of values has no exact likeness in JSON: an instant is
written with its year, which is not read back with a sign, and a big integer beyond 64 bits is
written as text.  So the document may refuse what it accepted before, and this module says of
which values it does.
-/

namespace ApiContract

/-! ## Null and numbers in JSON -/

namespace Json

variable {subject : Json}

theorem hasType_null_iff : subject.hasType "null" ↔ subject = .null := by
  cases subject <;> simp [hasType, kind]

theorem exists_number_of_hasType {typeName : String}
    (numeric : typeName = "number" ∨ typeName = "integer") (typed : subject.hasType typeName) :
    ∃ written, subject = .number written := by
  cases subject with
  | number written => exact ⟨written, rfl⟩
  | _ => rcases numeric with rfl | rfl <;> simp [hasType, kind] at typed

theorem exists_bool_of_hasType (typed : subject.hasType "boolean") :
    ∃ truth, subject = .bool truth := by
  cases subject with
  | bool truth => exact ⟨truth, rfl⟩
  | _ => simp [hasType, kind] at typed

/-- An integer beyond 64 bits is written as its digits. -/
theorem ofInt_of_wide {integer : Int} (wide : ¬(-twoTo 63 ≤ integer ∧ integer < twoTo 64)) :
    ofInt integer = .string (Text.integerText integer) := by
  have unfit : JsonInteger.ofInt? integer = none := dif_neg wide
  rw [ofInt, unfit]

/-- An integer is written as a number just when it fits 64 bits. -/
theorem hasType_ofInt_iff {integer : Int} :
    (ofInt integer).hasType "integer" ↔ -twoTo 63 ≤ integer ∧ integer < twoTo 64 := by
  by_cases inRange : -twoTo 63 ≤ integer ∧ integer < twoTo 64
  · rw [ofInt, JsonInteger.ofInt?_of_inRange inRange.1 inRange.2]
    exact iff_of_true rfl inRange
  · rw [ofInt_of_wide inRange]
    exact iff_of_false (by simp [hasType, kind]) inRange

theorem inRange_of_ofInt {integer : Int} {written : JsonNumber}
    (shape : ofInt integer = .number written) : -twoTo 63 ≤ integer ∧ integer < twoTo 64 := by
  by_contra wide
  rw [ofInt_of_wide wide] at shape
  cases shape

end Json

theorem Binary64.toJson_eq_null_iff {float : Binary64} :
    float.toJson = .null ↔ float.isFinite = false := by
  cases float with
  | finite number =>
      rcases exists_toJson_finite number with ⟨written, shape, _⟩
      simp [shape, isFinite]
  | infinity _ | nan => simp [toJson, isFinite]

namespace Value

variable {value : Value}

/-- What is written as a number is a plain value that reads as one. -/
theorem plain_of_toJson_number {written : JsonNumber} (shape : value.toJson = .number written) :
    value.Plain ∧ ∃ float, value.asBinary64? = some float := by
  cases value with
  | number float =>
      cases finite : float.isFinite with
      | true => exact ⟨.number finite, float, rfl⟩
      | false => simp [toJson, Binary64.toJson_eq_null_iff.mpr finite] at shape
  | bigint integer =>
      rcases Json.inRange_of_ofInt shape with ⟨lower, upper⟩
      exact ⟨.bigint lower upper, integer.toBinary64, rfl⟩
  | _ => simp [toJson] at shape

theorem eq_string_or_date_or_bigint {text : String} (shape : value.toJson = .string text) :
    value = .string text ∨ (∃ instant, value = .date instant) ∨
      ∃ integer, value = .bigint integer := by
  cases value with
  | string found => exact .inl (by simpa [toJson] using shape)
  | date instant => exact .inr (.inl ⟨instant, rfl⟩)
  | bigint integer => exact .inr (.inr ⟨integer, rfl⟩)
  | _ => simp [toJson] at shape

theorem eq_bool_of_toJson {truth : Bool} (shape : value.toJson = .bool truth) :
    value = .bool truth := by
  cases value with
  | bool found => simpa [toJson] using shape
  | _ => simp [toJson] at shape

theorem eq_null_or_number_of_toJson (shape : value.toJson = .null) :
    value = .null ∨ ∃ float, value = .number float ∧ float.isFinite = false := by
  cases value with
  | null => exact .inl rfl
  | number float => exact .inr ⟨float, rfl, Binary64.toJson_eq_null_iff.mp shape⟩
  | _ => simp [toJson] at shape

theorem toJson_of_isNull (isNull : value.isNull) : value.toJson = .null := by
  rw [eq_null_of_isNull isNull]
  rfl

/-- Only an infinite number or a NaN passes for one. -/
theorem eq_number_of_coerceNumber {float : Binary64} (passes : value.coerceNumber = some float)
    (infinite : float.isFinite = false) : value = .number float := by
  have finite : ∀ {integer : Int}, integer.natAbs < twoTo 128 → float ≠ .ofInt integer := by
    rintro integer bounded rfl
    have isFinite := Binary64.isFinite_of_isIntegral (Binary64.isIntegral_ofInt bounded)
    exact Bool.false_ne_true (infinite.symm.trans isFinite)
  cases value with
  | number found => exact congrArg number (Option.some.inj passes)
  | string text =>
      have isFinite := (Option.filter_eq_some_iff.mp passes).2
      exact absurd (infinite.symm.trans isFinite) Bool.false_ne_true
  | date instant =>
      rcases instant.valid with ⟨first, last, nanoseconds, _⟩
      have bounded : instant.toMillis.natAbs < 9000000000000000 := by
        simp only [Instant.toMillis, firstSecond, lastSecond] at first last ⊢
        omega
      exact absurd (Option.some.inj passes).symm (finite (bounded.trans (by decide)))
  | bigint integer => exact absurd (Option.some.inj passes).symm (finite integer.natAbs_lt)
  | bool truth =>
      have bounded : (if truth then 1 else 0 : Int).natAbs < twoTo 128 := by
        cases truth <;> decide
      exact absurd (Option.some.inj passes).symm (finite bounded)
  | null =>
      obtain rfl : Binary64.zero = float := Option.some.inj passes
      cases infinite
  | array _ | object _ => simp [coerceNumber] at passes

end Value

namespace Schema

variable {value : Value}

/-! ## What conversion makes of null and of infinite numbers -/

/-- No conversion touches an infinite number or a NaN. -/
theorem value_walk_of_infinite (schema : Schema) {float : Binary64}
    (infinite : float.isFinite = false) :
    (walk .converting schema (.number float)).value = .number float := by
  have number : ∀ whole, (walkNumber .converting whole (.number float)).value = .number float := by
    intro whole
    by_cases clean : (walkNumber .converting whole (.number float)).Clean
    · exact value_walkNumber_of_clean rfl clean
    · exact value_walkNumber_of_not_clean clean
  have fraction : float.isIntegral = false := by
    cases float with
    | finite number => cases infinite
    | infinity _ | nan => rfl
  induction schema with
  | any | unknown => rfl
  | null | string | literal _ | enumeration _ =>
      simp only [walk_null, walk_string, walk_literal, walk_enumeration, Walked.value_require]
  | number => exact number false
  | integer => exact number true
  | bigint =>
      simp [walk_bigint, value_walkLeaf, WalkMode.bigint?, Value.coerceBigint, fraction]
  | boolean => rfl
  | date => simp [walk_date, value_walkLeaf, WalkMode.date?, Value.coerceDate, infinite]
  | array items _ => rfl
  | object fields strict _ => rfl
  | record values _ => rfl
  | union members ih =>
      by_cases clean : (walk .converting (.union members) (.number float)).Clean
      · rcases exists_value_walk_union clean with ⟨member, isMember, _, result⟩
        rw [result]
        exact ih member isMember
      · exact value_walk_union_of_not_clean clean
  | optional inner ih =>
      rw [walk_optional_of_present rfl]
      exact ih
  | promise resolved ih => exact ih
  | function parameters result _ _ => rfl

/-- No conversion makes anything that is written as null of a value that is not. -/
theorem toJson_eq_null_of_walk (schema : Schema)
    (null : (walk .converting schema value).value.toJson = .null) : value.toJson = .null := by
  have number : ∀ whole, (walkNumber .converting whole value).value.toJson = .null →
      value.toJson = .null := by
    intro whole null
    by_cases clean : (walkNumber .converting whole value).Clean
    · rcases clean_walkNumber.mp clean with ⟨float, passes, _⟩
      rw [value_walkNumber_of_clean passes clean] at null
      rw [Value.eq_number_of_coerceNumber passes (Binary64.toJson_eq_null_iff.mp null)]
      exact null
    · rwa [value_walkNumber_of_not_clean clean] at null
  induction schema generalizing value with
  | any | unknown => exact null
  | null | string | literal _ | enumeration _ =>
      simpa only [walk_null, walk_string, walk_literal, walk_enumeration,
        Walked.value_require] using null
  | number => exact number false null
  | integer => exact number true null
  | bigint =>
      rw [walk_bigint, value_walkLeaf, WalkMode.bigint?] at null
      cases passes : value.coerceBigint with
      | none => simpa [passes] using null
      | some integer =>
          simp [passes, Value.toJson] at null
  | boolean =>
      rw [walk_boolean, value_walkLeaf, WalkMode.boolean?] at null
      cases passes : value.coerceBoolean with
      | none => simpa [passes] using null
      | some truth => simp [passes, Value.toJson] at null
  | date =>
      rw [walk_date, value_walkLeaf, WalkMode.date?] at null
      cases passes : value.coerceDate with
      | none => simpa [passes] using null
      | some instant => simp [passes, Value.toJson] at null
  | array items _ =>
      cases value with
      | array values => simp [value_walk_array] at null
      | _ => exact null
  | object fields strict _ =>
      cases value with
      | object members => simp [value_walk_object] at null
      | _ => exact null
  | record values _ =>
      cases value with
      | object members => simp [value_walk_record] at null
      | _ => exact null
  | union members ih =>
      by_cases clean : (walk .converting (.union members) value).Clean
      · rcases exists_value_walk_union clean with ⟨member, isMember, _, result⟩
        rw [result] at null
        exact ih member isMember null number
      · rwa [value_walk_union_of_not_clean clean] at null
  | optional inner ih =>
      cases isNull : value.isNull with
      | true => exact Value.toJson_of_isNull isNull
      | false =>
          rw [walk_optional_of_present isNull] at null
          exact ih null number
  | promise resolved ih => exact ih null number
  | function parameters result _ _ => exact null

/-! ## Spoiled values -/

/-- Conversion along the schema turns the value, which the document accepts, into one that the
document refuses. -/
inductive Spoils : Schema → Value → Prop where
  /-- The float becomes a big integer that is written as text. -/
  | bigint {number : FiniteBinary64}
      (wide : ¬(-twoTo 63 ≤ number.truncate ∧ number.truncate < twoTo 64)) :
      Spoils .bigint (.number (.finite number))
  /-- The text becomes an instant that is written with a sign before its year. -/
  | date {text : String} {instant : Instant} (reads : Value.readDate text = some instant)
      (signed : ¬instant.HasPlainYear) : Spoils .date (.string text)
  | array {items : Schema} {values : List Value} {value : Value} (member : value ∈ values)
      (spoils : Spoils items value) : Spoils (.array items) (.array values)
  | object {fields : List (String × Schema)} {strict : Bool} {members : Entries Value}
      {field : String × Schema} {value : Value} (declared : field ∈ fields)
      (found : Entries.get? members field.1 = some value) (spoils : Spoils field.2 value) :
      Spoils (.object fields strict) (.object members)
  | record {values : Schema} {members : Entries Value} {member : String × Value}
      (isMember : member ∈ members) (spoils : Spoils values member.2) :
      Spoils (.record values) (.object members)
  /-- The union settles on a conversion that none of its documents accepts. -/
  | union {members : List Schema} {value converted : Value}
      (settles : walkUnion .converting members value = some converted)
      (refused : ∀ member ∈ members, ¬converted.toJson.Meets (document member)) :
      Spoils (.union members) value
  /-- What is written as null passes, whatever the conversion makes of it. -/
  | optional {inner : Schema} {value : Value} (present : value.toJson ≠ .null)
      (spoils : Spoils inner value) : Spoils (.optional inner) value
  | promise {resolved : Schema} {value : Value} (spoils : Spoils resolved value) :
      Spoils (.promise resolved) value

/-! ## Leaves -/

theorem walked_meets_number (meets : value.toJson.Meets (document .number)) :
    (walk .converting .number value).value.toJson.Meets (document .number) := by
  rw [document, meets_leafDocument_iff] at meets
  rcases Json.exists_number_of_hasType (.inl rfl) meets with ⟨written, shape⟩
  rcases Value.plain_of_toJson_number shape with ⟨plain, float, reads⟩
  have passes : WalkMode.converting.number? value = some float := coerceNumber_of_reads reads
  have clean : (walkNumber .converting false value).Clean :=
    clean_walkNumber.mpr ⟨float, passes, by simp⟩
  rw [walk_number, value_walkNumber_of_clean passes clean]
  exact (meets_number_iff (.number (plain.isFinite reads))).mpr ⟨float, rfl⟩

theorem walked_meets_integer (meets : value.toJson.Meets (document .integer)) :
    (walk .converting .integer value).value.toJson.Meets (document .integer) := by
  have typed := meets
  rw [document, meets_leafDocument_iff] at typed
  rcases Json.exists_number_of_hasType (.inr rfl) typed with ⟨written, shape⟩
  have plain := (Value.plain_of_toJson_number shape).1
  rcases (meets_integer_iff plain).mp meets with ⟨float, reads, integral⟩
  have passes : WalkMode.converting.number? value = some float := coerceNumber_of_reads reads
  have clean : (walkNumber .converting true value).Clean :=
    clean_walkNumber.mpr ⟨float, passes, fun _ => integral⟩
  rw [walk_integer, value_walkNumber_of_clean passes clean]
  exact (meets_integer_iff (.number (plain.isFinite reads))).mpr ⟨float, rfl, integral⟩

theorem walked_meets_boolean (meets : value.toJson.Meets (document .boolean)) :
    (walk .converting .boolean value).value.toJson.Meets (document .boolean) := by
  have typed := meets
  rw [document, meets_leafDocument_iff] at typed
  rcases Json.exists_bool_of_hasType typed with ⟨truth, shape⟩
  cases Value.eq_bool_of_toJson shape
  exact meets

/-- The big integer of a float fits 64 bits just when the float does. -/
theorem ofBinary64_inRange_iff {number : FiniteBinary64} :
    (-twoTo 63 ≤ (Int128.ofBinary64 (.finite number)).toInt ∧
        (Int128.ofBinary64 (.finite number)).toInt < twoTo 64) ↔
      -twoTo 63 ≤ number.truncate ∧ number.truncate < twoTo 64 := by
  have lower : (twoTo 63 : Int) < twoTo 127 := by decide
  have upper : (twoTo 64 : Int) < twoTo 127 := by decide
  have positive := twoTo_pos 63
  simp only [Int128.ofBinary64, Binary64.clampToInt, Int128.saturate]
  omega

theorem spoils_bigint_iff {number : FiniteBinary64} :
    Spoils .bigint (.number (.finite number)) ↔
      ¬(-twoTo 63 ≤ number.truncate ∧ number.truncate < twoTo 64) :=
  ⟨fun spoils => by cases spoils; assumption, .bigint⟩

/-- A whole float becomes a big integer, which is written as a number if it fits 64 bits. -/
theorem walked_meets_bigint_iff (meets : value.toJson.Meets (document .bigint)) :
    (walk .converting .bigint value).value.toJson.Meets (document .bigint) ↔
      ¬Spoils .bigint value := by
  have typed := meets_bigint_iff.mp meets
  rcases Json.exists_number_of_hasType (.inr rfl) typed with ⟨written, shape⟩
  rcases Value.plain_of_toJson_number shape with ⟨plain, float, reads⟩
  cases plain with
  | bigint lower upper =>
      refine iff_of_true meets ?_
      intro spoils
      cases spoils
  | @number found finite =>
      cases found with
      | finite number =>
          have integral : number.isIntegral := by
            rw [(Value.Plain.number finite).hasType_toJson] at typed
            simpa [Value.isOfType, Value.asBinary64?, Binary64.isIntegral] using typed
          have converted : (walk .converting .bigint (.number (.finite number))).value =
              .bigint (.ofBinary64 (.finite number)) := by
            simp [walk_bigint, value_walkLeaf, WalkMode.bigint?, Value.coerceBigint,
              Binary64.isIntegral, integral]
          rw [converted, meets_bigint_iff, Value.toJson, Json.hasType_ofInt_iff,
            ofBinary64_inRange_iff, spoils_bigint_iff, not_not]
      | infinity _ | nan => cases finite
  | _ => cases reads

theorem spoils_date_iff {text : String} {instant : Instant}
    (reads : Value.readDate text = some instant) :
    Spoils .date (.string text) ↔ ¬instant.HasPlainYear := by
  constructor
  · intro spoils
    cases spoils with
    | date readsAs signed =>
        obtain rfl := Option.some.inj (reads.symm.trans readsAs)
        exact signed
  · exact .date reads

/-- A text becomes the instant that it is read as, which is written with its year. -/
theorem walked_meets_date_iff (meets : value.toJson.Meets (document .date)) :
    (walk .converting .date value).value.toJson.Meets (document .date) ↔
      ¬Spoils .date value := by
  rcases meets_date_iff.mp meets with ⟨text, shape, readable⟩
  rcases Value.eq_string_or_date_or_bigint shape with rfl | ⟨instant, rfl⟩ | ⟨integer, rfl⟩
  · rcases Option.isSome_iff_exists.mp readable with ⟨instant, reads⟩
    have converted : (walk .converting .date (.string text)).value = .date instant := by
      simp [walk_date, value_walkLeaf, WalkMode.date?, Value.coerceDate, reads]
    rw [converted, Value.toJson, meets_date_iff, spoils_date_iff reads, not_not,
      ← Instant.isSome_readDate_text_iff]
    simp
  · refine iff_of_true meets ?_
    intro spoils
    cases spoils
  · have wide : ¬(-twoTo 63 ≤ integer.toInt ∧ integer.toInt < twoTo 64) := by
      intro inRange
      rw [Value.toJson, Json.ofInt, JsonInteger.ofInt?_of_inRange inRange.1 inRange.2] at shape
      cases shape
    have kept : (walk .converting .date (.bigint integer)).value = .bigint integer := by
      have unfit : Value.millisOfBigint integer = none := by
        have wider : (twoTo 63 : Int) < twoTo 64 := by decide
        rw [Value.millisOfBigint, if_neg (by omega)]
      simp [walk_date, value_walkLeaf, WalkMode.date?, Value.coerceDate, unfit]
    rw [kept]
    refine iff_of_true meets ?_
    intro spoils
    cases spoils

/-! ## Nodes -/

theorem spoils_array_iff {items : Schema} {values : List Value} :
    Spoils (.array items) (.array values) ↔ ∃ value ∈ values, Spoils items value := by
  constructor
  · intro spoils
    cases spoils with
    | array member spoils => exact ⟨_, member, spoils⟩
  · rintro ⟨value, member, spoils⟩
    exact .array member spoils

theorem spoils_record_iff {values : Schema} {members : Entries Value} :
    Spoils (.record values) (.object members) ↔ ∃ member ∈ members, Spoils values member.2 := by
  constructor
  · intro spoils
    cases spoils with
    | record isMember spoils => exact ⟨_, isMember, spoils⟩
  · rintro ⟨member, isMember, spoils⟩
    exact .record isMember spoils

theorem spoils_object_iff {fields : List (String × Schema)} {strict : Bool}
    {members : Entries Value} :
    Spoils (.object fields strict) (.object members) ↔
      ∃ field ∈ fields, ∃ value, Entries.get? members field.1 = some value ∧
        Spoils field.2 value := by
  constructor
  · intro spoils
    cases spoils with
    | object declared found spoils => exact ⟨_, declared, _, found, spoils⟩
  · rintro ⟨field, declared, value, found, spoils⟩
    exact .object declared found spoils

theorem spoils_union_iff {members : List Schema} :
    Spoils (.union members) value ↔
      ∃ converted, walkUnion .converting members value = some converted ∧
        ¬converted.toJson.Meets (document (.union members)) := by
  constructor
  · intro spoils
    cases spoils with
    | union settles refused =>
        refine ⟨_, settles, ?_⟩
        rw [meets_union_iff]
        rintro ⟨member, isMember, met⟩
        exact refused member isMember met
  · rintro ⟨converted, settles, refused⟩
    refine .union settles fun member isMember met => refused ?_
    exact meets_union_iff.mpr ⟨member, isMember, met⟩

theorem spoils_optional_iff {inner : Schema} (present : value.toJson ≠ .null) :
    Spoils (.optional inner) value ↔ Spoils inner value := by
  constructor
  · intro spoils
    cases spoils
    assumption
  · exact .optional present

theorem spoils_promise_iff {resolved : Schema} :
    Spoils (.promise resolved) value ↔ Spoils resolved value := by
  constructor
  · intro spoils
    cases spoils
    assumption
  · exact .promise

/-- A strict object has no undeclared members after it was walked. -/
theorem mem_keys_of_mem_keys_walkedMembers {fields : List (String × Schema)}
    {members : Entries Value} {name : String}
    (member : name ∈ Entries.keys
      (walkedMembers (walkFields .converting fields members) true members)) :
    name ∈ Entries.keys fields := by
  rcases Entries.exists_get?_iff.mpr member with ⟨value, found⟩
  rw [get?_walkedMembers] at found
  by_contra undeclared
  rcases Option.bind_eq_some_iff.mp found with ⟨_, _, result⟩
  simp [memberResult, Entries.get?_eq_none_iff.mpr undeclared] at result

/-- What the document of the schema accepts it still accepts after the conversion, except the
values that this spoils. -/
def KeepsUnspoiled (schema : Schema) : Prop :=
  ∀ value : Value, value.toJson.Meets (document schema) →
    ((walk .converting schema value).value.toJson.Meets (document schema) ↔ ¬Spoils schema value)

namespace KeepsUnspoiled

theorem of_kept {schema : Schema} (unspoiled : ∀ value, ¬Spoils schema value)
    (kept : ∀ value : Value, value.toJson.Meets (document schema) →
      (walk .converting schema value).value.toJson.Meets (document schema)) :
    schema.KeepsUnspoiled :=
  fun value meets => iff_of_true (kept value meets) (unspoiled value)

theorem array {items : Schema} (keeps : items.KeepsUnspoiled) :
    (Schema.array items).KeepsUnspoiled := by
  intro value meets
  rcases meets_array_iff.mp meets with ⟨entries, shape, itemsMeet⟩
  rcases Value.exists_array_of_toJson shape with ⟨values, rfl, rfl⟩
  rw [value_walk_array, Value.toJson_array, spoils_array_iff, meets_array_iff]
  simp only [Json.array.injEq, exists_eq_left', List.forall_mem_map, not_exists, not_and]
  exact forall₂_congr fun value member => keeps value (itemsMeet _ (List.mem_map_of_mem member))

theorem record {values : Schema} (keeps : values.KeepsUnspoiled) :
    (Schema.record values).KeepsUnspoiled := by
  intro value meets
  rcases meets_record_iff.mp meets with ⟨entries, shape, membersMeet⟩
  rcases Value.exists_object_of_toJson shape with ⟨members, rfl, rfl⟩
  rw [value_walk_record, Value.toJson_object, spoils_record_iff, meets_record_iff]
  simp only [Json.object.injEq, exists_eq_left', List.forall_mem_map, not_exists, not_and]
  exact forall₂_congr fun member isMember =>
    keeps member.2 (membersMeet _ (List.mem_map_of_mem isMember))

/-- Whether an object is strict does not matter here: what it does not declare is gone. -/
theorem object {fields : List (String × Schema)} {strict : Bool}
    (distinct : (Entries.keys fields).Nodup)
    (keeps : ∀ field ∈ fields, field.2.KeepsUnspoiled) :
    (Schema.object fields strict).KeepsUnspoiled := by
  intro value meets
  rcases (meets_object_iff distinct).mp meets with ⟨entries, shape, fieldsMet, _⟩
  rcases Value.exists_object_of_toJson shape with ⟨members, rfl, rfl⟩
  have closed : strict → ∀ name ∈ Entries.keys
      ((walkedMembers (walkFields .converting fields members) strict members).map
        fun member => (member.1, member.2.toJson)), name ∈ Entries.keys fields := by
    rintro rfl name member
    apply mem_keys_of_mem_keys_walkedMembers
    simpa [Entries.keys] using member
  rw [value_walk_object, Value.toJson_object, meets_object_iff distinct, spoils_object_iff]
  simp only [Json.object.injEq, exists_eq_left', not_exists, not_and]
  rw [and_iff_left closed]
  refine forall₂_congr fun field isField => ?_
  have fieldMet := fieldsMet field isField
  rw [Entries.get?_map (fun _ => Value.toJson)] at fieldMet
  rw [Entries.get?_map (fun _ => Value.toJson), get?_walkedMembers_of_mem distinct isField]
  cases found : Entries.get? members field.1 with
  | none =>
      rw [found] at fieldMet
      exact iff_of_true fieldMet (by simp)
  | some value =>
      rw [found] at fieldMet
      simp only [Option.some.injEq, forall_eq']
      exact keeps field isField value fieldMet

theorem union (members : List Schema) : (Schema.union members).KeepsUnspoiled := by
  intro value meets
  rw [spoils_union_iff, walk_union]
  cases settles : walkUnion .converting members value with
  | none => exact iff_of_true meets (by simp)
  | some converted => simp

theorem optional {inner : Schema} (keeps : inner.KeepsUnspoiled) :
    (Schema.optional inner).KeepsUnspoiled := by
  intro value meets
  by_cases null : value.toJson = .null
  · have kept : (walk .converting (.optional inner) value).value.toJson = .null := by
      rcases Value.eq_null_or_number_of_toJson null with rfl | ⟨float, rfl, infinite⟩
      · rfl
      · rwa [value_walk_of_infinite _ infinite]
    refine iff_of_true (meets_optional_iff.mpr (.inr (Json.hasType_null_iff.mpr kept))) ?_
    intro spoils
    cases spoils with
    | optional present _ => exact present null
  · have present : value.isNull = false :=
      eq_false_of_ne_true fun isNull => null (Value.toJson_of_isNull isNull)
    have innerMeets := (meets_optional_iff.mp meets).resolve_right
      fun isNull => null (Json.hasType_null_iff.mp isNull)
    have notNull : (walk .converting inner value).value.toJson.hasType "null" ↔ False :=
      iff_false_intro fun isNull =>
        null (toJson_eq_null_of_walk inner (Json.hasType_null_iff.mp isNull))
    rw [walk_optional_of_present present, spoils_optional_iff null, meets_optional_iff, notNull,
      or_false]
    exact keeps value innerMeets

theorem promise {resolved : Schema} (keeps : resolved.KeepsUnspoiled) :
    (Schema.promise resolved).KeepsUnspoiled := by
  intro value meets
  rw [walk_promise, meets_promise_iff, spoils_promise_iff]
  exact keeps value (meets_promise_iff.mp meets)

end KeepsUnspoiled

/-- A document accepts what the walk makes of a value that it accepts, unless the walk spoils
the value. -/
theorem keepsUnspoiled {schema : Schema} (wellFormed : schema.wellFormed) :
    schema.KeepsUnspoiled := by
  induction schema with
  | any | unknown => exact .of_kept nofun fun _ _ => meets_any
  | null | string | literal _ | enumeration _ =>
      refine .of_kept nofun fun value meets => ?_
      simpa only [walk_null, walk_string, walk_literal, walk_enumeration,
        Walked.value_require] using meets
  | number => exact .of_kept nofun fun _ => walked_meets_number
  | integer => exact .of_kept nofun fun _ => walked_meets_integer
  | boolean => exact .of_kept nofun fun _ => walked_meets_boolean
  | bigint => exact fun _ => walked_meets_bigint_iff
  | date => exact fun _ => walked_meets_date_iff
  | array items ih => exact .array (ih (wellFormed_array ▸ wellFormed))
  | object fields strict ih =>
      rcases wellFormed_object_iff.mp wellFormed with ⟨distinct, fieldsWellFormed⟩
      exact .object distinct fun field isField => ih field isField (fieldsWellFormed field isField)
  | record values ih => exact .record (ih (wellFormed_record ▸ wellFormed))
  | union members _ => exact .union members
  | optional inner ih => exact .optional (ih (wellFormed_optional ▸ wellFormed))
  | promise resolved ih => exact .promise (ih (wellFormed_promise ▸ wellFormed))
  | function parameters result _ _ => exact fun _ meets => absurd meets not_meets_function

end Schema

/-! ## Validation and parsing by the document -/

namespace Checker

variable {schema : Schema} {wellFormed : schema.wellFormed} {value : Value}

theorem accepts_document_iff :
    accepts ⟨.document, schema, wellFormed⟩ value ↔ value.toJson.Meets schema.document :=
  List.isEmpty_iff

theorem exists_parse_document_iff :
    (∃ converted, parse ⟨.document, schema, wellFormed⟩ value = .ok converted) ↔
      (schema.walk .converting value).value.toJson.Meets schema.document := by
  constructor
  · rintro ⟨converted, parsed⟩
    exact (parse_document_eq_ok_iff.mp parsed).1
  · intro meets
    exact ⟨_, parse_document_eq_ok_iff.mpr ⟨meets, rfl⟩⟩

end Checker

/-- A value that the document accepts as it stands is one that parsing returns a value for, unless
the conversion along the schema spoils it. -/
theorem Schema.exists_parse_document_iff_of_accepts (schema : Schema)
    (wellFormed : schema.wellFormed) (value : Value)
    (accepted : Checker.accepts ⟨.document, schema, wellFormed⟩ value = true) :
    (∃ converted, Checker.parse ⟨.document, schema, wellFormed⟩ value = .ok converted) ↔
      ¬schema.Spoils value := by
  rw [Checker.exists_parse_document_iff]
  exact keepsUnspoiled wellFormed value (Checker.accepts_document_iff.mp accepted)

/-- A date as text and the largest big integer of 64 bits are not spoiled. -/
theorem Schema.exists_parse_document_sample :
    ∃ converted,
      Checker.parse ⟨.document, .object [("at", .date), ("total", .bigint)] true, by decide⟩
        (.object [("at", .string "2024-02-29"),
          ("total", .bigint ⟨twoTo 64 - 1, by decide, by decide⟩)]) = .ok converted := by
  have distinct : (Entries.keys [("at", Schema.date), ("total", Schema.bigint)]).Nodup := by
    decide
  have reads : Value.readDate "2024-02-29" = some ⟨1709164800, 0, by decide⟩ := rfl
  refine (exists_parse_document_iff_of_accepts _ (by decide) _ ?_).mpr ?_
  · rw [Checker.accepts_document_iff, meets_object_iff distinct]
    refine ⟨_, Value.toJson_object _, List.forall_mem_cons.mpr ⟨?_, ?_⟩, by simp [Entries.keys]⟩
    · exact meets_date_iff.mpr ⟨_, rfl, by rw [reads]; rfl⟩
    · exact List.forall_mem_singleton.mpr (meets_bigint_iff.mpr rfl)
  · rw [spoils_object_iff]
    rintro ⟨field, declared, value, found, spoils⟩
    rcases List.mem_cons.mp declared with rfl | declared
    · cases found
      exact (spoils_date_iff reads).mp spoils (by decide)
    · cases List.mem_singleton.mp declared
      cases found
      cases spoils

/-- The end of the year 9999 an hour west of Greenwich is in the next year in universal time, and
the float `2 ^ 64` becomes a big integer beyond 64 bits. -/
theorem Schema.accepts_and_refuses :
    (Checker.accepts ⟨.document, .date, by decide⟩ (.string "9999-12-31T23:59:59-01:00") = true ∧
      ¬∃ converted, Checker.parse ⟨.document, .date, by decide⟩
        (.string "9999-12-31T23:59:59-01:00") = .ok converted) ∧
    (Checker.accepts ⟨.document, .bigint, by decide⟩
        (.number (.finite ⟨false, twoTo 52, 12, by decide⟩)) = true ∧
      ¬∃ converted, Checker.parse ⟨.document, .bigint, by decide⟩
        (.number (.finite ⟨false, twoTo 52, 12, by decide⟩)) = .ok converted) := by
  have reads : Value.readDate "9999-12-31T23:59:59-01:00" =
      some ⟨253402304399, 0, by decide⟩ := rfl
  have dateMet : (Value.string "9999-12-31T23:59:59-01:00").toJson.Meets (document .date) :=
    meets_date_iff.mpr ⟨_, rfl, by rw [reads]; rfl⟩
  have bigintMet : (Value.number (.finite ⟨false, twoTo 52, 12, by decide⟩)).toJson.Meets
      (document .bigint) :=
    meets_bigint_iff.mpr rfl
  simp only [Checker.accepts_document_iff, Checker.exists_parse_document_iff]
  refine ⟨⟨dateMet, ?_⟩, bigintMet, ?_⟩
  · rw [walked_meets_date_iff dateMet, not_not]
    exact .date reads (by decide)
  · rw [walked_meets_bigint_iff bigintMet, not_not]
    exact .bigint (by decide)

end ApiContract
