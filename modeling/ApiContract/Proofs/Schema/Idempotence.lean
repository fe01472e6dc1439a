import ApiContract.Proofs.Schema.Persistence

/-!
# Converting twice

What a schema without unions has converted is what it would convert it to again.  Every leaf takes
its own results as they stand, and every other node is made up again of what its parts take.  A
union may settle on an earlier member when it meets the result of a later one.
-/

namespace ApiContract

namespace Walked

variable {walked : Walked} {value : Value} {message : String}

theorem eq_accepted_iff : walked = accepted value ↔ walked.Clean ∧ walked.value = value := by
  constructor
  · rintro rfl
    exact ⟨clean_accepted, rfl⟩
  · rintro ⟨clean, rfl⟩
    cases walked with
    | mk value issues =>
        obtain rfl : issues = [] := clean
        rfl

theorem require_of_holds {condition : Bool} (holds : condition) :
    require condition value message = accepted value :=
  if_pos holds

end Walked

namespace Schema

/-- The converting walk takes the value as it stands. -/
def Settled (schema : Schema) (value : Value) : Prop :=
  walk .converting schema value = .accepted value

/-- All that the schema converts is settled then. -/
def Settles (schema : Schema) : Prop :=
  ∀ value, (walk .converting schema value).Clean →
    Settled schema (walk .converting schema value).value

variable {schema : Schema}

/-! ## Leaves -/

/-- A leaf that only asks for something leaves what it was given. -/
theorem settles_of_require {asks : Value → Bool} {message : Value → String}
    (walks : ∀ given, walk .converting schema given = .require (asks given) given (message given)) :
    Settles schema := by
  intro value clean
  rw [walks, Walked.clean_require] at clean
  rw [Settled, walks value, Walked.value_require, walks]
  exact Walked.require_of_holds clean

/-- A leaf that converts settles when it takes its own results as they are. -/
theorem settles_of_walkLeaf {expected : String} {α : Type} {coerce : Value → Option α}
    {wrap : α → Value}
    (walks : ∀ given,
      walk .converting schema given = walkLeaf expected ((coerce given).map wrap) given)
    (again : ∀ content, coerce (wrap content) = some content) : Settles schema := by
  intro value clean
  rw [walks] at clean
  rcases exists_value_walkLeaf_of_clean clean with ⟨converted, fits, result⟩
  rcases Option.map_eq_some_iff.mp fits with ⟨content, _, rfl⟩
  rw [Settled, walks value, result, walks, again]
  rfl

theorem settles_of_walkNumber {whole : Bool}
    (walks : ∀ given, walk .converting schema given = walkNumber .converting whole given) :
    Settles schema := by
  intro value clean
  rw [walks] at clean
  rcases clean_walkNumber.mp clean with ⟨float, passes, integral⟩
  have passesAgain : WalkMode.converting.number? (.number float) = some float := rfl
  have cleanAgain : (walkNumber .converting whole (.number float)).Clean :=
    clean_walkNumber.mpr ⟨float, passesAgain, integral⟩
  rw [Settled, walks value, value_walkNumber_of_clean passes clean, walks, Walked.eq_accepted_iff]
  exact ⟨cleanAgain, value_walkNumber_of_clean passesAgain cleanAgain⟩

/-! ## Lists, records and objects -/

theorem settles_array {items : Schema} (inner : Settles items) : Settles (.array items) := by
  intro value clean
  rcases clean_walk_array_iff.mp clean with ⟨values, rfl, itemsClean⟩
  have settled : ∀ item ∈ values, Settled items (walk .converting items item).value :=
    fun item isItem => inner item (itemsClean item isItem)
  rw [Settled, value_walk_array, Walked.eq_accepted_iff, clean_walk_array_iff, value_walk_array,
    List.map_map]
  constructor
  · refine ⟨_, rfl, List.forall_mem_map.mpr ?_⟩
    intro item isItem
    exact (Walked.eq_accepted_iff.mp (settled item isItem)).1
  · congr 1
    apply List.map_congr_left
    intro item isItem
    exact (Walked.eq_accepted_iff.mp (settled item isItem)).2

theorem settles_record {values : Schema} (inner : Settles values) : Settles (.record values) := by
  intro value clean
  rcases clean_walk_record_iff.mp clean with ⟨members, rfl, membersClean⟩
  have settled : ∀ member ∈ members, Settled values (walk .converting values member.2).value :=
    fun member isMember => inner member.2 (membersClean member isMember)
  rw [Settled, value_walk_record, Walked.eq_accepted_iff, clean_walk_record_iff, value_walk_record,
    List.map_map]
  constructor
  · refine ⟨_, rfl, List.forall_mem_map.mpr ?_⟩
    intro member isMember
    exact (Walked.eq_accepted_iff.mp (settled member isMember)).1
  · congr 1
    apply List.map_congr_left
    intro member isMember
    exact congrArg (Prod.mk member.1) (Walked.eq_accepted_iff.mp (settled member isMember)).2

/-- A walk leaves members in place when those that it walks are settled. -/
theorem walkedMembers_of_settled {fields : List (String × Schema)} {strict : Bool}
    {members : Entries Value}
    (each : ∀ member ∈ members,
      (∃ schema, Entries.get? fields member.1 = some schema ∧
        Entries.get? members member.1 = some member.2 ∧ Settled schema member.2) ∨
      (Entries.get? fields member.1 = none ∧ strict = false)) :
    walkedMembers (walkFields .converting fields members) strict members = members := by
  have kept : ∀ member ∈ members,
      (memberChange (walkFields .converting fields members) strict member.1).map
        (fun convert => (member.1, convert member.2)) = some member := by
    intro member isMember
    rw [memberChange_walkFields]
    rcases each member isMember with ⟨schema, declared, found, settled⟩ | ⟨undeclared, open_⟩
    · have result := (Walked.eq_accepted_iff.mp settled).2
      simp [declared, found, outcome, FieldOutcome.value?, result]
    · simp [undeclared, open_]
  rw [walkedMembers_eq_filterMap]
  calc
    _ = members.filterMap some := List.filterMap_congr kept
    _ = members := List.filterMap_some

theorem settles_object {fields : List (String × Schema)} {strict : Bool}
    (distinct : (Entries.keys fields).Nodup) (each : ∀ field ∈ fields, Settles field.2) :
    Settles (.object fields strict) := by
  intro value clean
  rcases clean_walk_object_iff.mp clean with ⟨members, rfl, fieldsClean, _⟩
  have settled : ∀ field ∈ fields, ∀ value, Entries.get? members field.1 = some value →
      Settled field.2 (walk .converting field.2 value).value := by
    intro field isField value found
    have fieldClean := fieldsClean field isField
    rw [found, clean_outcome_some] at fieldClean
    exact each field isField value fieldClean
  rw [Settled, value_walk_object, Walked.eq_accepted_iff, clean_walk_object_iff, value_walk_object]
  refine ⟨⟨_, rfl, ?_, ?_⟩, congrArg Value.object (walkedMembers_of_settled ?_)⟩
  · intro field isField
    have fieldClean := fieldsClean field isField
    rw [get?_walkedMembers_of_mem distinct isField]
    cases found : Entries.get? members field.1 with
    | none =>
        rw [found, clean_outcome_none] at fieldClean
        exact clean_outcome_none.mpr fieldClean
    | some value =>
        exact (Walked.eq_accepted_iff.mp (settled field isField value found)).1
  · intro isStrict name isKey
    rcases List.mem_map.mp isKey with ⟨member, isMember, rfl⟩
    rcases declared_or_kept_of_mem_walkedMembers isMember with
      ⟨schema, _, declared, _⟩ | ⟨_, notStrict, _⟩
    · exact Entries.mem_keys_of_mem (Entries.mem_of_get? declared)
    · simp [notStrict] at isStrict
  · intro member isMember
    rcases declared_or_kept_of_mem_walkedMembers isMember with
      ⟨schema, value, declared, found, result⟩ | ⟨undeclared, notStrict, _⟩
    · left
      have isField := Entries.mem_of_get? declared
      refine ⟨schema, declared, ?_, ?_⟩
      · rw [get?_walkedMembers_of_mem distinct isField, found, result]
        rfl
      · rw [result]
        exact settled _ isField value found
    · exact .inr ⟨undeclared, notStrict⟩

/-! ## Wrappers -/

/-- Where the inner schema makes null of something, the optional one takes that null. -/
theorem settles_optional {inner : Schema} (settles : Settles inner) :
    Settles (.optional inner) := by
  intro value clean
  cases absent : value.isNull with
  | true =>
      have result : (walk .converting (.optional inner) value).value = .null := by
        rw [walk_optional, if_pos absent]
        rfl
      rw [Settled, result]
      rfl
  | false =>
      rw [walk_optional_of_present absent] at clean
      have settled := settles value clean
      rw [walk_optional_of_present absent, Settled, walk_optional]
      cases vanished : (walk .converting inner value).value with
      | null => rfl
      | _ =>
          rw [vanished] at settled
          exact settled

theorem settles_promise {resolved : Schema} (settles : Settles resolved) :
    Settles (.promise resolved) :=
  settles

theorem settles_of_unionFree (wellFormed : schema.wellFormed) (unionFree : schema.UnionFree) :
    Settles schema := by
  induction unionFree with
  | any => exact fun _ _ => walk_any
  | unknown => exact fun _ _ => walk_unknown
  | null => exact settles_of_require fun _ => walk_null
  | string => exact settles_of_require fun _ => walk_string
  | number => exact settles_of_walkNumber fun _ => walk_number
  | integer => exact settles_of_walkNumber fun _ => walk_integer
  | bigint => exact settles_of_walkLeaf (fun _ => walk_bigint) fun _ => rfl
  | boolean => exact settles_of_walkLeaf (fun _ => walk_boolean) fun _ => rfl
  | date => exact settles_of_walkLeaf (fun _ => walk_date) fun _ => rfl
  | literal expected => exact settles_of_require fun _ => walk_literal
  | enumeration literals => exact settles_of_require fun _ => walk_enumeration
  | array _ ih => exact settles_array (ih (wellFormed_array ▸ wellFormed))
  | record _ ih => exact settles_record (ih (wellFormed_record ▸ wellFormed))
  | object _ ih =>
      rcases wellFormed_object_iff.mp wellFormed with ⟨distinct, fieldsWellFormed⟩
      apply settles_object distinct
      intro field isField
      exact ih field isField (fieldsWellFormed field isField)
  | optional _ ih => exact settles_optional (ih (wellFormed_optional ▸ wellFormed))
  | promise _ ih => exact settles_promise (ih (wellFormed_promise ▸ wellFormed))
  | function => exact fun _ clean => absurd clean not_clean_walk_function

end Schema

/-- What a schema without unions has converted is parsed to itself. -/
theorem Schema.parse_converted (schema : Schema) (wellFormed : schema.wellFormed)
    (unionFree : schema.UnionFree) (value converted : Value)
    (parsed : Checker.parse ⟨.native, schema, wellFormed⟩ value = .ok converted) :
    Checker.parse ⟨.native, schema, wellFormed⟩ converted = .ok converted := by
  rcases Checker.parse_native_eq_ok_iff.mp parsed with ⟨clean, rfl⟩
  have settled := settles_of_unionFree wellFormed unionFree value clean
  exact Checker.parse_native_eq_ok_iff.mpr (Walked.eq_accepted_iff.mp settled)

/-- Null for a number and for an optional one, the text of an instant, digits beyond 64 bits, and a
member that is not declared. -/
theorem Schema.parse_converted_sample :
    Checker.parse
        ⟨.native,
          .object [("at", .date), ("net", .number), ("tax", .optional .number),
            ("sizes", .record (.array .bigint))] false,
          by decide⟩
        (.object [("at", .date ⟨1709164800, 0, by decide⟩), ("extra", .string "7"),
          ("net", .number .zero),
          ("sizes", .object [("large", .array [.bigint (.saturate (2 ^ 100))])]),
          ("tax", .null)]) =
      .ok (.object [("at", .date ⟨1709164800, 0, by decide⟩), ("extra", .string "7"),
        ("net", .number .zero),
        ("sizes", .object [("large", .array [.bigint (.saturate (2 ^ 100))])]),
        ("tax", .null)]) := by
  have unionFree : (Schema.object [("at", .date), ("net", .number), ("tax", .optional .number),
      ("sizes", .record (.array .bigint))] false).UnionFree := by
    refine .object ?_
    simp only [List.forall_mem_cons, List.not_mem_nil, false_implies, implies_true, and_true]
    exact ⟨.date, .number, .optional .number, .record (.array .bigint)⟩
  exact parse_converted _ (by decide) unionFree
    (.object [("at", .string " 2024-02-29 "), ("extra", .string "7"), ("net", .null),
      ("sizes", .object [("large", .array [.string "1267650600228229401496703205376"])]),
      ("tax", .null)])
    _ (by rfl)

/-- A union takes the result of its second member for a value of its first. -/
example :
    (Schema.union [.number, .boolean]).parse (.string "true") = .ok (.bool true) ∧
      (Schema.union [.number, .boolean]).parse (.bool true) = .ok (.number (.ofInt 1)) :=
  ⟨rfl, rfl⟩

end ApiContract
