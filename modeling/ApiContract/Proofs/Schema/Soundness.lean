import ApiContract.Proofs.Schema.Walk
import ApiContract.Schema.Backend

/-!
# Conversion and validity

What a converting walk makes of a value has the shape that the schema asks for: an
exact walk along the same schema finds nothing wrong with it.  Conversely, a value
that an exact walk finds nothing wrong with is one that the converting walk passes.
The two walks take their leaves by different rules, and a union may settle on another
member the second time, so the proofs go through all of the schema.
-/

namespace ApiContract.Schema

variable {value : Value}

/-! ## Leaves -/

theorem exact_bigint_of_converted {converted : Value}
    (fits : WalkMode.converting.bigint? value = some converted) :
    WalkMode.exact.bigint? converted = some converted := by
  rcases Option.map_eq_some_iff.mp fits with ⟨integer, _, rfl⟩
  rfl

theorem exact_boolean_of_converted {converted : Value}
    (fits : WalkMode.converting.boolean? value = some converted) :
    WalkMode.exact.boolean? converted = some converted := by
  rcases Option.map_eq_some_iff.mp fits with ⟨truth, _, rfl⟩
  rfl

theorem exact_date_of_converted {converted : Value}
    (fits : WalkMode.converting.date? value = some converted) :
    WalkMode.exact.date? converted = some converted := by
  rcases Option.map_eq_some_iff.mp fits with ⟨instant, _, rfl⟩
  rfl

/-- A leaf that was converted is taken as it stands. -/
theorem clean_walkLeaf_of_converted {expected : String}
    {loose exact : Value → Option Value}
    (stable : ∀ converted, loose value = some converted → exact converted = some converted)
    (clean : (walkLeaf expected (loose value) value).Clean) :
    (walkLeaf expected (exact (walkLeaf expected (loose value) value).value)
      (walkLeaf expected (loose value) value).value).Clean := by
  rcases exists_value_walkLeaf_of_clean clean with ⟨converted, fits, result⟩
  rw [result, clean_walkLeaf, stable converted fits]
  rfl

theorem clean_walkNumber_of_converted {whole : Bool}
    (clean : (walkNumber .converting whole value).Clean) :
    (walkNumber .exact whole (walkNumber .converting whole value).value).Clean := by
  rcases clean_walkNumber.mp clean with ⟨converted, passes, integral⟩
  rw [value_walkNumber_of_clean passes clean, clean_walkNumber]
  exact ⟨converted, rfl, integral⟩

/-! ## Whole schemas -/

/-- What a clean converting walk arrives at is clean under the exact walk. -/
theorem clean_exact_of_clean_converting {schema : Schema} (wellFormed : schema.wellFormed)
    (clean : (walk .converting schema value).Clean) :
    (walk .exact schema (walk .converting schema value).value).Clean := by
  induction schema generalizing value with
  | any | unknown => simp
  | null | string | literal expected | enumeration literals =>
      simpa only [walk_null, walk_string, walk_literal, walk_enumeration, Walked.value_require,
        Walked.clean_require] using clean
  | number | integer =>
      simp only [walk_number, walk_integer] at clean ⊢
      exact clean_walkNumber_of_converted clean
  | bigint =>
      rw [walk_bigint] at clean ⊢
      rw [walk_bigint]
      exact clean_walkLeaf_of_converted (fun _ => exact_bigint_of_converted) clean
  | boolean =>
      rw [walk_boolean] at clean ⊢
      rw [walk_boolean]
      exact clean_walkLeaf_of_converted (fun _ => exact_boolean_of_converted) clean
  | date =>
      rw [walk_date] at clean ⊢
      rw [walk_date]
      exact clean_walkLeaf_of_converted (fun _ => exact_date_of_converted) clean
  | array items ih =>
      rcases clean_walk_array_iff.mp clean with ⟨values, rfl, itemsClean⟩
      rw [value_walk_array, clean_walk_array_iff]
      refine ⟨_, rfl, ?_⟩
      rw [List.forall_mem_map]
      intro item member
      exact ih (wellFormed_array ▸ wellFormed) (itemsClean item member)
  | object fields strict ih =>
      rcases wellFormed_object_iff.mp wellFormed with ⟨distinct, fieldsWellFormed⟩
      rcases clean_walk_object_iff.mp clean with ⟨members, rfl, fieldsClean, declared⟩
      rw [value_walk_object, clean_walk_object_iff]
      refine ⟨_, rfl, ?_, ?_⟩
      · intro field isField
        have fieldClean := fieldsClean field isField
        rw [get?_walkedMembers_of_mem distinct isField]
        cases found : Entries.get? members field.1 with
        | none => simpa [found] using fieldClean
        | some value =>
            rw [found, clean_outcome_some] at fieldClean
            exact ih field isField (fieldsWellFormed field isField) fieldClean
      · intro isStrict name member
        rcases Entries.exists_get?_iff.mpr member with ⟨converted, found⟩
        rw [get?_walkedMembers] at found
        rcases Option.bind_eq_some_iff.mp found with ⟨value, original, _⟩
        exact declared isStrict name (Entries.mem_keys_of_mem (Entries.mem_of_get? original))
  | record values ih =>
      rcases clean_walk_record_iff.mp clean with ⟨members, rfl, membersClean⟩
      rw [value_walk_record, clean_walk_record_iff]
      refine ⟨_, rfl, ?_⟩
      rw [List.forall_mem_map]
      intro member isMember
      exact ih (wellFormed_record ▸ wellFormed) (membersClean member isMember)
  | union members ih =>
      rcases exists_value_walk_union clean with ⟨member, isMember, memberClean, result⟩
      have memberWellFormed := (wellFormed_union_iff.mp wellFormed).2 member isMember
      rw [result, clean_walk_union_iff]
      exact ⟨member, isMember, ih member isMember memberWellFormed memberClean⟩
  | optional inner ih =>
      rw [clean_walk_optional_iff]
      cases null : value.isNull with
      | true =>
          left
          rw [walk_optional, if_pos null]
          rfl
      | false =>
          right
          rw [walk_optional_of_present null] at clean ⊢
          exact ih (wellFormed_optional ▸ wellFormed) clean
  | promise resolved ih =>
      rw [walk_promise] at clean ⊢
      rw [walk_promise]
      exact ih (wellFormed_promise ▸ wellFormed) clean
  | function parameters result => exact absurd clean not_clean_walk_function

/-- A value that the native parser returns is accepted without any conversion. -/
theorem accepts_of_parse (schema : Schema) (wellFormed : schema.wellFormed)
    (value converted : Value)
    (parsed : Checker.parse ⟨.native, schema, wellFormed⟩ value = .ok converted) :
    Checker.accepts ⟨.native, schema, wellFormed⟩ converted = true := by
  rcases parse_eq_ok_iff.mp parsed with ⟨clean, rfl⟩
  exact accepts_iff.mpr (clean_exact_of_clean_converting wellFormed clean)

/-- A record that only the second member of a union accepts, and a null under two
optional marks. -/
theorem accepts_converted_sample :
    Checker.accepts
        ⟨.native,
          .object [("amount", .union [.integer, .record .number]),
            ("note", .optional (.optional .bigint))] true,
          by decide⟩
        (.object [("amount", .object [("net", .number (.ofQuotient false 3 2))]),
          ("note", .null)]) = true :=
  accepts_of_parse _ (by decide)
    (.object [("amount", .object [("net", .string " 1.5 ")]), ("note", .null)]) _ rfl

/-! ## Valid values -/

theorem isSome_converting_bigint_of_exact (fits : (WalkMode.exact.bigint? value).isSome) :
    (WalkMode.converting.bigint? value).isSome := by
  simp only [WalkMode.bigint?] at fits ⊢
  cases value with
  | bigint integer => rfl
  | number float =>
      -- Only a finite float has no fraction, so the converting walk need not ask for both.
      cases integral : float.isIntegral with
      | true => simp [Value.coerceBigint, integral]
      | false => simp [Value.isWhole, integral] at fits
  | _ => simp [Value.isWhole] at fits

theorem isSome_converting_boolean_of_exact (fits : (WalkMode.exact.boolean? value).isSome) :
    (WalkMode.converting.boolean? value).isSome := by
  simp only [WalkMode.boolean?] at fits ⊢
  cases value with
  | bool truth => rfl
  | _ => simp [Value.asBool?] at fits

theorem isSome_converting_date_of_exact (fits : (WalkMode.exact.date? value).isSome) :
    (WalkMode.converting.date? value).isSome := by
  simp only [WalkMode.date?] at fits ⊢
  cases value with
  | date instant => rfl
  | string text =>
      cases read : Value.readDate text with
      | some instant => simp [Value.coerceDate, read]
      | none => simp [Value.isDate, read] at fits
  | _ => simp [Value.isDate] at fits

/-- A number that is taken as it stands is the number that it passes for. -/
theorem number?_converting_of_exact {float : Binary64}
    (passes : WalkMode.exact.number? value = some float) :
    WalkMode.converting.number? value = some float := by
  cases value with
  | number found => exact passes
  | _ => simp [WalkMode.number?] at passes

theorem clean_walkNumber_of_exact {whole : Bool} (clean : (walkNumber .exact whole value).Clean) :
    (walkNumber .converting whole value).Clean := by
  rcases clean_walkNumber.mp clean with ⟨float, passes, integral⟩
  exact clean_walkNumber.mpr ⟨float, number?_converting_of_exact passes, integral⟩

/-- Where the exact walk finds nothing wrong, neither does the converting walk.  A union may
settle on an earlier member then, one that only takes the value converted. -/
theorem clean_converting_of_clean_exact {schema : Schema}
    (clean : (walk .exact schema value).Clean) : (walk .converting schema value).Clean := by
  induction schema generalizing value with
  | any | unknown => simp
  | null | string | literal expected | enumeration literals =>
      simpa only [walk_null, walk_string, walk_literal, walk_enumeration, Walked.clean_require]
        using clean
  | number | integer =>
      simp only [walk_number, walk_integer] at clean ⊢
      exact clean_walkNumber_of_exact clean
  | bigint =>
      rw [walk_bigint, clean_walkLeaf] at clean ⊢
      exact isSome_converting_bigint_of_exact clean
  | boolean =>
      rw [walk_boolean, clean_walkLeaf] at clean ⊢
      exact isSome_converting_boolean_of_exact clean
  | date =>
      rw [walk_date, clean_walkLeaf] at clean ⊢
      exact isSome_converting_date_of_exact clean
  | array items ih =>
      rcases clean_walk_array_iff.mp clean with ⟨values, rfl, itemsClean⟩
      rw [clean_walk_array_iff]
      refine ⟨values, rfl, ?_⟩
      intro item member
      exact ih (itemsClean item member)
  | object fields strict ih =>
      rcases clean_walk_object_iff.mp clean with ⟨members, rfl, fieldsClean, declared⟩
      rw [clean_walk_object_iff]
      refine ⟨members, rfl, ?_, declared⟩
      intro field isField
      have fieldClean := fieldsClean field isField
      cases found : Entries.get? members field.1 with
      | none =>
          rw [found, clean_outcome_none] at fieldClean
          exact clean_outcome_none.mpr fieldClean
      | some value =>
          rw [found, clean_outcome_some] at fieldClean
          exact ih field isField fieldClean
  | record values ih =>
      rcases clean_walk_record_iff.mp clean with ⟨members, rfl, membersClean⟩
      rw [clean_walk_record_iff]
      refine ⟨members, rfl, ?_⟩
      intro member isMember
      exact ih (membersClean member isMember)
  | union members ih =>
      rcases clean_walk_union_iff.mp clean with ⟨member, isMember, memberClean⟩
      rw [clean_walk_union_iff]
      exact ⟨member, isMember, ih member isMember memberClean⟩
  | optional inner ih =>
      rw [clean_walk_optional_iff] at clean ⊢
      exact clean.imp_right ih
  | promise resolved ih =>
      rw [walk_promise] at clean ⊢
      exact ih clean
  | function parameters result => exact absurd clean not_clean_walk_function

/-- A value that the native checker accepts as it stands is one that the native parser
returns a value for. -/
theorem exists_parse_of_accepts (schema : Schema) (wellFormed : schema.wellFormed) (value : Value)
    (accepted : Checker.accepts ⟨.native, schema, wellFormed⟩ value = true) :
    ∃ converted, Checker.parse ⟨.native, schema, wellFormed⟩ value = .ok converted :=
  ⟨_, parse_eq_ok_iff.mpr ⟨clean_converting_of_clean_exact (accepts_iff.mp accepted), rfl⟩⟩

/-- A text that the second member of a union accepts as it stands and that the first takes
for a number, beside a big integer given as a number and an instant given as text. -/
theorem exists_parse_sample :
    ∃ converted,
      Checker.parse
          ⟨.native,
            .object [("at", .date), ("code", .union [.number, .string]), ("total", .bigint)] true,
            by decide⟩
          (.object [("at", .string "2024-02-29"), ("code", .string " 7 "),
            ("total", .number (.ofInt 12))]) = .ok converted :=
  exists_parse_of_accepts _ (by decide) _ rfl

end ApiContract.Schema
