import ApiContract.Proofs.Number.Notation
import ApiContract.Proofs.Schema.Agreement
import ApiContract.Proofs.Value.RoundTrip

/-!
# Integers under the schemas for integers

An integer comes as a float without a fraction, as a big integer or as text.  The schema
`integer` makes the nearest float of it and `bigint` the nearest integer of 128 bits, and both
take it whatever its size.  So an integer is kept just when the kind of the schema has room
for it; otherwise another integer stands in its place, without any issue.
-/

namespace ApiContract

variable {value : Value} {integer : Int}

/-- The value stands for an integer: a float, a big integer, or text that writes an integer of
128 bits, with or without blanks around it. -/
inductive Value.Denotes : Value → Int → Prop where
  | number {number : FiniteBinary64} {integer : Int} (isInteger : number.IsInteger integer) :
      Denotes (.number (.finite number)) integer
  | bigint (integer : Int128) : Denotes (.bigint integer) integer.toInt
  | string {text : String} {integer : Int}
      (writes : Decimal.Writes (Text.trim text.toList) integer)
      (lower : -twoTo 127 ≤ integer) (upper : integer < twoTo 127) :
      Denotes (.string text) integer

namespace Schema

/-- The kind of values that a schema asks for has one for the integer. -/
def Carries : Schema → Int → Prop
  | .integer, integer => ∃ number : FiniteBinary64, number.IsInteger integer
  | .bigint, integer => -twoTo 127 ≤ integer ∧ integer < twoTo 127
  | _, _ => False

/-- What a schema for integers makes of an integer: the value of its kind that is nearest. -/
inductive Renders : Schema → Int → Value → Prop where
  | integer {float : Binary64} {integer : Int} (nearest : float.sameNumber (.ofInt integer)) :
      Renders .integer integer (.number float)
  | bigint (integer : Int) : Renders .bigint integer (.bigint (.saturate integer))

end Schema

/-! ## What comes of an integer -/

namespace Value.Denotes

/-- A value that stands for an integer passes for the nearest float. -/
theorem exists_coerceNumber (denotes : value.Denotes integer) :
    ∃ float, value.coerceNumber = some float ∧ float.isIntegral ∧
      float.sameNumber (.ofInt integer) := by
  cases denotes with
  | number isInteger =>
      exact ⟨_, rfl, (FiniteBinary64.isIntegral_of_isInteger isInteger).1,
        Binary64.sameNumber_symm isInteger.sameNumber_ofInt⟩
  | bigint big =>
      exact ⟨_, rfl, big.isIntegral_toBinary64, Binary64.sameNumber_ofInt_self big.natAbs_lt⟩
  | string writes lower upper =>
      have bounded := (Int128.mk integer lower upper).natAbs_lt
      rcases Decimal.readBinary64_of_writes writes bounded with ⟨float, reads, nearest⟩
      have integral :=
        Binary64.isIntegral_of_sameNumber nearest (Binary64.isIntegral_ofInt bounded)
      refine ⟨float, ?_, integral, nearest⟩
      rw [coerceNumber, readNumber, reads]
      exact Option.filter_some_pos (Binary64.isFinite_of_isIntegral integral)

/-- A value that stands for an integer passes for the nearest integer of 128 bits. -/
theorem coerceBigint (denotes : value.Denotes integer) :
    value.coerceBigint = some (.saturate integer) := by
  cases denotes with
  | number isInteger =>
      rcases FiniteBinary64.isIntegral_of_isInteger isInteger with ⟨integral, rfl⟩
      refine (if_pos integral).trans (congrArg some ?_)
      apply Int128.eq_of_toInt_eq
      simp only [Int128.ofBinary64, Binary64.clampToInt, Int128.saturate]
      omega
  | bigint big =>
      rw [Int128.saturate_toInt]
      rfl
  | string writes lower upper =>
      have fits : Int128.ofInt? integer = some ⟨integer, lower, upper⟩ := dif_pos ⟨lower, upper⟩
      rw [Value.coerceBigint, Decimal.readInt128, Decimal.readInt_of_writes writes]
      refine fits.trans (congrArg some ?_)
      exact (Int128.saturate_toInt ⟨integer, lower, upper⟩).symm

end Value.Denotes

namespace Schema

/-- A rendering stands for the integer just when the kind of values has room for it. -/
theorem Renders.denotes_iff {schema : Schema} (renders : schema.Renders integer value) :
    value.Denotes integer ↔ schema.Carries integer := by
  cases renders with
  | integer nearest =>
      constructor
      · intro denotes
        cases denotes with
        | number isInteger => exact ⟨_, isInteger⟩
      · rintro ⟨number, isInteger⟩
        have same := Binary64.sameNumber_trans nearest isInteger.sameNumber_ofInt
        rcases Binary64.sameNumber_cases same with ⟨_, _, rfl, isNumber, finite⟩ | ⟨_, _, infinite⟩
        · cases isNumber
          exact .number (isInteger.of_sameNumber finite)
        · cases infinite
  | bigint integer =>
      constructor
      · intro denotes
        generalize isBig : Int128.saturate integer = big at denotes
        cases denotes
        exact ⟨big.lower, big.upper⟩
      · rintro ⟨lower, upper⟩
        have kept := Int128.toInt_saturate lower upper
        have denotes := Value.Denotes.bigint (.saturate integer)
        rwa [kept] at denotes

/-- Integers up to `2 ^ 53` in size have their place under both schemas. -/
theorem carries_of_natAbs_le {schema : Schema} (whole : schema = .integer ∨ schema = .bigint)
    (small : integer.natAbs ≤ safeInteger) : schema.Carries integer := by
  have safe : safeInteger < twoTo 127 := by decide
  rcases whole with rfl | rfl
  · rcases FiniteBinary64.exists_ofInt_isInteger small with ⟨number, _, isInteger⟩
    exact ⟨number, isInteger⟩
  · exact ⟨by omega, by omega⟩

end Schema

namespace Value.Denotes

theorem exists_parse_integer (denotes : value.Denotes integer)
    (wellFormed : Schema.wellFormed .integer) :
    ∃ float, Checker.parse ⟨.native, .integer, wellFormed⟩ value = .ok (.number float) ∧
      float.sameNumber (.ofInt integer) := by
  rcases denotes.exists_coerceNumber with ⟨float, passes, integral, nearest⟩
  have walked : Schema.walk .converting .integer value = .accepted (.number float) := by
    rw [Schema.walk_integer, Schema.walkNumber, WalkMode.number?, passes]
    simp [integral]
  refine ⟨float, Checker.parse_native_eq_ok_iff.mpr ?_, nearest⟩
  rw [walked]
  exact ⟨rfl, rfl⟩

theorem parse_bigint (denotes : value.Denotes integer) (wellFormed : Schema.wellFormed .bigint) :
    Checker.parse ⟨.native, .bigint, wellFormed⟩ value = .ok (.bigint (.saturate integer)) := by
  have walked : Schema.walk .converting .bigint value =
      .accepted (.bigint (.saturate integer)) := by
    rw [Schema.walk_bigint, WalkMode.bigint?, denotes.coerceBigint]
    rfl
  rw [Checker.parse_native_eq_ok_iff, walked]
  exact ⟨rfl, rfl⟩

end Value.Denotes

/-- Native parsing along a schema for integers takes every value that stands for an integer,
and makes the nearest value of the kind of the schema out of it.  What it makes stands for the
same integer just when there is such a value of that kind. -/
theorem Schema.exists_parse_of_denotes {schema : Schema} (wellFormed : schema.wellFormed)
    (whole : schema = .integer ∨ schema = .bigint) (denotes : value.Denotes integer) :
    ∃ result, Checker.parse ⟨.native, schema, wellFormed⟩ value = .ok result ∧
      schema.Renders integer result ∧ (result.Denotes integer ↔ schema.Carries integer) := by
  rcases whole with rfl | rfl
  · rcases denotes.exists_parse_integer wellFormed with ⟨float, parsed, nearest⟩
    have renders : Renders .integer integer (.number float) := .integer nearest
    exact ⟨_, parsed, renders, renders.denotes_iff⟩
  · have renders := Renders.bigint integer
    exact ⟨_, denotes.parse_bigint wellFormed, renders, renders.denotes_iff⟩

/-- A text of digits with a sign and blanks around it stays the integer that it writes. -/
theorem Schema.exists_parse_negative_text :
    ∃ result, Checker.parse ⟨.native, .integer, by decide⟩ (.string " -42 ") = .ok result ∧
      result.Denotes (-42) := by
  have writes : Decimal.Writes (Text.trim " -42 ".toList) (-42) :=
    @Decimal.Writes.minus ['4', '2'] (by decide) (List.all_eq_true.mp rfl)
  have denotes : (Value.string " -42 ").Denotes (-42) := .string writes (by decide) (by decide)
  rcases exists_parse_of_denotes rfl (.inl rfl) denotes with ⟨result, parsed, _, kept⟩
  exact ⟨result, parsed, kept.mpr (carries_of_natAbs_le (.inl rfl) (by decide))⟩

/-- The float `2 ^ 127` becomes the largest integer of 128 bits, which lies one below it, and the
big integer `2 ^ 53 + 1` becomes the float `2 ^ 53`. -/
theorem Schema.coercion_alters_integers :
    (∃ number : FiniteBinary64, (Value.number (.finite number)).Denotes (twoTo 127) ∧
      Checker.parse ⟨.native, .bigint, by decide⟩ (.number (.finite number)) =
        .ok (.bigint (.saturate (twoTo 127))) ∧
      (Int128.saturate (twoTo 127)).toInt = twoTo 127 - 1 ∧
      ¬(Value.bigint (.saturate (twoTo 127))).Denotes (twoTo 127)) ∧
    ∃ big : Int128, (Value.bigint big).Denotes (safeInteger + 1) ∧
      Checker.parse ⟨.native, .integer, by decide⟩ (.bigint big) =
        .ok (.number (.ofInt (safeInteger + 1))) ∧
      ¬(Value.number (.ofInt (safeInteger + 1))).Denotes (safeInteger + 1) := by
  constructor
  · have denotes : (Value.number (.finite ⟨false, twoTo 52, 75, by decide⟩)).Denotes
        (twoTo 127) :=
      .number (by decide)
    refine ⟨_, denotes, denotes.parse_bigint rfl, by decide, ?_⟩
    rw [(Renders.bigint _).denotes_iff]
    exact fun carried => absurd carried.2 (lt_irrefl _)
  · refine ⟨⟨safeInteger + 1, by decide, by decide⟩, .bigint _, rfl, ?_⟩
    have rounded : Binary64.ofInt (safeInteger + 1) = .finite ⟨false, twoTo 52, 1, by decide⟩ :=
      rfl
    rw [rounded]
    intro denotes
    cases denotes with
    | number isInteger => exact absurd isInteger (by decide)

end ApiContract
