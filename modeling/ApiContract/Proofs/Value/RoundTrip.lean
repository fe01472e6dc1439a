import ApiContract.Proofs.Time.Reader
import ApiContract.Proofs.Value.Json
import Mathlib.Data.List.Forall2

/-!
# Values that travel as JSON and come back

A value is written as JSON and read again.  Numbers come back as numbers, though a zero
loses its sign; a big integer may come back as a number or as the string of its digits, and
an instant as its text.  What was itself read from JSON comes back as it was.
-/

namespace ApiContract

/-! ## Numeric equality -/

namespace FiniteBinary64

variable {left between right : FiniteBinary64}

theorem isIntegral_of_isZero (zero : left.isZero) : left.isIntegral := by
  have none : left.significand = 0 := eq_of_beq zero
  simp [isIntegral, none]

theorem sameNumber_iff :
    left.sameNumber right ↔ (left.isZero ∧ right.isZero) ∨ left = right := by
  simp [sameNumber]

theorem sameNumber_trans (first : left.sameNumber between) (second : between.sameNumber right) :
    left.sameNumber right := by
  rw [sameNumber_iff] at first second ⊢
  rcases first with ⟨leftZero, betweenZero⟩ | rfl
  · rcases second with ⟨_, rightZero⟩ | rfl
    · exact .inl ⟨leftZero, rightZero⟩
    · exact .inl ⟨leftZero, betweenZero⟩
  · exact second

theorem isIntegral_of_sameNumber (same : left.sameNumber right) (integral : right.isIntegral) :
    left.isIntegral := by
  rcases sameNumber_iff.mp same with ⟨zero, _⟩ | rfl
  · exact isIntegral_of_isZero zero
  · exact integral

theorem sameNumber_symm (same : left.sameNumber right) : right.sameNumber left := by
  rw [sameNumber_iff] at same ⊢
  exact same.imp And.symm Eq.symm

end FiniteBinary64

namespace Binary64

variable {left between right : Binary64}

/-- Only finite numbers, and infinities of one sign, are the same. -/
theorem sameNumber_cases (same : left.sameNumber right) :
    (∃ leftNumber rightNumber, left = .finite leftNumber ∧ right = .finite rightNumber ∧
        leftNumber.sameNumber rightNumber) ∨
      ∃ negative, left = .infinity negative ∧ right = .infinity negative := by
  cases left with
  | finite leftNumber =>
      cases right with
      | finite rightNumber => exact .inl ⟨_, _, rfl, rfl, same⟩
      | infinity _ | nan => simp [sameNumber] at same
  | infinity negative =>
      cases right with
      | infinity other =>
          cases eq_of_beq same
          exact .inr ⟨negative, rfl, rfl⟩
      | finite _ | nan => simp [sameNumber] at same
  | nan => simp [sameNumber] at same

theorem sameNumber_symm (same : left.sameNumber right) : right.sameNumber left := by
  rcases sameNumber_cases same with ⟨_, _, rfl, rfl, finite⟩ | ⟨_, rfl, rfl⟩
  · exact FiniteBinary64.sameNumber_symm finite
  · exact same

theorem sameNumber_trans (first : left.sameNumber between) (second : between.sameNumber right) :
    left.sameNumber right := by
  rcases sameNumber_cases first with ⟨_, _, rfl, rfl, finite⟩ | ⟨_, rfl, rfl⟩
  · cases right with
    | finite _ => exact FiniteBinary64.sameNumber_trans finite second
    | infinity _ | nan => simp [sameNumber] at second
  · exact second

theorem isIntegral_of_sameNumber (same : left.sameNumber right) (integral : right.isIntegral) :
    left.isIntegral := by
  rcases sameNumber_cases same with ⟨_, _, rfl, rfl, finite⟩ | ⟨_, rfl, rfl⟩
  · exact FiniteBinary64.isIntegral_of_sameNumber finite integral
  · exact integral

end Binary64

namespace Value

/-- The values are equal, with numbers compared as numbers: the two zeros are equal and a NaN
is equal to nothing. -/
inductive Same : Value → Value → Prop where
  | null : Same .null .null
  | bool (truth : Bool) : Same (.bool truth) (.bool truth)
  | number {left right : Binary64} (same : left.sameNumber right) :
      Same (.number left) (.number right)
  | bigint (integer : Int128) : Same (.bigint integer) (.bigint integer)
  | string (text : String) : Same (.string text) (.string text)
  | date (instant : Instant) : Same (.date instant) (.date instant)
  | array {left right : List Value} (each : List.Forall₂ Same left right) :
      Same (.array left) (.array right)
  | object {left right : Entries Value} (names : Entries.keys left = Entries.keys right)
      (each : List.Forall₂ Same (left.map Prod.snd) (right.map Prod.snd)) :
      Same (.object left) (.object right)

namespace Same

variable {values : List Value} {members : Entries Value} {left right : Value}

/-- A change of the items leaves an array the same when it leaves every item the same. -/
theorem arrayMap_iff (change : Value → Value) :
    Same (.array (values.map change)) (.array values) ↔
      ∀ value ∈ values, Same (change value) value := by
  rw [← List.forall₂_same, ← List.forall₂_map_left_iff]
  constructor
  · intro same
    cases same with
    | array each => exact each
  · exact .array

/-- A change of the values leaves an object the same when it leaves every value the same. -/
theorem objectMap_iff (change : Value → Value) :
    Same (.object (members.map fun member => (member.1, change member.2))) (.object members) ↔
      ∀ member ∈ members, Same (change member.2) member.2 := by
  have names : Entries.keys (members.map fun member => (member.1, change member.2)) =
      Entries.keys members := by
    simp [Entries.keys]
  have values : List.Forall₂ Same
        ((members.map fun member => (member.1, change member.2)).map Prod.snd)
        (members.map Prod.snd) ↔
      ∀ member ∈ members, Same (change member.2) member.2 := by
    rw [List.map_map, List.forall₂_map_left_iff, List.forall₂_map_right_iff, List.forall₂_same]
    rfl
  rw [← values]
  constructor
  · intro same
    cases same with
    | object _ each => exact each
  · exact .object names

/-- An object is the same when every member stays, with a value that is the same. -/
theorem objectFilterMap {change : String × Value → Option (String × Value)}
    (each : ∀ member ∈ members, ∃ value, change member = some (member.1, value) ∧
      Same value member.2) :
    Same (.object (members.filterMap change)) (.object members) := by
  induction members with
  | nil => exact .object rfl .nil
  | cons member rest ih =>
      rcases List.forall_mem_cons.mp each with ⟨⟨value, kept, same⟩, others⟩
      rw [List.filterMap_cons_some kept]
      cases ih others with
      | object names values =>
          refine .object ?_ (.cons same values)
          exact congrArg (member.1 :: ·) names

theorem isNull_eq (same : Same left right) : left.isNull = right.isNull := by
  cases same <;> rfl

theorem asString?_eq (same : Same left right) : left.asString? = right.asString? := by
  cases same <;> rfl

end Same

/-! ## What comes back -/

/-- The value as it comes back when it is sent as JSON. -/
def carried (value : Value) : Value :=
  ofJson value.toJson

theorem carried_array (items : List Value) :
    carried (.array items) = .array (items.map carried) := by
  rw [carried, toJson_array, ofJson, itemsOfJson_eq_map, List.map_map]
  rfl

theorem carried_object (members : Entries Value) :
    carried (.object members) =
      .object (members.map fun member => (member.1, carried member.2)) := by
  rw [carried, toJson_object, ofJson, membersOfJson_eq_map, List.map_map]
  rfl

/-- An array comes back as it was exactly when its items do. -/
theorem same_carried_array_iff {items : List Value} :
    Same (carried (.array items)) (.array items) ↔ ∀ item ∈ items, Same (carried item) item := by
  rw [carried_array]
  exact Same.arrayMap_iff carried

/-- An object comes back as it was exactly when its members do. -/
theorem same_carried_object_iff {members : Entries Value} :
    Same (carried (.object members)) (.object members) ↔
      ∀ member ∈ members, Same (carried member.2) member.2 := by
  rw [carried_object]
  exact Same.objectMap_iff carried

/-- A finite number comes back as a number that is the same. -/
theorem exists_carried_number (number : FiniteBinary64) :
    ∃ found : Binary64, carried (.number (.finite number)) = .number found ∧
      found.sameNumber (.finite number) := by
  rw [carried, toJson, Binary64.toJson]
  split
  · next safe =>
      rcases safe with ⟨integral, small⟩
      have inRange := number.truncate_inRange small
      have size : number.truncate.natAbs ≤ safeInteger := by
        unfold FiniteBinary64.truncate
        split <;> omega
      refine ⟨.ofInt number.truncate, ?_, Binary64.sameNumber_ofInt_truncate integral small⟩
      rw [Json.ofInt, JsonInteger.ofInt?_of_inRange inRange.1 inRange.2]
      exact if_pos size
  · exact ⟨.finite number, rfl, FiniteBinary64.sameNumber_self number⟩

/-- A big integer comes back as a number up to `2 ^ 53` in size, as a big integer as far as 64
bits go, and as the string of its digits beyond. -/
theorem carried_bigint (integer : Int128) :
    carried (.bigint integer) =
      if -twoTo 63 ≤ integer.toInt ∧ integer.toInt < twoTo 64 then
        if integer.toInt.natAbs ≤ safeInteger then .number (.ofInt integer.toInt)
        else .bigint integer
      else .string (Text.integerText integer.toInt) := by
  rw [carried, toJson, Json.ofInt]
  by_cases inRange : -twoTo 63 ≤ integer.toInt ∧ integer.toInt < twoTo 64
  · rw [if_pos inRange, JsonInteger.ofInt?_of_inRange inRange.1 inRange.2, ofJson,
      JsonNumber.toValue, Int128.saturate_toInt]
  · have unfit : JsonInteger.ofInt? integer.toInt = none := dif_neg inRange
    rw [if_neg inRange, unfit, ofJson]

/-- However a big integer comes back, it passes for the same big integer. -/
theorem coerceBigint_carried (integer : Int128) :
    (carried (.bigint integer)).coerceBigint = some integer := by
  rw [carried_bigint]
  split
  · split
    · next small =>
        have integral := Binary64.isIntegral_ofInt integer.natAbs_lt
        rw [coerceBigint, if_pos integral, Int128.ofBinary64_ofInt small]
    · rfl
  · exact Decimal.readInt128_integerText integer

/-- An instant comes back as its text, which passes for the instant. -/
theorem coerceDate_carried {instant : Instant} (writable : instant.IsWritable) :
    (carried (.date instant)).coerceDate = some instant :=
  Instant.readDate_text writable.2 fun _ => writable.1

theorem same_carried_toValue (number : JsonNumber) :
    Same (carried number.toValue) number.toValue := by
  have finite : ∀ float : FiniteBinary64,
      Same (carried (.number (.finite float))) (.number (.finite float)) := by
    intro float
    rcases exists_carried_number float with ⟨found, comesBack, same⟩
    rw [comesBack]
    exact .number same
  cases number with
  | float float => exact finite float
  | integer integer =>
      rw [JsonNumber.toValue]
      split
      · next small =>
          rcases Binary64.exists_ofInt_eq small with ⟨float, rounded, _⟩
          rw [rounded]
          exact finite float
      · next large =>
          rw [carried_bigint, integer.toInt_saturate, if_pos ⟨integer.lower, integer.upper⟩,
            if_neg large]
          exact .bigint _

/-- What was read from JSON comes back as it was. -/
theorem same_carried_ofJson (json : Json) : Same (carried (ofJson json)) (ofJson json) := by
  induction json with
  | null => exact .null
  | bool truth => exact .bool truth
  | string text => exact .string text
  | number number => exact same_carried_toValue number
  | array items ih =>
      rw [ofJson, itemsOfJson_eq_map, same_carried_array_iff]
      exact List.forall_mem_map.mpr ih
  | object members ih =>
      rw [ofJson, membersOfJson_eq_map, same_carried_object_iff]
      exact List.forall_mem_map.mpr ih

/-- Every instant in the value is such that the property holds of it. -/
inductive EveryInstant (holds : Instant → Prop) : Value → Prop where
  | null : EveryInstant holds .null
  | bool (truth : Bool) : EveryInstant holds (.bool truth)
  | number (float : Binary64) : EveryInstant holds (.number float)
  | bigint (integer : Int128) : EveryInstant holds (.bigint integer)
  | string (text : String) : EveryInstant holds (.string text)
  | date {instant : Instant} (fits : holds instant) : EveryInstant holds (.date instant)
  | array {items : List Value} (each : ∀ item ∈ items, EveryInstant holds item) :
      EveryInstant holds (.array items)
  | object {members : Entries Value} (each : ∀ member ∈ members, EveryInstant holds member.2) :
      EveryInstant holds (.object members)

end Value

end ApiContract
