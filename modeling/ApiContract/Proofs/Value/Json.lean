import ApiContract.Proofs.Number.Exact
import ApiContract.Value.Json

/-!
# Values that JSON carries

JSON has no instants, no numbers beyond the finite ones and no integers beyond 64
bits.  A value without any of these is called plain.  Every value read from JSON is
plain, and the JSON of a plain value is of the same kind as the value itself.
-/

namespace ApiContract

/-- Induction over JSON values, with the hypothesis at hand for every item and every
member. -/
@[elab_as_elim, induction_eliminator]
theorem Json.inductionOn {motive : Json → Prop}
    (null : motive .null) (bool : ∀ value, motive (.bool value))
    (number : ∀ value, motive (.number value)) (string : ∀ text, motive (.string text))
    (array : ∀ items, (∀ item ∈ items, motive item) → motive (.array items))
    (object : ∀ members, (∀ member ∈ members, motive member.2) → motive (.object members))
    (json : Json) : motive json :=
  @Json.rec motive
    (fun items => ∀ item ∈ items, motive item)
    (fun members => ∀ member ∈ members, motive member.2)
    (fun member => motive member.2)
    null bool number string array object
    (fun _ member => absurd member List.not_mem_nil)
    (fun _ _ first others => List.forall_mem_cons.mpr ⟨first, others⟩)
    (fun _ member => absurd member List.not_mem_nil)
    (fun _ _ first others => List.forall_mem_cons.mpr ⟨first, others⟩)
    (fun _ _ inner => inner)
    json

/-- The texts of strings are read back. -/
theorem Json.filterMap_asString?_map_string (texts : List String) :
    (texts.map Json.string).filterMap Json.asString? = texts := by
  rw [List.filterMap_map]
  exact List.filterMap_some

namespace JsonInteger

theorem ofInt?_of_inRange {integer : Int} (lower : -twoTo 63 ≤ integer)
    (upper : integer < twoTo 64) : ofInt? integer = some ⟨integer, lower, upper⟩ :=
  dif_pos ⟨lower, upper⟩

/-- An integer of JSON fits 128 bits. -/
theorem toInt_saturate (integer : JsonInteger) :
    (Int128.saturate integer.toInt).toInt = integer.toInt := by
  have lower := integer.lower
  have upper := integer.upper
  have wideLower : (twoTo 63 : Int) ≤ twoTo 127 := by decide
  have wideUpper : (twoTo 64 : Int) ≤ twoTo 127 := by decide
  exact Int128.toInt_saturate (by omega) (by omega)

end JsonInteger

namespace Value

theorem itemsToJson_eq_map (items : List Value) : itemsToJson items = items.map toJson := by
  induction items with
  | nil => simp [itemsToJson]
  | cons item rest ih => rw [itemsToJson, ih, List.map_cons]

theorem membersToJson_eq_map (members : Entries Value) :
    membersToJson members = members.map fun member => (member.1, toJson member.2) := by
  induction members with
  | nil => simp [membersToJson]
  | cons member rest ih => rw [membersToJson, ih, List.map_cons]

theorem itemsOfJson_eq_map (items : List Json) : itemsOfJson items = items.map ofJson := by
  induction items with
  | nil => simp [itemsOfJson]
  | cons item rest ih => rw [itemsOfJson, ih, List.map_cons]

theorem membersOfJson_eq_map (members : Entries Json) :
    membersOfJson members = members.map fun member => (member.1, ofJson member.2) := by
  induction members with
  | nil => simp [membersOfJson]
  | cons member rest ih => rw [membersOfJson, ih, List.map_cons]

@[simp] theorem toJson_array (items : List Value) :
    toJson (.array items) = .array (items.map toJson) := by
  rw [toJson, itemsToJson_eq_map]

@[simp] theorem toJson_object (members : Entries Value) :
    toJson (.object members) = .object (members.map fun member => (member.1, toJson member.2)) := by
  rw [toJson, membersToJson_eq_map]

/-- A value is plain when JSON has its like: no instant, no infinite number or NaN and
no integer beyond 64 bits stands in it. -/
inductive Plain : Value → Prop where
  | null : Plain .null
  | bool (value : Bool) : Plain (.bool value)
  | number {value : Binary64} (finite : value.isFinite) : Plain (.number value)
  | bigint {value : Int128} (lower : -twoTo 63 ≤ value.toInt)
      (upper : value.toInt < twoTo 64) : Plain (.bigint value)
  | string (text : String) : Plain (.string text)
  | array {items : List Value} (each : ∀ item ∈ items, Plain item) : Plain (.array items)
  | object {members : Entries Value} (each : ∀ member ∈ members, Plain member.2) :
      Plain (.object members)

end Value

/-! ## Numbers as JSON -/

theorem FiniteBinary64.truncate_inRange {number : FiniteBinary64}
    (small : number.wholeMagnitude < safeInteger) :
    -twoTo 63 ≤ number.truncate ∧ number.truncate < twoTo 64 := by
  have lower : safeInteger ≤ twoTo 63 := twoTo_le_twoTo (by decide)
  have upper : safeInteger ≤ twoTo 64 := twoTo_le_twoTo (by decide)
  unfold truncate
  split <;> omega

/-- A finite float is a JSON number, and one without a fraction stays without one. -/
theorem Binary64.exists_toJson_finite (number : FiniteBinary64) :
    ∃ written : JsonNumber, (Binary64.finite number).toJson = .number written ∧
      written.isIntegral = number.isIntegral := by
  rw [Binary64.toJson]
  split
  · next safe =>
      rcases safe with ⟨integral, small⟩
      have inRange := number.truncate_inRange small
      rw [Json.ofInt, JsonInteger.ofInt?_of_inRange inRange.1 inRange.2]
      exact ⟨_, rfl, integral.symm⟩
  · exact ⟨_, rfl, rfl⟩

/-- A float is written as a number, or as null where JSON has no like of it. -/
theorem Binary64.toJson_null_or_number (value : Binary64) :
    value.toJson = .null ∨ ∃ written, value.toJson = .number written := by
  cases value with
  | finite number =>
      rcases exists_toJson_finite number with ⟨written, shape, _⟩
      exact .inr ⟨written, shape⟩
  | infinity _ | nan => exact .inl rfl

/-- An integer is written as a number, or as its digits beyond 64 bits. -/
theorem Json.ofInt_string_or_number (integer : Int) :
    (∃ text, ofInt integer = .string text) ∨ ∃ written, ofInt integer = .number written := by
  rw [ofInt]
  split
  · exact .inr ⟨_, rfl⟩
  · exact .inl ⟨_, rfl⟩

/-- A float is written in no other way. -/
@[simp] theorem Binary64.toJson_ne (float : Binary64) :
    (∀ truth, float.toJson ≠ .bool truth) ∧ (∀ text, float.toJson ≠ .string text) ∧
      (∀ items, float.toJson ≠ .array items) ∧ ∀ members, float.toJson ≠ .object members := by
  rcases float.toJson_null_or_number with written | ⟨_, written⟩ <;> simp [written]

/-- An integer is written in no other way. -/
@[simp] theorem Json.ofInt_ne (integer : Int) :
    ofInt integer ≠ .null ∧ (∀ truth, ofInt integer ≠ .bool truth) ∧
      (∀ items, ofInt integer ≠ .array items) ∧ ∀ members, ofInt integer ≠ .object members := by
  rcases ofInt_string_or_number integer with ⟨_, written⟩ | ⟨_, written⟩ <;> simp [written]

theorem Int128.exists_toJson {integer : Int128} (lower : -twoTo 63 ≤ integer.toInt)
    (upper : integer.toInt < twoTo 64) :
    ∃ written : JsonNumber, (Value.bigint integer).toJson = .number written ∧
      written.isIntegral := by
  rw [Value.toJson, Json.ofInt, JsonInteger.ofInt?_of_inRange lower upper]
  exact ⟨_, rfl, rfl⟩

/-! ## Values read from JSON -/

theorem JsonInteger.plain_toValue (integer : JsonInteger) :
    Value.Plain (JsonNumber.integer integer).toValue := by
  have lower := integer.lower
  have upper := integer.upper
  rw [JsonNumber.toValue]
  split
  · next safe =>
      have bound : integer.toInt.natAbs < twoTo 128 :=
        lt_of_le_of_lt safe (by decide)
      exact .number (Binary64.isFinite_of_isIntegral (Binary64.isIntegral_ofInt bound))
  · exact .bigint (by rwa [integer.toInt_saturate]) (by rwa [integer.toInt_saturate])

/-- Every value read from JSON is plain. -/
theorem Value.plain_ofJson (json : Json) : Plain (ofJson json) := by
  induction json with
  | null => exact .null
  | bool value => exact .bool value
  | number value =>
      cases value with
      | integer value => exact value.plain_toValue
      | float value => exact .number rfl
  | string text => exact .string text
  | array items ih =>
      rw [ofJson, itemsOfJson_eq_map]
      exact .array (List.forall_mem_map.mpr ih)
  | object members ih =>
      rw [ofJson, membersOfJson_eq_map]
      exact .object (List.forall_mem_map.mpr ih)

end ApiContract
