import ApiContract.Proofs.Value.Json

/-!
# JSON that passes through a value

A JSON document is read as a value and the value is written as JSON.  Every number keeps its
exact value on the way, at any depth, and all else stays as it is.  A number may change its
form though: small floats without a fraction are written as integers, and the two integers at
the very bound of `2 ^ 53` as floats, for the reader counts the bound in and the writer does not.
-/

namespace ApiContract

/-! ## Numbers in a document -/

/-- Every number in the document is such that the property holds of it. -/
inductive Json.EveryNumber (holds : JsonNumber → Prop) : Json → Prop where
  | null : EveryNumber holds .null
  | bool (truth : Bool) : EveryNumber holds (.bool truth)
  | number {number : JsonNumber} (fits : holds number) : EveryNumber holds (.number number)
  | string (text : String) : EveryNumber holds (.string text)
  | array {items : List Json} (each : ∀ item ∈ items, EveryNumber holds item) :
      EveryNumber holds (.array items)
  | object {members : Entries Json} (each : ∀ member ∈ members, EveryNumber holds member.2) :
      EveryNumber holds (.object members)

namespace Json

variable {holds : JsonNumber → Prop} {number : JsonNumber} {items : List Json}
  {members : Entries Json}

theorem everyNumber_number_iff : EveryNumber holds (.number number) ↔ holds number :=
  ⟨fun every => by cases every; assumption, .number⟩

theorem everyNumber_array_iff :
    EveryNumber holds (.array items) ↔ ∀ item ∈ items, EveryNumber holds item :=
  ⟨fun every => by cases every; assumption, .array⟩

theorem everyNumber_object_iff :
    EveryNumber holds (.object members) ↔ ∀ member ∈ members, EveryNumber holds member.2 :=
  ⟨fun every => by cases every; assumption, .object⟩

/-! ## Documents that differ in the form of their numbers -/

theorem sameItems_map (change : Json → Json)
    (each : ∀ item ∈ items, sameValue item (change item)) :
    sameItems items (items.map change) := by
  induction items with
  | nil => simp [sameItems]
  | cons item rest ih =>
      rcases List.forall_mem_cons.mp each with ⟨first, others⟩
      rw [List.map_cons, sameItems, first, ih others]
      rfl

theorem sameMembers_map (change : Json → Json)
    (each : ∀ member ∈ members, sameValue member.2 (change member.2)) :
    sameMembers members (members.map fun member => (member.1, change member.2)) := by
  induction members with
  | nil => simp [sameMembers]
  | cons member rest ih =>
      rcases List.forall_mem_cons.mp each with ⟨first, others⟩
      rw [List.map_cons, sameMembers, first, ih others]
      simp

end Json

/-! ## One number -/

namespace JsonNumber

/-- The form of the number stays: an integer unless it is at the bound of `2 ^ 53` on either
side, a float unless it has no fraction and lies below that bound. -/
def KeepsForm : JsonNumber → Prop
  | .integer value => value.toInt.natAbs ≠ safeInteger
  | .float value => ¬(value.isIntegral ∧ value.wholeMagnitude < safeInteger)

theorem sameNumber_self (number : JsonNumber) : number.sameNumber number := by
  simp [sameNumber]

theorem sameNumber_integer_float {integer : JsonInteger} {float : FiniteBinary64}
    (isInteger : float.IsInteger integer.toInt) :
    (JsonNumber.integer integer).sameNumber (.float float) := by
  have product : float.fraction.1 = integer.toInt * float.fraction.2 := isInteger
  simp [sameNumber, fraction, product]

theorem sameNumber_float_integer {integer : JsonInteger} {float : FiniteBinary64}
    (isInteger : float.IsInteger integer.toInt) :
    (JsonNumber.float float).sameNumber (.integer integer) := by
  have product : float.fraction.1 = integer.toInt * float.fraction.2 := isInteger
  simp [sameNumber, fraction, product]

end JsonNumber

/-- A float of a whole number is written in the form that its size asks for. -/
theorem FiniteBinary64.toJson_of_isInteger {float : FiniteBinary64} {integer : JsonInteger}
    (isInteger : float.IsInteger integer.toInt) :
    (Binary64.finite float).toJson =
      .number (if integer.toInt.natAbs < safeInteger then .integer integer else .float float) := by
  rcases isIntegral_of_isInteger isInteger with ⟨integral, truncates⟩
  rw [Binary64.toJson, ← float.natAbs_truncate, truncates]
  by_cases small : integer.toInt.natAbs < safeInteger
  · rw [if_pos ⟨integral, small⟩, if_pos small, Json.ofInt,
      JsonInteger.ofInt?_of_inRange integer.lower integer.upper]
  · rw [if_neg fun safe => small safe.2, if_neg small]

namespace JsonNumber

/-- A number that passes through a value keeps its exact value. -/
theorem exists_written (number : JsonNumber) :
    ∃ written, number.toValue.toJson = .number written ∧ number.sameNumber written ∧
      (written = number ↔ number.KeepsForm) := by
  cases number with
  | integer integer =>
      rw [toValue]
      split
      · next small =>
          rcases FiniteBinary64.exists_ofInt_isInteger small with ⟨float, rounded, isInteger⟩
          rw [rounded, Value.toJson, FiniteBinary64.toJson_of_isInteger isInteger]
          refine ⟨_, rfl, ?_⟩
          rcases small.lt_or_eq with below | bound
          · rw [if_pos below]
            exact ⟨sameNumber_self _, iff_of_true rfl below.ne⟩
          · rw [if_neg bound.not_lt]
            refine ⟨sameNumber_integer_float isInteger, iff_of_false ?_ fun keeps => keeps bound⟩
            exact JsonNumber.noConfusion
      · next large =>
          rw [Value.toJson, integer.toInt_saturate, Json.ofInt,
            JsonInteger.ofInt?_of_inRange integer.lower integer.upper]
          exact ⟨_, rfl, sameNumber_self _, iff_of_true rfl fun bound => large bound.le⟩
  | float float =>
      rw [toValue, Value.toJson]
      by_cases safe : float.isIntegral ∧ float.wholeMagnitude < safeInteger
      · have inRange := float.truncate_inRange safe.2
        have isInteger := FiniteBinary64.isInteger_truncate safe.1
        rw [Binary64.toJson, if_pos safe, Json.ofInt,
          JsonInteger.ofInt?_of_inRange inRange.1 inRange.2]
        refine ⟨_, rfl, sameNumber_float_integer isInteger, iff_of_false ?_ fun keeps => keeps safe⟩
        exact JsonNumber.noConfusion
      · rw [Binary64.toJson, if_neg safe]
        exact ⟨_, rfl, sameNumber_self _, iff_of_true rfl safe⟩

end JsonNumber

/-! ## Whole documents -/

namespace Value

/-- A change leaves a list as it is when it leaves all items as they are. -/
theorem map_eq_self_iff {α : Type} {change : α → α} {items : List α} :
    items.map change = items ↔ ∀ item ∈ items, change item = item := by
  simpa using List.map_inj_left (l := items) (f := change) (g := id)

theorem toJson_ofJson_array (items : List Json) :
    (ofJson (.array items)).toJson = .array (items.map fun item => (ofJson item).toJson) := by
  rw [ofJson, itemsOfJson_eq_map, toJson_array, List.map_map]
  rfl

theorem toJson_ofJson_object (members : Entries Json) :
    (ofJson (.object members)).toJson =
      .object (members.map fun member => (member.1, (ofJson member.2).toJson)) := by
  rw [ofJson, membersOfJson_eq_map, toJson_object, List.map_map]
  rfl

/-- What a document is written as after it was read is the same up to the form of its numbers,
and it is the document itself just when every number in it keeps its form. -/
theorem toJson_ofJson (json : Json) :
    json.sameValue (ofJson json).toJson ∧
      ((ofJson json).toJson = json ↔ json.EveryNumber JsonNumber.KeepsForm) := by
  induction json with
  | null => exact ⟨rfl, iff_of_true rfl .null⟩
  | bool truth => exact ⟨by simp [ofJson, toJson, Json.sameValue], iff_of_true rfl (.bool truth)⟩
  | string text =>
      exact ⟨by simp [ofJson, toJson, Json.sameValue], iff_of_true rfl (.string text)⟩
  | number number =>
      rcases number.exists_written with ⟨written, passes, same, keeps⟩
      rw [ofJson, passes, Json.everyNumber_number_iff, Json.number.injEq]
      exact ⟨same, keeps⟩
  | array items ih =>
      rw [toJson_ofJson_array, Json.everyNumber_array_iff, Json.array.injEq, Json.sameValue]
      refine ⟨Json.sameItems_map _ fun item member => (ih item member).1, ?_⟩
      rw [map_eq_self_iff]
      exact forall₂_congr fun item member => (ih item member).2
  | object members ih =>
      rw [toJson_ofJson_object, Json.everyNumber_object_iff, Json.object.injEq, Json.sameValue]
      refine ⟨Json.sameMembers_map (fun json => (ofJson json).toJson) fun member isMember =>
        (ih member isMember).1, ?_⟩
      rw [map_eq_self_iff]
      refine forall₂_congr fun member isMember => ?_
      rw [← (ih member isMember).2]
      exact ⟨congrArg Prod.snd, fun same => Prod.ext rfl same⟩

/-- The integers next to the bound and at the ends of the 64-bit ranges pass at any depth. -/
example :
    let extremes : Json := .array [.number (.integer ⟨twoTo 53 - 1, by decide, by decide⟩),
      .number (.integer ⟨twoTo 53 + 1, by decide, by decide⟩),
      .object [("least", .number (.integer ⟨-twoTo 63, by decide, by decide⟩)),
        ("most", .number (.integer ⟨twoTo 64 - 1, by decide, by decide⟩))]]
    (ofJson extremes).toJson = extremes :=
  rfl

/-- The integer `2 ^ 53` is written as a float. -/
theorem toJson_ofJson_bound :
    (ofJson (.number (.integer ⟨twoTo 53, by decide, by decide⟩))).toJson =
        .number (.float ⟨false, twoTo 52, 1, by decide⟩) ∧
      (ofJson (.number (.integer ⟨twoTo 53, by decide, by decide⟩))).toJson ≠
        .number (.integer ⟨twoTo 53, by decide, by decide⟩) := by
  have written : (ofJson (.number (.integer ⟨twoTo 53, by decide, by decide⟩))).toJson =
      .number (.float ⟨false, twoTo 52, 1, by decide⟩) := rfl
  refine ⟨written, ?_⟩
  rw [written]
  intro same
  cases same

end Value

end ApiContract
