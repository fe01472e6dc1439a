import ApiContract.Proofs.Entries
import ApiContract.Proofs.Text.Digits
import ApiContract.Value.Basic

/-!
# Places in values

A place in a value is a path of steps: the name of a member of an object, or the index of an item
of an array in decimal digits.  This module follows paths and says what a value is like at its
own place, apart from what stands below.
-/

namespace ApiContract.Value

/-- The parts of a value, each under the step that leads to it. -/
def parts : Value → Entries Value
  | .array items => items.zipIdx.map fun item => (Text.decimalText item.2, item.1)
  | .object members => members
  | _ => []

/-- The part of a value at the end of a path. -/
def atPath? (value : Value) : List String → Option Value
  | [] => some value
  | step :: rest => (Entries.get? value.parts step).bind fun part => part.atPath? rest

/-- No object in the value has two members of one name. -/
inductive KeysDistinct : Value → Prop where
  | null : KeysDistinct .null
  | bool (truth : Bool) : KeysDistinct (.bool truth)
  | number (float : Binary64) : KeysDistinct (.number float)
  | bigint (integer : Int128) : KeysDistinct (.bigint integer)
  | string (text : String) : KeysDistinct (.string text)
  | date (instant : Instant) : KeysDistinct (.date instant)
  | array {items : List Value} (each : ∀ item ∈ items, KeysDistinct item) :
      KeysDistinct (.array items)
  | object {members : Entries Value} (distinct : (Entries.keys members).Nodup)
      (each : ∀ member ∈ members, KeysDistinct member.2) : KeysDistinct (.object members)

/-- What a value is like at its own place. -/
inductive Frame where
  | scalar
  | array (length : Nat)
  | object (names : List String)
  deriving DecidableEq

/-- The frame of a value. -/
def frame : Value → Frame
  | .array items => .array items.length
  | .object members => .object (Entries.keys members)
  | _ => .scalar

variable {value : Value} {step : String}

/-! ## Parts -/

theorem parts_array (items : List Value) :
    (array items).parts = items.zipIdx.map fun item => (Text.decimalText item.2, item.1) :=
  rfl

@[simp] theorem parts_object (members : Entries Value) : (object members).parts = members :=
  rfl

theorem parts_of_scalar (scalar : value.frame = .scalar) : value.parts = [] := by
  cases value with
  | array items => cases scalar
  | object members => cases scalar
  | _ => rfl

theorem get?_parts_array_map (change : Value → Value) (items : List Value) (step : String) :
    Entries.get? (array (items.map change)).parts step =
      (Entries.get? (array items).parts step).map change := by
  have mapped : (array (items.map change)).parts =
      (array items).parts.map fun part => (part.1, change part.2) := by
    simp only [parts_array, List.zipIdx_map, List.map_map]
    rfl
  rw [mapped, Entries.get?_map fun _ => change]

theorem mem_of_mem_parts_array {items : List Value} {part : String × Value}
    (isPart : part ∈ (array items).parts) : part.2 ∈ items := by
  rw [parts_array, List.mem_map] at isPart
  obtain ⟨item, isItem, rfl⟩ := isPart
  exact List.fst_mem_of_mem_zipIdx isItem

/-- The items of an array are numbered from zero. -/
theorem keys_parts_array (items : List Value) :
    Entries.keys (array items).parts = (List.range items.length).map Text.decimalText := by
  rw [List.range_eq_range', ← List.zipIdx_map_snd, List.map_map, Entries.keys, parts_array,
    List.map_map]
  rfl

/-- No two items of an array have one index. -/
theorem nodup_keys_parts_array (items : List Value) :
    (Entries.keys (array items).parts).Nodup := by
  rw [keys_parts_array]
  exact List.Nodup.map Text.decimalText_injective List.nodup_range

theorem KeysDistinct.nodup_keys_parts (distinct : value.KeysDistinct) :
    (Entries.keys value.parts).Nodup := by
  cases distinct with
  | array each => exact nodup_keys_parts_array _
  | object distinct each => exact distinct
  | _ => exact List.nodup_nil

theorem KeysDistinct.of_mem_parts (distinct : value.KeysDistinct) {part : String × Value}
    (isPart : part ∈ value.parts) : part.2.KeysDistinct := by
  cases distinct with
  | array each => exact each part.2 (mem_of_mem_parts_array isPart)
  | object _ each => exact each part isPart
  | _ => cases isPart

/-- An object that is collected from members has one of each name. -/
theorem KeysDistinct.ofMembers {members : List (String × Value)}
    (each : ∀ member ∈ members, member.2.KeysDistinct) : (Value.ofMembers members).KeysDistinct := by
  have distinct := (Entries.ascending_ofList members).nodup_keys
  apply KeysDistinct.object distinct
  intro member isMember
  have found := (Entries.get?_eq_some_iff distinct).mpr isMember
  exact each member (Entries.mem_of_get?_ofList found)

/-- The frame of a value tells the steps to its parts. -/
theorem keys_parts_of_frame {other : Value} (same : value.frame = other.frame) :
    Entries.keys value.parts = Entries.keys other.parts := by
  cases value with
  | array items =>
      cases other with
      | array others =>
          have sameLength : items.length = others.length := by simpa [frame] using same
          rw [keys_parts_array, keys_parts_array, sameLength]
      | _ => cases same
  | object members =>
      cases other with
      | object others => simpa [frame] using same
      | _ => cases same
  | _ => rw [parts_of_scalar rfl, parts_of_scalar same.symm]

/-! ## Paths -/

theorem atPath?_cons {rest : List String} :
    value.atPath? (step :: rest) =
      (Entries.get? value.parts step).bind fun part => part.atPath? rest :=
  rfl

theorem atPath?_of_part {part : Value} (found : Entries.get? value.parts step = some part)
    (rest : List String) : value.atPath? (step :: rest) = part.atPath? rest := by
  rw [atPath?_cons, found, Option.bind_some]

theorem atPath?_append (value : Value) (front back : List String) :
    value.atPath? (front ++ back) =
      (value.atPath? front).bind fun part => part.atPath? back := by
  induction front generalizing value with
  | nil => rfl
  | cons step rest ih =>
      rw [List.cons_append, atPath?_cons, atPath?_cons]
      cases Entries.get? value.parts step with
      | none => rfl
      | some part => exact ih part

end ApiContract.Value
