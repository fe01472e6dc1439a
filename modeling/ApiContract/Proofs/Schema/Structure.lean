import ApiContract.Proofs.Entries
import ApiContract.Schema.WellFormed

/-!
# The structure of schemas

A schema is a tree whose nodes hold lists of further schemas.  This module states the
induction over such trees, in which the hypothesis is at hand for every field and
every member, and says node by node when a schema is well formed.
-/

namespace ApiContract.Schema

/-- Induction over schemas. A property that passes from the fields, members, items and
inner schemas of a node to the node holds of every schema. -/
@[elab_as_elim, induction_eliminator]
theorem inductionOn {motive : Schema → Prop}
    (any : motive .any) (unknown : motive .unknown) (null : motive .null)
    (string : motive .string) (number : motive .number) (integer : motive .integer)
    (bigint : motive .bigint) (boolean : motive .boolean) (date : motive .date)
    (literal : ∀ value, motive (.literal value))
    (enumeration : ∀ values, motive (.enumeration values))
    (array : ∀ items, motive items → motive (.array items))
    (object : ∀ fields strict, (∀ field ∈ fields, motive field.2) →
      motive (.object fields strict))
    (record : ∀ values, motive values → motive (.record values))
    (union : ∀ members, (∀ member ∈ members, motive member) → motive (.union members))
    (optional : ∀ inner, motive inner → motive (.optional inner))
    (promise : ∀ resolved, motive resolved → motive (.promise resolved))
    (function : ∀ parameters result, (∀ parameter ∈ parameters, motive parameter) →
      motive result → motive (.function parameters result))
    (schema : Schema) : motive schema :=
  @Schema.rec motive
    (fun fields => ∀ field ∈ fields, motive field.2)
    (fun members => ∀ member ∈ members, motive member)
    (fun field => motive field.2)
    any unknown null string number integer bigint boolean date literal enumeration
    array object record union optional promise function
    (fun _ member => absurd member List.not_mem_nil)
    (fun _ _ first others => List.forall_mem_cons.mpr ⟨first, others⟩)
    (fun _ member => absurd member List.not_mem_nil)
    (fun _ _ first others => List.forall_mem_cons.mpr ⟨first, others⟩)
    (fun _ _ inner => inner)
    schema

section WellFormed

variable {fields : List (String × Schema)} {strict : Bool} {members : List Schema}

theorem wellFormed_iff {schema : Schema} : schema.wellFormed ↔ schema.fault? = none := by
  rw [wellFormed, Option.isNone_iff_eq_none]

theorem faultOfEach?_eq_none_iff :
    faultOfEach? members = none ↔ ∀ member ∈ members, member.wellFormed := by
  induction members with
  | nil => simp [faultOfEach?]
  | cons member rest ih =>
      rw [faultOfEach?, Option.or_eq_none_iff, ih, List.forall_mem_cons, wellFormed_iff]

/-- Fields have no fault when their names differ from each other and from those seen
before, and none of their schemas has one. -/
theorem faultOfFields?_eq_none_iff (seen : List String) :
    faultOfFields? seen fields = none ↔
      (Entries.keys fields).Nodup ∧ (∀ name ∈ Entries.keys fields, name ∉ seen) ∧
        ∀ field ∈ fields, field.2.wellFormed := by
  induction fields generalizing seen with
  | nil => simp [faultOfFields?, Entries.keys]
  | cons field rest ih =>
      rcases field with ⟨name, schema⟩
      rw [faultOfFields?]
      by_cases known : name ∈ seen
      · simp [known, Entries.keys]
      · rw [if_neg (by simpa using known), Option.or_eq_none_iff, ih, ← wellFormed_iff]
        simp only [Entries.keys, List.map_cons, List.nodup_cons, List.mem_cons,
          forall_eq_or_imp, not_or]
        constructor
        · rintro ⟨first, distinct, fresh, others⟩
          have single : name ∉ rest.map Prod.fst := fun repeated => (fresh name repeated).1 rfl
          exact ⟨⟨single, distinct⟩, ⟨known, fun other member => (fresh other member).2⟩, first,
            others⟩
        · rintro ⟨⟨single, distinct⟩, ⟨_, fresh⟩, first, others⟩
          refine ⟨first, distinct, ?_, others⟩
          intro other member
          refine ⟨?_, fresh other member⟩
          rintro rfl
          exact single member

@[simp] theorem wellFormed_array {items : Schema} :
    (array items).wellFormed = items.wellFormed :=
  rfl

@[simp] theorem wellFormed_record {values : Schema} :
    (record values).wellFormed = values.wellFormed :=
  rfl

@[simp] theorem wellFormed_optional {inner : Schema} :
    (optional inner).wellFormed = inner.wellFormed :=
  rfl

@[simp] theorem wellFormed_promise {resolved : Schema} :
    (promise resolved).wellFormed = resolved.wellFormed :=
  rfl

theorem wellFormed_union_iff :
    (union members).wellFormed ↔ members ≠ [] ∧ ∀ member ∈ members, member.wellFormed := by
  cases members with
  | nil => simp [wellFormed_iff, fault?]
  | cons member rest =>
      rw [wellFormed_iff, fault?, faultOfEach?_eq_none_iff]
      simp

theorem wellFormed_object_iff :
    (object fields strict).wellFormed ↔
      (Entries.keys fields).Nodup ∧ ∀ field ∈ fields, field.2.wellFormed := by
  rw [wellFormed_iff, fault?, faultOfFields?_eq_none_iff]
  simp

end WellFormed

end ApiContract.Schema
