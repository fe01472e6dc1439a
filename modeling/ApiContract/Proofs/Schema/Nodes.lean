import ApiContract.Proofs.Schema.Structure

/-!
# The nodes of schemas

A schema is a tree whose nodes are the schemas in it at any depth: fields, items, members, what is
optional or promised, parameters and results.  What is asked of all nodes passes from the parts of
a schema to the schema, and a schema is well formed exactly when none of its nodes is malformed.
-/

namespace ApiContract.Schema

/-- The schemas that a schema is made of. -/
def parts : Schema → List Schema
  | .array inner | .record inner | .optional inner | .promise inner => [inner]
  | .object fields _ => fields.map Prod.snd
  | .union members => members
  | .function parameters result => parameters ++ [result]
  | _ => []

mutual

/-- The schema and all schemas in it, at any depth. -/
def nodes : Schema → List Schema
  | .array items => .array items :: nodes items
  | .object fields strict => .object fields strict :: nodesOfFields fields
  | .record values => .record values :: nodes values
  | .union members => .union members :: nodesOfEach members
  | .optional inner => .optional inner :: nodes inner
  | .promise resolved => .promise resolved :: nodes resolved
  | .function parameters result =>
      .function parameters result :: (nodesOfEach parameters ++ nodes result)
  | schema => [schema]

/-- The nodes of several schemas. -/
def nodesOfEach : List Schema → List Schema
  | [] => []
  | schema :: rest => nodes schema ++ nodesOfEach rest

/-- The nodes of the schemas of fields. -/
def nodesOfFields : List (String × Schema) → List Schema
  | [] => []
  | (_, schema) :: rest => nodes schema ++ nodesOfFields rest

end

theorem nodesOfEach_eq_flatMap (schemas : List Schema) :
    nodesOfEach schemas = schemas.flatMap nodes := by
  induction schemas with
  | nil => rfl
  | cons schema rest ih => rw [nodesOfEach, ih, List.flatMap_cons]

theorem nodesOfFields_eq_flatMap (fields : List (String × Schema)) :
    nodesOfFields fields = (fields.map Prod.snd).flatMap nodes := by
  induction fields with
  | nil => rfl
  | cons field rest ih => rw [nodesOfFields, ih, List.map_cons, List.flatMap_cons]

theorem nodes_eq (schema : Schema) : schema.nodes = schema :: schema.parts.flatMap nodes := by
  cases schema <;> simp [nodes, parts, nodesOfEach_eq_flatMap, nodesOfFields_eq_flatMap]

/-- What is asked of all nodes is asked of the schema and of the nodes of its parts. -/
theorem forall_mem_nodes_iff {schema : Schema} {property : Schema → Prop} :
    (∀ node ∈ schema.nodes, property node) ↔
      property schema ∧ ∀ part ∈ schema.parts, ∀ node ∈ part.nodes, property node := by
  rw [nodes_eq, List.forall_mem_cons, List.forall_mem_flatMap]

/-- Induction over schemas. A property that passes from the parts of a schema to the schema holds of
every schema. -/
@[elab_as_elim]
theorem partsInduction {motive : Schema → Prop}
    (step : ∀ schema : Schema, (∀ part ∈ schema.parts, motive part) → motive schema)
    (schema : Schema) : motive schema := by
  induction schema with
  | array items ih => exact step _ (List.forall_mem_singleton.mpr ih)
  | record values ih => exact step _ (List.forall_mem_singleton.mpr ih)
  | optional inner ih => exact step _ (List.forall_mem_singleton.mpr ih)
  | promise resolved ih => exact step _ (List.forall_mem_singleton.mpr ih)
  | object fields strict ih => exact step _ (List.forall_mem_map.mpr ih)
  | union members ih => exact step _ ih
  | function parameters result each ih =>
      exact step _ (List.forall_mem_append.mpr ⟨each, List.forall_mem_singleton.mpr ih⟩)
  | _ => exact step _ (by simp [parts])

/-! ## Malformed nodes -/

variable {schema : Schema}

/-- An enumeration or a union without members, or an object that declares a name twice. -/
def IsMalformed : Schema → Prop
  | .enumeration values => values = []
  | .union members => members = []
  | .object fields _ => ¬(Entries.keys fields).Nodup
  | _ => False

/-- A schema is well formed when its own node is and all its parts are. -/
theorem wellFormed_iff_parts :
    schema.wellFormed ↔ ¬schema.IsMalformed ∧ ∀ part ∈ schema.parts, part.wellFormed := by
  cases schema with
  | enumeration values => cases values <;> simp [wellFormed_iff, fault?, IsMalformed, parts]
  | object fields strict =>
      rw [wellFormed_object_iff, IsMalformed, not_not, parts, List.forall_mem_map]
  | union members => simp [wellFormed_union_iff, IsMalformed, parts]
  | function parameters result =>
      rw [wellFormed_iff, fault?, Option.or_eq_none_iff, faultOfEach?_eq_none_iff,
        ← wellFormed_iff]
      simp [IsMalformed, parts, or_imp, forall_and]
  | _ => simp [wellFormed_iff, fault?, IsMalformed, parts]

theorem wellFormed_iff_nodes :
    schema.wellFormed ↔ ∀ node ∈ schema.nodes, ¬node.IsMalformed := by
  induction schema using partsInduction with
  | step schema ih =>
      rw [wellFormed_iff_parts, forall_mem_nodes_iff]
      exact and_congr_right fun _ => forall₂_congr ih

/-- A schema is refused for one of its nodes. -/
theorem not_wellFormed_iff :
    ¬schema.wellFormed ↔ ∃ node ∈ schema.nodes, node.IsMalformed := by
  rw [wellFormed_iff_nodes]
  push Not
  rfl

end ApiContract.Schema
