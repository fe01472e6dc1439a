import ApiContract.Proofs.Schema.Walk
import ApiContract.Proofs.Value.Place
import Mathlib.Data.List.Pairwise

/-!
# Where issues stand

A walk states at most one issue for each place.  Every issue stands at a place that the value has,
or at that of a member which an object lacks, and no issue stands below another.  The issues of a
node are those of its parts, each put below its own step, so that issues of two parts part ways at
the first step.
-/

namespace ApiContract

namespace Issue

/-- The issues stand at different places, neither of them below the other. -/
def Apart (left right : Issue) : Prop :=
  ¬left.path <+: right.path ∧ ¬right.path <+: left.path

/-- The issue stands at a part of the value, or a required member is missing at its place. -/
structure IsPlaced (value : Value) (issue : Issue) : Prop where
  existing : issue.message ≠ "required" → ∃ part, value.atPath? issue.path = some part
  missing : issue.message = "required" → ∃ path name members,
    issue.path = path ++ [name] ∧ value.atPath? path = some (.object members) ∧
      name ∉ Entries.keys members

variable {value part : Value} {step : String} {issue left right : Issue}

instance : Std.Symm Apart where
  symm := fun _ _ apart => ⟨apart.2, apart.1⟩

theorem Apart.ne_path (apart : Apart left right) : left.path ≠ right.path := by
  intro same
  exact apart.1 (same ▸ List.prefix_rfl)

theorem apart_below_iff : Apart (left.below step) (right.below step) ↔ Apart left right := by
  simp [Apart, below]

theorem apart_below_of_ne {other : String} (differ : step ≠ other) :
    Apart (left.below step) (right.below other) := by
  simp [Apart, below, differ, differ.symm]

theorem IsPlaced.here {message : String} (other : message ≠ "required") :
    IsPlaced value (.here message) where
  existing := fun _ => ⟨value, rfl⟩
  missing := fun same => absurd same other

theorem IsPlaced.ofMissing {members : Entries Value} {name : String}
    (absent : name ∉ Entries.keys members) :
    IsPlaced (.object members) ((Issue.here "required").below name) where
  existing := fun other => absurd rfl other
  missing := fun _ => ⟨[], name, members, rfl, rfl, absent⟩

theorem IsPlaced.below (placed : IsPlaced part issue)
    (found : Entries.get? value.parts step = some part) : IsPlaced value (issue.below step) where
  existing := by
    intro other
    obtain ⟨inner, isInner⟩ := placed.existing other
    exact ⟨inner, (Value.atPath?_of_part found issue.path).trans isInner⟩
  missing := by
    intro required
    obtain ⟨path, name, members, isPath, isObject, absent⟩ := placed.missing required
    refine ⟨step :: path, name, members, ?_, ?_, absent⟩
    · simp [Issue.below, isPath]
    · rw [Value.atPath?_of_part found, isObject]

/-- An issue whose wording begins with another letter does not say that a member is required. -/
theorem ne_required_of_head {message : String} (other : message.toList.head? ≠ some 'r') :
    message ≠ "required" := by
  rintro rfl
  simp at other

end Issue

/-- The issues stand at places of the value, each at its own. -/
structure Located (value : Value) (issues : List Issue) : Prop where
  placed : ∀ issue ∈ issues, issue.IsPlaced value
  apart : issues.Pairwise Issue.Apart

/-- The issues stand at places below one step into the value, each at its own. -/
structure LocatedBelow (value : Value) (step : String) (issues : List Issue) : Prop where
  placed : ∀ issue ∈ issues, (issue.below step).IsPlaced value
  apart : issues.Pairwise Issue.Apart

namespace Located

variable {value part : Value} {step : String} {issues : List Issue}

theorem nil (value : Value) : Located value [] where
  placed := by simp
  apart := .nil

theorem here {message : String} (other : message.toList.head? ≠ some 'r') :
    Located value [.here message] where
  placed := by
    intro issue isIssue
    rw [List.mem_singleton.mp isIssue]
    exact .here (Issue.ne_required_of_head other)
  apart := List.pairwise_singleton _ _

theorem below (located : Located part issues) (found : Entries.get? value.parts step = some part) :
    LocatedBelow value step issues where
  placed := fun issue isIssue => (located.placed issue isIssue).below found
  apart := located.apart

/-- Issues below different steps part ways at the first step. -/
theorem ofGroups {groups : Entries (List Issue)} (distinct : (Entries.keys groups).Nodup)
    (each : ∀ group ∈ groups, LocatedBelow value group.1 group.2) :
    Located value (groups.flatMap fun group => group.2.map (Issue.below group.1)) where
  placed := by
    intro issue isIssue
    obtain ⟨group, isGroup, inGroup⟩ := List.mem_flatMap.mp isIssue
    obtain ⟨inner, isInner, rfl⟩ := List.mem_map.mp inGroup
    exact (each group isGroup).placed inner isInner
  apart := by
    rw [List.pairwise_flatMap]
    constructor
    · intro group isGroup
      rw [List.pairwise_map]
      exact (each group isGroup).apart.imp Issue.apart_below_iff.mpr
    · apply (List.pairwise_map.mp distinct).imp
      intro first second differ
      rw [List.forall_mem_map]
      intro left _
      rw [List.forall_mem_map]
      intro right _
      exact Issue.apart_below_of_ne differ

/-- The issues of all parts of a value, each below its own step. -/
theorem ofParts (issues : Value → List Issue) (distinct : (Entries.keys value.parts).Nodup)
    (each : ∀ part ∈ value.parts, Located part.2 (issues part.2)) :
    Located value (value.parts.flatMap fun part => (issues part.2).map (Issue.below part.1)) := by
  have located : Located value
      ((value.parts.map fun part => (part.1, issues part.2)).flatMap fun group =>
        group.2.map (Issue.below group.1)) := by
    apply ofGroups
    · rw [Entries.keys, List.map_map]
      exact distinct
    · rw [List.forall_mem_map]
      intro part isPart
      exact (each part isPart).below ((Entries.get?_eq_some_iff distinct).mpr isPart)
  rwa [List.flatMap_map] at located

end Located

/-- The issues of a field as its own value would state them. -/
def FieldOutcome.ownIssues : FieldOutcome → List Issue
  | .omitted => []
  | .missing => [.here "required"]
  | .present walked => walked.issues

theorem FieldOutcome.issues_eq_map (outcome : FieldOutcome) (name : String) :
    outcome.issues name = outcome.ownIssues.map (Issue.below name) := by
  cases outcome <;> rfl

namespace Schema

variable {mode : WalkMode} {schema : Schema} {value : Value}

/-! ## Leaves -/

theorem located_require {condition : Bool} {message : String}
    (other : message.toList.head? ≠ some 'r') :
    Located value (Walked.require condition value message).issues := by
  cases condition with
  | true => exact .nil value
  | false => exact .here other

theorem located_mismatch (expected : String) :
    Located value (Walked.mismatch expected value).issues := by
  apply Located.here
  simp [toString]

theorem located_walkLeaf {expected : String} {fitting : Option Value} :
    Located value (walkLeaf expected fitting value).issues := by
  cases fitting with
  | none => exact located_mismatch expected
  | some converted => exact .nil value

theorem located_walkNumber {whole : Bool} :
    Located value (walkNumber mode whole value).issues := by
  rw [walkNumber]
  split
  · split
    · apply Located.here
      simp [toString]
    · exact .nil value
  · exact located_mismatch _

/-! ## Objects -/

/-- The issues of the declared fields by their names. -/
def issuesByField (mode : WalkMode) (fields : List (String × Schema)) (members : Entries Value) :
    Entries (List Issue) :=
  fields.map fun field =>
    (field.1, (outcome mode field.2 (Entries.get? members field.1)).ownIssues)

/-- The issues of the members that are not declared by their names. -/
def issuesByStray (fields : List (String × Schema)) (members : Entries Value) :
    Entries (List Issue) :=
  (members.filter fun member => !Entries.contains fields member.1).map fun member =>
    (member.1, [.here s!"unrecognized key '{member.1}'"])

/-- The issues of an object by the names of the members that they are about. -/
def issuesByName (mode : WalkMode) (fields : List (String × Schema)) (strict : Bool)
    (members : Entries Value) : Entries (List Issue) :=
  issuesByField mode fields members ++ if strict then issuesByStray fields members else []

variable {fields : List (String × Schema)} {strict : Bool} {members : Entries Value}

theorem undeclaredIssues_walkFields :
    undeclaredIssues (walkFields mode fields members) members =
      (issuesByStray fields members).flatMap fun group => group.2.map (Issue.below group.1) := by
  have looked : ∀ name, ((walkFields mode fields members).lookup name).isSome =
      Entries.contains fields name := by
    intro name
    change (Entries.get? (walkFields mode fields members) name).isSome = _
    rw [get?_walkFields, Option.isSome_map, Entries.contains]
  rw [undeclaredIssues, issuesByStray, List.flatMap_map]
  -- The outcomes depend on all members, so they are fixed before the induction over these.
  generalize walkFields mode fields members = outcomes at looked ⊢
  induction members with
  | nil => rfl
  | cons member rest ih =>
      rw [List.filterMap_cons, List.filter_cons, ih, ← looked]
      cases found : outcomes.lookup member.1 with
      | none => simp [found, Issue.at_, Issue.here, Issue.below]
      | some outcome => simp [found]

theorem issues_walk_object_eq_flatMap :
    (walk mode (.object fields strict) (.object members)).issues =
      (issuesByName mode fields strict members).flatMap fun group =>
        group.2.map (Issue.below group.1) := by
  rw [issues_walk_object, issuesByName, List.flatMap_append, issuesByField, List.flatMap_map]
  simp only [FieldOutcome.issues_eq_map]
  congr 1
  cases strict with
  | false => rfl
  | true => exact undeclaredIssues_walkFields

theorem keys_issuesByField (mode : WalkMode) (fields : List (String × Schema))
    (members : Entries Value) :
    Entries.keys (issuesByField mode fields members) = Entries.keys fields := by
  rw [Entries.keys, issuesByField, List.map_map]
  rfl

theorem keys_issuesByStray :
    Entries.keys (issuesByStray fields members) =
      (Entries.keys members).filter fun name => !Entries.contains fields name := by
  rw [Entries.keys, issuesByStray, List.map_map, Entries.keys, List.filter_map]
  rfl

theorem nodup_keys_issuesByName (fieldsDistinct : (Entries.keys fields).Nodup)
    (membersDistinct : (Entries.keys members).Nodup) :
    (Entries.keys (issuesByName mode fields strict members)).Nodup := by
  cases strict with
  | false => simpa [issuesByName, keys_issuesByField] using fieldsDistinct
  | true =>
      have names : Entries.keys (issuesByName mode fields true members) =
          Entries.keys fields ++
            (Entries.keys members).filter fun name => !Entries.contains fields name := by
        rw [← keys_issuesByStray, ← keys_issuesByField mode fields members]
        exact List.map_append
      rw [names]
      apply List.Nodup.append fieldsDistinct (membersDistinct.filter _)
      intro name isField isStray
      simp [Entries.contains_iff.mpr isField] at isStray

/-- A field states its issues at its member, or misses that. -/
theorem locatedBelow_ownIssues {name : String}
    (each : ∀ part, Entries.get? members name = some part →
      Located part (walk mode schema part).issues) :
    LocatedBelow (.object members) name
      (outcome mode schema (Entries.get? members name)).ownIssues := by
  cases found : Entries.get? members name with
  | some part => exact (each part found).below found
  | none =>
      rw [outcome]
      cases schema.isOptional with
      | true => exact ⟨by simp [FieldOutcome.ownIssues], .nil⟩
      | false =>
          constructor
          · intro issue isIssue
            rw [List.mem_singleton.mp isIssue]
            exact .ofMissing (Entries.get?_eq_none_iff.mp found)
          · exact List.pairwise_singleton _ _

theorem located_walk_object (fieldsDistinct : (Entries.keys fields).Nodup)
    (membersDistinct : (Entries.keys members).Nodup)
    (each : ∀ field ∈ fields, ∀ part, Entries.get? members field.1 = some part →
      Located part (walk mode field.2 part).issues) :
    Located (.object members) (walk mode (.object fields strict) (.object members)).issues := by
  have declared : ∀ group ∈ issuesByField mode fields members,
      LocatedBelow (.object members) group.1 group.2 := by
    rw [issuesByField, List.forall_mem_map]
    intro field isField
    exact locatedBelow_ownIssues (each field isField)
  have stray : ∀ group ∈ issuesByStray fields members,
      LocatedBelow (.object members) group.1 group.2 := by
    rw [issuesByStray, List.forall_mem_map]
    intro member isStray
    have isMember := List.mem_of_mem_filter isStray
    have located : Located member.2 [.here s!"unrecognized key '{member.1}'"] :=
      .here (by simp [toString])
    exact located.below ((Entries.get?_eq_some_iff membersDistinct).mpr isMember)
  rw [issues_walk_object_eq_flatMap]
  apply Located.ofGroups (nodup_keys_issuesByName fieldsDistinct membersDistinct)
  rw [issuesByName, List.forall_mem_append]
  refine ⟨declared, ?_⟩
  cases strict with
  | false => simp
  | true => exact stray

/-! ## All nodes -/

theorem located_walk_union {members : List Schema} :
    Located value (walk mode (.union members) value).issues := by
  rw [walk_union]
  cases walkUnion mode members value with
  | some converted => exact .nil value
  | none => exact .here (by simp [toString])

theorem located_walk (wellFormed : schema.wellFormed) (distinct : value.KeysDistinct) :
    Located value (walk mode schema value).issues := by
  induction schema generalizing value with
  | any | unknown => exact .nil value
  | null | string | literal _ | enumeration _ =>
      exact located_require (by simp [toString])
  | number | integer => exact located_walkNumber
  | bigint | boolean | date => exact located_walkLeaf
  | array items ih =>
      cases value with
      | array values =>
          have located := Located.ofParts (fun part => (walk mode items part).issues)
            distinct.nodup_keys_parts fun part isPart => ih wellFormed (distinct.of_mem_parts isPart)
          rw [Value.parts_array, List.flatMap_map] at located
          rw [issues_walk_array]
          exact located
      | _ => exact located_mismatch "array"
  | object fields strict ih =>
      obtain ⟨fieldsDistinct, fieldsWellFormed⟩ := wellFormed_object_iff.mp wellFormed
      cases value with
      | object members =>
          apply located_walk_object fieldsDistinct distinct.nodup_keys_parts
          intro field isField part found
          have isPart := Entries.mem_of_get? found
          exact ih field isField (fieldsWellFormed field isField) (distinct.of_mem_parts isPart)
      | _ => exact located_mismatch "object"
  | record values ih =>
      cases value with
      | object members =>
          rw [issues_walk_record]
          apply Located.ofParts (fun part => (walk mode values part).issues)
            distinct.nodup_keys_parts
          intro part isPart
          exact ih wellFormed (distinct.of_mem_parts isPart)
      | _ => exact located_mismatch "object"
  -- What the members of a union find is dropped, so nothing needs to be known of it.
  | union members _ => exact located_walk_union
  | optional inner ih =>
      rw [walk_optional]
      cases value.isNull with
      | true => exact .nil value
      | false => exact ih wellFormed distinct
  | promise resolved ih => exact ih wellFormed distinct
  | function parameters result => exact .here (by simp)

/-- Each issue has a place of its own in the value. -/
structure OnePerPlace (value : Value) (issues : List Issue) : Prop where
  distinct : (issues.map Issue.path).Nodup
  /-- No issue stands below another. -/
  apart : ∀ left ∈ issues, ∀ right ∈ issues, left.path <+: right.path → left.path = right.path
  placed : ∀ issue ∈ issues, issue.IsPlaced value

theorem onePerPlace_of_located {issues : List Issue} (located : Located value issues) :
    OnePerPlace value issues where
  distinct := List.pairwise_map.mpr (located.apart.imp Issue.Apart.ne_path)
  apart := by
    intro left isLeft right isRight above
    by_cases same : left = right
    · rw [same]
    · exact absurd above (located.apart.forall isLeft isRight same).1
  placed := located.placed

end Schema

/-- A walk, converting or not, states at most one issue for each place. -/
theorem Schema.onePerPlace_walk (schema : Schema) (wellFormed : schema.wellFormed) (value : Value)
    (distinct : value.KeysDistinct) (mode : WalkMode) :
    OnePerPlace value (walk mode schema value).issues :=
  onePerPlace_of_located (located_walk wellFormed distinct)

/-- A strict object lacks a member and has one that is not declared, beside a list whose second
item no member of a union takes. -/
theorem Schema.onePerPlace_walk_sample :
    OnePerPlace
      (.ofMembers [("sizes", .array [.bool true, .string "x"]), ("extra", .null)])
      [⟨["net"], "required"⟩, ⟨["sizes", "1"], "no union member matched string"⟩,
        ⟨["extra"], "unrecognized key 'extra'"⟩] :=
  onePerPlace_walk
    (.object [("net", .number), ("sizes", .array (.union [.null, .boolean]))] true) (by decide)
    (.ofMembers [("sizes", .array [.bool true, .string "x"]), ("extra", .null)])
    (.ofMembers (by
      simp only [List.forall_mem_cons, List.not_mem_nil, false_implies, implies_true, and_true]
      refine ⟨.array ?_, .null⟩
      simp only [List.forall_mem_cons, List.not_mem_nil, false_implies, implies_true, and_true]
      exact ⟨.bool true, .string "x"⟩))
    .exact

end ApiContract
