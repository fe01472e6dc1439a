import ApiContract.Proofs.Contract.Declaration
import ApiContract.Proofs.Schema.Nodes

/-!
# Contracts that cannot be compiled

A compilation stops at its first fault, and what counts as a fault does not depend on the way in
which values will be checked.  The whole request brings no fault of its own and neither do the
responses that every endpoint has, so that a contract is refused exactly for a malformed node of
a schema that was declared for one of its sections.
-/

namespace ApiContract

section Errors

variable {ε α β : Type}

/-- The error that a result is, if it is one. -/
def errorOf? : Except ε α → Option ε
  | .error fault => some fault
  | .ok _ => none

theorem errorOf?_eq_some_iff {result : Except ε α} {fault : ε} :
    errorOf? result = some fault ↔ result = .error fault := by
  cases result <;> simp [errorOf?]

/-- Of two steps, the first one fails first. -/
theorem errorOf?_bind {first : Except ε α} {next : α → Except ε β} {later : Option ε}
    (fails : ∀ value, errorOf? (next value) = later) :
    errorOf? (first >>= next) = (errorOf? first).or later := by
  cases first with
  | error fault => rfl
  | ok value => exact fails value

theorem errorOf?_bind_pure {first : Except ε α} {finish : α → β} :
    errorOf? (first >>= fun value => pure (finish value)) = errorOf? first := by
  cases first <;> rfl

theorem errorOf?_listMapM {step : α → Except ε β} {fault? : α → Option ε}
    (fails : ∀ item, errorOf? (step item) = fault? item) (items : List α) :
    errorOf? (items.mapM step) = items.findSome? fault? := by
  induction items with
  | nil => rfl
  | cons item rest ih =>
      rw [List.mapM_cons, List.findSome?_cons, ← fails item, ← ih]
      cases step item with
      | error fault => rfl
      | ok value => cases rest.mapM step <;> rfl

theorem errorOf?_optionMapM {step : α → Except ε β} {fault? : α → Option ε}
    (fails : ∀ item, errorOf? (step item) = fault? item) (item? : Option α) :
    errorOf? (item?.mapM step) = item?.bind fault? := by
  cases item? with
  | none => rfl
  | some item =>
      have made : (some item).mapM step = some <$> step item := rfl
      rw [made, Option.bind_some, ← fails item]
      cases step item <;> rfl

end Errors

theorem errorOf?_compile {backend : Backend} (schema : Schema) :
    errorOf? (Checker.compile backend schema) = schema.fault? := by
  rw [Checker.compile]
  split
  · next fault => exact fault.symm
  · next sound => exact sound.symm

namespace Contract

variable {contract : Contract} {backend : Backend}

/-- The first fault of a contract. -/
def fault? (contract : Contract) : Option SchemaError :=
  contract.requestSchema.fault?.or
    ((contract.responseSchemas.findSome? fun entry => entry.2.fault?).or
      (contract.responseHeaders.bind Schema.fault?))

/-- A compilation fails with the first fault of the contract, in either way of checking. -/
theorem compile_eq_error_iff {fault : SchemaError} :
    contract.compile backend = .error fault ↔ contract.fault? = some fault := by
  have entryFails (entry : Nat × Schema) :
      errorOf? (do
        let checker ← Checker.compile backend entry.2
        pure (entry.1, checker)) = entry.2.fault? := by
    rw [errorOf?_bind_pure, errorOf?_compile]
  rw [← errorOf?_eq_some_iff, compile, errorOf?_bind, errorOf?_compile, fault?]
  intro _
  rw [errorOf?_bind, ByStatus.compile, errorOf?_listMapM entryFails]
  intro _
  rw [errorOf?_bind_pure, errorOf?_optionMapM errorOf?_compile]

/-! ## What the declared schemas bring in -/

/-- No two parts of a request have the same name. -/
theorem nodup_keys_requestFields (contract : Contract) :
    (Entries.keys contract.requestFields).Nodup := by
  rw [requestFields_eq, Entries.keys, List.map_filterMap]
  refine List.Nodup.filterMap ?_ (by decide)
  intro left right name isLeft isRight
  simp only [Option.mem_def, Option.map_map, Option.map_eq_some_iff] at isLeft isRight
  rcases isLeft with ⟨_, _, rfl⟩
  rcases isRight with ⟨_, _, same⟩
  exact Part.name_injective same.symm

theorem wellFormed_requestSchema_iff :
    contract.requestSchema.wellFormed ↔
      ∀ part schema, contract.schemaFor? (.request part) = some schema → schema.wellFormed := by
  rw [requestSchema, Schema.ofFields, Schema.wellFormed_object_iff,
    and_iff_right contract.nodup_keys_requestFields]
  constructor
  · intro sound part schema declared
    exact sound (part.name, schema) (mem_requestFields_iff.mpr ⟨part, declared, rfl⟩)
  · intro sound field isField
    rcases mem_requestFields_iff.mp isField with ⟨part, declared, _⟩
    exact sound part field.2 declared

/-- A contract answers as it declares, and else with plain text where every endpoint does. -/
theorem get?_responseSchemas
    (ascending : (ByStatus.statuses contract.responses).Pairwise (· < ·)) (status : Nat) :
    ByStatus.get? contract.responseSchemas status =
      (ByStatus.get? contract.responses status).or
        (ByStatus.get? (errorStatuses.map fun status => (status, .string)) status) :=
  ByStatus.get?_foldl_insert ascending _ status

theorem wellFormed_responseSchemas_iff
    (ascending : (ByStatus.statuses contract.responses).Pairwise (· < ·)) :
    (∀ entry ∈ contract.responseSchemas, entry.2.wellFormed) ↔
      ∀ status schema, contract.schemaFor? (.response status) = some schema →
        schema.wellFormed := by
  have listed_iff (status : Nat) (schema : Schema) :
      ByStatus.get? contract.responseSchemas status = some schema ↔
        (status, schema) ∈ contract.responseSchemas :=
    ByStatus.get?_eq_some_iff contract.ascending_responseSchemas
  constructor
  · intro sound status schema declared
    refine sound (status, schema) ((listed_iff status schema).mp ?_)
    rw [get?_responseSchemas ascending, show ByStatus.get? contract.responses status = _ from
      declared, Option.some_or]
  · rintro sound ⟨status, schema⟩ listed
    have found := (listed_iff status schema).mpr listed
    rw [get?_responseSchemas ascending, Option.or_eq_some_iff] at found
    rcases found with declared | ⟨_, plain⟩
    · exact sound status schema declared
    · rw [ByStatus.get?_eq_some_iff (by decide), List.mem_map] at plain
      rcases plain with ⟨_, _, same⟩
      cases same
      rfl

/-- A contract has no fault when the schemas that it declares have none. -/
theorem fault?_eq_none_iff
    (ascending : (ByStatus.statuses contract.responses).Pairwise (· < ·)) :
    contract.fault? = none ↔
      ∀ place schema, contract.schemaFor? place = some schema → schema.wellFormed := by
  have responses := wellFormed_responseSchemas_iff ascending
  rw [fault?, Option.or_eq_none_iff, Option.or_eq_none_iff, ← Schema.wellFormed_iff,
    wellFormed_requestSchema_iff, List.findSome?_eq_none_iff, Option.bind_eq_none_iff]
  simp only [← Schema.wellFormed_iff, responses]
  constructor
  · rintro ⟨request, responses, headers⟩ place schema declared
    cases place with
    | request part => exact request part schema declared
    | response status => exact responses status schema declared
    | responseHeaders => exact headers schema declared
  · intro sound
    exact ⟨fun part => sound (.request part), fun status => sound (.response status),
      sound .responseHeaders⟩

/-- A contract cannot be compiled exactly when a schema that was declared for one of its sections
has a malformed node once names of headers are folded, and both ways of checking refuse it with
the same error. -/
theorem compile_fails_iff_malformed (name : String) (settings : List Setting) :
    (∀ backend, (∃ error, (described name settings).compile backend = .error error) ↔
      ∃ place schema, declared? settings place = some schema ∧
        ∃ node ∈ (place.folded schema).nodes, node.IsMalformed) ∧
    ∀ error, (described name settings).compile .native = .error error ↔
      (described name settings).compile .document = .error error := by
  constructor
  · intro backend
    simp only [compile_eq_error_iff, ← Schema.not_wellFormed_iff]
    rw [← Option.ne_none_iff_exists', ne_eq, fault?_eq_none_iff ascending_described]
    simp only [schemaFor?_described, Option.map_eq_some_iff]
    constructor
    · intro refused
      push Not at refused
      rcases refused with ⟨place, _, ⟨schema, declared, rfl⟩, malformed⟩
      exact ⟨place, schema, declared, malformed⟩
    · rintro ⟨place, schema, declared, malformed⟩ sound
      exact malformed (sound place _ ⟨schema, declared, rfl⟩)
  · intro error
    rw [compile_eq_error_iff, compile_eq_error_iff]

/-- Names of headers that differ in letter case alone are one name declared twice. -/
example :
    (described "tenant" [.declare (.request .headers)
      (.object [("X-Tenant", .full .string), ("x-tenant", .full .string)])]).fault? =
        some (.duplicateField "x-tenant") := by
  decide +kernel

end Contract

end ApiContract
