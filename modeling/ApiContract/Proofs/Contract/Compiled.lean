import ApiContract.Contract.Compiled

/-!
# What a contract is compiled to

A compilation goes through the parts of a contract and stops at the first fault.  Where it
gets to the end, the checkers are those of the declared schemas, part by part and status by
status.
-/

namespace ApiContract

/-- A result that rests on an earlier one has that earlier one. -/
theorem exists_of_bind_eq_ok {ε α β : Type} {first : Except ε α} {next : α → Except ε β}
    {result : β} (reaches : first >>= next = .ok result) :
    ∃ between, first = .ok between ∧ next between = .ok result := by
  cases first with
  | error fault => cases reaches
  | ok between => exact ⟨between, rfl, reaches⟩

namespace Checker

variable {backend : Backend}

/-- A compiled checker has the schema that it was compiled from. -/
theorem compile_eq_ok {schema : Schema} {checker : Checker}
    (compiles : Checker.compile backend schema = .ok checker) :
    ∃ wellFormed, checker = ⟨backend, schema, wellFormed⟩ := by
  rw [Checker.compile] at compiles
  split at compiles
  · cases compiles
  · cases compiles
    exact ⟨_, rfl⟩

variable {schema? : Option Schema} {checker? : Option Checker}

end Checker

namespace ByStatus

/-- The statuses under which something is listed. -/
def statuses {α : Type} (listed : ByStatus α) : List Nat :=
  listed.map Prod.fst

section Insertion

variable {α : Type} {listed : ByStatus α} {status other : Nat} {value : α}

theorem isSome_get?_iff : (ByStatus.get? listed status).isSome ↔ status ∈ statuses listed := by
  simp [ByStatus.get?, statuses]

theorem get?_insert :
    ByStatus.get? (ByStatus.insert status value listed) other =
      if other = status then some value else ByStatus.get? listed other := by
  induction listed with
  | nil => grind [ByStatus.insert, ByStatus.get?]
  | cons entry rest ih =>
      rw [ByStatus.insert]
      simp only [ByStatus.get?] at ih ⊢
      split <;> grind

/-- Where statuses ascend, a lookup finds exactly what is listed. -/
theorem get?_eq_some_iff (ascending : (statuses listed).Pairwise (· < ·)) :
    ByStatus.get? listed status = some value ↔ (status, value) ∈ listed := by
  induction listed with
  | nil => simp [ByStatus.get?]
  | cons entry rest ih =>
      rcases entry with ⟨first, existing⟩
      rcases List.pairwise_cons.mp ascending with ⟨isFirst, others⟩
      rw [List.mem_cons, ← ih others, ByStatus.get?, ByStatus.get?, List.lookup_cons]
      split
      · next same =>
          rw [beq_iff_eq] at same
          subst same
          have later : List.lookup status rest ≠ some value := by
            intro found
            have listed : status ∈ statuses rest :=
              List.mem_map_of_mem (f := Prod.fst) ((ih others).mp found)
            exact Nat.lt_irrefl _ (isFirst _ listed)
          simp [later, eq_comm]
      · next other => grind

theorem mem_statuses_insert :
    other ∈ statuses (ByStatus.insert status value listed) ↔
      other = status ∨ other ∈ statuses listed := by
  induction listed with
  | nil => simp [ByStatus.insert, statuses]
  | cons entry rest ih =>
      rcases entry with ⟨first, existing⟩
      rw [ByStatus.insert]
      split
      · simp [statuses]
      · split
        · next same => simp [statuses, same]
        · simp only [statuses, List.map_cons, List.mem_cons] at ih ⊢
          rw [ih, or_left_comm]

theorem ascending_insert (ascending : (statuses listed).Pairwise (· < ·)) :
    (statuses (ByStatus.insert status value listed)).Pairwise (· < ·) := by
  induction listed with
  | nil => exact List.pairwise_singleton _ _
  | cons entry rest ih =>
      rcases entry with ⟨first, existing⟩
      rcases List.pairwise_cons.mp ascending with ⟨isFirst, others⟩
      rw [ByStatus.insert]
      split
      · next before =>
          refine List.pairwise_cons.mpr ⟨?_, ascending⟩
          refine List.forall_mem_cons.mpr ⟨before, ?_⟩
          intro later member
          exact Nat.lt_trans before (isFirst later member)
      · split
        · next same =>
            subst same
            exact List.pairwise_cons.mpr ⟨isFirst, others⟩
        · refine List.pairwise_cons.mpr ⟨?_, ih others⟩
          intro later member
          rcases mem_statuses_insert.mp member with rfl | inRest
          · omega
          · exact isFirst later inRest

/-- Where entries are inserted one after the other, they win over what was listed before. -/
theorem get?_foldl_insert {entries : ByStatus α}
    (ascending : (statuses entries).Pairwise (· < ·)) (listed : ByStatus α) (status : Nat) :
    ByStatus.get? (entries.foldl
        (fun listed entry => ByStatus.insert entry.1 entry.2 listed) listed) status =
      (ByStatus.get? entries status).or (ByStatus.get? listed status) := by
  induction entries generalizing listed with
  | nil => rfl
  | cons entry rest ih =>
      rcases entry with ⟨first, value⟩
      rcases List.pairwise_cons.mp ascending with ⟨isFirst, others⟩
      rw [List.foldl_cons, ih others, get?_insert]
      split
      · next same =>
          subst same
          have absent : ByStatus.get? rest status = none := by
            rw [← Option.not_isSome_iff_eq_none, isSome_get?_iff]
            exact fun later => Nat.lt_irrefl _ (isFirst _ later)
          rw [absent, Option.none_or, ByStatus.get?, List.lookup_cons_self, Option.some_or]
      · next other =>
          have differ : (status == first) = false := by simpa using other
          simp [ByStatus.get?, List.lookup_cons, differ]

end Insertion

variable {backend : Backend} {schemas : ByStatus Schema} {compiled : ByStatus Checker}

/-- Checkers are listed under the statuses of their schemas, in the same order. -/
theorem statuses_compile (compiles : ByStatus.compile backend schemas = .ok compiled) :
    statuses compiled = statuses schemas := by
  induction schemas generalizing compiled with
  | nil =>
      cases compiles
      rfl
  | cons entry rest ih =>
      rcases entry with ⟨first, given⟩
      rw [ByStatus.compile, List.mapM_cons] at compiles
      rcases exists_of_bind_eq_ok compiles with ⟨_, entryCompiles, compiles⟩
      rcases exists_of_bind_eq_ok entryCompiles with ⟨checker, checked, paired⟩
      rcases exists_of_bind_eq_ok compiles with ⟨others, restCompiles, compiles⟩
      cases paired
      cases compiles
      exact congrArg (first :: ·) (ih restCompiles)

/-- The checkers listed by status are those of the schemas listed by status. -/
theorem get?_compile (compiles : ByStatus.compile backend schemas = .ok compiled) (status : Nat) :
    (ByStatus.get? schemas status).mapM (Checker.compile backend) =
      .ok (ByStatus.get? compiled status) := by
  induction schemas generalizing compiled with
  | nil =>
      cases compiles
      rfl
  | cons entry rest ih =>
      rcases entry with ⟨first, given⟩
      rw [ByStatus.compile, List.mapM_cons] at compiles
      rcases exists_of_bind_eq_ok compiles with ⟨_, entryCompiles, compiles⟩
      rcases exists_of_bind_eq_ok entryCompiles with ⟨checker, checked, paired⟩
      rcases exists_of_bind_eq_ok compiles with ⟨others, restCompiles, compiles⟩
      cases paired
      cases compiles
      rw [ByStatus.get?, ByStatus.get?, List.lookup_cons, List.lookup_cons]
      split
      · exact congrArg (some <$> ·) checked
      · exact ih restCompiles

theorem exists_get?_compile (compiles : ByStatus.compile backend schemas = .ok compiled)
    {status : Nat} {schema : Schema} (declared : ByStatus.get? schemas status = some schema) :
    ∃ wellFormed, ByStatus.get? compiled status = some ⟨backend, schema, wellFormed⟩ := by
  have listed := get?_compile compiles status
  rw [declared] at listed
  rcases exists_of_bind_eq_ok listed with ⟨checker, checked, same⟩
  rcases Checker.compile_eq_ok checked with ⟨wellFormed, rfl⟩
  exact ⟨wellFormed, (Except.ok.inj same).symm⟩

end ByStatus

namespace Contract

variable {contract : Contract} {backend : Backend} {compiled : CompiledContract}

/-- A contract answers with the statuses of every endpoint and with those that it declares. -/
theorem mem_statuses_responseSchemas_iff {status : Nat} :
    status ∈ ByStatus.statuses contract.responseSchemas ↔
      status ∈ errorStatuses ∨ status ∈ ByStatus.statuses contract.responses := by
  have collects : ∀ (declared collected : ByStatus Schema),
      status ∈ ByStatus.statuses (declared.foldl
          (fun listed entry => ByStatus.insert entry.1 entry.2 listed) collected) ↔
        status ∈ ByStatus.statuses collected ∨ status ∈ ByStatus.statuses declared := by
    intro declared
    induction declared with
    | nil => simp [ByStatus.statuses]
    | cons entry rest ih =>
        intro collected
        rw [List.foldl_cons, ih, ByStatus.mem_statuses_insert]
        simp only [ByStatus.statuses, List.map_cons, List.mem_cons]
        rw [or_assoc, or_left_comm]
  have started : ByStatus.statuses (errorStatuses.map fun status => (status, Schema.string)) =
      errorStatuses := rfl
  rw [← started, ← collects]
  rfl

theorem ascending_responseSchemas (contract : Contract) :
    (ByStatus.statuses contract.responseSchemas).Pairwise (· < ·) := by
  have collects : ∀ (declared collected : ByStatus Schema),
      (ByStatus.statuses collected).Pairwise (· < ·) →
        (ByStatus.statuses (declared.foldl
          (fun listed entry => ByStatus.insert entry.1 entry.2 listed) collected)).Pairwise
            (· < ·) := by
    intro declared
    induction declared with
    | nil => exact fun _ ascending => ascending
    | cons entry rest ih => exact fun _ ascending => ih _ (ByStatus.ascending_insert ascending)
  exact collects contract.responses _ (by decide)

theorem compile_request (compiles : contract.compile backend = .ok compiled) :
    Checker.compile backend contract.requestSchema = .ok compiled.request := by
  rcases exists_of_bind_eq_ok compiles with ⟨request, checked, compiles⟩
  rcases exists_of_bind_eq_ok compiles with ⟨responses, _, compiles⟩
  rcases exists_of_bind_eq_ok compiles with ⟨headers, _, compiles⟩
  cases compiles
  exact checked

theorem compile_responses (compiles : contract.compile backend = .ok compiled) :
    ByStatus.compile backend contract.responseSchemas = .ok compiled.responses ∧
      contract.responseHeaders.mapM (Checker.compile backend) = .ok compiled.responseHeaders := by
  rcases exists_of_bind_eq_ok compiles with ⟨request, _, compiles⟩
  rcases exists_of_bind_eq_ok compiles with ⟨responses, checked, compiles⟩
  rcases exists_of_bind_eq_ok compiles with ⟨headers, headersChecked, compiles⟩
  cases compiles
  exact ⟨checked, headersChecked⟩

end Contract

end ApiContract
