import ApiContract.Exchange.Stage
import ApiContract.Proofs.Contract.Compiled
import ApiContract.Proofs.Schema.Walk

/-!
# A request is checked part by part

A contract has one schema for the whole request, an object with a field for each part that it
declares.  To check a request by this schema is to check every declared part by the schema of
its own: the request passes when all of them do, each is replaced by what its schema makes of
it, and otherwise the issues of the parts follow each other in a fixed order.
-/

namespace ApiContract

/-- A part of a request that a contract can declare. -/
inductive Part where
  | params
  | headers
  | query
  | body
  deriving DecidableEq

namespace Part

/-- All parts, in the order in which their issues are listed. -/
def all : List Part := [.params, .headers, .query, .body]

/-- The name of a part, with which the paths of its issues begin. -/
def name : Part → String
  | .params => "params"
  | .headers => "headers"
  | .query => "query"
  | .body => "body"

/-- The schema that a contract declares for a part. -/
def schema? (contract : Contract) : Part → Option Schema
  | .params => contract.params
  | .headers => contract.requestHeaders
  | .query => contract.query
  | .body => contract.body

/-- What a request has in a part. -/
def of (request : Request) : Part → Value
  | .params => request.params
  | .headers => request.headers
  | .query => request.query
  | .body => request.body

/-- What a part becomes: what its schema makes of it, or without a schema what it was. -/
def Becomes (contract : Contract) (request : Request) (part : Part) (result : Value) : Prop :=
  match part.schema? contract with
  | some schema => schema.parse (part.of request) = .ok result
  | none => result = part.of request

/-- The issues that the schema of a part has with it, as seen from the whole request. -/
def issues (contract : Contract) (request : Request) (part : Part) : List Issue :=
  match part.schema? contract with
  | some schema =>
      match schema.parse (part.of request) with
      | .ok _ => []
      | .error own => own.map (Issue.below part.name)
  | none => []

theorem mem_all (part : Part) : part ∈ all := by
  cases part <;> decide

theorem name_injective : Function.Injective name := by
  intro left right same
  cases left <;> cases right <;> simp [name] at same ⊢

end Part

variable {State : Type} {contract : Contract} {request : Request}

/-! ## The schema of the whole request -/

namespace Contract

theorem requestFields_eq (contract : Contract) :
    contract.requestFields =
      Part.all.filterMap fun part =>
        (part.schema? contract).map fun schema => (part.name, schema) :=
  rfl

theorem mem_requestFields_iff {field : String × Schema} :
    field ∈ contract.requestFields ↔
      ∃ part : Part, part.schema? contract = some field.2 ∧ part.name = field.1 := by
  rcases field with ⟨name, schema⟩
  rw [requestFields_eq, List.mem_filterMap]
  constructor
  · rintro ⟨part, _, declared⟩
    rcases Option.map_eq_some_iff.mp declared with ⟨_, isSchema, same⟩
    cases same
    exact ⟨part, isSchema, rfl⟩
  · rintro ⟨part, isSchema, rfl⟩
    exact ⟨part, part.mem_all, by rw [isSchema, Option.map_some]⟩

theorem get?_requestFields (distinct : (Entries.keys contract.requestFields).Nodup)
    (part : Part) : Entries.get? contract.requestFields part.name = part.schema? contract := by
  cases declared : part.schema? contract with
  | some schema =>
      rw [Entries.get?_eq_some_iff distinct, mem_requestFields_iff]
      exact ⟨part, declared, rfl⟩
  | none =>
      rw [Entries.get?_eq_none_iff]
      intro member
      rcases Entries.exists_get?_iff.mpr member with ⟨schema, found⟩
      rcases mem_requestFields_iff.mp (Entries.mem_of_get? found) with ⟨other, isSchema, same⟩
      rw [Part.name_injective same, declared] at isSchema
      cases isSchema

end Contract

namespace Request

/-- The members of what is checked of a request. -/
def inputMembers (request : Request) : Entries Value :=
  [("body", request.body), ("headers", request.headers), ("params", request.params),
    ("query", request.query)]

theorem get?_inputMembers (request : Request) (part : Part) :
    Entries.get? request.inputMembers part.name = some (part.of request) := by
  cases part <;> rfl

theorem of_withInput (request : Request) (parsed : Value) (part : Part) :
    part.of (request.withInput parsed) = (parsed.get? part.name).getD (part.of request) := by
  cases part <;> rfl

end Request

/-! ## The walk of a whole request -/

theorem outcome_input (part : Part) (schema : Schema) :
    Schema.outcome .converting schema (Entries.get? request.inputMembers part.name) =
      .present (schema.walk .converting (part.of request)) := by
  rw [request.get?_inputMembers part]
  rfl

/-- The issues of a part are those that the walk of the part states. -/
theorem Part.issues_eq (part : Part) :
    part.issues contract request =
      match part.schema? contract with
      | some schema => (schema.walk .converting (part.of request)).issuesBelow part.name
      | none => [] := by
  rw [issues]
  cases part.schema? contract with
  | none => rfl
  | some schema =>
      cases parsed : schema.parse (part.of request) with
      | ok result =>
          have clean := (Schema.parse_eq_ok_iff.mp parsed).1
          simp only [parsed, Walked.issuesBelow_eq_nil_iff.mpr clean]
      | error own =>
          simp only [parsed, Walked.issuesBelow, (Schema.parse_eq_error_iff.mp parsed).2]

/-- The issues of the declared fields, one after the other, are those of the parts. -/
theorem issues_fieldsOf (parts : List Part) :
    (parts.filterMap fun part =>
        (part.schema? contract).map fun schema => (part.name, schema)).flatMap (fun field =>
          (Schema.outcome .converting field.2
            (Entries.get? request.inputMembers field.1)).issues field.1) =
      parts.flatMap fun part => part.issues contract request := by
  induction parts with
  | nil => rfl
  | cons part rest ih =>
      rw [List.filterMap_cons, List.flatMap_cons, ← ih, part.issues_eq]
      cases declared : part.schema? contract with
      | none => rfl
      | some schema =>
          rw [Option.map_some, List.flatMap_cons, outcome_input part schema]
          rfl

theorem issues_walk_requestSchema :
    (contract.requestSchema.walk .converting request.input).issues =
      Part.all.flatMap fun part => part.issues contract request := by
  have walked := @Schema.issues_walk_object .converting contract.requestFields false
    request.inputMembers
  rw [if_neg Bool.false_ne_true, List.append_nil, contract.requestFields_eq] at walked
  rw [← issues_fieldsOf]
  exact walked

theorem clean_walk_requestSchema_iff :
    (contract.requestSchema.walk .converting request.input).Clean ↔
      ∀ part : Part, ∀ schema, part.schema? contract = some schema →
        ∃ result, schema.parse (part.of request) = .ok result := by
  rw [Walked.Clean, issues_walk_requestSchema, List.flatMap_eq_nil_iff]
  constructor
  · intro silent part schema declared
    have none := silent part part.mem_all
    rw [part.issues_eq, declared] at none
    exact ⟨_, Schema.parse_eq_ok_iff.mpr ⟨Walked.issuesBelow_eq_nil_iff.mp none, rfl⟩⟩
  · intro fits part _
    rw [part.issues_eq]
    cases declared : part.schema? contract with
    | none => rfl
    | some schema =>
        rcases fits part schema declared with ⟨result, parsed⟩
        exact Walked.issuesBelow_eq_nil_iff.mpr (Schema.parse_eq_ok_iff.mp parsed).1

/-- What the walk of the whole request makes of its parts. -/
theorem becomes_of_walk (distinct : (Entries.keys contract.requestFields).Nodup)
    (clean : (contract.requestSchema.walk .converting request.input).Clean) (part : Part) :
    part.Becomes contract request
      (part.of (request.withInput
        (contract.requestSchema.walk .converting request.input).value)) := by
  have member := @Schema.get?_walkedMembers .converting contract.requestFields false
    request.inputMembers part.name
  rw [request.get?_inputMembers part, Option.bind_some, Schema.memberResult,
    contract.get?_requestFields distinct part] at member
  -- The walked request is an object, and a part of it is a member of this object.
  have found : (contract.requestSchema.walk .converting request.input).value.get? part.name =
      Entries.get? (Schema.walkedMembers
        (Schema.walkFields .converting contract.requestFields request.inputMembers) false
        request.inputMembers) part.name := rfl
  rw [Part.Becomes, request.of_withInput, found, member]
  cases declared : part.schema? contract with
  | none => rfl
  | some schema =>
      rcases clean_walk_requestSchema_iff.mp clean part schema declared with ⟨result, parsed⟩
      exact Schema.parse_eq_ok_iff.mpr ⟨(Schema.parse_eq_ok_iff.mp parsed).1, rfl⟩

/-! ## The check of a whole request -/

/-- The check of whole requests by a checker comes to the check of their parts by the schemas
that a contract declares for them. -/
structure ChecksByPart (State : Type) (contract : Contract) (checker : Checker)
    (request : Request) : Prop where
  passes_iff : (∃ parsed, checker.parse request.input = .ok parsed) ↔
    ∀ part : Part, ∀ schema, part.schema? contract = some schema →
      ∃ result, schema.parse (part.of request) = .ok result
  /-- A request that passes is handed on with every part as it becomes and with all else as it
  was. -/
  handsOn : ∀ parsed, checker.parse request.input = .ok parsed →
    ∃ handed : Request,
      (∀ part : Part, part.Becomes contract request (part.of handed)) ∧
      { handed with
        params := request.params, headers := request.headers, query := request.query,
        body := request.body } = request ∧
      ∀ (next : Exchange State → Passage State) (exchange : Exchange State),
        exchange.request = request →
          Stage.parse contract checker next exchange = next { exchange with request := handed }
  /-- Otherwise the issues of the parts follow each other. -/
  refuses_iff : ∀ issues, checker.parse request.input = .error issues ↔
    issues ≠ [] ∧ issues = Part.all.flatMap fun part => part.issues contract request

/-- The native checker of a contract checks every request part by part. -/
theorem checksByPart_of_compile {compiled : CompiledContract}
    (compiles : contract.compile .native = .ok compiled) (request : Request) :
    ChecksByPart State contract compiled.request request := by
  rcases Checker.compile_eq_ok (Contract.compile_request compiles) with ⟨wellFormed, isChecker⟩
  have distinct := (Schema.wellFormed_object_iff.mp wellFormed).1
  have parse_eq : compiled.request.parse request.input =
      contract.requestSchema.parse request.input := by
    rw [isChecker]
    rfl
  constructor
  · rw [parse_eq, ← clean_walk_requestSchema_iff]
    constructor
    · rintro ⟨parsed, passes⟩
      exact (Schema.parse_eq_ok_iff.mp passes).1
    · intro clean
      exact ⟨_, Schema.parse_eq_ok_iff.mpr ⟨clean, rfl⟩⟩
  · intro parsed passes
    rcases Schema.parse_eq_ok_iff.mp (parse_eq ▸ passes) with ⟨clean, rfl⟩
    refine ⟨_, becomes_of_walk distinct clean, rfl, ?_⟩
    intro next exchange arrives
    rw [Stage.parse, arrives, passes]
  · intro issues
    rw [parse_eq, Schema.parse_eq_error_iff, issues_walk_requestSchema,
      eq_comm (a := issues)]

/-- A contract for orders. It declares no query. -/
def orderContract : Contract where
  name := "order"
  requestHeaders := some (.object [("x-tenant", .string)] false)
  body := some (.object
    [("amount", .number), ("lines", .array (.object [("sku", .string)] true))] false)

/-- An order of one item with the given headers. -/
def order (headers : List (String × Value)) (sku : Value) : Request where
  method := "POST"
  path := "/orders"
  query := .object [("page", .string "2")]
  headers := .object headers
  body := .object [("amount", .string "5"), ("lines", .array [.object [("sku", sku)]])]

/-- The issues of an order are those of its headers and then those of its body. -/
theorem order_checked_by_part :
    ∃ compiled, orderContract.compile .native = .ok compiled ∧
      compiled.request.parse (order [] .null).input =
        .error [⟨["headers", "x-tenant"], "required"⟩,
          ⟨["body", "lines", "0", "sku"], "expected string, received null"⟩] ∧
      ∃ parsed,
        compiled.request.parse (order [("x-tenant", .string "t")] (.string "a")).input =
          .ok parsed := by
  have compiles : orderContract.compile .native = .ok _ := rfl
  have refused : ChecksByPart Nat _ _ _ := checksByPart_of_compile compiles (order [] .null)
  have passed : ChecksByPart Nat _ _ _ := checksByPart_of_compile compiles
    (order [("x-tenant", .string "t")] (.string "a"))
  refine ⟨_, compiles, (refused.refuses_iff _).mpr ⟨by simp, rfl⟩, passed.passes_iff.mpr ?_⟩
  intro part schema declared
  cases part <;> cases declared <;> exact ⟨_, rfl⟩

end ApiContract
