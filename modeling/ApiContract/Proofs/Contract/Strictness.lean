import ApiContract.Proofs.Contract.Parts
import ApiContract.Proofs.Schema.Agreement

/-!
# How strictly requests are checked

A contract says in its options what an invalid request leads to.  The checkers of the contract
are the same in every mode, and so is what becomes of a request that fits: it is handed on with
its parts as they were parsed.  Of a request that does not fit nothing is converted.  One mode
ends its passage, the other two hand it on as it came, with a warning or without.
-/

namespace ApiContract

variable {State : Type} {backend : Backend} {contract : Contract} {compiled : CompiledContract}
  {request : Request}

/-! ## The parts of a parsed request -/

/-- Whichever way the checker goes, it returns what the converting walk arrives at. -/
theorem Checker.eq_value_walk_of_parse {checker : Checker} {value converted : Value}
    (parsed : checker.parse value = .ok converted) :
    converted = (checker.schema.walk .converting value).value := by
  rcases checker with ⟨backend, schema, wellFormed⟩
  cases backend with
  | native => exact (Checker.parse_native_eq_ok_iff.mp parsed).2.symm
  | document => exact (Checker.parse_document_eq_ok_iff.mp parsed).2.symm

/-- Every part of a request is part of what the walk of the whole request arrives at, also a
part that the contract does not declare. -/
theorem exists_get?_walk_requestSchema (contract : Contract) (request : Request) (part : Part) :
    ∃ value, (contract.requestSchema.walk .converting request.input).value.get? part.name =
      some value := by
  have found : (contract.requestSchema.walk .converting request.input).value.get? part.name =
      Entries.get? (Schema.walkedMembers
        (Schema.walkFields .converting contract.requestFields request.inputMembers) false
        request.inputMembers) part.name := rfl
  rw [found, Schema.get?_walkedMembers, request.get?_inputMembers part, Option.bind_some,
    Schema.memberResult]
  cases Entries.get? contract.requestFields part.name with
  | some schema => exact ⟨_, rfl⟩
  | none => exact ⟨_, rfl⟩

/-- A parsed request names all parts, so none is left as it came. -/
theorem get?_eq_of_withInput (compiles : contract.compile backend = .ok compiled)
    {parsed : Value} (passes : compiled.request.parse request.input = .ok parsed) (part : Part) :
    parsed.get? part.name = some (part.of (request.withInput parsed)) := by
  rcases Checker.compile_eq_ok (Contract.compile_request compiles) with ⟨_, isChecker⟩
  have arrived := Checker.eq_value_walk_of_parse passes
  rw [isChecker] at arrived
  rcases exists_get?_walk_requestSchema contract request part with ⟨value, found⟩
  rw [← arrived] at found
  rw [request.of_withInput, found, Option.getD_some]

/-! ## Modes -/

namespace Contract

/-- The contract with its requests checked in the given mode. -/
def admitting (contract : Contract) (mode : ValidationMode) : Contract :=
  { contract with options := { contract.options with requestValidation := mode } }

/-- The record that an invalid request passes, with all its issues. -/
def invalidRequestRecord (contract : Contract) (correlationId : String) (issues : List Issue) :
    LogRecord where
  level := .warn
  message := s!"{contract.name}: request validation failed"
  details := .object [("contract", .string contract.name),
    ("correlation_id", .string correlationId),
    ("issues", .array (issues.map Issue.toJson))]

/-- The count of an invalid request that passes. -/
def invalidRequestCount (contract : Contract) : Metric :=
  ⟨"contract.request.invalid", [("contract", contract.name)]⟩

/-- What becomes of a request when it is checked in the modes of a contract.  What follows the
check is arbitrary, and so is what the exchange holds besides the request. -/
structure Handles (State : Type) (contract : Contract) (checker : Checker) (request : Request) :
    Prop where
  /-- A request that fits is handed on in every mode alike, and nothing is told of it. -/
  fitting : ∀ parsed, checker.parse request.input = .ok parsed →
    ∃ handed : Request,
      (∀ part : Part, parsed.get? part.name = some (part.of handed)) ∧
      { handed with
        params := request.params, headers := request.headers, query := request.query,
        body := request.body } = request ∧
      ∀ mode (next : Exchange State → Passage State) (exchange : Exchange State),
        exchange.request = request →
          Stage.parse (contract.admitting mode) checker next exchange =
            next { exchange with request := handed }
  /-- Where it must fit, nothing follows, and the exchange is left as it was. -/
  strict : ∀ issues, checker.parse request.input = .error issues →
    ∀ (next : Exchange State → Passage State) (exchange : Exchange State),
      exchange.request = request →
        Stage.parse (contract.admitting .error) checker next exchange =
          .failed exchange (.invalidRequest issues)
  /-- Under a warning only the telemetry grows, by one record and one count. -/
  warned : ∀ issues, checker.parse request.input = .error issues →
    ∀ (next : Exchange State → Passage State) (exchange : Exchange State),
      exchange.request = request →
        Stage.parse (contract.admitting .warning) checker next exchange =
          next { exchange with
            telemetry := {
              logs := exchange.telemetry.logs ++
                [contract.invalidRequestRecord request.correlationId issues]
              metrics := exchange.telemetry.metrics ++ [contract.invalidRequestCount] } }
  ignored : ∀ issues, checker.parse request.input = .error issues →
    ∀ (next : Exchange State → Passage State) (exchange : Exchange State),
      exchange.request = request →
        Stage.parse (contract.admitting .none) checker next exchange = next exchange

/-- The mode does not matter to what a contract is compiled to. -/
theorem compile_admitting (contract : Contract) (mode : ValidationMode) :
    (contract.admitting mode).compile backend = contract.compile backend :=
  rfl

end Contract

/-- The checkers of a contract serve all its modes, and every request is handled by them as the
mode says. -/
theorem handles_of_compile (compiles : contract.compile backend = .ok compiled)
    (request : Request) :
    (∀ mode, (contract.admitting mode).compile backend = .ok compiled) ∧
      contract.Handles State compiled.request request := by
  refine ⟨fun mode => (contract.compile_admitting mode).trans compiles, ?_⟩
  constructor
  · intro parsed passes
    refine ⟨request.withInput parsed, get?_eq_of_withInput compiles passes, rfl, ?_⟩
    intro mode next exchange arrives
    rw [Stage.parse, arrives, passes]
  · intro issues refused next exchange arrives
    rw [Stage.parse, arrives, refused]
    rfl
  · intro issues refused next exchange arrives
    rw [Stage.parse, arrives, refused]
    subst arrives
    rfl
  · intro issues refused next exchange arrives
    rw [Stage.parse, arrives, refused]
    rfl

/-- An order that fits goes on with its amount as a number, in every mode; one without its
tenant is told of once under a warning and goes on as it came. -/
theorem order_handled :
    ∃ compiled, orderContract.compile .native = .ok compiled ∧
      (∃ handed, handed.body.get? "amount" = some (.number (.ofInt 5)) ∧
        ∀ mode (exchange : Exchange Nat),
          exchange.request = order [("x-tenant", .string "t")] (.string "a") →
            Stage.parse (orderContract.admitting mode) compiled.request .done exchange =
              .done { exchange with request := handed }) ∧
      ∀ exchange : Exchange Nat, exchange.request = order [] (.string "a") →
        exchange.telemetry = {} →
          let passed := (Stage.parse (orderContract.admitting .warning) compiled.request .done
            exchange).exchange
          passed.request = order [] (.string "a") ∧ passed.telemetry =
            { logs := [orderContract.invalidRequestRecord "unknown"
                [⟨["headers", "x-tenant"], "required"⟩]]
              metrics := [orderContract.invalidRequestCount] } := by
  have compiles : orderContract.compile .native = .ok _ := rfl
  have fits := (@handles_of_compile Nat _ _ _ compiles
    (order [("x-tenant", .string "t")] (.string "a"))).2.fitting _ rfl
  have lacks := (@handles_of_compile Nat _ _ _ compiles (order [] (.string "a"))).2.warned
    [⟨["headers", "x-tenant"], "required"⟩] rfl .done
  rcases fits with ⟨handed, parts, _, goesOn⟩
  refine ⟨_, compiles, ⟨handed, ?_, fun mode => goesOn mode .done⟩, ?_⟩
  · have body : _ = handed.body := Option.some.inj (parts .body)
    rw [← body]
    rfl
  · intro exchange arrives silent
    rw [lacks exchange arrives]
    exact ⟨arrives, by rw [silent]; rfl⟩

end ApiContract
