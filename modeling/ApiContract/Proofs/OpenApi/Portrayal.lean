import ApiContract.Proofs.Contract.Parts
import ApiContract.Proofs.OpenApi.Completeness
import ApiContract.Proofs.Routing.Decision
import ApiContract.Proofs.Text.Digits

/-!
# What an operation says of its route

An operation lists the parameters of its route at three locations, its answers by status, its
body and its security scheme.  A contract whose checkers could be compiled declares no field
twice, and then each name of the path and each field of a part has one parameter.  What the
operations of a document refer to, its schemes and its tags, the document defines, and it
defines nothing else.
-/

namespace ApiContract

variable {State : Type}

/-- The checkers of the route are those of its contract. -/
def Route.IsCompiled (route : Route State) : Prop :=
  ∃ backend, route.contract.compile backend = .ok route.compiled

/-- Whatever was registered, all routes of the registry are compiled. -/
theorem Registry.isCompiled_of_mem_afterAll {registry : Registry State}
    (compiled : ∀ route ∈ registry.routes, route.IsCompiled) (attempts : List (Attempt State)) :
    ∀ route ∈ (registry.afterAll attempts).routes, route.IsCompiled := by
  induction attempts generalizing registry with
  | nil => exact compiled
  | cons attempt rest ih =>
      rw [afterAll_cons]
      apply ih
      rcases attempt.run_cases registry with ⟨_, unchanged⟩ | ⟨route, built, _, succeeded⟩
      · rwa [unchanged]
      · rw [succeeded, Registry.extended, List.forall_mem_append, List.forall_mem_singleton]
        have contract := (Router.serves_of_route built).contract
        exact ⟨compiled, _, contract.symm ▸ Router.compile_of_route built⟩

namespace OpenApi

/-! ## Fields of parts -/

section Fields

variable {part : Option Schema} {contract : Contract} {location : Location} {name : String}

theorem mem_fieldsOf_iff {field : String × Schema} :
    field ∈ fieldsOf part ↔
      ∃ fields strict, part = some (.object fields strict) ∧ field ∈ fields := by
  cases part with
  | none => simp [fieldsOf]
  | some schema => cases schema <;> simp [fieldsOf, Schema.fields?]

theorem nodup_keys_fieldsOf (wellFormed : ∀ schema ∈ part, schema.wellFormed) :
    (Entries.keys (fieldsOf part)).Nodup := by
  cases part with
  | none => exact List.nodup_nil
  | some schema =>
      have isWellFormed := wellFormed schema rfl
      cases schema with
      | object fields strict => exact (Schema.wellFormed_object_iff.mp isWellFormed).1
      | _ => exact List.nodup_nil

/-- The parts of a request are well formed once the request has a checker. -/
theorem wellFormed_of_compile {backend : Backend} {compiled : CompiledContract}
    (compiles : contract.compile backend = .ok compiled) (part : Part) :
    ∀ schema ∈ part.schema? contract, schema.wellFormed := by
  intro schema declared
  rcases Checker.compile_eq_ok (Contract.compile_request compiles) with ⟨wellFormed, _⟩
  exact (Schema.wellFormed_object_iff.mp wellFormed).2 (part.name, schema)
    (Contract.mem_requestFields_iff.mpr ⟨part, declared, rfl⟩)

/-- The parameters of a path that stand for declared fields. -/
def declaredParameters (contract : Contract) : List Parameter :=
  (fieldsOf contract.params).map fun field => parameter .path true field.1 field.2

/-- The placeholders of a path that no field is declared for. -/
def undeclaredNames (path : String) (contract : Contract) : List String :=
  (Routing.paramNames path).filter fun name =>
    !(Entries.keys (fieldsOf contract.params)).contains name

theorem pathParameters_eq (path : String) (contract : Contract) :
    pathParameters path contract =
      (undeclaredNames path contract).map (fun name => parameter .path true name .string) ++
        declaredParameters contract :=
  rfl

/-- Of the parameters of fields, those under a name are those of the field of this name. -/
theorem filter_map_fields (distinct : (Entries.keys (fieldsOf part)).Nodup) (name : String)
    (required : Schema → Bool) :
    (((fieldsOf part).map fun field =>
        parameter location (required field.2) field.1 field.2).filter
          fun listed => listed.name = name) =
      ((Entries.get? (fieldsOf part) name).map fun schema =>
        parameter location (required schema) name schema).toList := by
  have filtered : (((fieldsOf part).map fun field =>
      parameter location (required field.2) field.1 field.2).filter
        fun listed => listed.name = name) =
      ((fieldsOf part).filter fun field => field.1 = name).map fun field =>
        parameter location (required field.2) field.1 field.2 :=
    List.filter_map
  rw [filtered, Entries.filter_eq_toList distinct]
  cases Entries.get? (fieldsOf part) name <;> rfl

theorem filter_partParameters (distinct : (Entries.keys (fieldsOf part)).Nodup) (name : String) :
    ((partParameters location part).filter fun listed => listed.name = name) =
      ((Entries.get? (fieldsOf part) name).map fun schema =>
        parameter location (!schema.isOptional) name schema).toList :=
  filter_map_fields distinct name fun schema => !schema.isOptional

/-- A placeholder has one parameter, that of its field or one of its own. -/
theorem exists_filter_pathParameters {path : String}
    (distinct : (Entries.keys (fieldsOf contract.params)).Nodup)
    (single : (Routing.paramNames path).Nodup) (isPlaceholder : name ∈ Routing.paramNames path) :
    ∃ schema, ((pathParameters path contract).filter fun listed => listed.name = name) =
      [parameter .path true name schema] := by
  have own : (((undeclaredNames path contract).map fun name =>
      parameter .path true name .string).filter fun listed => listed.name = name) =
      ((undeclaredNames path contract).filter fun other => other = name).map fun name =>
        parameter .path true name .string :=
    List.filter_map
  have declared := @filter_map_fields _ .path distinct name fun _ => true
  -- A name is either declared or among the undeclared ones, and once in either.
  rw [pathParameters_eq, List.filter_append, own, declaredParameters, declared]
  cases found : Entries.get? (fieldsOf contract.params) name with
  | none =>
      have undeclared : name ∈ undeclaredNames path contract := by
        rw [Entries.get?_eq_none_iff] at found
        exact List.mem_filter.mpr ⟨isPlaceholder, by simpa using found⟩
      have once : (undeclaredNames path contract).count name = 1 :=
        List.count_eq_one_of_mem (single.filter _) undeclared
      refine ⟨.string, ?_⟩
      rw [List.filter_eq, once]
      rfl
  | some schema =>
      have isDeclared : name ∈ Entries.keys (fieldsOf contract.params) :=
        Entries.exists_get?_iff.mp ⟨schema, found⟩
      have absent : name ∉ undeclaredNames path contract := by
        simp [undeclaredNames, isDeclared]
      refine ⟨schema, ?_⟩
      rw [List.filter_eq, List.count_eq_zero_of_not_mem absent]
      rfl

end Fields

/-! ## Parameters -/

/-- The parameters of an operation at a location under a name. -/
def Operation.parametersAt (portrait : Operation) (location : Location) (name : String) :
    List Parameter :=
  (portrait.parameters.filter fun listed => listed.location = location).filter
    fun listed => listed.name = name

/-- The parameters of a route at a location. -/
def parametersOf (route : Route State) : Location → List Parameter
  | .path => pathParameters route.fullPath route.contract
  | .query => partParameters .query route.contract.query
  | .header => partParameters .header route.contract.requestHeaders

theorem location_of_mem_parametersOf {route : Route State} {location : Location}
    {listed : Parameter} (member : listed ∈ parametersOf route location) :
    listed.location = location := by
  cases location with
  | path =>
      rcases List.mem_append.mp member with undeclared | declared
      · rcases List.mem_map.mp undeclared with ⟨_, _, rfl⟩
        rfl
      · rcases List.mem_map.mp declared with ⟨_, _, rfl⟩
        rfl
  | query | header =>
      rcases List.mem_map.mp member with ⟨_, _, rfl⟩
      rfl

theorem parameters_operation (route : Route State) :
    (operation route).parameters =
      parametersOf route .path ++ parametersOf route .query ++ parametersOf route .header :=
  rfl

theorem filter_location_parametersOf (route : Route State) (found location : Location) :
    ((parametersOf route found).filter fun listed => listed.location = location) =
      if found = location then parametersOf route found else [] := by
  split
  · next same =>
      rw [List.filter_eq_self]
      intro listed member
      exact decide_eq_true ((location_of_mem_parametersOf member).trans same)
  · next differ =>
      rw [List.filter_eq_nil_iff]
      intro listed member
      rw [location_of_mem_parametersOf member]
      simpa using differ

theorem filter_location_operation (route : Route State) (location : Location) :
    ((operation route).parameters.filter fun listed => listed.location = location) =
      parametersOf route location := by
  rw [parameters_operation, List.filter_append, List.filter_append,
    filter_location_parametersOf, filter_location_parametersOf, filter_location_parametersOf]
  cases location <;> simp

theorem parametersAt_operation (route : Route State) (location : Location) (name : String) :
    (operation route).parametersAt location name =
      (parametersOf route location).filter fun listed => listed.name = name := by
  rw [Operation.parametersAt, filter_location_operation]

/-- An operation lists the fields of a part at a location: each field of an object once, as
required unless it is optional, and nothing else. -/
structure ListsFields (part : Option Schema) (location : Location) (portrait : Operation) :
    Prop where
  fields : ∀ fields strict, part = some (.object fields strict) → ∀ field ∈ fields,
    ∃ listed, portrait.parametersAt location field.1 = [listed] ∧
      (listed.required ↔ ¬field.2.isOptional)
  nothingElse : ∀ listed ∈ portrait.parameters, listed.location = location →
    ∃ fields strict, part = some (.object fields strict) ∧ listed.name ∈ Entries.keys fields

/-- The parameters of a part list its fields. -/
theorem listsFields_operation {route : Route State} {part : Option Schema} {location : Location}
    (wellFormed : ∀ schema ∈ part, schema.wellFormed)
    (lists : parametersOf route location = partParameters location part) :
    ListsFields part location (operation route) where
  fields := by
    rintro fields strict rfl field member
    have distinct := nodup_keys_fieldsOf wellFormed
    have found : Entries.get? (fieldsOf (some (.object fields strict))) field.1 = some field.2 :=
      (Entries.get?_eq_some_iff distinct).mpr member
    refine ⟨parameter location (!field.2.isOptional) field.1 field.2, ?_, ?_⟩
    · rw [parametersAt_operation, lists, filter_partParameters distinct, found]
      rfl
    · simp [parameter]
  nothingElse := by
    intro listed member here
    have isListed : listed ∈ partParameters location part := by
      rw [← lists, ← filter_location_operation]
      exact List.mem_filter.mpr ⟨member, decide_eq_true here⟩
    rcases List.mem_map.mp isListed with ⟨field, isField, rfl⟩
    rcases mem_fieldsOf_iff.mp isField with ⟨fields, strict, isPart, isField⟩
    exact ⟨fields, strict, isPart, List.mem_map_of_mem isField⟩

/-! ## Answers -/

section Answers

variable {route : Route State}

/-- The answers of a route by the texts of their statuses. -/
def answersOf (route : Route State) : List (String × ResponseObject) :=
  route.compiled.responses.map fun listed =>
    (Text.decimalText listed.1, responseObject route.contract listed.1 listed.2.schema)

theorem responses_operation (route : Route State) :
    (operation route).responses = Entries.ofList (answersOf route) :=
  rfl

theorem keys_answersOf (route : Route State) :
    Entries.keys (answersOf route) =
      (ByStatus.statuses route.compiled.responses).map Text.decimalText := by
  rw [Entries.keys, answersOf, ByStatus.statuses, List.map_map, List.map_map]
  rfl

theorem statuses_of_isCompiled (compiled : route.IsCompiled) :
    ByStatus.statuses route.compiled.responses =
      ByStatus.statuses route.contract.responseSchemas := by
  rcases compiled with ⟨_, compiles⟩
  exact ByStatus.statuses_compile (Contract.compile_responses compiles).1

theorem nodup_keys_answersOf (compiled : route.IsCompiled) :
    (Entries.keys (answersOf route)).Nodup := by
  rw [keys_answersOf, statuses_of_isCompiled compiled]
  exact List.Nodup.map Text.decimalText_injective
    (route.contract.ascending_responseSchemas.imp Nat.ne_of_lt)

/-- The answer found under the text of a status is the one of this status. -/
theorem exists_eq_responseObject (compiled : route.IsCompiled) {status : Nat}
    {response : ResponseObject}
    (found : Entries.get? (operation route).responses (Text.decimalText status) = some response) :
    ∃ schema, response = responseObject route.contract status schema := by
  rw [responses_operation, Entries.get?_ofList (nodup_keys_answersOf compiled)] at found
  rcases List.mem_map.mp (Entries.mem_of_get? found) with ⟨listed, _, same⟩
  rcases Prod.mk.inj same with ⟨sameText, sameResponse⟩
  rw [Text.decimalText_injective sameText] at sameResponse
  exact ⟨_, sameResponse.symm⟩

/-- Headers are listed where the contract declares an answer. -/
theorem mem_keys_headers_iff {contract : Contract} {status : Nat} {schema : Schema}
    {name : String} :
    name ∈ Entries.keys (responseObject contract status schema).headers ↔
      status ∈ ByStatus.statuses contract.responses ∧
        name ∈ Entries.keys (fieldsOf contract.responseHeaders) := by
  rw [responseObject, ← ByStatus.isSome_get?_iff]
  cases (ByStatus.get? contract.responses status).isSome with
  | true =>
      rw [if_pos rfl, Entries.mem_keys_ofList]
      simp [Entries.keys]
  | false => simp [Entries.keys]

end Answers

/-! ## Operations -/

/-- What an operation says of the contract and the path of a route. -/
structure Portrays (route : Route State) (portrait : Operation) : Prop where
  placeholders : ∀ name ∈ Routing.paramNames route.fullPath,
    ∃ listed, portrait.parametersAt .path name = [listed] ∧ listed.required
  query : ListsFields route.contract.query .query portrait
  requestHeaders : ListsFields route.contract.requestHeaders .header portrait
  /-- The answers are those of every endpoint and the declared ones, each once. -/
  answers : ∀ key, key ∈ Entries.keys portrait.responses ↔
    ∃ status, (status ∈ Contract.errorStatuses ∨
        status ∈ ByStatus.statuses route.contract.responses) ∧
      key = Text.decimalText status
  answersOnce : (Entries.keys portrait.responses).Nodup
  /-- A declared answer lists the declared headers, and another answer none. -/
  responseHeaders : ∀ status response,
    Entries.get? portrait.responses (Text.decimalText status) = some response →
      ∀ name, name ∈ Entries.keys response.headers ↔
        status ∈ ByStatus.statuses route.contract.responses ∧
          ∃ fields strict, route.contract.responseHeaders = some (.object fields strict) ∧
            name ∈ Entries.keys fields
  body : portrait.requestBody.isSome ↔ route.contract.body.isSome
  security : portrait.security.isSome ↔ route.contract.auth.isSome

theorem portrays_operation {route : Route State} (compiled : route.IsCompiled)
    (single : (Routing.paramNames route.fullPath).Nodup) : Portrays route (operation route) := by
  rcases compiled with ⟨backend, compiles⟩
  have wellFormed := wellFormed_of_compile compiles
  constructor
  · intro name isPlaceholder
    rcases exists_filter_pathParameters (nodup_keys_fieldsOf (wellFormed .params)) single
      isPlaceholder with ⟨schema, once⟩
    exact ⟨_, (parametersAt_operation route .path name).trans once, rfl⟩
  · exact listsFields_operation (wellFormed .query) rfl
  · exact listsFields_operation (wellFormed .headers) rfl
  · intro key
    rw [responses_operation, Entries.mem_keys_ofList, keys_answersOf,
      statuses_of_isCompiled ⟨backend, compiles⟩, List.mem_map]
    simp only [Contract.mem_statuses_responseSchemas_iff, eq_comm]
  · exact (Entries.ascending_ofList _).nodup_keys
  · intro status response found name
    rcases exists_eq_responseObject ⟨backend, compiles⟩ found with ⟨schema, rfl⟩
    rw [mem_keys_headers_iff]
    apply and_congr_right
    intro _
    simp only [Entries.keys, List.mem_map, mem_fieldsOf_iff]
    constructor
    · rintro ⟨field, ⟨fields, strict, isPart, member⟩, rfl⟩
      exact ⟨fields, strict, isPart, field, member, rfl⟩
    · rintro ⟨fields, strict, isPart, field, member, rfl⟩
      exact ⟨field, ⟨fields, strict, isPart, member⟩, rfl⟩
  · rw [operation, Option.isSome_map]
  · rw [operation, Option.isSome_map]

/-! ## Documents -/

section Documents

variable {routes : List (Route State)}

/-- What a document defines: the schemes that its operations name, and the base paths of the
routes that it documents. -/
structure Defines (routes : List (Route State)) (document : Document) : Prop where
  schemes_iff : ∀ scheme, scheme ∈ document.securitySchemes ↔
    ∃ listed ∈ document.operations, listed.2.security = some scheme
  schemesOnce : document.securitySchemes.Nodup
  tags_iff : ∀ tag, tag ∈ document.tags ↔ ∃ route ∈ knownRoutes routes, route.basePath = tag
  tagsOnce : document.tags.Nodup

theorem mem_operations_iff (distinct : ((knownRoutes routes).map Route.documentPlace).Nodup)
    (info : Info) {listed : (String × String) × Operation} :
    listed ∈ (describe info routes).operations ↔
      ∃ route ∈ knownRoutes routes, listed = (route.documentPlace, operation route) := by
  have known : ∀ route ∈ knownRoutes routes, route.method ∈ knownMethods :=
    fun route member => (mem_knownRoutes_iff.mp member).2
  rcases listed with ⟨place, found⟩
  rw [Document.operations, paths_describe, (tidy_pathsOf known).mem_operationsOf_iff]
  constructor
  · rw [operationAt?_pathsOf known, Option.map_eq_some_iff]
    rintro ⟨route, isFound, rfl⟩
    have isPlace : route.documentPlace = place := by simpa using List.find?_some isFound
    exact ⟨route, List.mem_of_find?_eq_some isFound, by rw [isPlace]⟩
  · rintro ⟨route, member, same⟩
    rcases Prod.mk.inj same with ⟨isPlace, isOperation⟩
    rw [isPlace, isOperation]
    exact operationAt?_pathsOf_of_mem known distinct member

theorem mem_securitySchemes_iff (info : Info) {scheme : SecurityScheme} :
    scheme ∈ (describe info routes).securitySchemes ↔
      ∃ route ∈ knownRoutes routes, (operation route).security = some scheme := by
  have isOne : scheme ∈ [SecurityScheme.apiKey, .basic, .bearer] := by cases scheme <;> simp
  rw [describe, List.mem_filter, List.contains_iff_mem, List.mem_filterMap]
  exact and_iff_right isOne

theorem defines_describe (distinct : ((knownRoutes routes).map Route.documentPlace).Nodup)
    (info : Info) : Defines routes (describe info routes) where
  schemes_iff := by
    intro scheme
    rw [mem_securitySchemes_iff]
    constructor
    · rintro ⟨route, member, named⟩
      exact ⟨_, (mem_operations_iff distinct info).mpr ⟨route, member, rfl⟩, named⟩
    · rintro ⟨listed, member, named⟩
      rcases (mem_operations_iff distinct info).mp member with ⟨route, isKnown, rfl⟩
      exact ⟨route, isKnown, named⟩
  schemesOnce := List.Nodup.filter _ (by decide)
  tags_iff := by
    intro tag
    rw [describe, sortedTexts, Entries.mem_keys_ofList]
    simp [Entries.keys, knownRoutes]
  tagsOnce := (Entries.ascending_ofList _).nodup_keys

/-- Where the known routes have places of their own, each has an operation that says what its
contract does, and the document defines what its operations name and nothing else. -/
theorem portrays_describe (compiled : ∀ route ∈ routes, route.IsCompiled)
    (distinct : (routes.map Route.documentPlace).Nodup) (info : Info) :
    (∀ route ∈ routes, route.method ∈ knownMethods →
        (Routing.paramNames route.fullPath).Nodup →
          ∃ portrait, (describe info routes).operation? route.documentPath route.method =
              some portrait ∧
            Portrays route portrait) ∧
      Defines routes (describe info routes) := by
  have knownDistinct : ((knownRoutes routes).map Route.documentPlace).Nodup :=
    distinct.sublist (List.filter_sublist.map Route.documentPlace)
  refine ⟨?_, defines_describe knownDistinct info⟩
  intro route member known single
  have isKnown : route ∈ knownRoutes routes := mem_knownRoutes_iff.mpr ⟨member, known⟩
  refine ⟨operation route, ?_, portrays_operation (compiled route member) single⟩
  exact operationAt?_pathsOf_of_mem (fun other isOther => (mem_knownRoutes_iff.mp isOther).2)
    knownDistinct isKnown

end Documents

/-- A contract for reading an item, to which only bearers of a token are let. -/
def itemContract : Contract where
  name := "read"
  query := some (.object [("page", .optional .integer), ("sort", .string)] true)
  responseHeaders := some (.object [("etag", .string)] false)
  responses := [(200, .string)]
  auth := some { method := .bearer }

/-- Two routes of items, the first with a placeholder that is not declared. -/
def items : List (Attempt Nat) :=
  [{ Attempt.plain "read" "GET" "/items/:id" with
      router := { basePath := "/", identities := some [] }, contract := itemContract },
    .plain "drop" "DELETE" "/items"]

theorem items_portrayed :
    ∃ portrait,
      (describe {} (Registry.ofAttempts items).routes).operation? "/items/\x7bid\x7d" "GET" =
          some portrait ∧
        (∃ listed, portrait.parametersAt .path "id" = [listed] ∧ listed.required) ∧
        (∃ listed, portrait.parametersAt .query "page" = [listed] ∧ ¬listed.required) ∧
        "404" ∈ Entries.keys portrait.responses := by
  have distinct : ((Registry.ofAttempts items).routes.map Route.documentPlace).Nodup := by
    decide +kernel
  have compiled : ∀ route ∈ (Registry.ofAttempts items).routes, route.IsCompiled :=
    Registry.isCompiled_of_mem_afterAll (fun _ member => absurd member List.not_mem_nil) items
  have portrays := (portrays_describe compiled distinct {}).1
  have places : (Registry.ofAttempts items).routes.map Route.documentPlace =
      [("/items/\x7bid\x7d", "GET"), ("/items", "DELETE")] := by decide +kernel
  have names : (Registry.ofAttempts items).routes.map
      (fun route => Routing.paramNames route.fullPath) = [["id"], []] := by decide +kernel
  have contracts : (Registry.ofAttempts items).routes.map Route.contract =
      [itemContract, { name := "drop" }] := rfl
  generalize (Registry.ofAttempts items).routes = routes at portrays places names contracts
  rcases List.map_eq_cons_iff.mp places with ⟨read, others, rfl, readPlace, _⟩
  rw [List.map_cons, List.cons.injEq] at names contracts
  rcases Prod.mk.inj readPlace with ⟨readPath, readMethod⟩
  rcases portrays read List.mem_cons_self (by rw [readMethod]; decide)
    (by rw [names.1]; decide) with ⟨portrait, found, portrayed⟩
  rw [readPath, readMethod] at found
  have query : read.contract.query =
      some (.object [("page", .optional .integer), ("sort", .string)] true) := by
    rw [contracts.1]
    rfl
  rcases portrayed.query.fields _ _ query ("page", .optional .integer) (by simp) with
    ⟨page, isPage, optional⟩
  refine ⟨portrait, found, portrayed.placeholders "id" (by simp [names.1]), ?_, ?_⟩
  · exact ⟨page, isPage, fun required => optional.mp required rfl⟩
  · exact (portrayed.answers _).mpr ⟨404, .inl (by decide), by decide +kernel⟩

end OpenApi

end ApiContract
