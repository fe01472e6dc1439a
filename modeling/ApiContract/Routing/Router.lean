import ApiContract.Routing.Registry

/-!
# Routers

A router registers routes below one base path, with one backend, one cross-origin
policy and one table of identities.  Several routers may share a registry.
-/

namespace ApiContract

/-- What the routes of a group have in common. -/
structure Router where
  basePath : String
  backend : Backend := .native
  cors : CorsPolicy := {}
  identities : Option Identities := none

/-- A call from inside the process. -/
structure LocalCall where
  params : Entries Value := []
  query : Entries Value := []
  headers : List (String × String) := []
  body : Value := .null

namespace Router

variable {State : Type}

/-- The policy of a contract with the table that it is applied with. -/
def authOf (router : Router) (contract : Contract) :
    Except RegistrationFailure (Option (AuthPolicy × Identities)) :=
  match contract.auth, router.identities with
  | none, _ => .ok none
  | some policy, some identities => .ok (some (policy, identities))
  | some _, none => .error (.missingAuthStrategy contract.name)

/-- The route of a contract below the base path. -/
def route (router : Router) (method path : String) (contract : Contract)
    (userStages : List (Stage State)) (handler : Handler State) :
    Except RegistrationFailure (Route State) := do
  let auth ← router.authOf contract
  let compiled ←
    (contract.compile router.backend).mapError (.malformedContract contract.name)
  pure { basePath := router.basePath, path, method, contract, compiled, cors := router.cors,
         auth, userStages, handler }

/-- Attempts to register a contract; the registry is the one afterwards, also when the
attempt fails. -/
def attempt (router : Router) (registry : Registry State) (method path : String)
    (contract : Contract) (userStages : List (Stage State)) (handler : Handler State) :
    Registry State × Except RegistrationFailure (Route State) :=
  match router.route method path contract userStages handler with
  | .error failure => (registry, .error failure)
  | .ok route => registry.register route

/-- Registers a contract; the result is the route and the registry with it. -/
def install (router : Router) (registry : Registry State) (method path : String)
    (contract : Contract) (userStages : List (Stage State)) (handler : Handler State) :
    Except RegistrationFailure (Route State × Registry State) :=
  let (extended, outcome) :=
    router.attempt registry method path contract userStages handler
  outcome.map fun route => (route, extended)

/-- The routes below this base path. -/
def routes (router : Router) (registry : Registry State) : List (Route State) :=
  registry.routes.filter fun route => route.basePath = router.basePath

end Router

namespace LocalCall

variable {State : Type}

/-- The text that stands for a segment of a path, given the parameters. -/
def concreteSegment (params : Entries Value) (text : String) : String :=
  let name? :=
    match text.toList with
    | ':' :: name => some name
    | chars => Routing.Segment.betweenBraces? chars
  match name? >>= fun name => Entries.get? params (String.ofList name) with
  | some value => Response.headerText value
  | none => text

/-- The path of a route with parameters in their places. -/
def concretePath (params : Entries Value) (path : String) : String :=
  Routing.joinSegments ((Routing.segmentTexts path).map (concreteSegment params))

/-- The request that a call makes to a route. -/
def request (call : LocalCall) (route : Route State) : Request :=
  call.headers.foldl (fun request (name, text) => request.addHeader name text) {
    method := route.method
    path := concretePath call.params route.fullPath
    params := .object call.params
    query := .object call.query
    body := call.body }

/-- The exchange of a call to a route, response check included. -/
def run (call : LocalCall) (route : Route State) (telemetry : Telemetry) (state : State)
    (occasion : Occasion) : Exchange State :=
  route.dispatch (call.request route) telemetry state occasion

end LocalCall

end ApiContract
