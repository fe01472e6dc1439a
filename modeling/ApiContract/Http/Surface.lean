import ApiContract.Http.Binding
import ApiContract.Http.Template
import ApiContract.Number.Power
import ApiContract.OpenApi.Document
import ApiContract.Routing.Registry
import ApiContract.Text.PercentEncoded

/-!
# The HTTP surface of a service

All routes of a registry are served below their paths, together with a health probe
and, if wanted, the OpenAPI document, its hash and a page that shows it.  A path
that has no OPTIONS route of its own answers OPTIONS by the cross-origin policy of
the first route registered there.
-/

namespace ApiContract.Http

/-- Settings of the surface. -/
structure SurfaceSettings where
  bindAddress : String := "127.0.0.1:8087"
  apiVersion : String := "v1"
  title : String := "Contract API"
  docsEnabled : Bool := true
  docsPath : String := "/docs"
  bodyLimit : Nat := 16 * 1024 * 1024
  timeoutSeconds : Nat := 30
  deriving DecidableEq

namespace SurfaceSettings

/-- Where the OpenAPI document is served. -/
def documentPath (settings : SurfaceSettings) : String :=
  s!"/api/{settings.apiVersion}/openapi"

/-- Where the hash of the document is served. -/
def hashPath (settings : SurfaceSettings) : String :=
  s!"/api/{settings.apiVersion}/openapi-hash"

/-- The paths that no contract may take. -/
def reservedPaths (settings : SurfaceSettings) : List String :=
  "/health" ::
    if settings.docsEnabled then
      [settings.docsPath, settings.documentPath, settings.hashPath]
    else []

end SurfaceSettings

/-- Why a surface cannot be built. -/
inductive SurfaceFault where
  | relativeDocsPath (path : String)
  | reservedPath (contract path : String)
  /-- The path is no template, or it cannot be matched beside an earlier one. -/
  | unservablePath (path : String)
  deriving DecidableEq

/-- The wording of a fault. -/
def SurfaceFault.message : SurfaceFault → String
  | .relativeDocsPath path => s!"api.docs_path must start with '/': '{path}'"
  | .reservedPath contract path =>
      s!"contract '{contract}' at {path} collides with a built-in endpoint"
  | .unservablePath path => s!"path '{path}' cannot be served"

/-- What answers at a path and a method. -/
inductive Endpoint (State : Type) where
  | page (response : WireResponse)
  | route (route : Route State)
  /-- Answers OPTIONS with a policy and the methods of the path. -/
  | options (route : Route State) (methods : String)

/-- A served path with the endpoints at its methods. -/
structure Mount (State : Type) where
  template : Template
  endpoints : List (String × Endpoint State)

namespace Mount

variable {State : Type}

/-- The endpoint at a method. HEAD falls back to GET. -/
def endpoint? (mount : Mount State) (method : String) : Option (Endpoint State) :=
  (mount.endpoints.lookup method).or
    (if method = "HEAD" then mount.endpoints.lookup "GET" else none)

/-- The methods that are answered, for a request with another one. -/
def allowed (mount : Mount State) : String :=
  ",".intercalate (mount.endpoints.map fun (method, _) =>
    if method = "GET" then "GET,HEAD" else method)

end Mount

/-- Everything that is served. -/
structure Surface (State : Type) where
  mounts : List (Mount State)
  bodyLimit : Nat

/-- The methods that can be served. -/
def servableMethods : List String :=
  ["GET", "HEAD", "POST", "OPTIONS", "PATCH", "PUT", "DELETE", "TRACE", "CONNECT"]

/-- The page that shows the document. -/
def docsPage (title documentPath : String) : String :=
  "<!doctype html>\n<html lang=\"en\">\n  <head>\n    <meta charset=\"utf-8\" />\n" ++
  "    <meta name=\"viewport\" content=\"width=device-width, initial-scale=1\" />\n" ++
  "    <title>" ++ title ++ "</title>\n" ++
  "    <script src=\"https://unpkg.com/@stoplight/elements/web-components.min.js\"></script>\n" ++
  "    <link rel=\"stylesheet\" href=\"https://unpkg.com/@stoplight/elements/styles.min.css\" />\n" ++
  "  </head>\n  <body>\n    <elements-api apiDescriptionUrl=\"" ++ documentPath ++
  "\" router=\"hash\" layout=\"sidebar\"></elements-api>\n  </body>\n</html>\n"

namespace Surface

variable {State : Type}

/-- The routes by path, in order of the paths; those of one path keep their order. -/
def byPath (routes : List (Route State)) : Entries (List (Route State)) :=
  routes.foldl (fun grouped route =>
    let path := route.templatePath
    Entries.insert path (((Entries.get? grouped path).getD []) ++ [route]) grouped) []

/-- The methods of the routes at a path, and OPTIONS. None is named twice: a registry has one
route for each method and path, and the text is for paths where no route has OPTIONS for its
method. -/
def methodsText (routes : List (Route State)) : String :=
  ", ".intercalate (routes.map Route.method ++ ["OPTIONS"])

/-- The endpoints of the routes at a path. -/
def endpointsOf (routes : List (Route State)) : List (String × Endpoint State) :=
  let served := (routes.filter fun route => servableMethods.contains route.method).map
    fun route => (route.method, Endpoint.route route)
  match routes with
  | [] => []
  | first :: _ =>
      if served.isEmpty ∨ routes.any fun route => route.method = "OPTIONS" then served
      else served ++ [("OPTIONS", .options first (methodsText routes))]

/-- The endpoints that every surface has. -/
def builtIns (settings : SurfaceSettings) (routes : List (Route State)) :
    List (String × List (String × Endpoint State)) :=
  let get (path contentType text : String) (headers : List (String × String)) :
      String × List (String × Endpoint State) :=
    (path, [("GET", .page ((WireResponse.page contentType text).withHeaders headers))])
  let health := get "/health" "application/json" "\x7b\"status\":\"ok\"\x7d" []
  if settings.docsEnabled then
    let info : OpenApi.Info := { title := settings.title, version := settings.apiVersion }
    let document := OpenApi.describe info routes
    [health,
      get settings.documentPath "application/json" document.toJson.compact
        [("cache-control", "no-store")],
      get settings.hashPath "text/plain; charset=utf-8" document.hash [],
      get settings.docsPath "text/html; charset=utf-8"
        (docsPage settings.title settings.documentPath) []]
  else [health]

/-- Everything that is to be served, path by path. Paths without an endpoint are
left out. -/
def planned (settings : SurfaceSettings) (routes : List (Route State)) :
    List (String × List (String × Endpoint State)) :=
  builtIns settings routes ++
    (Entries.mapValues endpointsOf (byPath routes)).filter fun (_, endpoints) =>
      !endpoints.isEmpty

/-- The mounts with one more path. -/
def mountPath (mounts : List (Mount State))
    (plan : String × List (String × Endpoint State)) :
    Except SurfaceFault (List (Mount State)) :=
  match Template.ofText? plan.1 with
  | none => .error (.unservablePath plan.1)
  | some template =>
      if mounts.any fun mount => mount.template.conflictsWith template then
        .error (.unservablePath plan.1)
      else .ok (mounts ++ [⟨template, plan.2⟩])

/-- Builds the surface of routes. -/
def build (settings : SurfaceSettings) (routes : List (Route State)) :
    Except SurfaceFault (Surface State) := do
  if settings.docsEnabled ∧ settings.docsPath.toList.head? ≠ some '/' then
    .error (.relativeDocsPath settings.docsPath)
  else
    match routes.find? fun route => settings.reservedPaths.contains route.templatePath with
    | some route => .error (.reservedPath route.name route.fullPath)
    | none =>
        let mounts ← (planned settings routes).foldlM mountPath []
        .ok ⟨mounts, settings.bodyLimit⟩

/-- The mount of a path, with the texts of its names as they stand in the path. -/
def mountAt? (surface : Surface State) (path : String) :
    Option (Mount State × List (String × String)) :=
  TemplateState.resolve?
    (surface.mounts.map fun mount => ⟨mount.template.parts, [], mount⟩) path.toList

end Surface

/-- The number that a text denotes, with or without a plus sign, if it fits 64 bits. -/
def lengthValue? (text : String) : Option Nat :=
  let digits :=
    match text.toList with
    | '+' :: digits => digits
    | digits => digits
  if digits.isEmpty ∨ digits.any fun char => !char.isDigit then none
  else
    let value := Text.decimalValue digits
    if value < twoTo 64 then some value else none

/-- The length that a request announces. -/
def WireRequest.announcedLength? (request : WireRequest) : Option Nat :=
  request.headers.lookup "content-length" >>= lengthValue?

/-- Decodes the texts of the names of a path; the fault is the first name whose text
is malformed. -/
def decodeParams (params : List (String × String)) : Except String (List (String × String)) :=
  params.mapM fun (name, text) =>
    match Text.decodedPathPart? text with
    | some decoded => .ok (name, decoded)
    | none => .error name

/-- A response with what was recorded on the way. -/
structure Served (State : Type) where
  response : WireResponse
  telemetry : Telemetry
  state : State

namespace WireResponse

/-- The answer where nothing is served. -/
def notFound : WireResponse := { status := 404 }

/-- The answer to a method that is not served. -/
def methodNotAllowed : WireResponse := { status := 405 }

/-- The answer to a body that turns out to be too long. -/
def tooLong : WireResponse := { status := 413 }

/-- The answer to a body that is announced to be too long. -/
def announcedTooLong : WireResponse :=
  { page "text/plain; charset=utf-8" "length limit exceeded" with status := 413 }

/-- The answer to a path in which a name takes a malformed text. -/
def malformedPath (name : String) : WireResponse :=
  { page "text/plain; charset=utf-8" s!"Invalid URL: Invalid UTF-8 in `{name}`" with
    status := 400 }

/-- The response to a successful CONNECT has no body. -/
def withoutTunnelBody (response : WireResponse) : WireResponse :=
  match response.header? "content-length", response.header? "transfer-encoding",
    response.body with
  | none, none, .events events => { response with body := .events events }
  | _, _, _ => { response with body := .text "" }

/-- The response with the length of its body where it is known. The body of an answer
to HEAD is dropped after that. -/
def measured (method : String) (response : WireResponse) : WireResponse :=
  let response :=
    match response.body.length? with
    | some length => response.withDefault "content-length" (Text.decimalText length)
    | none => response
  if method = "HEAD" then { response with body := .text "" } else response

/-- The response as it leaves a served path. -/
def finished (method : String) (response : WireResponse) : WireResponse :=
  if method = "CONNECT" ∧ 200 ≤ response.status ∧ response.status < 300 then
    response.withoutTunnelBody
  else response.measured method

end WireResponse

namespace Endpoint

variable {State : Type}

/-- The answer of a route, given the parameters of the path and of the query. A body beyond
the limit is not read. -/
def answerDecoded (route : Route State) (limit : Nat) (params query : List (String × String))
    (request : WireRequest) (telemetry : Telemetry) (state : State) (occasion : Occasion) :
    Served State :=
  if request.body.length > limit then ⟨.tooLong, telemetry, state⟩
  else
    let exchange := route.dispatch (request.toRequest params query) telemetry state occasion
    ⟨.ofResponse exchange.response, exchange.telemetry, exchange.state⟩

/-- The answer of a route, given the texts of its names as they stand in the path. An announced
length also limits the body. -/
def answerRoute (route : Route State) (limit : Nat) (request : WireRequest)
    (params : List (String × String)) (telemetry : Telemetry) (state : State)
    (occasion : Occasion) : Served State :=
  match decodeParams params with
  | .error name => ⟨.malformedPath name, telemetry, state⟩
  | .ok params =>
      let limit := min limit (request.announcedLength?.getD limit)
      answerDecoded route limit params (Text.queryPairs request.query) request telemetry state
        occasion

/-- The answer of an endpoint. -/
def answer (endpoint : Endpoint State) (limit : Nat) (request : WireRequest)
    (params : List (String × String)) (telemetry : Telemetry) (state : State)
    (occasion : Occasion) : Served State :=
  match endpoint with
  | .page response => ⟨response, telemetry, state⟩
  | .route served => answerRoute served limit request params telemetry state occasion
  | .options first methods =>
      let exchange := first.answerOptions request.bare telemetry state occasion
      let response :=
        if (exchange.response.header? "allow").isSome then exchange.response
        else exchange.response.withHeader "allow" (.string methods)
      ⟨.ofResponse response, exchange.telemetry, exchange.state⟩

end Endpoint

namespace Surface

variable {State : Type}

/-- The answer at a served path. -/
def answerAt (surface : Surface State) (mount : Mount State) (params : List (String × String))
    (request : WireRequest) (telemetry : Telemetry) (state : State) (occasion : Occasion) :
    Served State :=
  match mount.endpoint? request.method with
  | some endpoint =>
      endpoint.answer surface.bodyLimit request params telemetry state occasion
  | none => ⟨.methodNotAllowed, telemetry, state⟩

/-- The answer to a request. Too great an announced length is refused first. -/
def answer (surface : Surface State) (request : WireRequest) (telemetry : Telemetry)
    (state : State) (occasion : Occasion) : Served State :=
  let refused : Bool :=
    match request.announcedLength? with
    | some length => surface.bodyLimit < length
    | none => false
  match surface.mountAt? request.path with
  | none => ⟨if refused then .announcedTooLong else .notFound, telemetry, state⟩
  | some (mount, params) =>
      let served : Served State :=
        if refused then ⟨.announcedTooLong, telemetry, state⟩
        else surface.answerAt mount params request telemetry state occasion
      let response := served.response.finished request.method
      { served with
        response :=
          if (mount.endpoint? request.method).isSome then response
          else response.withDefault "allow" mount.allowed }

end Surface

end ApiContract.Http
