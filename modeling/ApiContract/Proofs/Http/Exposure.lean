import ApiContract.Proofs.Http.Building
import ApiContract.Proofs.Http.Parity
import ApiContract.Proofs.Routing.Options

/-!
# What a surface exposes

The surface of a registry has a mount for every path at which a route can be served, and at a
mount there is what is due there: the routes with methods that can be served, and an answer to
OPTIONS where they leave that method open.  A request that comes to a mount is answered by the
endpoint at its method.  The answer to OPTIONS names the methods of all routes at the path,
also of those that are not served.
-/

namespace ApiContract.Http

variable {State : Type}

/-! ## The methods that an answer to OPTIONS names -/

theorem mem_intercalate {separator : String} {texts : List String} {char : Char}
    (member : char ∈ (separator.intercalate texts).toList) :
    char ∈ separator.toList ∨ ∃ text ∈ texts, char ∈ text.toList := by
  induction texts with
  | nil => cases member
  | cons first rest ih =>
      cases rest with
      | nil =>
          rw [String.intercalate_singleton] at member
          exact .inr ⟨first, List.mem_cons_self, member⟩
      | cons second others =>
          rw [String.intercalate_cons_cons, String.toList_append, String.toList_append,
            List.mem_append, List.mem_append] at member
          rcases member with (inFirst | inSeparator) | inRest
          · exact .inr ⟨first, List.mem_cons_self, inFirst⟩
          · exact .inl inSeparator
          · rcases ih inRest with inSeparator | ⟨text, isText, inText⟩
            · exact .inl inSeparator
            · exact .inr ⟨text, List.mem_cons_of_mem _ isText, inText⟩

/-- Letters and digits of ASCII lie between the first digit and the last small letter. -/
theorem bounds_of_isAlphanum {char : Char} (alphanumeric : char.isAlphanum) :
    48 ≤ char.val.toNat ∧ char.val.toNat ≤ 122 := by
  have between {least most : Nat} (bounds : least ≤ char.val.toNat ∧ char.val.toNat ≤ most)
      (low : 48 ≤ least) (high : most ≤ 122) : 48 ≤ char.val.toNat ∧ char.val.toNat ≤ 122 :=
    ⟨Nat.le_trans low bounds.1, Nat.le_trans bounds.2 high⟩
  rcases (Bool.or_eq_true _ _).mp alphanumeric with letter | digit
  · rcases (Bool.or_eq_true _ _).mp letter with upper | lower
    · have bounds : 65 ≤ char.val.toNat ∧ char.val.toNat ≤ 90 := of_decide_eq_true upper
      exact between bounds (by decide) (by decide)
    · have bounds : 97 ≤ char.val.toNat ∧ char.val.toNat ≤ 122 :=
        ((Bool.and_eq_true _ _).mp lower).imp of_decide_eq_true of_decide_eq_true
      exact between bounds (by decide) (by decide)
  · have bounds : 48 ≤ char.val.toNat ∧ char.val.toNat ≤ 57 :=
      ((Bool.and_eq_true _ _).mp digit).imp of_decide_eq_true of_decide_eq_true
    exact between bounds (by decide) (by decide)

/-- What may stand in the name of a header may stand in its value. -/
theorem isWireValue_of_isWireName {text : String} (token : isWireName text) : isWireValue text := by
  rw [isWireName, Bool.and_eq_true, List.all_eq_true] at token
  rw [isWireValue, List.all_eq_true]
  intro char member
  have symbols : isWireValue "!#$%&'*+-.^_`|~" := by decide
  have isToken := token.2 char member
  rw [isTokenChar, Bool.or_eq_true] at isToken
  rcases isToken with alphanumeric | symbol
  · have letters := bounds_of_isAlphanum alphanumeric
    have visible : 0x20 ≤ char.toNat ∧ char.toNat ≠ 0x7F := by
      rw [Char.toNat]
      omega
    simpa using .inr visible
  · exact List.all_eq_true.mp symbols char (by simpa using symbol)

/-! ## Messages on their way out -/

/-- What is served, with its message as it leaves. -/
def Served.leaving (method : String) (served : Served State) : Served State :=
  { served with response := served.response.finished method }

namespace WireResponse

variable {response : WireResponse}

theorem status_withDefault (response : WireResponse) (name text : String) :
    (response.withDefault name text).status = response.status := by
  rw [withDefault]
  split <;> rfl

theorem textsUnder_withDefault {name text other : String} (differ : name ≠ other) :
    textsUnder (response.withDefault name text).headers other =
      textsUnder response.headers other := by
  rw [withDefault]
  split
  · rfl
  · simp [textsUnder, List.filter_append, differ]

theorem status_measured (method : String) (response : WireResponse) :
    (response.measured method).status = response.status := by
  rw [measured]
  cases response.body.length? with
  | none => split <;> rfl
  | some length => split <;> exact response.status_withDefault _ _

theorem textsUnder_measured (method : String) {name : String} (other : "content-length" ≠ name) :
    textsUnder (response.measured method).headers name = textsUnder response.headers name := by
  rw [measured]
  cases response.body.length? with
  | none => split <;> rfl
  | some length => split <;> exact textsUnder_withDefault other

theorem status_withoutTunnelBody (response : WireResponse) :
    response.withoutTunnelBody.status = response.status := by
  rw [withoutTunnelBody]
  split <;> rfl

theorem headers_withoutTunnelBody (response : WireResponse) :
    response.withoutTunnelBody.headers = response.headers := by
  rw [withoutTunnelBody]
  split <;> rfl

theorem status_finished (method : String) (response : WireResponse) :
    (response.finished method).status = response.status := by
  rw [finished]
  split
  · exact response.status_withoutTunnelBody
  · exact response.status_measured method

theorem textsUnder_finished (method : String) {name : String} (other : "content-length" ≠ name) :
    textsUnder (response.finished method).headers name = textsUnder response.headers name := by
  rw [finished]
  split
  · rw [headers_withoutTunnelBody]
  · exact textsUnder_measured method other

end WireResponse

/-- A header that a response was given travels alone under its name. -/
theorem textsUnder_ofResponse_withHeader (response : Response) {name text : String}
    (validName : isWireName (Text.lowered name)) (validText : isWireValue text) :
    textsUnder (WireResponse.ofResponse (response.withHeader name (.string text))).headers
      (Text.lowered name) = [text] := by
  have isHeader : (Text.lowered name, text) ∈ (response.withHeader name (.string text)).headers.filter
      fun header => isWireName header.1 && isWireValue header.2 := by
    apply List.mem_filter.mpr
    refine ⟨List.mem_append_right _ List.mem_cons_self, ?_⟩
    simp [validName, validText]
  have replaced : textsUnder (WireResponse.ofResponse (response.withHeader name
      (.string text))).headers (Text.lowered name) = _ := textsUnder_withHeaders _ isHeader
  have others : ((response.headers.filter fun header => header.1 ≠ Text.lowered name).filter
      fun header => isWireName header.1 && isWireValue header.2).filter
        (fun header => header.1 = Text.lowered name) = [] := by
    rw [List.filter_eq_nil_iff]
    intro header member
    have differ := (List.mem_filter.mp (List.mem_filter.mp member).1).2
    simpa using differ
  rw [replaced, textsUnder, Response.withHeader, List.filter_append, List.filter_append, others]
  simp [Response.headerTexts, Response.headerText, validName, validText]

/-! ## OPTIONS -/

/-- The first route of a path answers OPTIONS there: the greeting of its policy with the methods,
and nothing else comes of it. -/
structure AnswersOptions (first : Route State) (methods : String) (visit : Visit State)
    (served : Served State) : Prop where
  response : served.response =
    (WireResponse.ofResponse ((first.options visit).response.withHeader "allow"
      (.string methods))).finished "OPTIONS"
  status : served.response.status = 204
  allow : isWireValue methods → textsUnder served.response.headers "allow" = [methods]
  state : served.state = visit.state
  telemetry : served.telemetry = visit.telemetry

/-- The policy of a route leaves it open which methods are allowed. -/
theorem header?_allow_options (route : Route State) (visit : Visit State) :
    (route.options visit).response.header? "allow" = none := by
  have absent : "allow" ∉ Entries.keys (route.options visit).response.headers := by
    intro named
    rcases List.mem_map.mp named with ⟨header, member, isAllow⟩
    have known := Route.name_of_mem_options member
    rw [isAllow] at known
    exact absurd known (by decide)
  exact Entries.get?_eq_none_iff.mpr absent

theorem Endpoint.answersOptions_leaving (first : Route State) (methods : String) (limit : Nat)
    (request : WireRequest) (params : List (String × String)) (telemetry : Telemetry)
    (state : State) (occasion : Occasion) :
    AnswersOptions first methods ⟨request.bare, telemetry, state, occasion⟩
      ((Endpoint.answer (.options first methods) limit request params telemetry state
        occasion).leaving "OPTIONS") := by
  let visit : Visit State := ⟨request.bare, telemetry, state, occasion⟩
  have unset : (first.answerOptions request.bare telemetry state occasion).response.header?
      "allow" = none := header?_allow_options first visit
  have answered : Endpoint.answer (.options first methods) limit request params telemetry state
      occasion = ⟨.ofResponse ((first.options visit).response.withHeader "allow"
        (.string methods)), (first.options visit).telemetry, (first.options visit).state⟩ := by
    rw [Endpoint.answer, unset]
    rfl
  have noContent := first.isNoContent_options visit
  have unchanged := first.answersOptions visit
  rw [answered]
  constructor
  · rfl
  · have code : ((first.options visit).response.withHeader "allow" (.string methods)).code = 204 :=
      noContent.code
    rw [Served.leaving, WireResponse.status_finished, WireResponse.ofResponse, code]
    rfl
  · intro valid
    rw [Served.leaving, WireResponse.textsUnder_finished _ (by decide)]
    exact textsUnder_ofResponse_withHeader _ (by decide) valid
  · exact unchanged.optionsState
  · exact unchanged.optionsTelemetry

namespace Surface

/-- Where all methods can be names of headers, what OPTIONS answers can be the value of one. -/
theorem isWireValue_methodsText {routes : List (Route State)}
    (tokens : ∀ route ∈ routes, isWireName route.method) : isWireValue (methodsText routes) := by
  rw [isWireValue, List.all_eq_true]
  intro char member
  rcases mem_intercalate member with inSeparator | ⟨text, isText, inText⟩
  · have separators : isWireValue ", " := by decide
    exact List.all_eq_true.mp separators char inSeparator
  · have valid : isWireValue text := by
      rcases List.mem_append.mp isText with isMethod | isOptions
      · rcases List.mem_map.mp isMethod with ⟨route, isRoute, rfl⟩
        exact isWireValue_of_isWireName (tokens route isRoute)
      · rw [List.mem_singleton.mp isOptions]
        decide
    exact List.all_eq_true.mp valid char inText

/-- The methods that can be served, and OPTIONS. -/
def servedMethodsText (routes : List (Route State)) : String :=
  ", ".intercalate ((routes.filter fun route => route.Servable).map Route.method ++ ["OPTIONS"])

theorem length_methodsText_cons (route : Route State) (routes : List (Route State)) :
    (methodsText (route :: routes)).length =
      route.method.length + 2 + (methodsText routes).length := by
  rw [methodsText, List.map_cons, List.cons_append, String.intercalate_cons_of_ne_nil (by simp),
    String.length_append, String.length_append, methodsText]
  rfl

theorem servedMethodsText_eq (routes : List (Route State)) :
    servedMethodsText routes = methodsText (routes.filter fun route => route.Servable) :=
  rfl

theorem length_servedMethodsText_le (routes : List (Route State)) :
    (servedMethodsText routes).length ≤ (methodsText routes).length := by
  induction routes with
  | nil => exact le_refl _
  | cons route rest ih =>
      rw [servedMethodsText_eq] at ih ⊢
      rw [length_methodsText_cons, List.filter_cons]
      split
      · rw [length_methodsText_cons]
        omega
      · omega

/-- The served methods are named, and no others, just when all can be served. -/
theorem methodsText_eq_served_iff (routes : List (Route State)) :
    methodsText routes = servedMethodsText routes ↔ ∀ route ∈ routes, route.Servable := by
  constructor
  · intro same
    have lengths := congrArg String.length same
    clear same
    induction routes with
    | nil => simp
    | cons route rest ih =>
        have bound := length_servedMethodsText_le rest
        rw [servedMethodsText_eq] at lengths bound ih
        rw [length_methodsText_cons, List.filter_cons] at lengths
        split at lengths
        · next servable =>
            rw [length_methodsText_cons] at lengths
            exact List.forall_mem_cons.mpr ⟨by simpa using servable, ih (by omega)⟩
        · omega
  · intro all
    rw [servedMethodsText_eq, List.filter_eq_self.mpr (by simpa using all)]

/-! ## What is due at a path -/

/-- What is due at a path and a method: the route there, or an answer to OPTIONS by the first
route of a served path whose routes leave that method open. -/
inductive Due (routes : List (Route State)) (path : String) : String → Endpoint State → Prop where
  | route {route : Route State} (listed : route ∈ routes) (isPath : route.templatePath = path)
      (servable : route.Servable) : Due routes path route.method (.route route)
  | options {earlier later : List (Route State)} {first : Route State}
      (isRoutes : earlier ++ first :: later = routes)
      (isFirst : ∀ other ∈ earlier, other.templatePath ≠ path)
      (isPath : first.templatePath = path)
      (isServed : ∃ route ∈ routes, route.templatePath = path ∧ route.Servable)
      (isOpen : ∀ route ∈ routes, route.templatePath = path → route.method ≠ "OPTIONS") :
      Due routes path "OPTIONS" (.options first (methodsText (routesAt routes path)))

theorem Due.servable {routes : List (Route State)} {path method : String}
    {endpoint : Endpoint State} (due : Due routes path method endpoint) :
    method ∈ servableMethods := by
  cases due with
  | route listed isPath servable => exact servable
  | options => decide

/-- At a mount there is what is due at the path, and no method has two endpoints. -/
structure StandsAt (routes : List (Route State)) (path : String) (mount : Mount State) : Prop where
  template : Template.ofText? path = some mount.template
  distinct : (Entries.keys mount.endpoints).Nodup
  endpoint_iff : ∀ method endpoint,
    (method, endpoint) ∈ mount.endpoints ↔ Due routes path method endpoint

section Standing

variable {settings : SurfaceSettings} {routes : List (Route State)} {surface : Surface State}
  {mount : Mount State}

theorem head?_routesAt_iff {path : String} {first : Route State} :
    (routesAt routes path).head? = some first ↔
      first.templatePath = path ∧ ∃ earlier later, earlier ++ first :: later = routes ∧
        ∀ other ∈ earlier, other.templatePath ≠ path := by
  rw [routesAt, List.head?_filter, List.find?_eq_some_iff_append]
  simp only [decide_eq_true_eq, Bool.not_eq_true', decide_eq_false_iff_not]
  constructor
  · rintro ⟨isPath, earlier, later, rfl, isFirst⟩
    exact ⟨isPath, earlier, later, rfl, isFirst⟩
  · rintro ⟨isPath, earlier, later, rfl, isFirst⟩
    exact ⟨isPath, earlier, later, rfl, isFirst⟩

theorem leaveOptionsOpen_routesAt_iff {path : String} :
    LeaveOptionsOpen (routesAt routes path) ↔
      (∃ route ∈ routes, route.templatePath = path ∧ route.Servable) ∧
        ∀ route ∈ routes, route.templatePath = path → route.method ≠ "OPTIONS" := by
  simp only [LeaveOptionsOpen, mem_routesAt_iff, and_imp, and_assoc]

theorem mem_endpointsOf_routesAt_iff {path method : String} {endpoint : Endpoint State} :
    (method, endpoint) ∈ endpointsOf (routesAt routes path) ↔ Due routes path method endpoint := by
  rw [mem_endpointsOf_iff, leaveOptionsOpen_routesAt_iff]
  simp only [head?_routesAt_iff, mem_routesAt_iff]
  constructor
  · rintro (⟨route, ⟨listed, isPath⟩, servable, rfl, rfl⟩ |
      ⟨⟨isServed, isOpen⟩, rfl, first, ⟨isPath, earlier, later, isRoutes, isFirst⟩, rfl⟩)
    · exact .route listed isPath servable
    · exact .options isRoutes isFirst isPath isServed isOpen
  · rintro (⟨listed, isPath, servable⟩ | ⟨isRoutes, isFirst, isPath, isServed, isOpen⟩)
    · exact .inl ⟨_, ⟨listed, isPath⟩, servable, rfl, rfl⟩
    · exact .inr ⟨⟨isServed, isOpen⟩, rfl, _, ⟨isPath, _, _, isRoutes, isFirst⟩, rfl⟩

theorem standsAt_of_mounts {path : String} (distinct : (routes.map Route.place).Nodup)
    (mounted : Mounts (path, endpointsOf (routesAt routes path)) mount) :
    StandsAt routes path mount where
  template := mounted.template
  distinct := by
    rw [mounted.endpoints]
    exact nodup_keys_endpointsOf (nodup_methods_routesAt distinct path)
  endpoint_iff := by
    intro method endpoint
    rw [mounted.endpoints]
    exact mem_endpointsOf_routesAt_iff

/-- Every route that can be served has a mount at its path. -/
theorem exists_standsAt (distinct : (routes.map Route.place).Nodup)
    (built : build settings routes = .ok surface) {route : Route State} (listed : route ∈ routes)
    (servable : route.Servable) :
    ∃ mount ∈ surface.mounts, StandsAt routes route.templatePath mount := by
  rcases build_eq_ok_iff.mp built with ⟨_, mounted, _, _⟩
  have planned : (route.templatePath, endpointsOf (routesAt routes route.templatePath)) ∈
      planned settings routes :=
    List.mem_append_right _ (mem_contractPlans_iff.mpr ⟨rfl, route, listed, rfl, servable⟩)
  rcases mounted.exists_right_of_mem planned with ⟨mount, isMount, mounts⟩
  exact ⟨mount, isMount, standsAt_of_mounts distinct mounts⟩

/-- All other mounts show pages. -/
theorem standsAt_of_mem (distinct : (routes.map Route.place).Nodup)
    (built : build settings routes = .ok surface) (isMount : mount ∈ surface.mounts) :
    (∃ page, mount.endpoints = [("GET", .page page)]) ∨
      ∃ route ∈ routes, route.Servable ∧ StandsAt routes route.templatePath mount := by
  rcases build_eq_ok_iff.mp built with ⟨_, mounted, _, _⟩
  rcases mounted.exists_left_of_mem isMount with ⟨⟨path, endpoints⟩, isPlan, mounts⟩
  rw [planned_eq, List.mem_append] at isPlan
  rcases isPlan with builtIn | contract
  · rcases exists_page_of_mem_builtIns builtIn with ⟨page, isPage⟩
    exact .inl ⟨page, mounts.endpoints.trans isPage⟩
  · obtain ⟨rfl, route, listed, rfl, servable⟩ := mem_contractPlans_iff.mp contract
    exact .inr ⟨route, listed, servable, standsAt_of_mounts distinct mounts⟩

theorem method_of_options_mem (distinct : (routes.map Route.place).Nodup)
    (built : build settings routes = .ok surface) (isMount : mount ∈ surface.mounts)
    {first : Route State} {method methods : String}
    (member : (method, .options first methods) ∈ mount.endpoints) : method = "OPTIONS" := by
  rcases standsAt_of_mem distinct built isMount with ⟨page, isPage⟩ | ⟨route, _, _, stands⟩
  · rw [isPage] at member
    cases List.mem_singleton.mp member
  · cases (stands.endpoint_iff _ _).mp member
    rfl

theorem wellPlaced_of_mem (built : build settings routes = .ok surface)
    (isMount : mount ∈ surface.mounts) : Template.WellPlaced mount.template.parts := by
  rcases build_eq_ok_iff.mp built with ⟨_, mounted, _, _⟩
  rcases mounted.exists_left_of_mem isMount with ⟨plan, _, mounts⟩
  exact Template.wellPlaced_of_ofText? mounts.template

end Standing

/-! ## Which mount a request comes to -/

/-- The texts begin with characters that no template of the surface has. -/
def FreshTexts (surface : Surface State) (texts : List (String × String)) : Prop :=
  ∀ taken ∈ texts, ∀ first ∈ taken.2.toList.head?, ∀ mount ∈ surface.mounts,
    .char first ∉ mount.template.parts

section Resolution

variable {surface : Surface State} {mount : Mount State} {path : String}
  {texts : List (String × String)}

theorem spells_of_mountAt? (resolved : surface.mountAt? path = some (mount, texts)) :
    mount ∈ surface.mounts ∧ Spells mount.template.parts texts path.toList := by
  rcases TemplateState.offers_of_resolve? resolved with
    ⟨state, member, isTarget, taken, isTexts, spelled⟩
  rcases List.mem_map.mp member with ⟨found, isFound, rfl⟩
  obtain rfl : found = mount := isTarget
  obtain rfl : texts = taken := isTexts
  exact ⟨isFound, spelled⟩

theorem isSome_mountAt? (isMount : mount ∈ surface.mounts)
    (spelled : Spells mount.template.parts texts path.toList) :
    (surface.mountAt? path).isSome :=
  TemplateState.isSome_resolve?_of_spells (List.mem_map_of_mem isMount) spelled

theorem mountAt?_of_fresh (separate : Separate surface.mounts) (isMount : mount ∈ surface.mounts)
    (spelled : Spells mount.template.parts texts path.toList) (fresh : surface.FreshTexts texts) :
    surface.mountAt? path = some (mount, texts) := by
  have apart : TemplateState.Apart (surface.mounts.map fun mount =>
      ({ parts := mount.template.parts, taken := [], target := mount } : TemplateState _)) :=
    List.pairwise_map.mpr separate
  apply TemplateState.resolve?_eq_some_of_fresh apart (List.mem_map_of_mem isMount) spelled
  intro taken isTaken first isFirst state member
  rcases List.mem_map.mp member with ⟨other, isOther, rfl⟩
  exact fresh taken isTaken first isFirst other isOther

/-- A path without names is found at its own mount. -/
theorem mountAt?_of_fixed (separate : Separate surface.mounts) (isMount : mount ∈ surface.mounts)
    (isFixed : mount.template.parts = path.toList.map .char) :
    surface.mountAt? path = some (mount, []) := by
  apply mountAt?_of_fresh separate isMount
  · rw [isFixed]
    exact spells_chars path.toList
  · intro taken isTaken
    cases isTaken

end Resolution

/-! ## How a request at a mount is answered -/

/-- A request that is not refused for the length that it announces comes to a mount. -/
structure Reaches (surface : Surface State) (request : WireRequest) (mount : Mount State)
    (params : List (String × String)) : Prop where
  resolved : surface.mountAt? request.path = some (mount, params)
  accepted : ∀ length, request.announcedLength? = some length → length ≤ surface.bodyLimit

section Answers

variable {surface : Surface State} {request : WireRequest} {mount : Mount State}
  {params : List (String × String)}

theorem answer_of_reaches (reaches : surface.Reaches request mount params)
    (telemetry : Telemetry) (state : State) (occasion : Occasion) :
    surface.answer request telemetry state occasion =
      let served := surface.answerAt mount params request telemetry state occasion
      let response := served.response.finished request.method
      { served with
        response :=
          if (mount.endpoint? request.method).isSome then response
          else response.withDefault "allow" mount.allowed } := by
  rw [answer, reaches.resolved]
  cases announced : request.announcedLength? with
  | none => rfl
  | some length =>
      have fits : ¬surface.bodyLimit < length := not_lt.mpr (reaches.accepted length announced)
      simp [fits]

theorem endpoint?_of_mem (distinct : (Entries.keys mount.endpoints).Nodup) {method : String}
    {endpoint : Endpoint State} (member : (method, endpoint) ∈ mount.endpoints) :
    mount.endpoint? method = some endpoint := by
  have found : mount.endpoints.lookup method = some endpoint :=
    (Entries.get?_eq_some_iff distinct).mpr member
  rw [Mount.endpoint?, found, Option.some_or]

theorem endpoint?_of_absent {method : String} (notHead : method ≠ "HEAD")
    (absent : ∀ endpoint, (method, endpoint) ∉ mount.endpoints) :
    mount.endpoint? method = none := by
  have missed : mount.endpoints.lookup method = none := by
    apply Entries.get?_eq_none_iff.mpr
    intro named
    rcases List.mem_map.mp named with ⟨⟨other, endpoint⟩, member, isMethod⟩
    exact absent endpoint (isMethod ▸ member)
  rw [Mount.endpoint?, missed, if_neg notHead]
  rfl

theorem answer_of_endpoint (reaches : surface.Reaches request mount params)
    {endpoint : Endpoint State} (found : mount.endpoint? request.method = some endpoint)
    (telemetry : Telemetry) (state : State) (occasion : Occasion) :
    surface.answer request telemetry state occasion =
      (endpoint.answer surface.bodyLimit request params telemetry state occasion).leaving
        request.method := by
  rw [answer_of_reaches reaches, answerAt, found]
  rfl

theorem answer_of_none (reaches : surface.Reaches request mount params)
    (missed : mount.endpoint? request.method = none)
    (telemetry : Telemetry) (state : State) (occasion : Occasion) :
    surface.answer request telemetry state occasion =
      ⟨(WireResponse.methodNotAllowed.finished request.method).withDefault "allow" mount.allowed,
        telemetry, state⟩ := by
  rw [answer_of_reaches reaches, answerAt, missed]
  rfl

end Answers

/-! ## The surface of a registry -/

/-- A surface shows routes, and nothing else but the pages that every surface has. -/
structure Mirrors (routes : List (Route State)) (surface : Surface State) : Prop where
  stands : ∀ route ∈ routes, route.Servable →
    ∃ mount ∈ surface.mounts, StandsAt routes route.templatePath mount
  only : ∀ mount ∈ surface.mounts, (∃ page, mount.endpoints = [("GET", .page page)]) ∨
    ∃ route ∈ routes, route.Servable ∧ StandsAt routes route.templatePath mount
  /-- A path is found at a mount whose template spells it. -/
  resolves : ∀ path mount texts, surface.mountAt? path = some (mount, texts) →
    mount ∈ surface.mounts ∧ Spells mount.template.parts texts path.toList
  /-- A path that a template spells is found. -/
  finds : ∀ mount ∈ surface.mounts, ∀ path texts,
    Spells mount.template.parts texts path.toList → (surface.mountAt? path).isSome
  /-- It is found at the mount of that template, if its texts cannot be those of another. -/
  separates : ∀ mount ∈ surface.mounts, ∀ path texts,
    Spells mount.template.parts texts path.toList → surface.FreshTexts texts →
      surface.mountAt? path = some (mount, texts)
  /-- Every template spells paths, whatever text its names take. -/
  spells : ∀ mount ∈ surface.mounts, ∀ text ≠ [], '/' ∉ text →
    Spells mount.template.parts (Template.filled text mount.template.parts)
      (Template.fill text mount.template.parts)
  /-- Every mount is found, at the path with a text for its names that no template has. -/
  reached : ∀ mount ∈ surface.mounts, ∀ text ≠ [], '/' ∉ text →
    (∀ first ∈ text.head?, ∀ other ∈ surface.mounts, .char first ∉ other.template.parts) →
      surface.mountAt? (String.ofList (Template.fill text mount.template.parts)) =
        some (mount, Template.filled text mount.template.parts)
  routeAnswers : ∀ request mount params, surface.Reaches request mount params →
    ∀ route, (request.method, .route route) ∈ mount.endpoints → ∀ telemetry state occasion,
      surface.answer request telemetry state occasion =
        (Endpoint.answerRoute route surface.bodyLimit request params telemetry state
          occasion).leaving request.method
  optionsAnswers : ∀ request mount params, surface.Reaches request mount params →
    ∀ first methods, (request.method, .options first methods) ∈ mount.endpoints →
      ∀ telemetry state occasion,
        AnswersOptions first methods ⟨request.bare, telemetry, state, occasion⟩
          (surface.answer request telemetry state occasion)
  /-- A method at which nothing is due is refused, HEAD apart where GET is served. -/
  refuses : ∀ request mount params, surface.Reaches request mount params →
    request.method ≠ "HEAD" → (∀ endpoint, (request.method, endpoint) ∉ mount.endpoints) →
      ∀ telemetry state occasion,
        (surface.answer request telemetry state occasion).response.status = 405
  /-- The methods that OPTIONS names can travel as they are. -/
  tokens : ∀ path, (∀ route ∈ routes, isWireName route.method) →
    isWireValue (methodsText (routesAt routes path))
  /-- No method is named twice. -/
  distinct : ∀ path, ((routesAt routes path).map Route.method).Nodup
  /-- Those that are served are named, and no others, just when all can be served. -/
  exact_iff : ∀ path,
    methodsText (routesAt routes path) = servedMethodsText (routesAt routes path) ↔
      ∀ route ∈ routes, route.templatePath = path → route.Servable

section Mirroring

variable {settings : SurfaceSettings} {routes : List (Route State)} {surface : Surface State}

theorem distinct_of_resolved (distinct : (routes.map Route.place).Nodup)
    (built : build settings routes = .ok surface) {path : String} {mount : Mount State}
    {params : List (String × String)} (resolved : surface.mountAt? path = some (mount, params)) :
    (Entries.keys mount.endpoints).Nodup := by
  rcases standsAt_of_mem distinct built (spells_of_mountAt? resolved).1 with
    ⟨page, isPage⟩ | ⟨route, _, _, stands⟩
  · rw [isPage]
    exact List.nodup_singleton _
  · exact stands.distinct

theorem mountAt?_fill (built : build settings routes = .ok surface) {mount : Mount State}
    (isMount : mount ∈ surface.mounts) {text : List Char} (nonempty : text ≠ [])
    (within : '/' ∉ text)
    (unknown : ∀ first ∈ text.head?, ∀ other ∈ surface.mounts,
      .char first ∉ other.template.parts) :
    surface.mountAt? (String.ofList (Template.fill text mount.template.parts)) =
      some (mount, Template.filled text mount.template.parts) := by
  have separate := (build_eq_ok_iff.mp built).2.2.1
  apply mountAt?_of_fresh separate isMount
  · rw [String.toList_ofList]
    exact Template.spells_fill nonempty within (wellPlaced_of_mem built isMount)
  · intro taken isTaken first isFirst
    rw [Template.snd_of_mem_filled isTaken, String.toList_ofList] at isFirst
    exact unknown first isFirst

theorem mirrors_of_build (distinct : (routes.map Route.place).Nodup)
    (built : build settings routes = .ok surface) : Mirrors routes surface where
  stands := fun _ listed servable => exists_standsAt distinct built listed servable
  only := fun _ isMount => standsAt_of_mem distinct built isMount
  resolves := fun _ _ _ resolved => spells_of_mountAt? resolved
  finds := fun _ isMount _ _ spelled => isSome_mountAt? isMount spelled
  separates := fun _ isMount _ _ spelled fresh =>
    mountAt?_of_fresh (build_eq_ok_iff.mp built).2.2.1 isMount spelled fresh
  spells := fun _ isMount _ nonempty within =>
    Template.spells_fill nonempty within (wellPlaced_of_mem built isMount)
  reached := fun _ isMount _ nonempty within unknown =>
    mountAt?_fill built isMount nonempty within unknown
  routeAnswers := by
    intro request mount params reaches route member telemetry state occasion
    have keys := distinct_of_resolved distinct built reaches.resolved
    exact answer_of_endpoint reaches (endpoint?_of_mem keys member) telemetry state occasion
  optionsAnswers := by
    intro request mount params reaches first methods member telemetry state occasion
    have keys := distinct_of_resolved distinct built reaches.resolved
    have isMount := (spells_of_mountAt? reaches.resolved).1
    rw [answer_of_endpoint reaches (endpoint?_of_mem keys member),
      method_of_options_mem distinct built isMount member]
    exact Endpoint.answersOptions_leaving ..
  refuses := by
    intro request mount params reaches notHead absent telemetry state occasion
    rw [answer_of_none reaches (endpoint?_of_absent notHead absent),
      WireResponse.status_withDefault, WireResponse.status_finished]
    rfl
  tokens := by
    intro path tokens
    apply isWireValue_methodsText
    intro route member
    exact tokens route (mem_routesAt_iff.mp member).1
  distinct := nodup_methods_routesAt distinct
  exact_iff := by
    intro path
    rw [methodsText_eq_served_iff]
    simp only [mem_routesAt_iff, and_imp]

end Mirroring

/-- Whatever was registered, if its paths can be matched side by side, then the surface is built
and shows the routes and nothing else. -/
theorem exists_mirrors_ofAttempts (attempts : List (Attempt State)) (settings : SurfaceSettings)
    (admits : Admits settings (Registry.ofAttempts attempts).routes)
    (matchable : Matchable settings (Registry.ofAttempts attempts).routes) :
    ∃ surface, build settings (Registry.ofAttempts attempts).routes = .ok surface ∧
      Mirrors (Registry.ofAttempts attempts).routes surface := by
  rcases exists_build_eq_ok_iff.mpr ⟨admits, matchable⟩ with ⟨surface, built⟩
  have consistent := Registry.consistent_empty.afterAll attempts
  exact ⟨surface, built, mirrors_of_build consistent.distinct built⟩

theorem exists_ok_of_isOk {ε α : Type} {result : Except ε α} (isOk : result.isOk) :
    ∃ value, result = .ok value := by
  cases result with
  | error fault => cases isOk
  | ok value => exact ⟨value, rfl⟩

/-- Two routes of an item, one of which cannot be served, and one of all items. -/
def items : List (Attempt Nat) :=
  [.plain "read" "GET" "/items/:id", .plain "purge" "PURGE" "/items/:id",
    .plain "drop" "DELETE" "/items"]

theorem items_mirrored :
    Admits {} (Registry.ofAttempts items).routes ∧
      Matchable {} (Registry.ofAttempts items).routes ∧
      ∃ surface, build {} (Registry.ofAttempts items).routes = .ok surface ∧
        Mirrors (Registry.ofAttempts items).routes surface ∧
        ∃ mount ∈ surface.mounts,
          mount.template = ⟨"/items/".toList.map .char ++ [.segment "id"]⟩ ∧
            ∃ endpoint, ("GET", endpoint) ∈ mount.endpoints := by
  have isBuilt : (build {} (Registry.ofAttempts items).routes).isOk := by decide +kernel
  have places : (Registry.ofAttempts items).routes.map Route.place =
      [("GET", "/items/\x7bid\x7d"), ("PURGE", "/items/\x7bid\x7d"), ("DELETE", "/items")] := by
    decide +kernel
  rcases exists_build_eq_ok_iff.mp (exists_ok_of_isOk isBuilt) with ⟨admits, matchable⟩
  rcases exists_mirrors_ofAttempts items {} admits matchable with ⟨surface, built, mirrors⟩
  have listed : ("GET", "/items/\x7bid\x7d") ∈
      (Registry.ofAttempts items).routes.map Route.place := by simp [places]
  rcases Route.exists_servable_of_mem_places listed (by decide) with
    ⟨read, isRead, servable, readMethod, readPath⟩
  rcases mirrors.stands read isRead servable with ⟨mount, isMount, stands⟩
  have isTemplate : Template.ofText? "/items/\x7bid\x7d" =
      some ⟨"/items/".toList.map .char ++ [.segment "id"]⟩ := by decide +kernel
  have template := stands.template
  rw [readPath, isTemplate, Option.some.injEq] at template
  have due : Due (Registry.ofAttempts items).routes read.templatePath "GET" (.route read) :=
    readMethod ▸ .route isRead rfl servable
  exact ⟨admits, matchable, surface, built, mirrors, mount, isMount, template.symm, _,
    (stands.endpoint_iff _ _).mpr due⟩

/-- A method that cannot be served beside one that can. -/
def purged : List (Attempt Nat) :=
  [.plain "purge" "PURGE" "/p", .plain "read" "GET" "/p"]

/-- OPTIONS names the method that is refused. -/
theorem purged_names_unserved :
    ∃ surface, build {} (Registry.ofAttempts purged).routes = .ok surface ∧
      textsUnder (surface.answer { method := "OPTIONS", path := "/p" } {} 0
        (.atStart "fresh")).response.headers "allow" = ["PURGE, GET, OPTIONS"] ∧
      (surface.answer { method := "PURGE", path := "/p" } {} 0
        (.atStart "fresh")).response.status = 405 := by
  have isBuilt : (build {} (Registry.ofAttempts purged).routes).isOk := by decide +kernel
  have places : (Registry.ofAttempts purged).routes.map Route.place =
      [("PURGE", "/p"), ("GET", "/p")] := by decide +kernel
  rcases exists_ok_of_isOk isBuilt with ⟨surface, built⟩
  have consistent := Registry.consistent_empty.afterAll purged
  have mirrors : Mirrors (Registry.ofAttempts purged).routes surface :=
    mirrors_of_build consistent.distinct built
  have separate : Separate surface.mounts := (build_eq_ok_iff.mp built).2.2.1
  refine ⟨surface, built, ?_⟩
  generalize (Registry.ofAttempts purged).routes = routes at places mirrors
  rcases List.map_eq_cons_iff.mp places with ⟨purge, others, rfl, purgePlace, otherPlaces⟩
  rcases List.map_eq_cons_iff.mp otherPlaces with ⟨read, rest, rfl, readPlace, noPlaces⟩
  obtain rfl := List.map_eq_nil_iff.mp noPlaces
  rcases Prod.mk.inj purgePlace with ⟨purgeMethod, purgePath⟩
  rcases Prod.mk.inj readPlace with ⟨readMethod, readPath⟩
  have servable : read.Servable := by
    rw [Route.Servable, readMethod]
    decide
  rcases mirrors.stands read (by simp) servable with ⟨mount, isMount, stands⟩
  rw [readPath] at stands
  have isTemplate : Template.ofText? "/p" = some ⟨"/p".toList.map .char⟩ := by decide +kernel
  have template := stands.template
  rw [isTemplate, Option.some.injEq] at template
  have resolved : surface.mountAt? "/p" = some (mount, []) :=
    mountAt?_of_fixed separate isMount (template ▸ rfl)
  have reaches : ∀ method, surface.Reaches { method := method, path := "/p" } mount [] :=
    fun method => ⟨resolved, fun _ announced => by cases announced⟩
  have due : Due [purge, read] "/p" "OPTIONS" (.options purge (methodsText
      (routesAt [purge, read] "/p"))) :=
    @Due.options _ _ "/p" [] [read] purge rfl (fun _ member => by cases member) purgePath
      ⟨read, by simp, readPath, servable⟩ (by simp [purgeMethod, readMethod])
  have named : methodsText (routesAt [purge, read] "/p") = "PURGE, GET, OPTIONS" := by
    simp [routesAt, purgePath, readPath, methodsText, purgeMethod, readMethod]
  rw [named] at due
  have asked := mirrors.optionsAnswers _ _ _ (reaches "OPTIONS") purge _
    ((stands.endpoint_iff _ _).mpr due) {} 0 (.atStart "fresh")
  refine ⟨asked.allow (by decide), ?_⟩
  apply mirrors.refuses _ _ _ (reaches "PURGE") (by decide)
  intro endpoint member
  exact absurd ((stands.endpoint_iff _ _).mp member).servable (by decide)

end Surface

end ApiContract.Http
