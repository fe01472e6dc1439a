import ApiContract.Http.Surface
import ApiContract.Proofs.Entries
import Mathlib.Data.List.Induction

/-!
# What is planned for every path

Routes are gathered by their paths, in the order in which they were registered.  The routes of
one path become the endpoints of that path: one for every route whose method can be served, and
an answer to OPTIONS where the routes leave that method open.  As no two routes share a place,
no two endpoints of a path share a method.
-/

namespace ApiContract

variable {State : Type}

/-- A route has a method that can be served. -/
def Route.Servable (route : Route State) : Prop :=
  route.method ∈ Http.servableMethods

instance (route : Route State) : Decidable route.Servable :=
  inferInstanceAs (Decidable (route.method ∈ Http.servableMethods))

theorem Route.exists_servable_of_mem_places {routes : List (Route State)} {method path : String}
    (listed : (method, path) ∈ routes.map Route.place)
    (servable : method ∈ Http.servableMethods) :
    ∃ route ∈ routes, route.Servable ∧ route.method = method ∧ route.templatePath = path := by
  rcases List.mem_map.mp listed with ⟨route, isRoute, isPlace⟩
  rcases Prod.mk.inj isPlace with ⟨isMethod, isPath⟩
  have isServable : route.Servable := by
    rw [Route.Servable, isMethod]
    exact servable
  exact ⟨route, isRoute, isServable, isMethod, isPath⟩

namespace Http.Surface

variable {settings : SurfaceSettings} {routes : List (Route State)}

/-! ## Routes by path -/

/-- The routes at a path, in order. -/
def routesAt (routes : List (Route State)) (path : String) : List (Route State) :=
  routes.filter fun route => route.templatePath = path

theorem mem_routesAt_iff {path : String} {route : Route State} :
    route ∈ routesAt routes path ↔ route ∈ routes ∧ route.templatePath = path := by
  simp [routesAt]

theorem routesAt_concat (routes : List (Route State)) (route : Route State) (path : String) :
    routesAt (routes ++ [route]) path =
      routesAt routes path ++ if route.templatePath = path then [route] else [] := by
  rw [routesAt, List.filter_append, routesAt]
  split <;> simp_all

theorem byPath_concat (routes : List (Route State)) (route : Route State) :
    byPath (routes ++ [route]) =
      Entries.insert route.templatePath
        ((Entries.get? (byPath routes) route.templatePath).getD [] ++ [route])
        (byPath routes) :=
  List.foldl_append

theorem ascending_byPath (routes : List (Route State)) : Entries.Ascending (byPath routes) := by
  induction routes using List.reverseRecOn with
  | nil => exact List.Pairwise.nil
  | append_singleton routes route ih =>
      rw [byPath_concat]
      exact Entries.ascending_insert ih

theorem get?_byPath (routes : List (Route State)) (path : String) :
    Entries.get? (byPath routes) path =
      if routesAt routes path = [] then none else some (routesAt routes path) := by
  induction routes using List.reverseRecOn generalizing path with
  | nil => rfl
  | append_singleton routes route ih =>
      rw [byPath_concat, Entries.get?_insert, ih, ih, routesAt_concat]
      by_cases same : route.templatePath = path
      · subst same
        have nonempty : routesAt routes route.templatePath ++ [route] ≠ [] := by simp
        rw [if_pos rfl, if_pos rfl, if_neg nonempty]
        split
        · next isEmpty => rw [isEmpty, Option.getD_none]
        · rw [Option.getD_some]
      · rw [if_neg (Ne.symm same), if_neg same, List.append_nil]

theorem mem_byPath_iff {path : String} {group : List (Route State)} :
    (path, group) ∈ byPath routes ↔ group = routesAt routes path ∧ group ≠ [] := by
  rw [← Entries.get?_eq_some_iff (ascending_byPath routes).nodup_keys, get?_byPath]
  split
  · next isEmpty =>
      rw [isEmpty]
      simp
  · next found =>
      rw [Option.some.injEq]
      constructor
      · rintro rfl
        exact ⟨rfl, found⟩
      · rintro ⟨rfl, _⟩
        rfl

theorem nodup_methods_routesAt (distinct : (routes.map Route.place).Nodup) (path : String) :
    ((routesAt routes path).map Route.method).Nodup := by
  have places : (routesAt routes path).map Route.place =
      ((routesAt routes path).map Route.method).map fun method => (method, path) := by
    rw [List.map_map, List.map_inj_left]
    intro route member
    rw [Route.place, (mem_routesAt_iff.mp member).2, Function.comp_apply]
  have sublist : ((routesAt routes path).map Route.place).Sublist (routes.map Route.place) :=
    List.filter_sublist.map Route.place
  have nodup := distinct.sublist sublist
  rw [places] at nodup
  exact List.Nodup.of_map _ nodup

/-! ## The endpoints of one path -/

/-- The endpoints of the routes whose methods can be served. -/
def servedBy (routes : List (Route State)) : List (String × Endpoint State) :=
  (routes.filter fun route => route.Servable).map fun route => (route.method, .route route)

theorem mem_servedBy_iff {method : String} {endpoint : Endpoint State} :
    (method, endpoint) ∈ servedBy routes ↔
      ∃ route ∈ routes, route.Servable ∧ method = route.method ∧ endpoint = .route route := by
  simp only [servedBy, List.mem_map, List.mem_filter, decide_eq_true_eq, Prod.mk.injEq, and_assoc]
  simp only [eq_comm]

theorem servedBy_eq_nil_iff : servedBy routes = [] ↔ ∀ route ∈ routes, ¬route.Servable := by
  simp [servedBy]

theorem keys_servedBy (routes : List (Route State)) :
    Entries.keys (servedBy routes) =
      (routes.filter fun route => route.Servable).map Route.method := by
  rw [Entries.keys, servedBy, List.map_map]
  rfl

/-- The routes of a path leave OPTIONS open. -/
def LeaveOptionsOpen (routes : List (Route State)) : Prop :=
  (∃ route ∈ routes, route.Servable) ∧ ∀ route ∈ routes, route.method ≠ "OPTIONS"

/-- Where routes leave OPTIONS open, the first of them answers it. -/
theorem endpointsOf_cases (routes : List (Route State)) :
    (¬LeaveOptionsOpen routes ∧ endpointsOf routes = servedBy routes) ∨
      (LeaveOptionsOpen routes ∧ ∃ first, routes.head? = some first ∧
        endpointsOf routes =
          servedBy routes ++ [("OPTIONS", .options first (methodsText routes))]) := by
  have served : (routes.filter fun route => servableMethods.contains route.method).map
      (fun route => (route.method, Endpoint.route route)) = servedBy routes := by
    rw [servedBy]
    congr 2
    funext route
    rw [Bool.eq_iff_iff, List.contains_iff_mem, decide_eq_true_eq]
    rfl
  cases routes with
  | nil =>
      refine .inl ⟨?_, rfl⟩
      rintro ⟨⟨route, member, _⟩, _⟩
      cases member
  | cons first rest =>
      have taken_iff : (servedBy (first :: rest)).isEmpty ∨
          ((first :: rest).any fun route => route.method = "OPTIONS") ↔
          ¬LeaveOptionsOpen (first :: rest) := by
        rw [LeaveOptionsOpen, List.isEmpty_iff, servedBy_eq_nil_iff, List.any_eq_true]
        push Not
        simp only [decide_eq_true_eq, imp_iff_not_or, not_exists, not_and]
      rw [endpointsOf, served]
      by_cases isOpen : LeaveOptionsOpen (first :: rest)
      · exact .inr ⟨isOpen, first, rfl, if_neg fun taken => taken_iff.mp taken isOpen⟩
      · exact .inl ⟨isOpen, if_pos (taken_iff.mpr isOpen)⟩

theorem mem_endpointsOf_iff {method : String} {endpoint : Endpoint State} :
    (method, endpoint) ∈ endpointsOf routes ↔
      (∃ route ∈ routes, route.Servable ∧ method = route.method ∧ endpoint = .route route) ∨
        (LeaveOptionsOpen routes ∧ method = "OPTIONS" ∧
          ∃ first, routes.head? = some first ∧ endpoint = .options first (methodsText routes)) := by
  rcases endpointsOf_cases routes with ⟨closed, isServed⟩ | ⟨isOpen, first, isFirst, isServed⟩
  · rw [isServed, mem_servedBy_iff]
    simp [closed]
  · rw [isServed, List.mem_append, mem_servedBy_iff, List.mem_singleton, Prod.mk.injEq]
    simp [isOpen, isFirst]

theorem endpointsOf_eq_nil_iff :
    endpointsOf routes = [] ↔ ∀ route ∈ routes, ¬route.Servable := by
  rcases endpointsOf_cases routes with ⟨_, isServed⟩ | ⟨isOpen, first, _, isServed⟩
  · rw [isServed, servedBy_eq_nil_iff]
  · rw [isServed]
    rcases isOpen.1 with ⟨route, member, servable⟩
    constructor
    · intro impossible
      simp at impossible
    · intro none
      exact absurd servable (none route member)

theorem nodup_keys_endpointsOf (distinct : (routes.map Route.method).Nodup) :
    (Entries.keys (endpointsOf routes)).Nodup := by
  have served : (Entries.keys (servedBy routes)).Nodup := by
    rw [keys_servedBy]
    exact distinct.sublist (List.filter_sublist.map Route.method)
  rcases endpointsOf_cases routes with ⟨_, isServed⟩ | ⟨isOpen, first, _, isServed⟩
  · rwa [isServed]
  · have free : "OPTIONS" ∉ Entries.keys (servedBy routes) := by
      rw [keys_servedBy, List.mem_map]
      rintro ⟨route, member, isOptions⟩
      exact isOpen.2 route (List.mem_filter.mp member).1 isOptions
    rw [isServed, Entries.keys, List.map_append]
    apply served.append (List.nodup_singleton _)
    exact List.disjoint_singleton.mpr free

end Http.Surface

namespace Http

/-! ## All that is planned -/

/-- The paths that every surface has. -/
def SurfaceSettings.builtInPaths (settings : SurfaceSettings) : List String :=
  "/health" ::
    if settings.docsEnabled then [settings.documentPath, settings.hashPath, settings.docsPath]
    else []

namespace Surface

variable {settings : SurfaceSettings} {routes : List (Route State)}

theorem map_fst_builtIns (settings : SurfaceSettings) (routes : List (Route State)) :
    (builtIns settings routes).map Prod.fst = settings.builtInPaths := by
  rw [builtIns, SurfaceSettings.builtInPaths]
  split <;> rfl

/-- What every surface has are pages. -/
theorem exists_page_of_mem_builtIns {plan : String × List (String × Endpoint State)}
    (member : plan ∈ builtIns settings routes) : ∃ page, plan.2 = [("GET", .page page)] := by
  rw [builtIns] at member
  split at member
  · simp only [List.mem_cons, List.mem_nil_iff, or_false] at member
    rcases member with same | same | same | same <;> exact ⟨_, congrArg Prod.snd same⟩
  · exact ⟨_, congrArg Prod.snd (List.mem_singleton.mp member)⟩

/-- What is planned for the paths of routes. -/
def contractPlans (routes : List (Route State)) :
    List (String × List (String × Endpoint State)) :=
  (Entries.mapValues endpointsOf (byPath routes)).filter fun plan => !plan.2.isEmpty

theorem planned_eq (settings : SurfaceSettings) (routes : List (Route State)) :
    planned settings routes = builtIns settings routes ++ contractPlans routes :=
  rfl

theorem mem_contractPlans_iff {path : String} {endpoints : List (String × Endpoint State)} :
    (path, endpoints) ∈ contractPlans routes ↔
      endpoints = endpointsOf (routesAt routes path) ∧
        ∃ route ∈ routes, route.templatePath = path ∧ route.Servable := by
  have nonempty_iff : endpointsOf (routesAt routes path) ≠ [] ↔
      ∃ route ∈ routes, route.templatePath = path ∧ route.Servable := by
    rw [Ne, endpointsOf_eq_nil_iff]
    push Not
    simp only [mem_routesAt_iff, and_assoc]
  have filled : ∀ route ∈ routes, route.templatePath = path → routesAt routes path ≠ [] :=
    fun route member isPath =>
      List.ne_nil_of_mem (mem_routesAt_iff.mpr ⟨member, isPath⟩)
  rw [← nonempty_iff, contractPlans, List.mem_filter, Entries.mapValues, List.mem_map]
  constructor
  · rintro ⟨⟨⟨_, group⟩, member, same⟩, nonempty⟩
    cases same
    rw [(mem_byPath_iff.mp member).1] at nonempty ⊢
    exact ⟨rfl, by simpa using nonempty⟩
  · rintro ⟨rfl, nonempty⟩
    rcases nonempty_iff.mp nonempty with ⟨route, member, isPath, _⟩
    have grouped : (path, routesAt routes path) ∈ byPath routes :=
      mem_byPath_iff.mpr ⟨rfl, filled route member isPath⟩
    exact ⟨⟨_, grouped, rfl⟩, by simpa using nonempty⟩

theorem mem_paths_contractPlans_iff {path : String} :
    path ∈ (contractPlans routes).map Prod.fst ↔
      ∃ route ∈ routes, route.templatePath = path ∧ route.Servable := by
  simp [mem_contractPlans_iff]

theorem nodup_paths_contractPlans (routes : List (Route State)) :
    ((contractPlans routes).map Prod.fst).Nodup := by
  have keys : (Entries.keys (Entries.mapValues endpointsOf (byPath routes))).Nodup := by
    rw [Entries.keys_mapValues]
    exact (ascending_byPath routes).nodup_keys
  exact keys.sublist (List.filter_sublist.map Prod.fst)

/-- No two endpoints at one path have one method. -/
theorem nodup_keys_of_mem_planned (distinct : (routes.map Route.place).Nodup)
    {plan : String × List (String × Endpoint State)} (member : plan ∈ planned settings routes) :
    (Entries.keys plan.2).Nodup := by
  rcases plan with ⟨path, endpoints⟩
  rw [planned_eq, List.mem_append] at member
  rcases member with builtIn | contract
  · rcases exists_page_of_mem_builtIns builtIn with ⟨page, isPage⟩
    rw [isPage]
    exact List.nodup_singleton _
  · obtain ⟨rfl, _⟩ := mem_contractPlans_iff.mp contract
    exact nodup_keys_endpointsOf (nodup_methods_routesAt distinct path)

end Surface

end Http

end ApiContract
