import ApiContract.Proofs.Routing.Path
import ApiContract.Routing.Router
import Mathlib.Data.List.Nodup

/-!
# What a registry guarantees

Several routers attempt to register contracts in one registry.  The registry decides by
the places that are taken, and is asked by its list of routes; both say the same as long
as every attempt keeps them together.  From that follows what a caller of the registry
relies on: routes stay where they are, no two of them share a place, each is found under
every form of its path, and an attempt that fails leaves no trace.
-/

namespace ApiContract

variable {State : Type}

namespace Registry

variable {registry : Registry State} {route : Route State}

/-- The registry with a route at the end of its list and with the place of the route. -/
def extended (registry : Registry State) (route : Route State) : Registry State where
  routes := registry.routes ++ [route]
  taken := route.place :: registry.taken

/-- A registry either takes a route at a free place or stays as it is. -/
theorem register_cases (registry : Registry State) (route : Route State) :
    route.place ∈ registry.taken ∧
        registry.register route =
          (registry, .error (.duplicateRoute route.method route.fullPath)) ∨
      route.place ∉ registry.taken ∧
        registry.register route = (registry.extended route, .ok route) := by
  rw [register]
  split
  · next occupied => exact .inl ⟨by simpa using occupied, rfl⟩
  · next free => exact .inr ⟨by simpa using free, rfl⟩

/-! ## The list of routes and the places that are taken -/

/-- The places that are taken are those of the listed routes, and no two listed routes have
one place. -/
structure Consistent (registry : Registry State) : Prop where
  mem_taken_iff : ∀ place, place ∈ registry.taken ↔ place ∈ registry.routes.map Route.place
  distinct : (registry.routes.map Route.place).Nodup

theorem consistent_empty : Consistent ({} : Registry State) where
  mem_taken_iff := by simp
  distinct := List.nodup_nil

theorem Consistent.extended (consistent : registry.Consistent)
    (free : route.place ∉ registry.taken) : (registry.extended route).Consistent where
  mem_taken_iff place := by
    simp only [Registry.extended, List.mem_cons, List.map_append, List.mem_append, List.map_cons,
      List.map_nil, List.mem_nil_iff, or_false, consistent.mem_taken_iff]
    exact or_comm
  distinct := by
    rw [consistent.mem_taken_iff] at free
    simp only [Registry.extended, List.map_append, List.map_cons, List.map_nil]
    apply List.Nodup.append consistent.distinct (List.nodup_singleton _)
    rw [List.disjoint_singleton]
    exact free

theorem Consistent.pairwise (consistent : registry.Consistent) :
    registry.routes.Pairwise fun first second =>
      ¬(first.method = second.method ∧ first.templatePath = second.templatePath) := by
  have places : registry.routes.Pairwise fun first second => first.place ≠ second.place :=
    List.pairwise_map.mp consistent.distinct
  refine places.imp ?_
  intro first second differ same
  apply differ
  rw [Route.place, Route.place, same.1, same.2]

/-! ## Looking up routes -/

/-- A route is found under its method and every path that has the same form for matching. -/
theorem Consistent.find?_eq_some (consistent : registry.Consistent)
    (listed : route ∈ registry.routes) {path : String}
    (same : Routing.templatePath path = route.templatePath) :
    registry.find? route.method path = some route := by
  rw [find?, at?, same]
  cases found : registry.routes.find? fun other =>
      other.method = route.method ∧ other.templatePath = route.templatePath with
  | none =>
      have missed := List.find?_eq_none.mp found route listed
      simp at missed
  | some other =>
      have otherListed := List.mem_of_find?_eq_some found
      have samePlace : other.place = route.place := by
        simpa [Route.place] using List.find?_some found
      rw [List.inj_on_of_nodup_map consistent.distinct otherListed listed samePlace]

theorem find?_eq_none {method path : String}
    (absent : ∀ route ∈ registry.routes,
      ¬(route.method = method ∧ route.templatePath = Routing.templatePath path)) :
    registry.find? method path = none := by
  rw [find?, at?, List.find?_eq_none]
  intro route listed
  simpa using absent route listed

end Registry

/-! ## Attempts -/

/-- A contract that is to be registered through a router, with the stages and the handler of
its endpoint. -/
structure Attempt (State : Type) where
  router : Router
  method : String
  path : String
  contract : Contract
  userStages : List (Stage State)
  handler : Handler State

namespace Attempt

/-- An attempt to register a contract that asks for nothing. -/
def plain (name method path : String) : Attempt Nat where
  router := { basePath := "/" }
  method := method
  path := path
  contract := { name := name }
  userStages := []
  handler := fun exchange => { state := exchange.state, ops := [.send .null] }

variable {attempt : Attempt State} {registry : Registry State} {route : Route State}

/-- The route that is to be registered. -/
def route? (attempt : Attempt State) : Except RegistrationFailure (Route State) :=
  attempt.router.route attempt.method attempt.path attempt.contract attempt.userStages
    attempt.handler

/-- Makes the attempt: the registry afterwards, and the route or the failure. -/
def run (attempt : Attempt State) (registry : Registry State) :
    Registry State × Except RegistrationFailure (Route State) :=
  attempt.router.attempt registry attempt.method attempt.path attempt.contract
    attempt.userStages attempt.handler

/-- An attempt fails and changes nothing, or puts its route at a free place. -/
theorem run_cases (attempt : Attempt State) (registry : Registry State) :
    (∃ failure, attempt.run registry = (registry, .error failure)) ∨
      ∃ route, attempt.route? = .ok route ∧ route.place ∉ registry.taken ∧
        attempt.run registry = (registry.extended route, .ok route) := by
  rw [run, Router.attempt]
  cases built : attempt.route? with
  | error failure =>
      rw [route?] at built
      rw [built]
      exact .inl ⟨failure, rfl⟩
  | ok route =>
      rw [route?] at built
      rw [built]
      rcases registry.register_cases route with ⟨_, refused⟩ | ⟨free, registered⟩
      · exact .inl ⟨_, refused⟩
      · exact .inr ⟨route, rfl, free, registered⟩

theorem fst_run_of_error {failure : RegistrationFailure}
    (failed : (attempt.run registry).2 = .error failure) : (attempt.run registry).1 = registry := by
  rcases attempt.run_cases registry with ⟨_, unchanged⟩ | ⟨route, _, _, succeeded⟩
  · rw [unchanged]
  · rw [succeeded] at failed
    cases failed

theorem routes_run (attempt : Attempt State) (registry : Registry State) :
    (attempt.run registry).1.routes =
      registry.routes ++ (attempt.run registry).2.toOption.toList := by
  rcases attempt.run_cases registry with ⟨failure, unchanged⟩ | ⟨route, _, _, succeeded⟩
  · rw [unchanged]
    simp [Except.toOption]
  · rw [succeeded]
    rfl

theorem consistent_run (consistent : registry.Consistent) :
    (attempt.run registry).1.Consistent := by
  rcases attempt.run_cases registry with ⟨_, unchanged⟩ | ⟨route, _, free, succeeded⟩
  · rwa [unchanged]
  · rw [succeeded]
    exact consistent.extended free

/-- The places that are taken keep out exactly the routes whose place a listed one has. -/
theorem snd_run_eq_ok_iff (consistent : registry.Consistent) :
    (attempt.run registry).2 = .ok route ↔
      attempt.route? = .ok route ∧ ∀ listed ∈ registry.routes,
        ¬(listed.method = route.method ∧ listed.templatePath = route.templatePath) := by
  have free_iff : route.place ∉ registry.taken ↔ ∀ listed ∈ registry.routes,
      ¬(listed.method = route.method ∧ listed.templatePath = route.templatePath) := by
    simp [consistent.mem_taken_iff, Route.place]
  rw [← free_iff, run, Router.attempt]
  cases built : attempt.route? with
  | error failure =>
      rw [route?] at built
      simp [built]
  | ok found =>
      rw [route?] at built
      rw [built]
      rcases registry.register_cases found with ⟨occupied, refused⟩ | ⟨free, registered⟩
      · simp only [refused, Except.ok.injEq]
        constructor
        · intro impossible
          cases impossible
        · rintro ⟨rfl, free⟩
          exact absurd occupied free
      · simp only [registered, Except.ok.injEq]
        constructor
        · rintro rfl
          exact ⟨rfl, free⟩
        · exact And.left

end Attempt

/-- A registration returns the route of an attempt that succeeds. -/
theorem Router.route_of_install {router : Router} {registry extended : Registry State}
    {method path : String} {contract : Contract} {userStages : List (Stage State)}
    {handler : Handler State} {route : Route State}
    (installed : router.install registry method path contract userStages handler =
      .ok (route, extended)) :
    router.route method path contract userStages handler = .ok route := by
  let attempt : Attempt State := ⟨router, method, path, contract, userStages, handler⟩
  have outcome : (attempt.run registry).2.map (fun route => (route, (attempt.run registry).1)) =
    .ok (route, extended) := installed
  rcases attempt.run_cases registry with ⟨failure, failed⟩ | ⟨found, built, _, succeeded⟩
  · rw [failed] at outcome
    cases outcome
  · rw [succeeded] at outcome
    cases outcome
    exact built

/-! ## Sequences of attempts -/

namespace Registry

variable {registry : Registry State}

/-- The registry after a sequence of attempts. -/
def afterAll (registry : Registry State) (attempts : List (Attempt State)) : Registry State :=
  attempts.foldl (fun current attempt => (attempt.run current).1) registry

/-- The outcomes of a sequence of attempts, in order. -/
def outcomes (registry : Registry State) :
    List (Attempt State) → List (Except RegistrationFailure (Route State))
  | [] => []
  | attempt :: rest => (attempt.run registry).2 :: outcomes (attempt.run registry).1 rest

theorem afterAll_append (earlier later : List (Attempt State)) :
    registry.afterAll (earlier ++ later) = (registry.afterAll earlier).afterAll later :=
  List.foldl_append

theorem afterAll_cons (attempt : Attempt State) (later : List (Attempt State)) :
    registry.afterAll (attempt :: later) = (attempt.run registry).1.afterAll later :=
  rfl

theorem Consistent.afterAll (consistent : registry.Consistent)
    (attempts : List (Attempt State)) : (registry.afterAll attempts).Consistent := by
  induction attempts generalizing registry with
  | nil => exact consistent
  | cons attempt rest ih => exact ih (Attempt.consistent_run consistent)

/-- The list grows by the routes of the attempts that succeed. -/
theorem routes_afterAll (registry : Registry State) (attempts : List (Attempt State)) :
    (registry.afterAll attempts).routes =
      registry.routes ++ (registry.outcomes attempts).filterMap Except.toOption := by
  induction attempts generalizing registry with
  | nil => simp [afterAll, outcomes]
  | cons attempt rest ih =>
      rw [afterAll_cons, ih, attempt.routes_run, outcomes, List.append_assoc]
      cases (attempt.run registry).2 with
      | error failure =>
          have nothing : (Except.error failure : Except _ (Route State)).toOption = none := rfl
          rw [List.filterMap_cons_none nothing, nothing, Option.toList_none, List.nil_append]
      | ok route =>
          have returned :
              (Except.ok route : Except RegistrationFailure _).toOption = some route := rfl
          rw [List.filterMap_cons_some returned, returned, Option.toList_some,
            List.singleton_append]

/-- The registry after a sequence of attempts before which it was empty. -/
def ofAttempts (attempts : List (Attempt State)) : Registry State :=
  ({} : Registry State).afterAll attempts

/-- What can be relied on after a sequence of attempts at a registry that was empty. -/
structure Guarantees (attempts : List (Attempt State)) : Prop where
  /-- The list is that of the routes that attempts returned, in this order. -/
  lists : (ofAttempts attempts).routes =
    (({} : Registry State).outcomes attempts).filterMap Except.toOption
  grows : ∀ earlier later, earlier ++ later = attempts →
    (ofAttempts earlier).routes <+: (ofAttempts attempts).routes
  distinct : (ofAttempts attempts).routes.Pairwise fun first second =>
    ¬(first.method = second.method ∧ first.templatePath = second.templatePath)
  /-- A further attempt returns its route unless there is none or its place is taken. -/
  succeeds_iff : ∀ (attempt : Attempt State) route,
    (attempt.run (ofAttempts attempts)).2 = .ok route ↔
      attempt.route? = .ok route ∧ ∀ listed ∈ (ofAttempts attempts).routes,
        ¬(listed.method = route.method ∧ listed.templatePath = route.templatePath)
  /-- Without an attempt that fails, the routes and the outcomes of later attempts are the
  same. -/
  vanishes : ∀ earlier attempt later failure, earlier ++ attempt :: later = attempts →
    (attempt.run (ofAttempts earlier)).2 = .error failure →
      (ofAttempts attempts).routes = (ofAttempts (earlier ++ later)).routes ∧
        (ofAttempts (earlier ++ [attempt])).outcomes later =
          (ofAttempts earlier).outcomes later
  finds : ∀ route ∈ (ofAttempts attempts).routes,
    (ofAttempts attempts).find? route.method route.fullPath = some route ∧
      (ofAttempts attempts).find? route.method route.templatePath = some route
  finds_none : ∀ method path,
    (∀ route, .ok route ∈ ({} : Registry State).outcomes attempts →
      ¬(route.method = method ∧ route.templatePath = Routing.templatePath path)) →
    (ofAttempts attempts).find? method path = none

/-- Every sequence of attempts, through whatever routers, keeps the guarantees. -/
theorem guarantees_ofAttempts (attempts : List (Attempt State)) : Guarantees attempts where
  lists := routes_afterAll {} attempts
  grows := by
    rintro earlier later rfl
    rw [ofAttempts, ofAttempts, afterAll_append, routes_afterAll _ later]
    exact List.prefix_append _ _
  distinct := (consistent_empty.afterAll attempts).pairwise
  succeeds_iff := by
    intro attempt route
    exact Attempt.snd_run_eq_ok_iff (consistent_empty.afterAll attempts)
  vanishes := by
    rintro earlier attempt later failure rfl failed
    have unchanged := Attempt.fst_run_of_error failed
    constructor
    · rw [ofAttempts, ofAttempts, afterAll_append, afterAll_append, afterAll_cons]
      rw [ofAttempts] at unchanged
      rw [unchanged]
    · have same : ofAttempts (earlier ++ [attempt]) = ofAttempts earlier := by
        rw [ofAttempts, afterAll_append, afterAll_cons]
        exact unchanged
      rw [same]
  finds := by
    intro route listed
    have consistent := consistent_empty.afterAll attempts
    exact ⟨consistent.find?_eq_some listed rfl,
      consistent.find?_eq_some listed (Routing.templatePath_templatePath route.fullPath)⟩
  finds_none := by
    intro method path never
    apply find?_eq_none
    intro route listed
    have lists : (ofAttempts attempts).routes = _ := routes_afterAll {} attempts
    rw [lists, List.nil_append, List.mem_filterMap] at listed
    rcases listed with ⟨outcome, isOutcome, returned⟩
    cases outcome with
    | error failure => cases returned
    | ok found =>
        cases returned
        exact never route isOutcome

end Registry

end ApiContract
