import ApiContract.Routing.Route

/-!
# Registries

A registry lists routes in the order in which they were registered.  Apart from that
list it keeps the places that are taken, each a method and a path in the form that
matching uses; a later attempt at a taken place fails and changes nothing.
-/

namespace ApiContract

/-- The place of a route: its method and its path in the form that matching uses. -/
def Route.place {State : Type} (route : Route State) : String × String :=
  (route.method, route.templatePath)

/-- The routes of a service, and the places that are taken. -/
structure Registry (State : Type) where
  routes : List (Route State) := []
  taken : List (String × String) := []

namespace Registry

variable {State : Type}

/-- The route at a place, its path in the form that matching uses. -/
def at? (registry : Registry State) (method templatePath : String) : Option (Route State) :=
  registry.routes.find? fun route => route.method = method ∧ route.templatePath = templatePath

/-- The route with a method and a path in any declared form. -/
def find? (registry : Registry State) (method path : String) : Option (Route State) :=
  registry.at? method (Routing.templatePath path)

/-- The first route of a name. -/
def named? (registry : Registry State) (name : String) : Option (Route State) :=
  registry.routes.find? fun route => route.name = name

/-- The number of routes. -/
def size (registry : Registry State) : Nat :=
  registry.routes.length

/-- Takes the place of a route and puts the route at the end of the list. The registry is
the one afterwards, also when the place was taken before. -/
def register (registry : Registry State) (route : Route State) :
    Registry State × Except RegistrationFailure (Route State) :=
  if registry.taken.contains route.place then
    (registry, .error (.duplicateRoute route.method route.fullPath))
  else
    ({ routes := registry.routes ++ [route], taken := route.place :: registry.taken }, .ok route)

end Registry

end ApiContract
