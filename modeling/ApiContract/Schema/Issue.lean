import ApiContract.Json.Basic

/-!
# Issues

An issue tells what is wrong with a value and where.  Whoever finds an issue
states it at the value at hand; what encloses that value puts its own step in
front of the path.
-/

namespace ApiContract

/-- What is wrong at the end of a path into a value. -/
structure Issue where
  path : List String
  message : String
  deriving DecidableEq

namespace Issue

/-- An issue of the value at hand. -/
def here (message : String) : Issue where
  path := []
  message := message

/-- An issue of a member of the value at hand. -/
def at_ (key : String) (message : String) : Issue where
  path := [key]
  message := message

/-- The issue as seen from the enclosing value. -/
def below (key : String) (issue : Issue) : Issue :=
  { issue with path := key :: issue.path }

/-- The path joined by points, before the message. -/
def text (issue : Issue) : String :=
  match issue.path with
  | [] => issue.message
  | path => ".".intercalate path ++ ": " ++ issue.message

/-- The issue as a JSON object. -/
def toJson (issue : Issue) : Json :=
  .object [("message", .string issue.message), ("path", .ofStrings issue.path)]

end Issue

end ApiContract
