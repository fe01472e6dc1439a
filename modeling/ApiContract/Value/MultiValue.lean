import ApiContract.Value.Basic

/-!
# Repeated names

Headers and query parameters may repeat a name.  Collected into an object, a name
that occurs once has its text and a name that occurs more often has the array of
its texts in order.
-/

namespace ApiContract.MultiValue

/-- The value of a name that had a value and now gets one more text. -/
def extended (existing : Value) (text : String) : Value :=
  match existing with
  | .array values => .array (values ++ [.string text])
  | single => .array [single, .string text]

/-- The members with one more text under a name. -/
def add (members : Entries Value) (name text : String) : Entries Value :=
  match Entries.get? members name with
  | none => Entries.insert name (.string text) members
  | some existing => Entries.insert name (extended existing text) members

/-- The members that collect a list of names and texts. -/
def collect (pairs : List (String × String)) : Entries Value :=
  pairs.foldl (fun members (name, text) => add members name text) []

/-- The first text under a name. -/
def first? (value : Value) : Option String :=
  match value with
  | .string text => some text
  | .array (item :: _) => item.asString?
  | _ => none

end ApiContract.MultiValue
