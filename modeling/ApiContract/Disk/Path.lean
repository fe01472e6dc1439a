import ApiContract.Text.Search

/-!
# Paths of files

A path is a text with a slash between its parts.  It is absolute if it starts with
one.
-/

namespace ApiContract.Disk

/-- The path starts at the root. -/
def isAbsolute (path : String) : Bool :=
  path.toList.head? == some '/'

/-- A path that is relative to a base, unless it is absolute. -/
def join (base path : String) : String :=
  if isAbsolute path ∨ base = "" then path
  else if base.toList.getLast? = some '/' then base ++ path
  else base ++ "/" ++ path

/-- The parts of a path, without empty ones and those that stay where they are. -/
def parts (path : String) : List String :=
  ((Text.splitOnChar '/' path.toList).map String.ofList).filter fun part =>
    part ≠ "" ∧ part ≠ "."

/-- The parts of a path in reverse once steps upward have been taken. -/
def climbed (reversed : List String) : List String → List String
  | [] => reversed
  | part :: rest =>
      if part = ".." then climbed (reversed.drop 1) rest else climbed (part :: reversed) rest

/-- The parts of an absolute path without steps upward. -/
def resolved (path : String) : List String :=
  (climbed [] (parts path)).reverse

/-- What parts a path has beyond a base, and how many steps lead up from the base to
where they part. -/
def divergence : List String → List String → Nat × List String
  | first :: base, other :: path =>
      if first = other then divergence base path else (base.length + 1, other :: path)
  | base, path => (base.length, path)

/-- An absolute path as seen from a directory. -/
def seenFrom (directory path : String) : String :=
  let (steps, rest) := divergence (resolved directory) (resolved path)
  "/".intercalate (List.replicate steps ".." ++ rest)

/-- The path inside a directory, if it is inside. -/
def inside? (directory path : String) : Option String :=
  match divergence (resolved directory) (resolved path) with
  | (0, part :: rest) => some ("/".intercalate (part :: rest))
  | _ => none

/-- A directory and those around it, from the inside out. -/
def ancestors (directory : String) : List String :=
  let reversed := (resolved directory).reverse
  (List.range (reversed.length + 1)).map fun count =>
    "/" ++ "/".intercalate (reversed.drop count).reverse

end ApiContract.Disk
