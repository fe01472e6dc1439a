import ApiContract.Text.Search

/-!
# Pointers

A validator names a place in a JSON value by a pointer: the steps that lead to it, each
after a slash.  In a step a tilde is written `~0` and a slash `~1`.
-/

namespace ApiContract.Pointer

/-- A character of a step as a pointer has it. -/
def escapeChar (char : Char) : List Char :=
  if char = '~' then ['~', '0'] else if char = '/' then ['~', '1'] else [char]

/-- The pointer of the given steps. -/
def text (steps : List String) : String :=
  String.ofList (steps.flatMap fun step => '/' :: step.toList.flatMap escapeChar)

/-- The text with every tilde that a mark follows replaced, the mark included. -/
def replaceMarked (mark replacement : Char) : List Char → List Char
  | '~' :: next :: rest =>
      if next = mark then replacement :: replaceMarked mark replacement rest
      else '~' :: replaceMarked mark replacement (next :: rest)
  | char :: rest => char :: replaceMarked mark replacement rest
  | [] => []

/-- A step read back. Slashes come first, since a tilde that was read back before them
could seem to mark a slash. -/
def unescape (chars : List Char) : List Char :=
  replaceMarked '0' '~' (replaceMarked '1' '/' chars)

/-- The steps of a pointer. -/
def steps (pointer : String) : List String :=
  ((Text.splitOnChar '/' pointer.toList).drop 1).map fun chars => String.ofList (unescape chars)

end ApiContract.Pointer
