import ApiContract.Text.Search

/-!
# Path templates

A path template is matched against the paths of requests.  A name in braces takes
one segment up to the next slash; a name after a star takes everything that is left.
Nothing else takes an empty text.  A brace that is written twice stands for itself.

Several templates are matched at once: where they differ, a template that goes on
with the character of the path is tried before one that goes on with a name.  So
that there is never a choice between two names, templates that differ only in names
are not allowed together.
-/

namespace ApiContract.Http

/-- One part of a template. -/
inductive TemplatePart where
  | char (char : Char)
  | segment (name : String)
  | rest (name : String)
  deriving DecidableEq

/-- A character of a written template. An escaped brace stands for itself. -/
structure TemplateMark where
  char : Char
  escaped : Bool
  deriving DecidableEq

namespace TemplateMark

/-- The characters of a written template. -/
def ofChars : List Char → List TemplateMark
  | '{' :: '{' :: rest => ⟨'{', true⟩ :: ofChars rest
  | '}' :: '}' :: rest => ⟨'}', true⟩ :: ofChars rest
  | char :: rest => ⟨char, false⟩ :: ofChars rest
  | [] => []

/-- The part that a name in braces is, given what follows. A name is followed by a
slash or nothing, a name after a star by nothing. -/
def named? (name : List Char) (after : List TemplateMark) : Option TemplatePart :=
  match name, after with
  | ['*'], _ => none
  | '*' :: name, [] => some (.rest (String.ofList name))
  | '*' :: _, _ :: _ => none
  | name, [] => some (.segment (String.ofList name))
  | name, next :: _ => if next.char = '/' then some (.segment (String.ofList name)) else none

/-- The parts of a written template, given the start of a name that is still open. -/
def parts? : Option (List Char) → List TemplateMark → Option (List TemplatePart)
  | none, [] => some []
  | none, mark :: rest =>
      if mark = ⟨'}', false⟩ then none
      else if mark = ⟨'{', false⟩ then
        match rest with
        | [] => none
        | first :: rest => if first.char = '}' then none else parts? (some [first.char]) rest
      else (parts? none rest).map (.char mark.char :: ·)
  | some _, [] => none
  | some name, mark :: rest =>
      if mark = ⟨'}', false⟩ then do
        let part ← named? name rest
        let parts ← parts? none rest
        some (part :: parts)
      else if mark.char = '*' ∨ mark.char = '/' then none
      else parts? (some (name ++ [mark.char])) rest

end TemplateMark

/-- A template. -/
structure Template where
  parts : List TemplatePart
  deriving DecidableEq

namespace Template

/-- The greatest number of names of segments in a template. -/
def maxSegments : Nat := 25

/-- A segment of a path that begins with a mark of another notation. -/
def hasForeignMark : List Char → Bool
  | ':' :: _ | '*' :: _ => true
  | _ => false

/-- The part takes a segment. -/
def isSegment : TemplatePart → Bool
  | .segment _ => true
  | _ => false

/-- Reads a template. It begins with a slash. -/
def ofText? (text : String) : Option Template :=
  match text.toList with
  | '/' :: chars =>
      if (Text.splitOnChar '/' chars).any hasForeignMark then none
      else do
        let parts ← TemplateMark.parts? none (TemplateMark.ofChars ('/' :: chars))
        if parts.countP isSegment ≤ maxSegments then some ⟨parts⟩ else none
  | _ => none

/-- Two templates run together: they are equal up to names, or where they first
differ both go on with a name. -/
def runTogether : List TemplatePart → List TemplatePart → Bool
  | [], [] => true
  | .char left :: lefts, .char right :: rights => left == right && runTogether lefts rights
  | .segment _ :: lefts, .segment _ :: rights => runTogether lefts rights
  | .segment _ :: _, .rest _ :: _ => true
  | .rest _ :: _, .segment _ :: _ => true
  | .rest _ :: _, .rest _ :: _ => true
  | _, _ => false

/-- Two templates cannot be matched side by side. -/
def conflictsWith (left right : Template) : Bool :=
  runTogether left.parts right.parts

end Template

/-- What is left to match of a template, and the texts that its names took so far. -/
structure TemplateState (α : Type) where
  parts : List TemplatePart
  taken : List (String × String)
  target : α

namespace TemplateState

variable {α : Type}

/-- The state after a character that the template has next. -/
def takeChar? (char : Char) (state : TemplateState α) : Option (TemplateState α) :=
  match state.parts with
  | .char expected :: parts => if expected = char then some { state with parts := parts } else none
  | _ => none

/-- The state after a segment for a name that the template has next. -/
def takeSegment? (segment : List Char) (state : TemplateState α) : Option (TemplateState α) :=
  match state.parts with
  | .segment name :: parts =>
      some { state with
        parts := parts
        taken := state.taken ++ [(name, String.ofList segment)] }
  | _ => none

/-- The end of a match in which a name takes everything that is left. -/
def takeRest? (path : List Char) (state : TemplateState α) :
    Option (α × List (String × String)) :=
  match state.parts with
  | [.rest name] => some (state.target, state.taken ++ [(name, String.ofList path)])
  | _ => none

/-- The end of a match at the end of a path. -/
def finish? (state : TemplateState α) : Option (α × List (String × String)) :=
  match state.parts with
  | [] => some (state.target, state.taken)
  | _ => none

/-- The first of several templates that matches a path, with the texts of its names. -/
def resolve? (states : List (TemplateState α)) (path : List Char) :
    Option (α × List (String × String)) :=
  match states, path with
  | [], _ => none
  | states, [] => states.findSome? finish?
  | states, char :: rest =>
      (resolve? (states.filterMap (takeChar? char)) rest).or <|
        if char = '/' then states.findSome? (takeRest? (char :: rest))
        else
          let segment := char :: rest.takeWhile (· ≠ '/')
          (resolve? (states.filterMap (takeSegment? segment)) (rest.dropWhile (· ≠ '/'))).or
            (states.findSome? (takeRest? (char :: rest)))
termination_by path.length
decreasing_by
  · simp
  · exact Nat.lt_succ_of_le (List.dropWhile_sublist _).length_le

end TemplateState

end ApiContract.Http
