import ApiContract.Entries

/-!
# Paths

A route declares its path in segments.  A segment is fixed text, a parameter
(`:name` or `{name}`) or a parameter for the rest of the path (`*name` or
`{*name}`).  This module joins paths and writes them in the braced form that
matching uses and in the form that documents use.
-/

namespace ApiContract.Routing

/-- One segment of a declared path. -/
inductive Segment where
  | fixed (text : String)
  | param (name : String)
  | rest (name : String)
  deriving DecidableEq

namespace Segment

/-- The text between braces that enclose all of a segment. -/
def betweenBraces? : List Char → Option (List Char)
  | '{' :: chars => if chars.getLast? = some '}' then some chars.dropLast else none
  | _ => none

/-- The segment that a text declares. An unnamed star is called `rest`. -/
def ofText (text : String) : Segment :=
  match text.toList with
  | ':' :: name => .param (String.ofList name)
  | ['*'] => .rest "rest"
  | '*' :: name => .rest (String.ofList name)
  | chars =>
      match betweenBraces? chars with
      | some ('*' :: name) => .rest (String.ofList name)
      | some name => .param (String.ofList name)
      | none => .fixed text

/-- The segment in the form that matching uses. -/
def templateText : Segment → String
  | .fixed text => text
  | .param name => "\x7b" ++ name ++ "\x7d"
  | .rest name => "\x7b*" ++ name ++ "\x7d"

/-- The segment in the form that documents use. -/
def documentText : Segment → String
  | .fixed text => text
  | .param name | .rest name => "\x7b" ++ name ++ "\x7d"

/-- The name of a parameter. -/
def name? : Segment → Option String
  | .fixed _ => none
  | .param name | .rest name => some name

end Segment

/-- The pieces of a text between slashes. -/
def pieces : List Char → List (List Char)
  | [] => [[]]
  | '/' :: chars => [] :: pieces chars
  | char :: chars =>
      match pieces chars with
      | [] => [[char]]
      | piece :: rest => (char :: piece) :: rest

/-- The texts of the segments of a path. -/
def segmentTexts (path : String) : List String :=
  (pieces path.toList).map String.ofList

/-- The segments of a path. -/
def segments (path : String) : List Segment :=
  (segmentTexts path).map Segment.ofText

/-- Texts with slashes between them. -/
def joinSegments (texts : List String) : String :=
  "/".intercalate texts

/-- The path in the form that matching uses. -/
def templatePath (path : String) : String :=
  joinSegments ((segments path).map Segment.templateText)

/-- The path in the form that documents use. -/
def documentPath (path : String) : String :=
  joinSegments ((segments path).map Segment.documentText)

/-- The names of the parameters, in order. -/
def paramNames (path : String) : List String :=
  (segments path).filterMap Segment.name?

/-- The text without slashes at its end. -/
def trimEndSlashes (chars : List Char) : List Char :=
  (chars.reverse.dropWhile (· = '/')).reverse

/-- The text without slashes at its start. -/
def trimStartSlashes (chars : List Char) : List Char :=
  chars.dropWhile (· = '/')

/-- The text with a slash in front. -/
def withLeadingSlash : List Char → List Char
  | '/' :: chars => '/' :: chars
  | chars => '/' :: chars

/-- A base path and a path below it with one slash between them. -/
def joinPaths (base path : String) : String :=
  String.ofList <|
    match trimEndSlashes base.toList, trimStartSlashes path.toList with
    | [], path => '/' :: path
    | base, [] => withLeadingSlash base
    | base, path => withLeadingSlash base ++ '/' :: path

end ApiContract.Routing
