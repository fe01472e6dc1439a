import ApiContract.Schema.Coercion
import ApiContract.Schema.Issue
import ApiContract.Schema.Document.Pointer
import ApiContract.Json.Printer

/-!
# Judging JSON by a document

This module judges a JSON value by a JSON Schema document.  The keywords of a node
are judged in the order of their names, and each keyword speaks only about values
of the kind that it is meant for.  What is wrong is reported at the value that a
keyword was applied to, so that a missing member is named apart from the place.
-/

namespace ApiContract.Json

/-- What a document finds wrong with a value. -/
structure Violation where
  /-- The steps from the value to the one that a keyword was applied to. -/
  steps : List String
  /-- The member that is missing there. -/
  missing? : Option String
  message : String

namespace Violation

/-- A violation of the value at hand. -/
def here (message : String) : Violation where
  steps := []
  missing? := none
  message := message

/-- The lack of a member of the value at hand. -/
def ofMissing (name : String) : Violation where
  steps := []
  missing? := some name
  message := "required"

/-- The violation as seen from the enclosing value. -/
def below (key : String) (violation : Violation) : Violation :=
  { violation with steps := key :: violation.steps }

/-- The pointer to the value. -/
def pointer (violation : Violation) : String :=
  Pointer.text violation.steps

/-- The violation as an issue, whose path is read from the pointer and goes on to the
member that is missing. -/
def toIssue (violation : Violation) : Issue where
  path := Pointer.steps violation.pointer ++ violation.missing?.toList
  message := violation.message

end Violation

/-- What a keyword reads from the node that it stands in. -/
structure NodeFacts where
  /-- What the node asks for, in the words of an issue. -/
  expected : String
  /-- The node forbids members that it does not declare. -/
  closed : Bool

/-- The facts of a node with the given keywords. -/
def NodeFacts.of (keywords : Entries Json) : NodeFacts where
  expected := ((Entries.get? keywords "errorType").bind asString?).getD "a valid value"
  closed := (Entries.get? keywords "additionalProperties").bind asBool? == some false

/-- The violation by a value that is not what a node asks for. -/
def NodeFacts.mismatch (facts : NodeFacts) (subject : Json) : Violation :=
  .here s!"expected {facts.expected}, received {subject.kind}"

/-- A value is of the named type. A float without a fraction is an integer. -/
def hasType (typeName : String) (subject : Json) : Bool :=
  match subject with
  | .number value => typeName == "number" || (typeName == "integer" && value.isIntegral)
  | subject => typeName == subject.kind

/-- Equality with a constant. Numbers are equal when they are closer than
`2 ^ -52` as floats. -/
def matchesConstant (constant subject : Json) : Bool :=
  match constant, subject with
  | .number constant, .number subject =>
      match constant.toBinary64, subject.toBinary64 with
      | .finite constant, .finite subject =>
          (Binary64.distance constant subject).isBelowPower 52
      | _, _ => false
  | constant, subject => sameValue constant subject

/-- The names that must be members and are not. -/
def missingNames (required : List Json) (members : Entries Json) : List String :=
  (required.filterMap asString?).filter fun name => !Entries.contains members name

/-- The violation by members that a closed node does not declare. -/
def undeclaredViolations (declared members : Entries Json) : List Violation :=
  match (Entries.keys members).filter fun name => !Entries.contains declared name with
  | [] => []
  | names => [.here ("unrecognized key(s) " ++ ", ".intercalate names)]

mutual

/-- The violations of a document by a value. -/
def violations : Json → Json → List Violation
  | .object keywords, subject => nodeViolations (.of keywords) keywords subject
  | _, _ => []

/-- The violations of keywords of one node by a value. -/
def nodeViolations (facts : NodeFacts) : List (String × Json) → Json → List Violation
  | [], _ => []
  | (keyword, operand) :: rest, subject =>
      keywordViolations facts keyword operand subject ++ nodeViolations facts rest subject

/-- The violations of one keyword by a value. A closed node reports undeclared
members after the violations by declared ones. -/
def keywordViolations (facts : NodeFacts) (keyword : String) : Json → Json → List Violation
  | .array operands, subject =>
      match keyword, subject with
      | "anyOf", subject =>
          if someHolds operands subject then []
          else [.here s!"{subject.compact} is not valid under any of the schemas listed in the 'anyOf' keyword"]
      | "enum", subject =>
          if operands.any fun operand => sameValue operand subject then []
          else [facts.mismatch subject]
      | "required", .object members =>
          (missingNames operands members).map .ofMissing
      | _, _ => []
  | .object operands, subject =>
      match keyword, subject with
      | "additionalProperties", .object members =>
          members.flatMap fun (name, member) =>
            (nodeViolations (.of operands) operands member).map (Violation.below name)
      | "items", .array items =>
          items.zipIdx.flatMap fun (item, index) =>
            (nodeViolations (.of operands) operands item).map
              (Violation.below (Text.decimalText index))
      | "not", subject =>
          if (nodeViolations (.of operands) operands subject).isEmpty then
            [facts.mismatch subject]
          else []
      | "properties", .object members =>
          memberViolations operands members ++
            (if facts.closed then undeclaredViolations operands members else [])
      | _, _ => []
  | operand, subject =>
      match keyword, operand, subject with
      | "const", constant, subject =>
          if matchesConstant constant subject then [] else [facts.mismatch subject]
      | "format", .string "date-time", .string text =>
          if (Value.readDate text).isSome then []
          else [.here s!"{subject.compact} is not a \"date-time\""]
      | "type", .string typeName, subject =>
          if hasType typeName subject then [] else [facts.mismatch subject]
      | _, _, _ => []

/-- The violations by the members that are declared. -/
def memberViolations : List (String × Json) → Entries Json → List Violation
  | [], _ => []
  | (name, operand) :: rest, members =>
      (match Entries.get? members name with
        | some member => (violations operand member).map (Violation.below name)
        | none => []) ++
        memberViolations rest members

/-- One of several documents finds nothing wrong. -/
def someHolds : List Json → Json → Bool
  | [], _ => false
  | operand :: rest, subject =>
      (violations operand subject).isEmpty || someHolds rest subject

end

/-- The document finds nothing wrong with the value. -/
def conformsTo (subject document : Json) : Bool :=
  (violations document subject).isEmpty

end ApiContract.Json
