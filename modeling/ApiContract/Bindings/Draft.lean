import ApiContract.Bindings.Declaration
import ApiContract.Contract.Basic

/-!
# Bindings of a contract

The declared parts of a contract become declarations: the parts of a request, the
response headers, and every response by its status.  A part that is an object
becomes a record; any other part becomes an alias of its type.  A type inside a part
is declared before the type around it, but the name of the outer one is taken first.
-/

namespace ApiContract.Bindings

/-- The declarations so far and the names that are taken. -/
structure Draft where
  declarations : List Declaration := []
  taken : List String := []

namespace Draft

/-- Takes a name: the wanted one, or the first free one with a number after it. -/
def claim (draft : Draft) (wanted : String) : String × Draft :=
  let name := freshName draft.taken wanted
  (name, { draft with taken := draft.taken ++ [name] })

/-- The draft with one more declaration. -/
def declare (draft : Draft) (declaration : Declaration) : Draft :=
  { draft with declarations := draft.declarations ++ [declaration] }

end Draft

/-- The type of a pinned value. -/
def literalType : Literal → TypeText
  | .string _ => .text
  | .number _ => .float
  | .bool _ => .boolean

/-- The texts of values that are all texts. -/
def allTexts? (values : List Literal) : Option (List String) :=
  values.mapM fun
    | .string text => some text
    | _ => none

/-- The variants for texts, given the names that earlier variants took. -/
def variantsOf (taken : List String) : List String → List Variant
  | [] => []
  | text :: rest =>
      let name := freshName taken (variantName text)
      ⟨name, text⟩ :: variantsOf (taken ++ [name]) rest

/-- The type of one of several values. Values that are not all texts have no type of
their own. -/
def choiceType (hint : String) (values : List Literal) (draft : Draft) : TypeText × Draft :=
  match allTexts? values with
  | none => (.json, draft)
  | some texts =>
      let (name, draft) := draft.claim hint
      (.declared name, draft.declare (.choice name (variantsOf [] texts)))

/-- The field for a property, given its type. -/
def fieldOf (key : String) (schema : Schema) (type : TypeText) : Field :=
  let name := FieldName.ofKey key
  { name, rename := if name.word = key then none else some key, skipped := schema.isOptional, type }

mutual

/-- The type of a schema. The hint is the wanted name of a type that it declares. -/
def typeOf (hint : String) : Schema → Draft → TypeText × Draft
  | .any, draft => (.json, draft)
  | .unknown, draft => (.json, draft)
  | .null, draft => (.unit, draft)
  | .string, draft => (.text, draft)
  | .number, draft => (.float, draft)
  | .integer, draft => (.integer, draft)
  | .bigint, draft => (.bigInteger, draft)
  | .boolean, draft => (.boolean, draft)
  | .date, draft => (.instant, draft)
  | .literal value, draft => (literalType value, draft)
  | .enumeration values, draft => choiceType hint values draft
  | .array items, draft =>
      let (item, draft) := typeOf (hint ++ "Item") items draft
      (.list item, draft)
  | .object fields strict, draft =>
      let (name, draft) := draft.claim hint
      let (fields, draft) := fieldsOf name fields draft
      (.declared name, draft.declare (.record name strict fields))
  | .record values, draft =>
      let (value, draft) := typeOf (hint ++ "Value") values draft
      (.table value, draft)
  | .union members, draft =>
      let (name, draft) := draft.claim hint
      let (members, draft) := membersOf name 0 members draft
      (.declared name, draft.declare (.alternatives name members))
  | .optional inner, draft =>
      let (inner, draft) := typeOf hint inner draft
      (.optional inner, draft)
  | .promise resolved, draft => typeOf hint resolved draft
  | .function _ _, draft => (.json, draft)

/-- The fields of a record, whose name begins the names of the types in them. -/
def fieldsOf (owner : String) : List (String × Schema) → Draft → List Field × Draft
  | [], draft => ([], draft)
  | (key, schema) :: rest, draft =>
      let (type, draft) := typeOf (owner ++ Text.camelCase key) schema draft
      let (fields, draft) := fieldsOf owner rest draft
      (fieldOf key schema type :: fields, draft)

/-- The members of alternatives, numbered from an index on. -/
def membersOf (owner : String) (index : Nat) :
    List Schema → Draft → List (String × TypeText) × Draft
  | [], draft => ([], draft)
  | schema :: rest, draft =>
      let variant := "Variant" ++ Text.decimalText index
      let (type, draft) := typeOf (owner ++ variant) schema draft
      let (members, draft) := membersOf owner (index + 1) rest draft
      ((variant, type) :: members, draft)

end

/-- The draft with the declarations of one part of a contract. -/
def Draft.addPart (draft : Draft) (wanted : String) (schema : Schema) : Draft :=
  match schema with
  | .object _ _ => (typeOf wanted schema draft).2
  | _ =>
      let (name, draft) := draft.claim wanted
      let (type, draft) := typeOf name schema draft
      draft.declare (.synonym name type)

end ApiContract.Bindings

namespace ApiContract.Contract

/-- The parts of a contract that are declared, with the wanted names of their types. -/
def namedParts (contract : Contract) : List (String × Schema) :=
  let base := Bindings.typeName contract.name
  let sections := [("Params", contract.params), ("Query", contract.query),
    ("Headers", contract.requestHeaders), ("Body", contract.body),
    ("ResponseHeaders", contract.responseHeaders)]
  sections.filterMap (fun (suffix, part) => part.map fun schema => (base ++ suffix, schema)) ++
    contract.responses.map fun (status, schema) =>
      (base ++ "Response" ++ Text.decimalText status, schema)

/-- The declarations of the types of a contract. -/
def bindings (contract : Contract) : List Bindings.Declaration :=
  (contract.namedParts.foldl (fun draft (wanted, schema) => draft.addPart wanted schema)
    ({} : Bindings.Draft)).declarations

/-- The text of the bindings, unless a name in them is not an identifier. -/
def bindingsText? (contract : Contract) : Option String :=
  let declarations := contract.bindings
  if declarations.all Bindings.Declaration.isLegal then
    let code := Bindings.spaced (declarations.map Bindings.Declaration.tokens)
    some (s!"// Bindings for contract `{contract.name}`. Regenerate instead of editing.\n" ++
      code ++ "\n")
  else none

end ApiContract.Contract
