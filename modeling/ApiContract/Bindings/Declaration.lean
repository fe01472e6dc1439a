import ApiContract.Bindings.Name

/-!
# Declarations of generated code

Bindings are a list of declarations: records, choices among values, alternatives
among types, and aliases.  This module holds their type and their text, in which
one blank stands between any two tokens.
-/

namespace ApiContract.Bindings

/-- The type of a field, a variant or an alias. -/
inductive TypeText where
  | json
  | unit
  | text
  | float
  | integer
  | bigInteger
  | boolean
  | instant
  | list (item : TypeText)
  | table (value : TypeText)
  | optional (inner : TypeText)
  /-- A type that the bindings declare. -/
  | declared (name : String)
  deriving DecidableEq

namespace TypeText

/-- The tokens of a type. -/
def tokens : TypeText → String
  | json => "serde_json :: Value"
  | unit => "()"
  | text => "String"
  | float => "f64"
  | integer => "i64"
  | bigInteger => "i128"
  | boolean => "bool"
  | instant => "chrono :: DateTime < chrono :: Utc >"
  | list item => "Vec < " ++ item.tokens ++ " >"
  | table value => "std :: collections :: BTreeMap < String , " ++ value.tokens ++ " >"
  | optional inner => "Option < " ++ inner.tokens ++ " >"
  | declared name => name

/-- The declared types that a type names. -/
def references : TypeText → List String
  | list item => item.references
  | table value => value.references
  | optional inner => inner.references
  | declared name => [name]
  | _ => []

end TypeText

/-- A field of a record. -/
structure Field where
  name : FieldName
  /-- The name on the wire, when it is not the word of the field. -/
  rename : Option String := none
  /-- The field is left out when it holds nothing. -/
  skipped : Bool := false
  type : TypeText

/-- The name of a field on the wire. -/
def Field.wireName (field : Field) : String :=
  field.rename.getD field.name.word

/-- A variant of a choice, which stands for one value. -/
structure Variant where
  name : String
  wireName : String

/-- A declaration. -/
inductive Declaration where
  | record (name : String) (strict : Bool) (fields : List Field)
  | choice (name : String) (variants : List Variant)
  /-- Types of which the first that fits is taken. -/
  | alternatives (name : String) (members : List (String × TypeText))
  | synonym (name : String) (type : TypeText)

/-- Joins tokens. -/
def spaced (tokens : List String) : String :=
  " ".intercalate tokens

/-- Tokens in braces. -/
def braced (tokens : List String) : String :=
  spaced (["\x7b"] ++ tokens ++ ["\x7d"])

/-- A text as a string token. The character zero is written so that a digit after it
does not belong to it. -/
def quotedChars : List Char → List Char
  | [] => []
  | char :: rest =>
      let escaped :=
        if char.toNat = 0 then
          match rest with
          | next :: _ => if '0' ≤ next ∧ next ≤ '7' then "\\x00".toList else "\\0".toList
          | [] => "\\0".toList
        else Text.escapedChar char
      escaped ++ quotedChars rest

/-- A text as a string token. -/
def quoted (text : String) : String :=
  String.ofList ('"' :: quotedChars text.toList ++ ['"'])

/-- The attribute that derives traits, given those between cloning and equality. -/
def derived (traits : List String) : String :=
  "# [derive (" ++ " , ".intercalate (traits ++ ["serde :: Serialize", "serde :: Deserialize"]) ++
    ")]"

/-- The attribute of a name on the wire. -/
def renamed (wireName : String) : String :=
  "# [serde (rename = " ++ quoted wireName ++ ")]"

/-- The tokens of a field. -/
def Field.tokens (field : Field) : String :=
  let rename := field.rename.toList.map renamed
  let skip :=
    if field.skipped then ["# [serde (default , skip_serializing_if = \"Option::is_none\")]"]
    else []
  spaced (rename ++ skip ++ ["pub", field.name.text, ":", field.type.tokens, ","])

/-- The tokens of a variant of a choice. -/
def Variant.tokens (variant : Variant) : String :=
  spaced [renamed variant.wireName, variant.name, ","]

namespace Declaration

/-- The name that is declared. -/
def name : Declaration → String
  | record name _ _ => name
  | choice name _ => name
  | alternatives name _ => name
  | synonym name _ => name

/-- The declared types that a declaration names. -/
def references : Declaration → List String
  | record _ _ fields => fields.flatMap fun field => field.type.references
  | choice _ _ => []
  | alternatives _ members => members.flatMap fun member => member.2.references
  | synonym _ type => type.references

/-- The identifiers that a declaration introduces, raw ones by their word. -/
def identifiers : Declaration → List String
  | record name _ fields => name :: fields.map fun field => field.name.word
  | choice name variants => name :: variants.map Variant.name
  | alternatives name members => name :: members.map Prod.fst
  | synonym name _ => [name]

/-- The tokens of a declaration. -/
def tokens : Declaration → String
  | record name strict fields =>
      spaced ([derived ["Debug", "Clone", "PartialEq"]] ++
        (if strict then ["# [serde (deny_unknown_fields)]"] else []) ++
        ["pub struct", name, braced (fields.map Field.tokens)])
  | choice name variants =>
      spaced [derived ["Debug", "Clone", "Copy", "PartialEq", "Eq"], "pub enum", name,
        braced (variants.map Variant.tokens)]
  | alternatives name members =>
      spaced [derived ["Debug", "Clone", "PartialEq"], "# [serde (untagged)]", "pub enum", name,
        braced (members.map fun (variant, type) => variant ++ " (" ++ type.tokens ++ ") ,")]
  | synonym name type => spaced ["pub type", name, "=", type.tokens, ";"]

/-- Everything that is introduced is an identifier. -/
def isLegal (declaration : Declaration) : Bool :=
  declaration.identifiers.all isIdentifier

end Declaration

end ApiContract.Bindings
