import ApiContract.Text.Unicode.Identifier
import ApiContract.Text.Words

/-!
# Names in generated code

Generated declarations take their names from contracts, property keys and values.
A name must be an identifier of Rust, must not be a reserved word unless it is
written raw, and must be told apart from the names that are taken.
-/

namespace ApiContract.Bindings

/-- The character can begin an identifier. -/
def isIdentifierStart (char : Char) : Bool :=
  char == '_' || Text.inRanges Text.Unicode.identifierStartRanges char.toNat

/-- The character can stand later in an identifier. -/
def isIdentifierContinue (char : Char) : Bool :=
  Text.inRanges Text.Unicode.identifierContinueRanges char.toNat

/-- The text is an identifier. -/
def isIdentifier (text : String) : Bool :=
  match text.toList with
  | [] => false
  | first :: rest => isIdentifierStart first && rest.all isIdentifierContinue

/-- The words that name a field only when they are written raw. -/
def keywords : List String :=
  ["as", "async", "await", "break", "const", "continue", "dyn", "else", "enum", "extern",
    "false", "fn", "for", "if", "impl", "in", "let", "loop", "match", "mod", "move", "mut",
    "pub", "ref", "return", "static", "struct", "trait", "true", "type", "unsafe", "use",
    "where", "while", "box", "yield", "gen"]

/-- The words that cannot name a field even when they are written raw. -/
def pathWords : List String := ["self", "super", "crate", "Self"]

/-- The text begins with an ASCII digit. -/
def startsWithDigit (text : String) : Bool :=
  match text.toList with
  | [] => false
  | first :: _ => '0' ≤ first && first ≤ '9'

/-- The name of a field. -/
structure FieldName where
  word : String
  /-- The word is reserved, so it is written raw. -/
  raw : Bool := false
  deriving DecidableEq

namespace FieldName

/-- The name as it is written. -/
def text (name : FieldName) : String :=
  if name.raw then "r#" ++ name.word else name.word

/-- The name of the field for a property. -/
def ofKey (key : String) : FieldName :=
  let word := Text.snakeCase key
  let word := if word.isEmpty then "field" else word
  let word := if startsWithDigit word then "_" ++ word else word
  if pathWords.contains word then ⟨word ++ "_", false⟩
  else ⟨word, keywords.contains word⟩

end FieldName

/-- A capitalized name, after a letter when it would be empty or begin with a digit. -/
def capitalizedName (letter text : String) : String :=
  let name := Text.camelCase text
  if name.isEmpty || startsWithDigit name then letter ++ name else name

/-- The first part of the names of all types of a contract. -/
def typeName (contract : String) : String :=
  capitalizedName "C" contract

/-- The name of the variant for a value. -/
def variantName (value : String) : String :=
  capitalizedName "V" value

/-- The name itself, and the name with a number from two up to a given one. -/
def candidates (wanted : String) (last : Nat) : List String :=
  wanted :: (List.range (last - 1)).map fun index => wanted ++ Text.decimalText (index + 2)

/-- The first candidate that is not taken. There is one among one more candidates
than names are taken. -/
def freshName (taken : List String) (wanted : String) : String :=
  ((candidates wanted (taken.length + 1)).find? fun name => !taken.contains name).getD wanted

end ApiContract.Bindings
