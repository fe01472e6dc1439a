import ApiContract.Yaml.Fault

/-!
# Events of a YAML document

The nodes of a document in the order of the text, with an event at either end of a
collection.
-/

namespace ApiContract.Yaml

/-- The anchor and the tag of a node. -/
structure Properties where
  anchor : Option String := none
  tag : Option String := none
  deriving DecidableEq

/-- What an event is. -/
inductive EventKind where
  | documentStart
  | documentEnd
  | streamEnd
  | aliasOf (name : String)
  | scalar (properties : Properties) (text : String) (isPlain : Bool)
  | sequenceStart (properties : Properties)
  | sequenceEnd
  | mappingStart (properties : Properties)
  | mappingEnd
  deriving DecidableEq

/-- An event and where it begins. -/
structure Event where
  kind : EventKind
  mark : Mark
  deriving DecidableEq

end ApiContract.Yaml
