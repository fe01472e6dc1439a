import ApiContract.Datum.Typed
import ApiContract.Number.Decimal

/-!
# Layers of settings

Settings come from several places, one laid over the other.  Maps are merged key by
key; anything else is replaced.  A fault is reported for the uppermost layer that has
something at its path.
-/

namespace ApiContract

namespace Datum

mutual

/-- A datum laid over another. -/
def laidOver : Datum → Datum → Datum
  | .map upper, .map lower => .map (membersOver upper lower)
  | upper, _ => upper

/-- Members laid over those of another map. -/
def membersOver : List (String × Datum) → Entries Datum → Entries Datum
  | [], lower => lower
  | (key, upper) :: rest, lower =>
      let value :=
        match Entries.get? lower key with
        | some existing => laidOver upper existing
        | none => upper
      membersOver rest (Entries.insert key value lower)

end

mutual

/-- The datum with the members of every map in order of their keys. -/
def sorted : Datum → Datum
  | .list items => .list (sortedItems items)
  | .map members => .map (Entries.ofList (sortedMembers members))
  | datum => datum

/-- The items of a list, each sorted. -/
def sortedItems : List Datum → List Datum
  | [] => []
  | item :: rest => sorted item :: sortedItems rest

/-- The members of a map, each value sorted. -/
def sortedMembers : List (String × Datum) → List (String × Datum)
  | [] => []
  | (key, value) :: rest => (key, sorted value) :: sortedMembers rest

end

end Datum

namespace Settings

/-- Where a layer comes from. -/
inductive Origin where
  | defaults
  | file (name : String)
  | environment (lead : String)
  deriving DecidableEq

/-- A layer. -/
structure Layer where
  origin : Origin
  members : List (String × Datum)

/-- The layers as one map, each laid over those before it. -/
def merged (layers : List Layer) : Datum :=
  .map (layers.foldl (fun lower layer => Datum.membersOver layer.members lower) [])

/-- The uppermost layer that has something at a path. -/
def originOf? (layers : List Layer) (path : List String) : Option Origin :=
  (layers.reverse.find? fun layer => ((Datum.map layer.members).at? path).isSome).map
    Layer.origin

/-- An integer as a message names it. -/
def integerText (value : Int) : String :=
  let kind := if value < 0 then "signed" else "unsigned"
  s!"{kind} int `{Text.integerText value}`"

/-- A datum as a message names it. -/
def foundText : Datum → String
  | .null => "unit"
  | .bool value => s!"bool {value}"
  | .integer value =>
      let width := if value < 0 then "i128" else "u128"
      if Typed.fitsWord value then integerText value
      else s!"integer `{Text.integerText value}` as {width}"
  | .float value => s!"float `{Decimal.plainText value}`"
  | .string text => "string " ++ Text.inQuotes text
  | .list _ => "sequence"
  | .map _ => "map"

/-- Alternatives in a message. -/
def oneOfText (names : List String) : String :=
  match names.map fun name => s!"`{name}`" with
  | [] => "none"
  | [name] => name
  | [first, second] => s!"{first} or {second}"
  | names => "one of " ++ ", ".intercalate names

/-- The wording of a fault of a type in settings. -/
def causeText : TypeFault → String
  | .wrongType found expected => s!"invalid type: found {foundText found}, expected {expected}"
  | .outOfRange found expected => s!"invalid value {integerText found}, expected {expected}"
  | .wrongLength found expected =>
      s!"invalid length {Text.decimalText found}, expected {expected}"
  | .missingField name => s!"missing field `{name}`"
  | .unknownField found expected =>
      s!"unknown field: found `{found}`, expected `{oneOfText expected}`"
  | .unknownVariant found expected =>
      s!"unknown variant: found `{found}`, expected `{oneOfText expected}`"

/-- Where a layer comes from, in a message. -/
def Origin.text : Origin → String
  | .defaults => ""
  | .file name => s!" in {name} YAML file"
  | .environment lead => s!" in `{lead}` environment variable(s)"

/-- A path in the terms of the layer that it belongs to. -/
def Origin.keyText (origin : Origin) (path : List String) : String :=
  match origin with
  | .environment _ =>
      String.ofList ((".".intercalate path).toList.map Char.toUpper)
  | _ => ".".intercalate ("default" :: path)

/-- The wording of a misfit in merged layers. -/
def misfitText (layers : List Layer) (misfit : Misfit) : String :=
  let cause := causeText misfit.cause
  match misfit.path, originOf? layers misfit.path with
  | [], _ | _, none => cause
  | path, some origin =>
      s!"{cause} for key {Text.inQuotes (origin.keyText path)}{origin.text}"

end Settings

end ApiContract
