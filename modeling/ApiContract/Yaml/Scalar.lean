import ApiContract.Datum.Basic
import ApiContract.Number.Decimal
import ApiContract.Text.Search

/-!
# What plain scalars denote

A scalar without quotes is null, a boolean, an integer or a float if it has the form
of one, and otherwise a text.  Digits after a leading zero are a text.
-/

namespace ApiContract.Yaml

/-- The words for null. -/
def nullWords : List String :=
  ["null", "Null", "NULL", "~"]

/-- The words for truth values. -/
def boolWords : List (String × Bool) :=
  [("true", true), ("True", true), ("TRUE", true), ("false", false), ("False", false),
    ("FALSE", false)]

/-- Digits that start with a zero, after a sign or not. -/
def isZeroPadded (chars : List Char) : Bool :=
  match (Decimal.splitSign chars).2 with
  | '0' :: rest => rest != [] && rest.all Char.isDigit
  | _ => false

/-- The value of a digit in a base up to sixteen. -/
def digitValue? (base : Nat) (char : Char) : Option Nat :=
  (Text.hexValue? char).filter (· < base)

/-- The number that digits in a base denote. There is at least one digit. -/
def readDigits? (base : Nat) (digits : List Char) : Option Nat :=
  if digits = [] then none
  else digits.foldlM (fun number digit => (digitValue? base digit).map (base * number + ·)) 0

/-- The base that two characters in front of digits announce. -/
def announcedBase? : List Char → Option (Nat × List Char)
  | '0' :: 'x' :: digits => some (16, digits)
  | '0' :: 'o' :: digits => some (8, digits)
  | '0' :: 'b' :: digits => some (2, digits)
  | _ => none

/-- The magnitude of an integer: digits in an announced base, or decimal ones. -/
def readMagnitude? (chars : List Char) : Option Nat :=
  let announced := announcedBase? chars >>= fun (base, digits) => readDigits? base digits
  if announced.isSome then announced
  else if isZeroPadded chars then none
  else readDigits? 10 chars

/-- The integer that a plain scalar denotes, if it fits 128 bits. -/
def readInteger? (chars : List Char) : Option Int :=
  let (negative, magnitude) := Decimal.splitSign chars
  match readMagnitude? magnitude with
  | none => none
  | some number =>
      if negative then if number ≤ twoTo 127 then some (-number) else none
      else if number < twoTo 128 then some number
      else none

/-- The float that a plain scalar denotes. -/
def readFloat? (text : String) : Option Binary64 :=
  let (negative, unsigned) := Decimal.splitSign text.toList
  let word := String.ofList unsigned
  if word = ".inf" ∨ word = ".Inf" ∨ word = ".INF" then some (.infinity negative)
  else if text = ".nan" ∨ text = ".NaN" ∨ text = ".NAN" then some .nan
  else if (Decimal.splitSign unsigned).2 ≠ unsigned then none
  else (Decimal.readBinary64 text.toList).filter Binary64.isFinite

/-- What a plain scalar denotes. -/
def plainDatum (text : String) : Datum :=
  if text = "" ∨ text ∈ nullWords then .null
  else
    match boolWords.lookup text with
    | some value => .bool value
    | none =>
        match readInteger? text.toList with
        | some number => .integer number
        | none =>
            if isZeroPadded text.toList then .string text
            else ((readFloat? text).map Datum.float).getD (.string text)

/-- What is wrong with a scalar that has a tag: it is not of the type that the tag
names, or the tag names no known type. -/
inductive ScalarFault where
  | notOfType (text : String) (expected : String)
  | unknownType

/-- The tag of a type that every text may use. -/
def standardTag (name : String) : String :=
  "tag:yaml.org,2002:" ++ name

/-- The tag is of a type that only the text itself knows. -/
def isLocalTag (tag : Option String) : Bool :=
  (tag.map fun tag => tag.toList.head? == some '!').getD false

/-- What a scalar denotes. -/
def scalarDatum (tag : Option String) (text : String) (isPlain : Bool) :
    Except ScalarFault Datum :=
  let typed (datum : Option Datum) (expected : String) : Except ScalarFault Datum :=
    match datum with
    | some datum => .ok datum
    | none => .error (.notOfType text expected)
  if isLocalTag tag then .error .unknownType
  else if tag = some (standardTag "bool") then
    typed ((boolWords.lookup text).map .bool) "a boolean"
  else if tag = some (standardTag "int") then
    typed ((readInteger? text.toList).map .integer) "an integer"
  else if tag = some (standardTag "float") then typed ((readFloat? text).map .float) "a float"
  else if tag = some (standardTag "null") then
    typed (if text ∈ nullWords then some .null else none) "null"
  else if tag = none ∧ isPlain then .ok (plainDatum text)
  else .ok (.string text)

end ApiContract.Yaml
