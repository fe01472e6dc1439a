import ApiContract.Text.Ascii
import ApiContract.Text.Search
import ApiContract.Text.Utf8

/-!
# Percent encoding

In a path and in a query any byte can be written as a percent sign and two
hexadecimal digits.  A query is a list of pairs in which, besides, a plus sign
stands for a blank.
-/

namespace ApiContract.Text

/-- The bytes that are meant. A percent sign without two digits stands for itself. -/
def percentDecoded : List UInt8 → List UInt8
  | [] => []
  | 0x25 :: high :: low :: rest =>
      match hexValue? (Char.ofNat high.toNat), hexValue? (Char.ofNat low.toNat) with
      | some first, some second => UInt8.ofNat (16 * first + second) :: percentDecoded rest
      | _, _ => 0x25 :: percentDecoded (high :: low :: rest)
  | byte :: rest => byte :: percentDecoded rest

/-- The text that a part of a path stands for, if it is well-formed. -/
def decodedPathPart? (text : String) : Option String :=
  ofUtf8? (percentDecoded (utf8Bytes text))

/-- The text that a part of a query stands for. -/
def decodedQueryPart (chars : List Char) : String :=
  let plain := chars.map fun char => if char = '+' then ' ' else char
  ofUtf8Lossy (percentDecoded (utf8Bytes (String.ofList plain)))

/-- The pairs of a query, empty ones left out. A pair without an equals sign has an
empty second part. -/
def queryPairs (query : String) : List (String × String) :=
  ((splitOnChar '&' query.toList).filter fun pair => !pair.isEmpty).map fun pair =>
    let (name, value) := splitAtFirst '=' pair
    (decodedQueryPart name, decodedQueryPart (value.getD []))

end ApiContract.Text
