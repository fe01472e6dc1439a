/-!
# Search in text

Whether one text occurs in another, and what stands around a character.
-/

namespace ApiContract.Text

/-- One text occurs in another. -/
def occursIn (needle : List Char) : List Char → Bool
  | [] => needle.isEmpty
  | char :: rest => needle.isPrefixOf (char :: rest) || occursIn needle rest

/-- The text before the first of a character, and the text after it if there is one. -/
def splitAtFirst (separator : Char) : List Char → List Char × Option (List Char)
  | [] => ([], none)
  | char :: rest =>
      if char = separator then ([], some rest)
      else
        let (before, after) := splitAtFirst separator rest
        (char :: before, after)

/-- The texts between the separators. There is one more than there are separators. -/
def splitOnChar (separator : Char) : List Char → List (List Char)
  | [] => [[]]
  | char :: rest =>
      if char = separator then [] :: splitOnChar separator rest
      else
        match splitOnChar separator rest with
        | [] => [[char]]
        | first :: others => (char :: first) :: others

end ApiContract.Text
