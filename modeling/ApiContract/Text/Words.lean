import ApiContract.Text.LetterCase
import ApiContract.Text.Unicode.Alphanumeric

/-!
# Words of a text

A name of one style becomes a name of another by way of its words.  Anything but
letters and digits separates words.  A new word also begins at an upper-case letter
after a lower-case one, and at the last of several upper-case letters before a
lower-case one.
-/

namespace ApiContract.Text

/-- The character is a letter or a digit of any script. -/
def isAlphanumeric (char : Char) : Bool :=
  inRanges Unicode.alphanumericRanges char.toNat

/-- The case of the last letter of a word that has one. -/
inductive WordCase where
  | open
  | lower
  | upper
  deriving DecidableEq

/-- The case of a word after one more character. -/
def WordCase.after (wordCase : WordCase) (char : Char) : WordCase :=
  if isLowercase char then .lower else if isUppercase char then .upper else wordCase

/-- The words of letters and digits, given the case and the characters of the first
word so far. -/
def wordsFrom (wordCase : WordCase) (word : List Char) : List Char → List (List Char)
  | [] => if word.isEmpty then [] else [word]
  | [last] => [word ++ [last]]
  | char :: next :: rest =>
      if wordCase.after char = .lower ∧ isUppercase next then
        (word ++ [char]) :: wordsFrom .open [] (next :: rest)
      else if wordCase = .upper ∧ isUppercase char ∧ isLowercase next then
        word :: wordsFrom .open [char] (next :: rest)
      else wordsFrom (wordCase.after char) (word ++ [char]) (next :: rest)

/-- The runs of characters that satisfy a test. -/
def runsOf (test : Char → Bool) : List Char → List (List Char)
  | [] => []
  | char :: rest =>
      if test char then
        match rest, runsOf test rest with
        | next :: _, run :: runs =>
            if test next then (char :: run) :: runs else [char] :: run :: runs
        | _, runs => [char] :: runs
      else runsOf test rest

/-- The words of a text. -/
def words (text : String) : List (List Char) :=
  (runsOf isAlphanumeric text.toList).flatMap (wordsFrom .open [])

/-- The words in lower case, with low lines between them. -/
def snakeCase (text : String) : String :=
  "_".intercalate ((words text).map fun word => String.ofList (lowercaseWord word))

/-- The words capitalized, with nothing between them. -/
def camelCase (text : String) : String :=
  String.ofList ((words text).flatMap capitalized)

end ApiContract.Text
