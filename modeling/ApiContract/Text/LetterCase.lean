import ApiContract.Text.Escaped
import ApiContract.Text.Unicode.LetterCase

/-!
# Letter case of all scripts

Names derived from a text change the case of its letters.  A letter has at most one
counterpart in the other case, and a few letters become several characters.  The
last letter of a Greek word has a lower-case form of its own.
-/

namespace ApiContract.Text

/-- The character is a lower-case letter. -/
def isLowercase (char : Char) : Bool :=
  inRanges Unicode.lowercaseRanges char.toNat

/-- The character is an upper-case letter. -/
def isUppercase (char : Char) : Bool :=
  inRanges Unicode.uppercaseRanges char.toNat

/-- The run holds a character. -/
def Unicode.CaseRun.holds (run : Unicode.CaseRun) (point : Nat) : Bool :=
  run.first ≤ point && point ≤ run.last && (point - run.first) % run.step == 0

/-- What a character becomes by the runs of one case and its letters that become
several. -/
def recased (runs : List Unicode.CaseRun) (several : List (Nat × List Nat)) (char : Char) :
    List Char :=
  match several.lookup char.toNat with
  | some points => points.map Char.ofNat
  | none =>
      match runs.find? fun run => run.holds char.toNat with
      | some run => [Char.ofNat (char.toNat + run.shift).toNat]
      | none => [char]

/-- A character in lower case. -/
def lowercase (char : Char) : List Char :=
  recased Unicode.toLowercaseRuns Unicode.severalInLowercase char

/-- A character in upper case. -/
def uppercase (char : Char) : List Char :=
  recased Unicode.toUppercaseRuns Unicode.severalInUppercase char

/-- A word in lower case. -/
def lowercaseWord : List Char → List Char
  | [] => []
  | ['Σ'] => ['ς']
  | char :: rest => lowercase char ++ lowercaseWord rest

/-- A word with its first character in upper case and the others in lower case. -/
def capitalized : List Char → List Char
  | [] => []
  | char :: rest => uppercase char ++ lowercaseWord rest

end ApiContract.Text
