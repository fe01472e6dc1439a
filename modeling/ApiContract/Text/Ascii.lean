/-!
# Letter case of ASCII

Header names, authorization schemes and the words of configuration files ignore
the case of the letters `A` to `Z` and of no others.
-/

namespace ApiContract.Text

/-- The character with `A` to `Z` in lower case. -/
def asciiLower (char : Char) : Char :=
  char.toLower

/-- The text with `A` to `Z` in lower case. -/
def lowered (text : String) : String :=
  String.ofList (text.toList.map asciiLower)

theorem asciiLower_of_not_upper {char : Char} (other : ¬('A' ≤ char ∧ char ≤ 'Z')) :
    asciiLower char = char :=
  dif_neg other

/-- A letter in lower case is no letter in upper case, so there is nothing left to lower. -/
theorem asciiLower_asciiLower (char : Char) : asciiLower (asciiLower char) = asciiLower char := by
  by_cases upper : 'A' ≤ char ∧ char ≤ 'Z'
  · have lower : (asciiLower char).val = char.val + 32 := congrArg Char.val (dif_pos upper)
    apply asciiLower_of_not_upper
    simp only [Char.le_def, UInt32.le_iff_toNat_le, lower, UInt32.toNat_add] at upper ⊢
    change 65 ≤ char.val.toNat ∧ char.val.toNat ≤ 90 at upper
    change ¬(65 ≤ (char.val.toNat + 32) % 2 ^ 32 ∧ (char.val.toNat + 32) % 2 ^ 32 ≤ 90)
    omega
  · rw [asciiLower_of_not_upper upper, asciiLower_of_not_upper upper]

theorem lowered_lowered (text : String) : lowered (lowered text) = lowered text := by
  rw [lowered, lowered, String.toList_ofList, List.map_map]
  exact congrArg String.ofList (List.map_congr_left fun char _ => asciiLower_asciiLower char)

/-- Equality up to the case of `A` to `Z`. -/
def sameIgnoringCase (left right : String) : Bool :=
  lowered left == lowered right

/-- The value of a hexadecimal digit of either case. -/
def hexValue? (char : Char) : Option Nat :=
  if '0' ≤ char ∧ char ≤ '9' then some (char.toNat - '0'.toNat)
  else if 'a' ≤ char ∧ char ≤ 'f' then some (char.toNat - 'a'.toNat + 10)
  else if 'A' ≤ char ∧ char ≤ 'F' then some (char.toNat - 'A'.toNat + 10)
  else none

/-- A number in lower-case hexadecimal digits, without leading zeros. -/
def hexText (value : Nat) : List Char :=
  Nat.toDigits 16 value

/-- A text extended on the left to a given length. -/
def padLeft (length : Nat) (fill : Char) (chars : List Char) : List Char :=
  List.replicate (length - chars.length) fill ++ chars

/-- The number that a run of decimal digits denotes. -/
def decimalValue (digits : List Char) : Nat :=
  digits.foldl (fun value digit => 10 * value + (digit.toNat - '0'.toNat)) 0

/-- The decimal digits of a number. -/
def decimalText (value : Nat) : String :=
  String.ofList (Nat.toDigits 10 value)

/-- The decimal digits of an integer, after a minus sign when it is negative. -/
def integerText (value : Int) : String :=
  if value < 0 then "-" ++ decimalText value.natAbs else decimalText value.natAbs

end ApiContract.Text
