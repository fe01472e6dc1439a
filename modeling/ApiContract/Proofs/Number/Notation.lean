import ApiContract.Proofs.Number.Exact
import ApiContract.Proofs.Text.Digits
import Mathlib.Data.List.TakeDrop
import Mathlib.Data.List.TakeWhile

/-!
# Integers in decimal notation

Digits with or without a sign write an integer.  A reader of integers reads that integer,
and a reader of floats the nearest float.
-/

namespace ApiContract

namespace Decimal

/-- The characters write an integer in decimal digits, with or without a sign. -/
inductive Writes : List Char → Int → Prop where
  | plain {digits : List Char} (filled : digits ≠ []) (all : ∀ digit ∈ digits, digit.isDigit) :
      Writes digits (Text.decimalValue digits)
  | plus {digits : List Char} (filled : digits ≠ []) (all : ∀ digit ∈ digits, digit.isDigit) :
      Writes ('+' :: digits) (Text.decimalValue digits)
  | minus {digits : List Char} (filled : digits ≠ []) (all : ∀ digit ∈ digits, digit.isDigit) :
      Writes ('-' :: digits) (-Text.decimalValue digits)

variable {chars digits : List Char} {integer : Int}

theorem Writes.exists_split (writes : Writes chars integer) :
    ∃ negative digits, splitSign chars = (negative, digits) ∧ digits ≠ [] ∧
      (∀ digit ∈ digits, digit.isDigit) ∧
      integer =
        if negative then -(Text.decimalValue digits : Int) else Text.decimalValue digits := by
  cases writes with
  | plain filled all => exact ⟨false, _, splitSign_of_digits all, filled, all, rfl⟩
  | plus filled all => exact ⟨false, _, rfl, filled, all, rfl⟩
  | minus filled all => exact ⟨true, _, rfl, filled, all, rfl⟩

theorem readInt_of_writes (writes : Writes chars integer) : readInt chars = some integer := by
  rcases writes.exists_split with ⟨negative, digits, split, filled, all, rfl⟩
  exact readInt_of_split split filled all

/-! ## Digits as floats -/

theorem asciiLower_of_isDigit {char : Char} (digit : char.isDigit) :
    Text.asciiLower char = char := by
  apply Text.asciiLower_of_not_upper
  rintro ⟨atLeast, _⟩
  simp only [Char.isDigit, Bool.and_eq_true, decide_eq_true_eq] at digit
  exact absurd (UInt32.le_trans atLeast digit.2) (by decide)

/-- Digits are no word, for no word starts with a digit. -/
theorem lowered_ne_of_digits (word : String) {first : Char} {rest : List Char}
    (all : ∀ digit ∈ digits, digit.isDigit) (starts : word.toList = first :: rest)
    (letter : ¬first.isDigit) : String.ofList (digits.map Text.asciiLower) ≠ word := by
  intro same
  have chars := congrArg String.toList same
  rw [String.toList_ofList, starts] at chars
  rcases List.map_eq_cons_iff.mp chars with ⟨digit, others, rfl, lowered, _⟩
  have isDigit := all digit List.mem_cons_self
  rw [asciiLower_of_isDigit isDigit] at lowered
  exact letter (lowered ▸ isDigit)

theorem readUnsigned_of_digits (negative : Bool) (filled : digits ≠ [])
    (all : ∀ digit ∈ digits, digit.isDigit) :
    readUnsigned negative digits = some (.ofDecimal negative (Text.decimalValue digits) 0) := by
  have whole : digits.span Char.isDigit = (digits, []) := by
    rw [List.span_eq_takeWhile_dropWhile, List.takeWhile_eq_self_iff.mpr all,
      List.dropWhile_eq_nil_iff.mpr all]
  unfold readUnsigned
  rw [whole]
  simp [filled, readExponent]

/-- Digits without an exponent are rounded once. -/
theorem ofDecimal_of_lt (negative : Bool) {number : Nat} (bounded : number < twoTo 128) :
    Binary64.ofDecimal negative number 0 = .ofQuotient negative number 1 := by
  by_cases zero : number = 0
  · rw [Binary64.ofDecimal, if_pos zero, Binary64.ofQuotient, if_pos zero]
  · have few : (Nat.toDigits 10 number).length ≤ 39 :=
      (Nat.length_toDigits_le_iff (by decide) (by decide)).mpr
        (bounded.trans_le (by decide : twoTo 128 ≤ tenTo 39))
    have scale : tenTo (0 : Int).toNat = 1 := rfl
    rw [Binary64.ofDecimal, if_neg zero]
    dsimp only
    rw [if_neg (by omega), if_neg (by omega), if_pos le_rfl, scale, Nat.mul_one]

theorem readBinary64_of_split {negative : Bool} (split : splitSign chars = (negative, digits))
    (filled : digits ≠ []) (all : ∀ digit ∈ digits, digit.isDigit)
    (bounded : Text.decimalValue digits < twoTo 128) :
    readBinary64 chars = some (.ofQuotient negative (Text.decimalValue digits) 1) := by
  have notInf := lowered_ne_of_digits "inf" all rfl (by decide)
  have notInfinity := lowered_ne_of_digits "infinity" all rfl (by decide)
  have notNan := lowered_ne_of_digits "nan" all rfl (by decide)
  unfold readBinary64
  rw [split]
  dsimp only
  rw [if_neg (not_or.mpr ⟨notInf, notInfinity⟩), if_neg notNan,
    readUnsigned_of_digits negative filled all, ofDecimal_of_lt negative bounded]

theorem readBinary64_of_writes (writes : Writes chars integer)
    (bounded : integer.natAbs < twoTo 128) :
    ∃ float, readBinary64 chars = some float ∧ float.sameNumber (.ofInt integer) := by
  rcases writes.exists_split with ⟨negative, digits, split, filled, all, rfl⟩
  have size : Text.decimalValue digits < twoTo 128 := by
    refine lt_of_eq_of_lt ?_ bounded
    split <;> omega
  exact ⟨_, readBinary64_of_split split filled all size,
    Binary64.sameNumber_ofQuotient_ofInt negative size⟩

end Decimal

end ApiContract
