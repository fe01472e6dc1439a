import ApiContract.Number.Decimal
import ApiContract.Text.Blank

/-!
# Decimal digits

Numbers are written in decimal digits, some of them in a field of fixed width.  This
module says that the digits of a number denote it, and that digits are neither signs nor
blanks, so that a reader takes them for what they are.
-/

namespace ApiContract.Text

variable {chars : List Char}

/-! ## Digits denote their number -/

theorem decimalValue_eq_ofDigitChars (digits : List Char) :
    decimalValue digits = Nat.ofDigitChars 10 digits 0 :=
  rfl

theorem decimalValue_toDigits (number : Nat) : decimalValue (Nat.toDigits 10 number) = number := by
  rw [decimalValue_eq_ofDigitChars, Nat.ofDigitChars_toDigits (by decide) (by decide)]

/-- The digits of a number say which it is. -/
theorem decimalText_injective : Function.Injective decimalText := by
  intro left right same
  have digits : Nat.toDigits 10 left = Nat.toDigits 10 right := String.ofList_injective same
  have numbers := congrArg decimalValue digits
  rwa [decimalValue_toDigits, decimalValue_toDigits] at numbers

theorem isDigit_of_mem_toDigits {number : Nat} {char : Char}
    (member : char ∈ Nat.toDigits 10 number) : char.isDigit :=
  Nat.isDigit_of_mem_toDigits (by decide) (by decide) member

theorem isDigit_of_mem_padLeft {count number : Nat} {char : Char}
    (member : char ∈ padLeft count '0' (Nat.toDigits 10 number)) : char.isDigit := by
  rcases List.mem_append.mp member with fill | digit
  · rw [List.eq_of_mem_replicate fill]
    rfl
  · exact isDigit_of_mem_toDigits digit

/-- A number that fits a field fills it exactly. -/
theorem length_padLeft_toDigits {count number : Nat} (positive : 0 < count)
    (fits : number < tenTo count) :
    (padLeft count '0' (Nat.toDigits 10 number)).length = count := by
  have short := (Nat.length_toDigits_le_iff (by decide) positive).mpr fits
  rw [padLeft, List.length_append, List.length_replicate]
  omega

/-- Leading zeros do not count. -/
theorem decimalValue_padLeft (count : Nat) (digits : List Char) :
    decimalValue (padLeft count '0' digits) = decimalValue digits := by
  have zeros : ∀ fill, Nat.ofDigitChars 10 (List.replicate fill '0') 0 = 0 := by
    intro fill
    induction fill with
    | zero => rfl
    | succ fill ih =>
        rw [List.replicate_succ, Nat.ofDigitChars_cons]
        exact ih
  rw [decimalValue_eq_ofDigitChars, padLeft, Nat.ofDigitChars_append, zeros]
  rfl

/-! ## Digits are no blanks -/

theorem not_isBlank_of_isDigit {char : Char} (digit : char.isDigit) : isBlank char = false := by
  simp only [Char.isDigit, Bool.and_eq_true, decide_eq_true_eq, UInt32.le_iff_toNat_le,
    ge_iff_le] at digit
  have point : char.toNat = char.val.toNat := rfl
  simp at digit
  simp [isBlank]
  omega

theorem trimStart_eq_self (unblank : ∀ char ∈ chars, isBlank char = false) :
    trimStart chars = chars := by
  cases chars with
  | nil => rfl
  | cons char rest =>
      rw [trimStart, List.dropWhile_cons, unblank char List.mem_cons_self]
      rfl

/-- A text without blanks is not trimmed. -/
theorem trim_eq_self (unblank : ∀ char ∈ chars, isBlank char = false) : trim chars = chars := by
  have backwards : ∀ char ∈ chars.reverse, isBlank char = false := by
    simpa using unblank
  rw [trim, trimStart_eq_self unblank, trimEnd]
  have kept := trimStart_eq_self backwards
  rw [trimStart] at kept
  rw [kept, List.reverse_reverse]

/-! ## Integers -/

theorem toList_decimalText (number : Nat) :
    (decimalText number).toList = Nat.toDigits 10 number := by
  rw [decimalText, String.toList_ofList]

end ApiContract.Text

namespace ApiContract.Decimal

variable {digits : List Char}

/-- Digits have no sign. -/
theorem splitSign_of_digits (all : ∀ digit ∈ digits, digit.isDigit) :
    splitSign digits = (false, digits) := by
  rw [splitSign.eq_def]
  split
  · exact absurd (all '-' List.mem_cons_self) (by decide)
  · exact absurd (all '+' List.mem_cons_self) (by decide)
  · rfl

theorem readInt_of_split {chars : List Char} {negative : Bool}
    (split : splitSign chars = (negative, digits)) (filled : digits ≠ [])
    (all : ∀ digit ∈ digits, digit.isDigit) :
    readInt chars =
      some (if negative then -(Text.decimalValue digits : Int) else Text.decimalValue digits) := by
  rw [readInt, split]
  exact if_pos ⟨filled, List.all_eq_true.mpr all⟩

/-- An integer is read back from its digits. -/
theorem readInt_integerText (integer : Int) :
    readInt (Text.trim (Text.integerText integer).toList) = some integer := by
  have all : ∀ digit ∈ Nat.toDigits 10 integer.natAbs, digit.isDigit :=
    fun _ => Text.isDigit_of_mem_toDigits
  rw [Text.integerText]
  split
  · next below =>
      have written : ("-" ++ Text.decimalText integer.natAbs).toList =
          '-' :: Nat.toDigits 10 integer.natAbs := by
        rw [String.toList_append, Text.toList_decimalText]
        rfl
      have unblank : ∀ char ∈ '-' :: Nat.toDigits 10 integer.natAbs, Text.isBlank char = false :=
        List.forall_mem_cons.mpr
          ⟨by decide, fun digit member => Text.not_isBlank_of_isDigit (all digit member)⟩
      have signed : splitSign ('-' :: Nat.toDigits 10 integer.natAbs) =
          (true, Nat.toDigits 10 integer.natAbs) := rfl
      rw [written, Text.trim_eq_self unblank, readInt_of_split signed Nat.toDigits_ne_nil all,
        Text.decimalValue_toDigits, if_pos rfl]
      congr 1
      omega
  · next above =>
      have unblank : ∀ char ∈ Nat.toDigits 10 integer.natAbs, Text.isBlank char = false :=
        fun digit member => Text.not_isBlank_of_isDigit (all digit member)
      rw [Text.toList_decimalText, Text.trim_eq_self unblank,
        readInt_of_split (splitSign_of_digits all) Nat.toDigits_ne_nil all,
        Text.decimalValue_toDigits, if_neg Bool.false_ne_true]
      congr 1
      omega

theorem readInt128_integerText (integer : Int128) :
    readInt128 (Text.trim (Text.integerText integer.toInt).toList) = some integer := by
  rw [readInt128, readInt_integerText]
  exact Int128.ofInt?_toInt integer

end ApiContract.Decimal
