import ApiContract.Json.Printer
import ApiContract.Proofs.Text.Digits
import ApiContract.Proofs.Value.Json

/-!
# Compact JSON is one line

The compact text of a JSON value breaks no line: numbers are made of digits, signs, a point and
the letter of an exponent, and in a string every line break is escaped.  This holds of all values,
however deep their arrays and objects are.
-/

namespace ApiContract

namespace Text

variable {chars left right : List Char}

/-- The characters stand on one line: there is no line feed and no carriage return. -/
def OnOneLine (chars : List Char) : Prop :=
  ∀ char ∈ chars, char ≠ '\n' ∧ char ≠ '\r'

@[simp] theorem onOneLine_append :
    OnOneLine (left ++ right) ↔ OnOneLine left ∧ OnOneLine right :=
  List.forall_mem_append

@[simp] theorem onOneLine_cons {char : Char} :
    OnOneLine (char :: chars) ↔ (char ≠ '\n' ∧ char ≠ '\r') ∧ OnOneLine chars :=
  List.forall_mem_cons

@[simp] theorem onOneLine_nil : OnOneLine [] :=
  fun _ member => absurd member List.not_mem_nil

theorem OnOneLine.of_subset (whole : OnOneLine right) (part : left ⊆ right) : OnOneLine left :=
  fun char member => whole char (part member)

theorem OnOneLine.ite {condition : Prop} [Decidable condition]
    (holding : condition → OnOneLine left) (failing : ¬condition → OnOneLine right) :
    OnOneLine (if condition then left else right) := by
  split
  · next holds => exact holding holds
  · next fails => exact failing fails

/-- No digit breaks a line. -/
theorem OnOneLine.of_digits (digits : ∀ char ∈ chars, char.isDigit) : OnOneLine chars := by
  intro char member
  have digit := digits char member
  constructor
  · rintro rfl
    exact absurd digit (by decide)
  · rintro rfl
    exact absurd digit (by decide)

theorem onOneLine_of_all (all : chars.all fun char => char != '\n' && char != '\r') :
    OnOneLine chars := by
  intro char member
  simpa using List.all_eq_true.mp all char member

theorem onOneLine_toDigits (number : Nat) : OnOneLine (Nat.toDigits 10 number) :=
  .of_digits fun _ => isDigit_of_mem_toDigits

theorem onOneLine_integerText (integer : Int) : OnOneLine (integerText integer).toList := by
  rw [integerText]
  split
  · rw [String.toList_append, toList_decimalText, onOneLine_append]
    exact ⟨onOneLine_of_all rfl, onOneLine_toDigits _⟩
  · rw [toList_decimalText]
    exact onOneLine_toDigits _

end Text

open Text (OnOneLine onOneLine_toDigits)

/-! ## Numbers -/

namespace JsonNumber

theorem onOneLine_positionalText (decimal : DecimalMagnitude) :
    OnOneLine (positionalText decimal) := by
  have digits : OnOneLine decimal.digitText := onOneLine_toDigits decimal.digits
  have padded : ∀ count, OnOneLine (Text.padLeft count '0' decimal.digitText) :=
    fun count => .of_digits fun _ => Text.isDigit_of_mem_padLeft
  rw [positionalText]
  dsimp only
  split
  · exact Text.onOneLine_of_all rfl
  · split
    · have zeros : OnOneLine (List.replicate decimal.exponent.toNat '0') := by
        intro char member
        rw [List.eq_of_mem_replicate member]
        decide
      simp [digits, zeros]
    · simp only [Text.onOneLine_append, Text.onOneLine_cons]
      refine ⟨(padded _).of_subset (List.take_subset _ _), by decide, ?_⟩
      exact (padded _).of_subset (List.drop_subset _ _)

theorem onOneLine_scientificText (decimal : DecimalMagnitude) :
    OnOneLine (scientificText decimal) := by
  have digits : OnOneLine decimal.digitText := onOneLine_toDigits decimal.digits
  have exponent : OnOneLine (Nat.toDigits 10 decimal.leadExponent.natAbs) :=
    onOneLine_toDigits _
  have sign : ∀ below : Prop, [Decidable below] →
      (if below then '-' else '+') ≠ '\n' ∧ (if below then '-' else '+') ≠ '\r' := by
    intro below _
    split <;> decide
  rw [scientificText]
  split
  · exact Text.onOneLine_nil
  · next digit single =>
      rw [single] at digits
      simp_all
  · next digit fraction more several =>
      rw [several] at digits
      simp_all

theorem onOneLine_floatText (value : FiniteBinary64) : OnOneLine (floatText value) := by
  have unsigned : ∀ positional : Prop, [Decidable positional] →
      OnOneLine
        (if positional then positionalText value.shortest else scientificText value.shortest) := by
    intro positional _
    exact .ite (fun _ => onOneLine_positionalText _) fun _ => onOneLine_scientificText _
  rw [floatText]
  exact .ite (fun _ => Text.onOneLine_cons.mpr ⟨by decide, unsigned _⟩) fun _ => unsigned _

theorem onOneLine_chars (number : JsonNumber) : OnOneLine number.chars := by
  cases number with
  | integer value => exact Text.onOneLine_integerText value.toInt
  | float value => exact onOneLine_floatText value

end JsonNumber

/-! ## Values -/

namespace Json

/-- Line breaks are escaped, and no escape has one. -/
theorem onOneLine_escapedChar (char : Char) : OnOneLine (escapedChar char) := by
  have controls : ∀ code ∈ List.range 32, (Text.padLeft 2 '0' (Text.hexText code)).all
      fun char => char != '\n' && char != '\r' := List.all_eq_true.mp rfl
  rw [escapedChar]
  apply OnOneLine.ite (fun _ => by simp)
  intro _
  apply OnOneLine.ite (fun _ => by simp)
  intro _
  apply OnOneLine.ite (fun _ => by simp)
  intro noFeed
  apply OnOneLine.ite (fun _ => by simp)
  intro noReturn
  apply OnOneLine.ite (fun _ => by simp)
  intro _
  apply OnOneLine.ite (fun _ => by simp)
  intro _
  apply OnOneLine.ite (fun _ => by simp)
  intro _
  apply OnOneLine.ite
  · intro control
    simp [Text.onOneLine_of_all (controls char.toNat (List.mem_range.mpr control))]
  · intro _
    simp [noFeed, noReturn]

theorem onOneLine_quoted (text : String) : OnOneLine (quoted text) := by
  have inner : OnOneLine (text.toList.flatMap escapedChar) := by
    intro char member
    obtain ⟨origin, _, escaped⟩ := List.mem_flatMap.mp member
    exact onOneLine_escapedChar origin char escaped
  simp [quoted, inner]

theorem onOneLine_itemChars {items : List Json} (each : ∀ item ∈ items, OnOneLine item.chars) :
    OnOneLine (itemChars items) := by
  induction items with
  | nil => simp [itemChars]
  | cons item rest ih =>
      rw [List.forall_mem_cons] at each
      simp [itemChars, each.1, ih each.2]

theorem onOneLine_memberChars {members : List (String × Json)}
    (each : ∀ member ∈ members, OnOneLine member.2.chars) : OnOneLine (memberChars members) := by
  induction members with
  | nil => simp [memberChars]
  | cons member rest ih =>
      rw [List.forall_mem_cons] at each
      simp [memberChars, onOneLine_quoted, each.1, ih each.2]

/-- The compact text of a value stands on one line. -/
theorem onOneLine_chars (json : Json) : OnOneLine json.chars := by
  induction json with
  | null => simp [chars]
  | bool value => cases value <;> simp [chars]
  | number value => exact value.onOneLine_chars
  | string text => exact onOneLine_quoted text
  | array items each =>
      cases items with
      | nil => simp [chars]
      | cons item rest =>
          rw [List.forall_mem_cons] at each
          simp [chars, each.1, onOneLine_itemChars each.2]
  | object members each =>
      cases members with
      | nil => simp [chars]
      | cons member rest =>
          rw [List.forall_mem_cons] at each
          simp [chars, onOneLine_quoted, each.1, onOneLine_memberChars each.2]

end Json

end ApiContract
