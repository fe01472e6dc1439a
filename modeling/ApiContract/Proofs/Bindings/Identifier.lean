import ApiContract.Proofs.Bindings.Naming
import ApiContract.Proofs.Text.Words

/-!
# Legal names in bindings

A name is legal when it is an identifier and no reserved word, unless it is written raw.  Names of
types and of variants begin like no reserved word but one.  The words of fields are compared with
tables of reserved words, and the tables overlook some.
-/

namespace ApiContract.Bindings

open Text (IsCapital camelCase snakeCase decimalText)

variable {text name word wanted : String} {taken texts : List String}

/-! ## Identifiers -/

theorem isIdentifier_iff :
    isIdentifier text ↔ ∃ first rest, text.toList = first :: rest ∧ isIdentifierStart first ∧
      ∀ char ∈ rest, isIdentifierContinue char := by
  rw [isIdentifier]
  constructor
  · intro identifier
    split at identifier
    · cases identifier
    · next first rest chars =>
        rw [Bool.and_eq_true, List.all_eq_true] at identifier
        exact ⟨first, rest, chars, identifier.1, identifier.2⟩
  · rintro ⟨first, rest, chars, starts, continues⟩
    rw [chars]
    exact Bool.and_eq_true_iff.mpr ⟨starts, List.all_eq_true.mpr continues⟩

theorem isIdentifierContinue_of_isIdentifier (identifier : isIdentifier text) :
    ∀ char ∈ text.toList, isIdentifierContinue char := by
  rcases isIdentifier_iff.mp identifier with ⟨first, rest, chars, starts, continues⟩
  rw [chars]
  exact List.forall_mem_cons.mpr ⟨Text.isIdentifierContinue_of_start starts, continues⟩

/-- What follows a name can be anything that an identifier can go on with. -/
theorem isIdentifier_append_iff (filled : name.toList ≠ []) (more : String) :
    isIdentifier (name ++ more) ↔
      isIdentifier name ∧ ∀ char ∈ more.toList, isIdentifierContinue char := by
  rcases List.exists_cons_of_ne_nil filled with ⟨first, rest, chars⟩
  simp only [isIdentifier, String.toList_append, chars, List.cons_append, List.all_append,
    Bool.and_eq_true, List.all_eq_true, and_assoc]

theorem isIdentifierContinue_of_isDigit {char : Char} (digit : char.isDigit) :
    isIdentifierContinue char := by
  have isRange : (48, 57) ∈ Text.Unicode.identifierContinueRanges := List.mem_cons_self
  simp only [Char.isDigit, Bool.and_eq_true, decide_eq_true_eq, UInt32.le_iff_toNat_le] at digit
  exact Text.inRanges_iff.mpr ⟨(48, 57), isRange, digit.1, digit.2⟩

theorem isIdentifierContinue_of_mem_decimalText (number : Nat) :
    ∀ char ∈ (decimalText number).toList, isIdentifierContinue char := by
  rw [Text.toList_decimalText]
  exact fun char isChar => isIdentifierContinue_of_isDigit (Text.isDigit_of_mem_toDigits isChar)

/-! ## Reserved words -/

/-- The reserved words of Rust, those that are in use and those that are kept for later. -/
def reservedWords : List String :=
  ["as", "async", "await", "break", "const", "continue", "crate", "dyn", "else", "enum", "extern",
    "false", "fn", "for", "if", "impl", "in", "let", "loop", "match", "mod", "move", "mut", "pub",
    "ref", "return", "self", "Self", "static", "struct", "super", "trait", "true", "type", "unsafe",
    "use", "where", "while"] ++
  ["abstract", "become", "box", "do", "final", "gen", "macro", "override", "priv", "try", "typeof",
    "unsized", "virtual", "yield"]

/-- The reserved words that fields are not compared with. -/
def overlookedWords : List String :=
  ["abstract", "become", "do", "final", "macro", "override", "priv", "try", "typeof", "unsized",
    "virtual"]

theorem mem_reservedWords_iff :
    word ∈ reservedWords ↔ word ∈ keywords ∨ word ∈ pathWords ∨ word ∈ overlookedWords := by
  have perm : reservedWords.Perm (keywords ++ (pathWords ++ overlookedWords)) := by
    decide +kernel
  rw [perm.mem_iff, List.mem_append, List.mem_append]

/-- The text can name what is declared: it is an identifier, not a low line alone, and not
reserved. -/
structure IsLegalName (text : String) : Prop where
  identifier : isIdentifier text
  notLine : text ≠ "_"
  unreserved : text ∉ reservedWords

/-- The name can be that of a field.  When it is written raw, only few words are excluded. -/
structure FieldName.IsLegal (name : FieldName) : Prop where
  identifier : isIdentifier name.word
  notLine : name.word ≠ "_"
  unreserved : name.word ∉ if name.raw then pathWords else reservedWords

/-! ## Names that begin with a capital -/

/-- The text begins with neither a low line nor a small letter of ASCII. -/
def BeginsCapital (text : String) : Prop :=
  ∀ first ∈ text.toList.head?, IsCapital first

theorem eq_self_of_mem_reservedWords (capital : BeginsCapital word)
    (reserved : word ∈ reservedWords) : word = "Self" := by
  have small : ∀ word ∈ reservedWords, word = "Self" ∨
      ¬word.toList.head?.all fun first => decide (IsCapital first) := by decide +kernel
  refine (small word reserved).resolve_right (not_not.mpr ?_)
  rw [Option.all_eq_true]
  exact fun first isFirst => decide_eq_true (capital first isFirst)

theorem isLegalName_of_capital (identifier : isIdentifier text) (capital : BeginsCapital text)
    (notSelf : text ≠ "Self") : IsLegalName text where
  identifier := identifier
  notLine := by
    rintro rfl
    exact absurd (capital '_' rfl) (by decide)
  unreserved := fun reserved => notSelf (eq_self_of_mem_reservedWords capital reserved)

theorem BeginsCapital.append (capital : BeginsCapital name) (filled : name.toList ≠ [])
    (more : String) : BeginsCapital (name ++ more) := by
  rwa [BeginsCapital, String.toList_append, Text.head?_append_of_filled filled]

theorem beginsCapital_capitalizedName {letter : String} (capital : BeginsCapital letter)
    (filled : letter.toList ≠ []) (text : String) :
    BeginsCapital (capitalizedName letter text) ∧ (capitalizedName letter text).toList ≠ [] := by
  rw [capitalizedName]
  split
  · rw [String.toList_append]
    exact ⟨capital.append filled _, List.append_ne_nil_of_left_ne_nil filled _⟩
  · next begins =>
      rw [Bool.or_eq_true, not_or, String.isEmpty_iff, ← String.toList_eq_nil_iff] at begins
      exact ⟨Text.isCapital_of_mem_head?_camelCase text, begins.1⟩

theorem beginsCapital_typeName (contract : String) :
    BeginsCapital (typeName contract) ∧ (typeName contract).toList ≠ [] := by
  refine beginsCapital_capitalizedName ?_ (by decide) contract
  rintro _ ⟨⟩
  decide

theorem beginsCapital_variantName (value : String) :
    BeginsCapital (variantName value) ∧ (variantName value).toList ≠ [] := by
  refine beginsCapital_capitalizedName ?_ (by decide) value
  rintro _ ⟨⟩
  decide

/-- A numbered name is not reserved, for no reserved word has a digit. -/
theorem numbered_ne_self (wanted : String) (number : Nat) :
    wanted ++ decimalText number ≠ "Self" := by
  intro same
  have letters : "Self".toList.all fun char => !char.isDigit := rfl
  rcases List.exists_mem_of_ne_nil _ (Nat.toDigits_ne_nil (b := 10) (n := number)) with
    ⟨digit, isDigit⟩
  have isLetter : digit ∈ "Self".toList := by
    rw [← same, String.toList_append, Text.toList_decimalText]
    exact List.mem_append_right _ isDigit
  have notDigit := List.all_eq_true.mp letters digit isLetter
  rw [Text.isDigit_of_mem_toDigits isDigit] at notDigit
  cases notDigit

/-- What every name of a type is like.  It is too long to be reserved. -/
structure IsTypeName (name : String) : Prop where
  identifier : isIdentifier name
  capital : BeginsCapital name
  long : 4 < name.toList.length

namespace IsTypeName

theorem filled (named : IsTypeName name) : name.toList ≠ [] :=
  List.ne_nil_of_length_pos (Nat.zero_lt_of_lt named.long)

theorem isLegalName (named : IsTypeName name) : IsLegalName name := by
  refine isLegalName_of_capital named.identifier named.capital ?_
  rintro rfl
  exact absurd named.long (by decide)

theorem append (named : IsTypeName name) {more : String}
    (continues : ∀ char ∈ more.toList, isIdentifierContinue char) : IsTypeName (name ++ more) where
  identifier := (isIdentifier_append_iff named.filled more).mpr ⟨named.identifier, continues⟩
  capital := named.capital.append named.filled more
  long := by
    rw [String.toList_append, List.length_append]
    exact Nat.lt_add_right _ named.long

theorem appendIdentifier (named : IsTypeName name) {more : String}
    (identifier : isIdentifier more) : IsTypeName (name ++ more) :=
  named.append (isIdentifierContinue_of_isIdentifier identifier)

theorem freshName (named : IsTypeName wanted) (taken : List String) :
    IsTypeName (freshName taken wanted) := by
  rcases freshName_eq_or_numbered taken wanted with same | ⟨number, numbered⟩
  · rwa [same]
  · rw [numbered]
    exact named.append (isIdentifierContinue_of_mem_decimalText number)

end IsTypeName

/-! ## Variants -/

theorem exists_of_mem_variantsOf {variant : Variant}
    (isVariant : variant ∈ variantsOf taken texts) :
    ∃ text ∈ texts, ∃ earlier, variant.name = freshName earlier (variantName text) := by
  induction texts generalizing taken with
  | nil => cases isVariant
  | cons text rest ih =>
      rw [variantsOf] at isVariant
      rcases List.mem_cons.mp isVariant with rfl | isLater
      · exact ⟨text, List.mem_cons_self, taken, rfl⟩
      · rcases ih isLater with ⟨other, isOther, found⟩
        exact ⟨other, List.mem_cons_of_mem _ isOther, found⟩

/-- The name that a text asks for goes to a variant, unless it was taken before. -/
theorem exists_variant_of_mem (taken : List String) (isText : text ∈ texts) :
    variantName text ∈ taken ∨
      ∃ variant ∈ variantsOf taken texts, variant.name = variantName text := by
  induction texts generalizing taken with
  | nil => cases isText
  | cons first rest ih =>
      rw [variantsOf]
      by_cases isTaken : variantName text ∈ taken
      · exact .inl isTaken
      · refine .inr ?_
        rcases List.mem_cons.mp isText with rfl | isLater
        · exact ⟨_, List.mem_cons_self, freshName_of_not_mem isTaken⟩
        · rcases ih _ isLater with isTakenNow | ⟨variant, isVariant, found⟩
          · rcases List.mem_append.mp isTakenNow with isTakenBefore | isFirst
            · exact absurd isTakenBefore isTaken
            · exact ⟨_, List.mem_cons_self, (List.mem_singleton.mp isFirst).symm⟩
          · exact ⟨variant, List.mem_cons_of_mem _ isVariant, found⟩

/-- Variants are named legally when the texts make identifiers, none of them the one reserved word
that begins with a capital. -/
theorem isLegalName_variantsOf_iff :
    (∀ variant ∈ variantsOf [] texts, IsLegalName variant.name) ↔
      ∀ text ∈ texts, isIdentifier (variantName text) ∧ variantName text ≠ "Self" := by
  constructor
  · intro legal text isText
    rcases exists_variant_of_mem [] isText with isTaken | ⟨variant, isVariant, found⟩
    · cases isTaken
    · have ofVariant := legal variant isVariant
      rw [found] at ofVariant
      refine ⟨ofVariant.identifier, fun isSelf => ofVariant.unreserved ?_⟩
      rw [isSelf]
      decide
  · intro identifiers variant isVariant
    rcases exists_of_mem_variantsOf isVariant with ⟨text, isText, earlier, found⟩
    rcases identifiers text isText with ⟨identifier, notSelf⟩
    rcases beginsCapital_variantName text with ⟨capital, filled⟩
    rw [found]
    rcases freshName_eq_or_numbered earlier (variantName text) with same | ⟨number, numbered⟩
    · rw [same]
      exact isLegalName_of_capital identifier capital notSelf
    · rw [numbered]
      refine isLegalName_of_capital ?_ (capital.append filled _) (numbered_ne_self _ number)
      exact (isIdentifier_append_iff filled _).mpr
        ⟨identifier, isIdentifierContinue_of_mem_decimalText number⟩

/-! ## Fields -/

/-- The word of a field before it is compared with reserved words. -/
def fieldWord (key : String) : String :=
  let word := snakeCase key
  let word := if word.isEmpty then "field" else word
  if startsWithDigit word then "_" ++ word else word

theorem fieldWord_cases (key : String) :
    (snakeCase key = "" ∧ fieldWord key = "field") ∨
      (snakeCase key ≠ "" ∧ fieldWord key = "_" ++ snakeCase key) ∨
      (snakeCase key ≠ "" ∧ fieldWord key = snakeCase key) := by
  rw [fieldWord]
  by_cases empty : snakeCase key = ""
  · refine .inl ⟨empty, ?_⟩
    rw [empty]
    decide
  · have filled : ¬(snakeCase key).isEmpty := by rwa [String.isEmpty_iff]
    simp only [if_neg filled]
    split
    · exact .inr (.inl ⟨empty, rfl⟩)
    · exact .inr (.inr ⟨empty, rfl⟩)

/-- No field is named by a low line alone. -/
theorem fieldWord_ne_line (key : String) : fieldWord key ≠ "_" := by
  rcases fieldWord_cases key with ⟨_, isField⟩ | ⟨filled, marked⟩ | ⟨_, same⟩
  · rw [isField]
    decide
  · intro line
    rw [marked] at line
    have chars := congrArg String.toList line
    rw [String.toList_append] at chars
    exact filled (String.toList_eq_nil_iff.mp (List.cons.inj chars).2)
  · intro line
    refine Text.head?_snakeCase_ne_line key ?_
    rw [← same, line]
    rfl

theorem mem_fieldWord_of_mem_snakeCase {key : String} {char : Char}
    (isChar : char ∈ (snakeCase key).toList) : char ∈ (fieldWord key).toList := by
  rcases fieldWord_cases key with ⟨empty, _⟩ | ⟨_, marked⟩ | ⟨_, same⟩
  · rw [empty] at isChar
    cases isChar
  · rw [marked, String.toList_append]
    exact List.mem_append_right _ isChar
  · rwa [same]

namespace FieldName

theorem ofKey_cases (key : String) :
    (fieldWord key ∈ pathWords ∧ ofKey key = ⟨fieldWord key ++ "_", false⟩) ∨
      (fieldWord key ∉ pathWords ∧ fieldWord key ∈ keywords ∧ ofKey key = ⟨fieldWord key, true⟩) ∨
      (fieldWord key ∉ pathWords ∧ fieldWord key ∉ keywords ∧
        ofKey key = ⟨fieldWord key, false⟩) := by
  have made : ofKey key =
      if pathWords.contains (fieldWord key) then ⟨fieldWord key ++ "_", false⟩
      else ⟨fieldWord key, keywords.contains (fieldWord key)⟩ := rfl
  simp only [made, List.contains_iff_mem]
  by_cases isPath : fieldWord key ∈ pathWords
  · exact .inl ⟨isPath, if_pos isPath⟩
  · simp only [if_neg isPath]
    by_cases isKeyword : fieldWord key ∈ keywords
    · exact .inr (.inl ⟨isPath, isKeyword, by rw [List.contains_iff_mem.mpr isKeyword]⟩)
    · refine .inr (.inr ⟨isPath, isKeyword, ?_⟩)
      rw [Bool.eq_false_iff.mpr (mt List.contains_iff_mem.mp isKeyword)]

theorem isLegal_raw_iff :
    IsLegal ⟨word, true⟩ ↔ isIdentifier word ∧ word ≠ "_" ∧ word ∉ pathWords := by
  constructor
  · rintro ⟨identifier, notLine, unreserved⟩
    exact ⟨identifier, notLine, unreserved⟩
  · rintro ⟨identifier, notLine, unreserved⟩
    exact ⟨identifier, notLine, unreserved⟩

theorem isLegal_plain_iff : IsLegal ⟨word, false⟩ ↔ IsLegalName word := by
  constructor
  · rintro ⟨identifier, notLine, unreserved⟩
    exact ⟨identifier, notLine, unreserved⟩
  · rintro ⟨identifier, notLine, unreserved⟩
    exact ⟨identifier, notLine, unreserved⟩

/-- A field is named legally when its word is an identifier and none of the overlooked ones. -/
theorem isLegal_ofKey_iff (key : String) :
    (ofKey key).IsLegal ↔
      isIdentifier (ofKey key).word ∧ (ofKey key).word ∉ overlookedWords := by
  have keywordsSeen : ∀ word ∈ keywords, word ∉ overlookedWords := by decide
  have pathsMarked : ∀ word ∈ pathWords, isIdentifier (word ++ "_") ∧ word ++ "_" ≠ "_" ∧
      word ++ "_" ∉ reservedWords := by decide +kernel
  rcases ofKey_cases key with
    ⟨isPath, made⟩ | ⟨notPath, isKeyword, made⟩ | ⟨notPath, notKeyword, made⟩
  · rcases pathsMarked _ isPath with ⟨identifier, notLine, unreserved⟩
    have notOverlooked := mt (fun seen => mem_reservedWords_iff.mpr (.inr (.inr seen))) unreserved
    rw [made, isLegal_plain_iff]
    dsimp only
    exact iff_of_true ⟨identifier, notLine, unreserved⟩ ⟨identifier, notOverlooked⟩
  · rw [made, isLegal_raw_iff]
    dsimp only
    exact and_congr_right fun _ =>
      iff_of_true ⟨fieldWord_ne_line key, notPath⟩ (keywordsSeen _ isKeyword)
  · rw [made, isLegal_plain_iff]
    dsimp only
    constructor
    · intro legal
      refine ⟨legal.identifier, fun overlooked => legal.unreserved ?_⟩
      exact mem_reservedWords_iff.mpr (.inr (.inr overlooked))
    · rintro ⟨identifier, notOverlooked⟩
      refine ⟨identifier, fieldWord_ne_line key, fun reserved => ?_⟩
      rcases mem_reservedWords_iff.mp reserved with isKeyword | isPath | overlooked
      · exact notKeyword isKeyword
      · exact notPath isPath
      · exact notOverlooked overlooked

/-- A key that makes a field can stand in the name of a type. -/
theorem isIdentifierContinue_camelCase {key : String} (identifier : isIdentifier (ofKey key).word) :
    ∀ char ∈ (camelCase key).toList, isIdentifierContinue char := by
  refine Text.isIdentifierContinue_camelCase fun char isChar => ?_
  refine isIdentifierContinue_of_isIdentifier identifier char ?_
  have inWord := mem_fieldWord_of_mem_snakeCase isChar
  rcases ofKey_cases key with ⟨_, made⟩ | ⟨_, _, made⟩ | ⟨_, _, made⟩ <;> rw [made] <;> dsimp only
  · rw [String.toList_append]
    exact List.mem_append_left _ inWord
  · exact inWord
  · exact inWord

end FieldName

end ApiContract.Bindings
