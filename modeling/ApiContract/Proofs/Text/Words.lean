import ApiContract.Proofs.Text.LetterCase

/-!
# Words and what is written of them

The words of a text are not empty and have letters and digits only.  A text in camel case has no
other characters than identifiers can hold when this is so of the text in snake case.  It begins
like no reserved word of small letters.
-/

namespace ApiContract.Text

open Bindings (isIdentifierContinue)

variable {text : String} {word chars : List Char}

/-! ## The words of a text -/

/-- The runs hold what passes the test. -/
theorem flatten_runsOf (test : Char → Bool) (chars : List Char) :
    (runsOf test chars).flatten = chars.filter test := by
  induction chars with
  | nil => rfl
  | cons char rest ih =>
      rw [runsOf.eq_def]
      split
      · next isNil => cases isNil
      · next isCons =>
          cases isCons
          split
          · next passes =>
              rw [List.filter_cons_of_pos passes, ← ih]
              split
              · next isRuns =>
                  rw [isRuns]
                  split <;> rfl
              · rfl
          · next fails => rw [List.filter_cons_of_neg fails, ih]

theorem test_of_mem_runsOf {test : Char → Bool} {run : List Char}
    (isRun : run ∈ runsOf test chars) :
    ∀ char ∈ run, test char := by
  intro char isChar
  have inFlatten := List.mem_flatten_of_mem isRun isChar
  rw [flatten_runsOf] at inFlatten
  exact (List.mem_filter.mp inFlatten).2

/-- A word takes its characters from the word so far and from what is read.  It is not empty, since
a letter was read before a word ends in front of the last one. -/
theorem wordsFrom_filled {wordCase : WordCase} {found : List Char}
    (started : wordCase = .open ∨ word ≠ []) (isWord : found ∈ wordsFrom wordCase word chars) :
    found ≠ [] ∧ ∀ char ∈ found, char ∈ word ∨ char ∈ chars := by
  induction wordCase, word, chars using wordsFrom.induct generalizing found with
  | case1 wordCase word empty =>
      rw [wordsFrom, if_pos empty] at isWord
      cases isWord
  | case2 wordCase word filled =>
      rw [wordsFrom, if_neg filled] at isWord
      rw [List.mem_singleton.mp isWord]
      exact ⟨by simpa using filled, fun _ => .inl⟩
  | case3 wordCase word last =>
      rw [wordsFrom] at isWord
      rw [List.mem_singleton.mp isWord]
      exact ⟨by simp, fun _ => List.mem_append.mp⟩
  | case4 wordCase word char next rest ends ih =>
      rw [wordsFrom, if_pos ends] at isWord
      rcases List.mem_cons.mp isWord with rfl | isLater
      · refine ⟨by simp, fun other isOther => (List.mem_append.mp isOther).imp_right ?_⟩
        exact fun isChar => List.mem_cons.mpr (.inl (List.mem_singleton.mp isChar))
      · rcases ih (.inl rfl) isLater with ⟨filled, taken⟩
        exact ⟨filled, fun other isOther =>
          .inr (List.mem_cons_of_mem _ ((taken other isOther).resolve_left List.not_mem_nil))⟩
  | case5 wordCase word char next rest goesOn ends ih =>
      rw [wordsFrom, if_neg goesOn, if_pos ends] at isWord
      rcases List.mem_cons.mp isWord with rfl | isLater
      · refine ⟨started.resolve_left ?_, fun _ => .inl⟩
        rw [ends.1]
        decide
      · rcases ih (.inl rfl) isLater with ⟨filled, taken⟩
        refine ⟨filled, fun other isOther => .inr ?_⟩
        rcases taken other isOther with isChar | isRead
        · exact List.mem_cons.mpr (.inl (List.mem_singleton.mp isChar))
        · exact List.mem_cons_of_mem _ isRead
  | case6 wordCase word char next rest goesOn stays ih =>
      rw [wordsFrom, if_neg goesOn, if_neg stays] at isWord
      have filledNext : word ++ [char] ≠ [] := by simp
      rcases ih (.inr filledNext) isWord with ⟨filled, taken⟩
      refine ⟨filled, fun other isOther => ?_⟩
      rcases taken other isOther with inWord | isRead
      · refine (List.mem_append.mp inWord).imp_right fun isChar => ?_
        exact List.mem_cons.mpr (.inl (List.mem_singleton.mp isChar))
      · exact .inr (List.mem_cons_of_mem _ isRead)

/-- Words are not empty, and letters and digits only. -/
theorem mem_words (isWord : word ∈ words text) :
    word ≠ [] ∧ ∀ char ∈ word, isAlphanumeric char := by
  rcases List.mem_flatMap.mp isWord with ⟨run, isRun, inRun⟩
  rcases wordsFrom_filled (.inl rfl) inRun with ⟨filled, taken⟩
  refine ⟨filled, fun char isChar => ?_⟩
  exact test_of_mem_runsOf isRun char ((taken char isChar).resolve_left List.not_mem_nil)

/-! ## Words in lower case -/

theorem lowercaseWord_cons (char : Char) (rest : List Char) :
    lowercaseWord (char :: rest) = lowercase char ++ lowercaseWord rest ∨
      char = 'Σ' ∧ rest = [] ∧ lowercaseWord (char :: rest) = ['ς'] := by
  rw [lowercaseWord.eq_def]
  split
  · next isNil => cases isNil
  · next isFinal =>
      cases isFinal
      exact .inr ⟨rfl, rfl, rfl⟩
  · next isCons =>
      cases isCons
      exact .inl rfl

theorem lowercaseWord_ne_nil (filled : word ≠ []) : lowercaseWord word ≠ [] := by
  rcases List.exists_cons_of_ne_nil filled with ⟨char, rest, rfl⟩
  rcases lowercaseWord_cons char rest with becomes | ⟨_, _, becomes⟩ <;> rw [becomes]
  · exact List.append_ne_nil_of_left_ne_nil (lowercase_ne_nil char) _
  · exact List.cons_ne_nil _ _

/-- No low line stands in a word. -/
theorem ne_line_of_mem_lowercaseWord (alphanumeric : ∀ char ∈ word, isAlphanumeric char) :
    ∀ small ∈ lowercaseWord word, small ≠ '_' := by
  induction word with
  | nil => exact fun _ isSmall => absurd isSmall List.not_mem_nil
  | cons char rest ih =>
      rcases List.forall_mem_cons.mp alphanumeric with ⟨first, others⟩
      rcases lowercaseWord_cons char rest with becomes | ⟨_, _, becomes⟩ <;> rw [becomes]
      · exact List.forall_mem_append.mpr ⟨ne_line_of_mem_lowercase first, ih others⟩
      · exact List.forall_mem_singleton.mpr (by decide)

/-- An identifier can hold a capitalized word when it can hold the word in lower case. -/
theorem isIdentifierContinue_capitalized
    (continues : ∀ small ∈ lowercaseWord word, isIdentifierContinue small) :
    ∀ char ∈ capitalized word, isIdentifierContinue char := by
  cases word with
  | nil => exact fun _ isChar => absurd isChar List.not_mem_nil
  | cons first rest =>
      rw [capitalized]
      rcases lowercaseWord_cons first rest with becomes | ⟨rfl, rfl, _⟩
      · rw [becomes, List.forall_mem_append] at continues
        rw [List.forall_mem_append]
        have ofFirst := isIdentifierContinue_of_lowercase continues.1
        exact ⟨isIdentifierContinue_uppercase ofFirst, continues.2⟩
      · have ofSigma : isIdentifierContinue 'Σ' := by decide +kernel
        rw [lowercaseWord, List.append_nil]
        exact isIdentifierContinue_uppercase ofSigma

/-! ## Texts in snake case and in camel case -/

theorem toList_snakeCase (text : String) :
    (snakeCase text).toList = ['_'].intercalate ((words text).map lowercaseWord) := by
  rw [snakeCase, String.toList_intercalate, List.map_map]
  simp only [Function.comp_def, String.toList_ofList]
  rfl

theorem toList_camelCase (text : String) :
    (camelCase text).toList = (words text).flatMap capitalized := by
  rw [camelCase, String.toList_ofList]

/-- What is joined stands in the whole. -/
theorem mem_intercalate_of_mem {separator piece : List Char} {pieces : List (List Char)}
    {char : Char} (isPiece : piece ∈ pieces) (isChar : char ∈ piece) :
    char ∈ separator.intercalate pieces := by
  induction pieces with
  | nil => cases isPiece
  | cons first rest ih =>
      cases rest with
      | nil =>
          rw [List.intercalate_singleton]
          rwa [List.mem_singleton.mp isPiece] at isChar
      | cons second others =>
          rw [List.intercalate_cons_cons, List.mem_append, List.mem_append]
          rcases List.mem_cons.mp isPiece with rfl | isLater
          · exact .inl (.inl isChar)
          · exact .inr (ih isLater)

theorem head?_append_of_filled {front : List Char} (filled : front ≠ []) (back : List Char) :
    (front ++ back).head? = front.head? := by
  rw [List.head?_append, Option.or_of_isSome (List.isSome_head?.mpr filled)]

theorem head?_intercalate_cons {separator first : List Char} (filled : first ≠ [])
    (rest : List (List Char)) : (separator.intercalate (first :: rest)).head? = first.head? := by
  cases rest with
  | nil => rw [List.intercalate_singleton]
  | cons second others =>
      rw [List.intercalate_cons_cons, List.append_assoc, head?_append_of_filled filled]

/-- An identifier can hold a text in camel case when it can hold it in snake case. -/
theorem isIdentifierContinue_camelCase
    (continues : ∀ char ∈ (snakeCase text).toList, isIdentifierContinue char) :
    ∀ char ∈ (camelCase text).toList, isIdentifierContinue char := by
  rw [toList_snakeCase] at continues
  rw [toList_camelCase]
  intro char isChar
  rcases List.mem_flatMap.mp isChar with ⟨word, isWord, inWord⟩
  refine isIdentifierContinue_capitalized (fun small isSmall => ?_) char inWord
  exact continues small (mem_intercalate_of_mem (List.mem_map_of_mem isWord) isSmall)

/-- A text in snake case does not begin with a low line. -/
theorem head?_snakeCase_ne_line (text : String) : (snakeCase text).toList.head? ≠ some '_' := by
  rw [toList_snakeCase]
  cases areWords : words text with
  | nil => exact fun line => nomatch line
  | cons first rest =>
      rcases mem_words (areWords ▸ List.mem_cons_self) with ⟨filled, alphanumeric⟩
      rw [List.map_cons, head?_intercalate_cons (lowercaseWord_ne_nil filled)]
      intro line
      exact ne_line_of_mem_lowercaseWord alphanumeric '_' (List.mem_of_mem_head? line) rfl

/-- A text in camel case does not begin with a low line or a small letter of ASCII. -/
theorem isCapital_of_mem_head?_camelCase (text : String) :
    ∀ first ∈ (camelCase text).toList.head?, IsCapital first := by
  rw [toList_camelCase]
  cases areWords : words text with
  | nil => exact fun _ isFirst => nomatch isFirst
  | cons word rest =>
      rcases mem_words (areWords ▸ List.mem_cons_self) with ⟨filled, alphanumeric⟩
      rcases List.exists_cons_of_ne_nil filled with ⟨char, others, rfl⟩
      rw [List.flatMap_cons, capitalized, List.append_assoc,
        head?_append_of_filled (uppercase_ne_nil char)]
      intro first isFirst
      exact isCapital_uppercase (alphanumeric char List.mem_cons_self) first
        (List.mem_of_mem_head? isFirst)

end ApiContract.Text
