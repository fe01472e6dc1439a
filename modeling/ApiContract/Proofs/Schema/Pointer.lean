import ApiContract.Schema.Document.Judgement

/-!
# Pointers are read back

A pointer separates its steps by slashes, and no slash stands within a step as it is written.  So
the pointer falls apart into the steps that it was made of, whatever characters they have.
-/

namespace ApiContract

namespace Text

variable {separator : Char} {front rest : List Char}

theorem splitOnChar_of_not_mem (absent : separator ∉ front) :
    splitOnChar separator front = [front] := by
  induction front with
  | nil => rfl
  | cons char front ih =>
      rw [List.mem_cons, not_or] at absent
      rw [splitOnChar, if_neg (Ne.symm absent.1), ih absent.2]

theorem splitOnChar_append_cons (absent : separator ∉ front) :
    splitOnChar separator (front ++ separator :: rest) = front :: splitOnChar separator rest := by
  induction front with
  | nil => rw [List.nil_append, splitOnChar, if_pos rfl]
  | cons char front ih =>
      rw [List.mem_cons, not_or] at absent
      rw [List.cons_append, splitOnChar, if_neg (Ne.symm absent.1), ih absent.2]

end Text

namespace Pointer

variable {mark replacement char next : Char} {rest : List Char}

/-! ## Steps -/

theorem replaceMarked_marked :
    replaceMarked mark replacement ('~' :: mark :: rest) =
      replacement :: replaceMarked mark replacement rest := by
  rw [replaceMarked, if_pos rfl]

theorem replaceMarked_unmarked (other : next ≠ mark) :
    replaceMarked mark replacement ('~' :: next :: rest) =
      '~' :: replaceMarked mark replacement (next :: rest) := by
  rw [replaceMarked, if_neg other]

theorem replaceMarked_cons (other : char ≠ '~') :
    replaceMarked mark replacement (char :: rest) =
      char :: replaceMarked mark replacement rest := by
  rw [replaceMarked]
  rintro _ _ rfl
  exact absurd rfl other

/-- A character of a step of which only tildes are still marked. -/
def markTilde (char : Char) : List Char :=
  if char = '~' then ['~', '0'] else [char]

theorem replaceMarked_slashes (chars : List Char) :
    replaceMarked '1' '/' (chars.flatMap escapeChar) = chars.flatMap markTilde := by
  induction chars with
  | nil => rfl
  | cons char rest ih =>
      rw [List.flatMap_cons, List.flatMap_cons, ← ih, escapeChar, markTilde]
      by_cases tilde : char = '~'
      -- The mark of a tilde is no mark of a slash, and what follows it starts anew.
      · rw [if_pos tilde, if_pos tilde, List.cons_append, List.cons_append, List.nil_append,
          replaceMarked_unmarked (by decide), replaceMarked_cons (by decide)]
        rfl
      · rw [if_neg tilde, if_neg tilde]
        by_cases slash : char = '/'
        · rw [if_pos slash, List.cons_append, List.cons_append, List.nil_append,
            replaceMarked_marked, slash]
          rfl
        · rw [if_neg slash, List.cons_append, List.nil_append, replaceMarked_cons tilde]
          rfl

theorem replaceMarked_tildes (chars : List Char) :
    replaceMarked '0' '~' (chars.flatMap markTilde) = chars := by
  induction chars with
  | nil => rfl
  | cons char rest ih =>
      rw [List.flatMap_cons, markTilde]
      by_cases tilde : char = '~'
      · rw [if_pos tilde, List.cons_append, List.cons_append, List.nil_append,
          replaceMarked_marked, ih, tilde]
      · rw [if_neg tilde, List.cons_append, List.nil_append, replaceMarked_cons tilde, ih]

theorem unescape_escape (chars : List Char) : unescape (chars.flatMap escapeChar) = chars := by
  rw [unescape, replaceMarked_slashes, replaceMarked_tildes]

theorem slash_not_mem_escape (chars : List Char) : '/' ∉ chars.flatMap escapeChar := by
  rw [List.mem_flatMap]
  rintro ⟨char, _, inStep⟩
  rw [escapeChar] at inStep
  split at inStep
  · simp at inStep
  · split at inStep
    · simp at inStep
    · next slash => exact slash (List.mem_singleton.mp inStep).symm

/-! ## Whole pointers -/

/-- The steps are separated one by one, after what stands before the first of them. -/
theorem splitOnChar_escaped {front : List Char} (absent : '/' ∉ front) (steps : List String) :
    Text.splitOnChar '/'
        (front ++ steps.flatMap fun step => '/' :: step.toList.flatMap escapeChar) =
      front :: steps.map fun step => step.toList.flatMap escapeChar := by
  induction steps generalizing front with
  | nil =>
      rw [List.flatMap_nil, List.append_nil, Text.splitOnChar_of_not_mem absent]
      rfl
  | cons step rest ih =>
      rw [List.flatMap_cons, List.cons_append, Text.splitOnChar_append_cons absent,
        ih (slash_not_mem_escape _), List.map_cons]

theorem steps_text (path : List String) : steps (text path) = path := by
  have separated := splitOnChar_escaped List.not_mem_nil path
  rw [List.nil_append] at separated
  rw [steps, text, String.toList_ofList, separated, List.drop_one, List.tail_cons]
  simp [Function.comp_def, unescape_escape]

end Pointer

namespace Json.Violation

/-- Where the violation stands: at a value, or at the member that this lacks. -/
def path (violation : Violation) : List String :=
  violation.steps ++ violation.missing?.toList

variable {violation : Violation}

/-- The issue of a violation stands where the violation does. -/
theorem path_toIssue : violation.toIssue.path = violation.path := by
  rw [toIssue, pointer, Pointer.steps_text, path]

@[simp] theorem path_here (message : String) : (here message).path = [] :=
  rfl

@[simp] theorem path_ofMissing (name : String) : (ofMissing name).path = [name] :=
  rfl

@[simp] theorem path_below (key : String) : (violation.below key).path = key :: violation.path :=
  rfl

end Json.Violation

/-- The steps `a/b` and `~1` are told from the steps `a` and `b` and from a slash. -/
example : Pointer.text ["a/b", "~1"] = "/a~1b/~01" ∧
    Pointer.steps "/a~1b/~01" = ["a/b", "~1"] :=
  ⟨rfl, rfl⟩

end ApiContract
