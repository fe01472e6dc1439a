import ApiContract.Bindings.Name
import Mathlib.Data.List.TakeWhile

/-!
# Letter case and identifiers

A letter that an identifier can hold keeps this property in its other case, and what becomes of a
letter in upper case is no small letter of ASCII.  Both are facts about the tables of letter case
and of identifiers.  The tables are compared by their ranges and runs, not character by character.
-/

namespace ApiContract.Text

open Bindings (isIdentifierStart isIdentifierContinue)
open Unicode (CaseRun)

variable {char : Char} {point : Nat} {ranges intervals : List (Nat × Nat)}

/-! ## Code points -/

theorem toNat_ofNat_of_isValidChar (isValid : point.isValidChar) :
    (Char.ofNat point).toNat = point := by
  have isAux : Char.ofNat point = Char.ofNatAux point isValid := dif_pos isValid
  rw [isAux]
  rfl

/-- What is no character stands for the character zero. -/
theorem toNat_ofNat_of_not_isValidChar (invalid : ¬point.isValidChar) :
    (Char.ofNat point).toNat = 0 := by
  have isZero : Char.ofNat point = Char.ofNat 0 := dif_neg invalid
  rw [isZero]
  rfl

/-! ## Ranges -/

theorem inRanges_iff :
    inRanges ranges point ↔ ∃ range ∈ ranges, range.1 ≤ point ∧ point ≤ range.2 := by
  simp [inRanges]

/-- The interval lies in the range. -/
def liesIn (range interval : Nat × Nat) : Bool :=
  range.1.ble interval.1 && interval.2.ble range.2

theorem liesIn_iff {range interval : Nat × Nat} :
    liesIn range interval ↔ range.1 ≤ interval.1 ∧ interval.2 ≤ range.2 := by
  rw [liesIn, Bool.and_eq_true, Nat.ble_eq, Nat.ble_eq]

theorem inRanges_of_liesIn {range interval : Nat × Nat} (isRange : range ∈ ranges)
    (lies : liesIn range interval) (above : interval.1 ≤ point) (below : point ≤ interval.2) :
    inRanges ranges point := by
  rcases liesIn_iff.mp lies with ⟨low, high⟩
  exact inRanges_iff.mpr ⟨range, isRange, Nat.le_trans low above, Nat.le_trans below high⟩

/-- What is left of intervals when each range takes those from the front that lie in it. -/
def sweep (ranges intervals : List (Nat × Nat)) : List (Nat × Nat) :=
  ranges.foldl (fun rest range => rest.dropWhile (liesIn range)) intervals

theorem exists_liesIn_of_sweep (swept : sweep ranges intervals = []) {interval : Nat × Nat}
    (isInterval : interval ∈ intervals) : ∃ range ∈ ranges, liesIn range interval := by
  induction ranges generalizing intervals with
  | nil =>
      rw [show intervals = [] from swept] at isInterval
      cases isInterval
  | cons range rest ih =>
      rw [← List.takeWhile_append_dropWhile (p := liesIn range) (l := intervals)] at isInterval
      rcases List.mem_append.mp isInterval with front | back
      · exact ⟨range, List.mem_cons_self, List.mem_takeWhile_imp front⟩
      · rcases ih swept back with ⟨other, isOther, lies⟩
        exact ⟨other, List.mem_cons_of_mem _ isOther, lies⟩

/-- Where nothing is left, the ranges hold all that the intervals hold. -/
theorem inRanges_of_sweep (swept : sweep ranges intervals = [])
    (inside : inRanges intervals point) : inRanges ranges point := by
  rcases inRanges_iff.mp inside with ⟨interval, isInterval, above, below⟩
  rcases exists_liesIn_of_sweep swept isInterval with ⟨range, isRange, lies⟩
  exact inRanges_of_liesIn isRange lies above below

/-- A character that can begin an identifier can stand later in it. -/
theorem isIdentifierContinue_of_start (starts : isIdentifierStart char) :
    isIdentifierContinue char := by
  rcases Bool.or_eq_true_iff.mp starts with line | inStart
  · rw [beq_iff_eq.mp line]
    decide +kernel
  · have swept : sweep Unicode.identifierContinueRanges Unicode.identifierStartRanges = [] := by
      decide +kernel
    exact inRanges_of_sweep swept inStart

/-! ## The other case of a character -/

/-- What a character of a run becomes. -/
def Unicode.CaseRun.image (run : CaseRun) (point : Nat) : Nat :=
  (point + run.shift).toNat

theorem Unicode.CaseRun.bounds_of_holds {run : CaseRun} (held : run.holds point) :
    run.first ≤ point ∧ point ≤ run.last := by
  simp only [CaseRun.holds, Bool.and_eq_true, decide_eq_true_eq] at held
  exact held.1

theorem Unicode.CaseRun.image_bounds {run : CaseRun} (held : run.holds point) :
    run.image run.first ≤ run.image point ∧ run.image point ≤ run.image run.last := by
  rcases CaseRun.bounds_of_holds held with ⟨above, below⟩
  simp only [image]
  omega

/-- A character becomes several, or what its run makes of it, or stays as it is. -/
theorem recased_cases (runs : List CaseRun) (several : List (Nat × List Nat)) (char : Char) :
    (∃ points, (char.toNat, points) ∈ several ∧
        recased runs several char = points.map Char.ofNat) ∨
      (∃ run ∈ runs, run.holds char.toNat ∧
        recased runs several char = [Char.ofNat (run.image char.toNat)]) ∨
      ((∀ run ∈ runs, ¬run.holds char.toNat) ∧ recased runs several char = [char]) := by
  rw [recased]
  cases listed : several.lookup char.toNat with
  | some points =>
      rcases List.lookup_eq_some_iff.mp listed with ⟨before, after, split, _⟩
      exact .inl ⟨points, split ▸ List.mem_append_right before List.mem_cons_self, rfl⟩
  | none =>
      cases found : runs.find? fun run => run.holds char.toNat with
      | some run =>
          have held : run.holds char.toNat := by simpa using List.find?_some found
          exact .inr (.inl ⟨run, List.mem_of_find?_eq_some found, held, rfl⟩)
      | none => exact .inr (.inr ⟨List.find?_eq_none.mp found, rfl⟩)

/-- All that a run makes of its characters lies in the ranges. -/
def Unicode.CaseRun.landsIn (ranges : List (Nat × Nat)) (run : CaseRun) : Bool :=
  (ranges.any fun range => liesIn range (run.image run.first, run.image run.last)) ||
    (List.range ((run.last - run.first) / run.step + 1)).all fun index =>
      inRanges ranges (run.image (run.first + index * run.step))

theorem Unicode.CaseRun.inRanges_image {run : CaseRun} (lands : run.landsIn ranges)
    (held : run.holds point) : inRanges ranges (run.image point) := by
  rcases Bool.or_eq_true_iff.mp lands with whole | each
  · rcases List.any_eq_true.mp whole with ⟨range, isRange, lies⟩
    rcases image_bounds held with ⟨above, below⟩
    exact inRanges_of_liesIn isRange lies above below
  · rcases bounds_of_holds held with ⟨above, below⟩
    simp only [holds, Bool.and_eq_true, decide_eq_true_eq, beq_iff_eq] at held
    -- A character of the run stands some steps after the first.
    have place : point = run.first + (point - run.first) / run.step * run.step := by
      have whole := Nat.div_mul_cancel (Nat.dvd_of_mod_eq_zero held.2)
      omega
    rw [place]
    refine List.all_eq_true.mp each _ (List.mem_range.mpr ?_)
    exact Nat.lt_succ_of_le (Nat.div_le_div_right (Nat.sub_le_sub_right below _))

/-! ## Letters of identifiers -/

/-- Ranges of identifiers that hold every letter with a lower-case counterpart, and all that
becomes of a letter in upper case, circled letters apart. -/
def casedRanges : List (Nat × Nat) :=
  [(65, 90), (97, 122), (192, 214), (216, 246), (248, 705), (768, 884), (886, 887), (895, 895),
    (902, 906), (908, 908), (910, 929), (931, 1013), (1015, 1153), (1162, 1327), (1329, 1366),
    (4256, 4293), (4295, 4295), (4301, 4301), (5024, 5109), (7312, 7354), (7357, 7359),
    (7424, 7957), (7960, 7965), (7968, 8005), (8008, 8013), (8025, 8025), (8027, 8027),
    (8029, 8029), (8031, 8061), (8064, 8116), (8118, 8124), (8134, 8140), (8150, 8155),
    (8160, 8172), (8182, 8188), (8486, 8486), (8490, 8505), (8544, 8584), (11264, 11492),
    (11499, 11507), (42560, 42607), (42623, 42737), (42786, 42888), (42891, 42954),
    (42960, 42961), (42965, 42969), (42994, 43047), (65313, 65338), (66560, 66717),
    (66736, 66771), (66928, 66938), (66940, 66954), (66956, 66962), (66964, 66965),
    (68736, 68786), (71840, 71913), (93760, 93823), (125184, 125259)]

theorem isIdentifierContinue_of_cased (cased : inRanges casedRanges char.toNat) :
    isIdentifierContinue char := by
  have swept : sweep Unicode.identifierContinueRanges casedRanges = [] := by decide +kernel
  exact inRanges_of_sweep swept cased

theorem isIdentifierContinue_ofNat_of_cased (cased : inRanges casedRanges point) :
    isIdentifierContinue (Char.ofNat point) := by
  have valid : ∀ range ∈ casedRanges,
      range.2 < 0xd800 ∨ 0xdfff < range.1 ∧ range.2 < 0x110000 := by decide +kernel
  rcases inRanges_iff.mp cased with ⟨range, isRange, above, below⟩
  have isValid : point.isValidChar := by
    rcases valid range isRange with low | ⟨between, high⟩
    · exact .inl (by omega)
    · exact .inr (by omega)
  refine isIdentifierContinue_of_cased ?_
  rwa [toNat_ofNat_of_isValidChar isValid]

/-- No identifier has a circled letter. -/
theorem not_isIdentifierContinue_of_circled (above : 9398 ≤ char.toNat)
    (below : char.toNat ≤ 9449) : ¬isIdentifierContinue char := by
  have apart : ∀ range ∈ Unicode.identifierContinueRanges, range.2 < 9398 ∨ 9449 < range.1 := by
    decide +kernel
  intro continues
  rcases inRanges_iff.mp continues with ⟨range, isRange, first, last⟩
  rcases apart range isRange with before | after <;> omega

/-- A run of circled letters becomes circled letters. -/
def Unicode.CaseRun.isCircled (run : CaseRun) : Bool :=
  Nat.ble 9398 run.first && Nat.ble run.last 9449 && Nat.ble 9398 (run.image run.first) &&
    Nat.ble (run.image run.last) 9449

theorem Unicode.CaseRun.not_isIdentifierContinue_of_isCircled {run : CaseRun}
    (circled : run.isCircled) (held : run.holds char.toNat) :
    ¬isIdentifierContinue char ∧ ¬isIdentifierContinue (Char.ofNat (run.image char.toNat)) := by
  simp only [isCircled, Bool.and_eq_true, Nat.ble_eq] at circled
  rcases bounds_of_holds held with ⟨above, below⟩
  rcases image_bounds held with ⟨imageAbove, imageBelow⟩
  constructor
  · exact not_isIdentifierContinue_of_circled (by omega) (by omega)
  · have isValid : (run.image char.toNat).isValidChar := .inl (by omega)
    apply not_isIdentifierContinue_of_circled <;> rw [toNat_ofNat_of_isValidChar isValid] <;> omega

/-- An identifier can hold a character when it can hold what the character is in lower case. -/
theorem isIdentifierContinue_of_lowercase
    (continues : ∀ small ∈ lowercase char, isIdentifierContinue small) :
    isIdentifierContinue char := by
  have several : ∀ entry ∈ Unicode.severalInLowercase, inRanges casedRanges entry.1 := by
    decide +kernel
  have runs : ∀ run ∈ Unicode.toLowercaseRuns,
      run.isCircled || CaseRun.landsIn casedRanges { run with shift := 0 } := by decide +kernel
  rw [lowercase] at continues
  rcases recased_cases Unicode.toLowercaseRuns Unicode.severalInLowercase char with
    ⟨points, listed, _⟩ | ⟨run, isRun, held, becomes⟩ | ⟨_, becomes⟩
  · exact isIdentifierContinue_of_cased (several _ listed)
  · rw [becomes, List.forall_mem_singleton] at continues
    rcases Bool.or_eq_true_iff.mp (runs run isRun) with circled | lands
    · exact absurd continues (CaseRun.not_isIdentifierContinue_of_isCircled circled held).2
    · refine isIdentifierContinue_of_cased ?_
      have cased := CaseRun.inRanges_image lands held
      simpa [CaseRun.image] using cased
  · rwa [becomes, List.forall_mem_singleton] at continues

/-- What becomes of a character of an identifier in upper case can stand in it, too. -/
theorem isIdentifierContinue_uppercase (continues : isIdentifierContinue char) :
    ∀ capital ∈ uppercase char, isIdentifierContinue capital := by
  have several : ∀ entry ∈ Unicode.severalInUppercase, ∀ point ∈ entry.2,
      inRanges casedRanges point := by decide +kernel
  have runs : ∀ run ∈ Unicode.toUppercaseRuns, run.isCircled || run.landsIn casedRanges := by
    decide +kernel
  rw [uppercase]
  rcases recased_cases Unicode.toUppercaseRuns Unicode.severalInUppercase char with
    ⟨points, listed, becomes⟩ | ⟨run, isRun, held, becomes⟩ | ⟨_, becomes⟩ <;> rw [becomes]
  · rw [List.forall_mem_map]
    exact fun point isPoint => isIdentifierContinue_ofNat_of_cased (several _ listed point isPoint)
  · rw [List.forall_mem_singleton]
    rcases Bool.or_eq_true_iff.mp (runs run isRun) with circled | lands
    · exact absurd continues (CaseRun.not_isIdentifierContinue_of_isCircled circled held).1
    · exact isIdentifierContinue_ofNat_of_cased (CaseRun.inRanges_image lands held)
  · rwa [List.forall_mem_singleton]

/-! ## Small letters and low lines -/

theorem recased_ne_nil {runs : List CaseRun} {several : List (Nat × List Nat)}
    (filled : ∀ entry ∈ several, entry.2 ≠ []) (char : Char) : recased runs several char ≠ [] := by
  rcases recased_cases runs several char with
    ⟨points, listed, becomes⟩ | ⟨_, _, _, becomes⟩ | ⟨_, becomes⟩ <;> rw [becomes]
  · exact fun empty => filled _ listed (List.map_eq_nil_iff.mp empty)
  · exact List.cons_ne_nil _ _
  · exact List.cons_ne_nil _ _

theorem lowercase_ne_nil (char : Char) : lowercase char ≠ [] :=
  recased_ne_nil (by decide) char

theorem uppercase_ne_nil (char : Char) : uppercase char ≠ [] :=
  recased_ne_nil (by decide +kernel) char

/-- The code point is not one of an interval. -/
def IsOutside (low high point : Nat) : Prop :=
  point < low ∨ high < point

instance (low high point : Nat) : Decidable (IsOutside low high point) :=
  inferInstanceAs (Decidable (point < low ∨ high < point))

theorem isOutside_toNat_ofNat {low high : Nat} (positive : 0 < low)
    (outside : IsOutside low high point) : IsOutside low high (Char.ofNat point).toNat := by
  by_cases isValid : point.isValidChar
  · rwa [toNat_ofNat_of_isValidChar isValid]
  · rw [toNat_ofNat_of_not_isValidChar isValid]
    exact .inl positive

/-- What a character becomes is outside of an interval when this holds of all that is listed, and
of the character if it stays as it is. -/
theorem isOutside_recased {runs : List CaseRun} {several : List (Nat × List Nat)} {low high : Nat}
    (positive : 0 < low)
    (ofSeveral : ∀ entry ∈ several, ∀ point ∈ entry.2, IsOutside low high point)
    (ofRuns : ∀ run ∈ runs, run.image run.last < low ∨ high < run.image run.first)
    (ofSame : (∀ run ∈ runs, ¬run.holds char.toNat) → IsOutside low high char.toNat) :
    ∀ other ∈ recased runs several char, IsOutside low high other.toNat := by
  rcases recased_cases runs several char with
    ⟨points, listed, becomes⟩ | ⟨run, isRun, held, becomes⟩ | ⟨unheld, becomes⟩ <;> rw [becomes]
  · rw [List.forall_mem_map]
    exact fun point isPoint => isOutside_toNat_ofNat positive (ofSeveral _ listed point isPoint)
  · rw [List.forall_mem_singleton]
    apply isOutside_toNat_ofNat positive
    rcases CaseRun.image_bounds held with ⟨above, below⟩
    rcases ofRuns run isRun with before | after
    · exact .inl (Nat.lt_of_le_of_lt below before)
    · exact .inr (Nat.lt_of_lt_of_le after above)
  · rw [List.forall_mem_singleton]
    exact ofSame unheld

/-- Letters and digits are no low lines. -/
theorem isOutside_of_isAlphanumeric (alphanumeric : isAlphanumeric char) :
    IsOutside 95 96 char.toNat := by
  have apart : ∀ range ∈ Unicode.alphanumericRanges, range.2 < 95 ∨ 96 < range.1 := by
    decide +kernel
  rcases inRanges_iff.mp alphanumeric with ⟨range, isRange, above, below⟩
  rcases apart range isRange with before | after
  · exact .inl (Nat.lt_of_le_of_lt below before)
  · exact .inr (Nat.lt_of_lt_of_le after above)

/-- No letter or digit becomes a low line in lower case. -/
theorem ne_line_of_mem_lowercase (alphanumeric : isAlphanumeric char) :
    ∀ small ∈ lowercase char, small ≠ '_' := by
  have several : ∀ entry ∈ Unicode.severalInLowercase, ∀ point ∈ entry.2,
      IsOutside 95 95 point := by decide +kernel
  have runs : ∀ run ∈ Unicode.toLowercaseRuns,
      run.image run.last < 95 ∨ 95 < run.image run.first := by decide +kernel
  rintro small isSmall rfl
  have outside : IsOutside 95 95 '_'.toNat := by
    refine isOutside_recased (by decide) several runs (fun _ => ?_) _ isSmall
    exact (isOutside_of_isAlphanumeric alphanumeric).imp_right Nat.lt_of_succ_lt
  exact absurd outside (by decide)

/-- Neither a low line nor a small letter of ASCII. -/
def IsCapital (char : Char) : Prop :=
  IsOutside 95 122 char.toNat

instance (char : Char) : Decidable (IsCapital char) :=
  inferInstanceAs (Decidable (IsOutside 95 122 char.toNat))

/-- In upper case, a letter or digit is neither a low line nor a small letter of ASCII. -/
theorem isCapital_uppercase (alphanumeric : isAlphanumeric char) :
    ∀ capital ∈ uppercase char, IsCapital capital := by
  have several : ∀ entry ∈ Unicode.severalInUppercase, ∀ point ∈ entry.2,
      IsOutside 95 122 point := by decide +kernel
  have runs : ∀ run ∈ Unicode.toUppercaseRuns,
      run.image run.last < 95 ∨ 122 < run.image run.first := by decide +kernel
  refine isOutside_recased (by decide) several runs fun unheld => ?_
  -- The letters from a to z have a run.
  have isRun : ⟨97, 122, 1, -32⟩ ∈ Unicode.toUppercaseRuns := List.mem_cons_self
  have notSmall : ¬(97 ≤ char.toNat ∧ char.toNat ≤ 122) := by
    intro small
    refine unheld _ isRun ?_
    simpa only [CaseRun.holds, Nat.mod_one, beq_self_eq_true, Bool.and_true, Bool.and_eq_true,
      decide_eq_true_eq] using small
  have apart := isOutside_of_isAlphanumeric alphanumeric
  rw [IsOutside] at apart ⊢
  omega

end ApiContract.Text
