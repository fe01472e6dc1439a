import ApiContract.Proofs.Routing.Path

/-!
# What rewriting a path keeps

A path is rewritten for matching and for documents, and either form can be read as a path again.
As long as no name begins with a star, the segments that are read from the form for matching are
those of the path itself, and the ones read from the form for documents differ in their stars
only.  Number, order and names of the parameters therefore survive.
-/

namespace ApiContract.Routing

namespace Segment

/-! ## Reading segments -/

/-- A name in braces is read as that name, unless a star comes first. -/
theorem ofText_braced_of_plain {name : String} (plain : name.toList.head? ≠ some '*') :
    ofText ("\x7b" ++ name ++ "\x7d") = .param name := by
  rw [ofText_braced, if_neg plain]

theorem ofText_braced_star (name : String) : ofText ("\x7b*" ++ name ++ "\x7d") = .rest name := by
  have inner : "\x7b*" ++ name ++ "\x7d" = "\x7b" ++ ("*" ++ name) ++ "\x7d" := by
    rw [← String.toList_inj]
    simp
  rw [inner, ofText_braced]
  simp

/-! ## Placeholders -/

/-- The text is a placeholder: a colon or a star comes first, or it stands in braces. -/
def IsPlaceholder (text : String) : Prop :=
  (∃ name, text = ":" ++ name) ∨ (∃ name, text = "*" ++ name) ∨
    ∃ name, text = "\x7b" ++ name ++ "\x7d"

/-- What is no placeholder is fixed text. -/
theorem ofText_of_not_isPlaceholder {text : String} (literal : ¬IsPlaceholder text) :
    ofText text = .fixed text := by
  rw [IsPlaceholder, not_or, not_or] at literal
  obtain ⟨noColon, noStar, noBraces⟩ := literal
  rw [ofText]
  split
  · next name shape =>
      refine absurd ⟨String.ofList name, ?_⟩ noColon
      rw [← String.toList_inj, shape]
      simp
  · next shape =>
      refine absurd ⟨"", ?_⟩ noStar
      rw [← String.toList_inj, shape]
      rfl
  · next name notAlone shape =>
      refine absurd ⟨String.ofList name, ?_⟩ noStar
      rw [← String.toList_inj, shape]
      simp
  · have open_ : betweenBraces? text.toList = none := by
      cases between : betweenBraces? text.toList with
      | none => rfl
      | some inner =>
          refine absurd ⟨String.ofList inner, ?_⟩ noBraces
          rw [← String.toList_inj, betweenBraces?_eq_some_iff.mp between, toList_braced,
            String.toList_ofList]
    rw [open_]

/-- The text begins like a placeholder whose name begins with a star: `:*`, `**` or `{**`. -/
def BeginsStarred (text : String) : Prop :=
  [':', '*'] <+: text.toList ∨ ['*', '*'] <+: text.toList ∨ ['{', '*', '*'] <+: text.toList

instance (text : String) : Decidable (BeginsStarred text) :=
  inferInstanceAs (Decidable (_ ∨ _ ∨ _))

/-- The name of the segment does not begin with a star. -/
def HasPlainName (segment : Segment) : Prop :=
  ∀ name, segment.name? = some name → name.toList.head? ≠ some '*'

theorem hasPlainName_ofText {text : String} (plain : ¬BeginsStarred text) :
    (ofText text).HasPlainName := by
  rw [BeginsStarred, not_or, not_or] at plain
  obtain ⟨noColon, noStar, noBraces⟩ := plain
  intro name named starred
  rw [ofText] at named
  split at named
  · next chars shape =>
      cases named
      rw [String.toList_ofList] at starred
      obtain ⟨rest, rfl⟩ := List.head?_eq_some_iff.mp starred
      exact noColon (by simp [shape])
  · next shape =>
      cases named
      cases starred
  · next chars notAlone shape =>
      cases named
      rw [String.toList_ofList] at starred
      obtain ⟨rest, rfl⟩ := List.head?_eq_some_iff.mp starred
      exact noStar (by simp [shape])
  · split at named
    · next chars between =>
        cases named
        rw [String.toList_ofList] at starred
        obtain ⟨rest, rfl⟩ := List.head?_eq_some_iff.mp starred
        exact noBraces (by simp [betweenBraces?_eq_some_iff.mp between])
    · next chars notStar between =>
        cases named
        rw [String.toList_ofList] at starred
        obtain ⟨rest, rfl⟩ := List.head?_eq_some_iff.mp starred
        exact notStar rest rfl
    · cases named

/-! ## Reading what was written -/

/-- The form that matching uses is read as the segment itself. -/
theorem ofText_templateText {text : String} (plain : ¬BeginsStarred text) :
    ofText (ofText text).templateText = ofText text := by
  have named := hasPlainName_ofText plain
  cases reads : ofText text with
  | fixed found =>
      obtain rfl := text_of_ofText_eq_fixed reads
      exact reads
  | param name =>
      rw [reads] at named
      exact ofText_braced_of_plain (named name rfl)
  | rest name => exact ofText_braced_star name

/-- The form that documents use is read as the segment without its star. -/
theorem ofText_documentText {text : String} (plain : ¬BeginsStarred text) :
    ofText (ofText text).documentText = (ofText text).unstarred := by
  have named := hasPlainName_ofText plain
  cases reads : ofText text with
  | fixed found =>
      obtain rfl := text_of_ofText_eq_fixed reads
      exact reads
  | param name | rest name =>
      rw [reads] at named
      exact ofText_braced_of_plain (named name rfl)

theorem name?_unstarred (segment : Segment) : segment.unstarred.name? = segment.name? := by
  cases segment <;> rfl

end Segment

open Segment (BeginsStarred IsPlaceholder)

/-! ## Paths -/

variable {path : String}

theorem segments_templatePath (plain : ∀ text ∈ segmentTexts path, ¬BeginsStarred text) :
    segments (templatePath path) = segments path := by
  rw [segments, segmentTexts_templatePath, segments, List.map_map, List.map_map]
  apply List.map_congr_left
  intro text member
  exact Segment.ofText_templateText (plain text member)

theorem segments_documentPath (plain : ∀ text ∈ segmentTexts path, ¬BeginsStarred text) :
    segments (documentPath path) = (segments path).map Segment.unstarred := by
  rw [segments, segmentTexts_documentPath, segments, List.map_map, List.map_map, List.map_map]
  apply List.map_congr_left
  intro text member
  exact Segment.ofText_documentText (plain text member)

/-- Both forms of a path have its segments, its parameters and its fixed text. -/
structure KeepsParameters (path : String) : Prop where
  template_length : (segmentTexts (templatePath path)).length = (segmentTexts path).length
  document_length : (segmentTexts (documentPath path)).length = (segmentTexts path).length
  template_names : paramNames (templatePath path) = paramNames path
  document_names : paramNames (documentPath path) = paramNames path
  /-- Documents can be written from the form for matching. -/
  document_template : documentPath (templatePath path) = documentPath path
  /-- Text that is no placeholder stays in its place. -/
  literal : ∀ (place : Nat) (text : String), (segmentTexts path)[place]? = some text →
    ¬IsPlaceholder text →
      (segmentTexts (templatePath path))[place]? = some text ∧
        (segmentTexts (documentPath path))[place]? = some text

theorem getElem?_rewritten {write : Segment → String} {place : Nat} {text : String}
    (stands : (segmentTexts path)[place]? = some text) :
    ((segments path).map write)[place]? = some (write (.ofText text)) := by
  rw [segments, List.map_map, List.getElem?_map, stands]
  rfl

theorem keepsParameters_of_plain (plain : ∀ text ∈ segmentTexts path, ¬BeginsStarred text) :
    KeepsParameters path where
  template_length := by
    rw [segmentTexts_templatePath]
    simp [segments]
  document_length := by
    rw [segmentTexts_documentPath]
    simp [segments]
  template_names := by
    rw [paramNames, segments_templatePath plain, paramNames]
  document_names := by
    have names : Segment.name? ∘ Segment.unstarred = Segment.name? :=
      funext Segment.name?_unstarred
    rw [paramNames, segments_documentPath plain, List.filterMap_map, names, paramNames]
  document_template := by
    rw [documentPath, segments_templatePath plain, documentPath]
  literal := by
    intro place text stands other
    have reads := Segment.ofText_of_not_isPlaceholder other
    rw [segmentTexts_templatePath, segmentTexts_documentPath, getElem?_rewritten stands,
      getElem?_rewritten stands, reads]
    exact ⟨rfl, rfl⟩

/-- Rewriting a path for matching twice is rewriting it once.  Unless a name begins with a star,
both rewritings keep the segments, the parameters and the fixed text of the path. -/
theorem rewriting_keeps_parameters (path : String) :
    templatePath (templatePath path) = templatePath path ∧
      ((∀ text ∈ segmentTexts path, ¬BeginsStarred text) → KeepsParameters path) :=
  ⟨templatePath_templatePath path, keepsParameters_of_plain⟩

/-- All four spellings of a parameter, an unnamed one and braces that do not match. -/
theorem mixed_path_keeps_parameters :
    let path := "/:id/*/\x7btag\x7d/\x7b*\x7d/x\x7d/\x7by"
    paramNames path = ["id", "rest", "tag", ""] ∧ KeepsParameters path := by
  refine ⟨by decide +kernel, (rewriting_keeps_parameters _).2 ?_⟩
  decide +kernel

end ApiContract.Routing
