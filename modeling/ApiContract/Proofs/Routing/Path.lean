import ApiContract.Routing.Path
import Mathlib.Data.List.Basic

/-!
# Paths in the form that matching uses

A path is cut at its slashes, every segment is written anew, and the segments are joined
again.  Written segments have no slashes in them, so the cut finds them again, and a
segment that is written in braces is read as one that is written the same way.  Hence
the form that matching uses is the same for a path and for that form of it.
-/

namespace ApiContract.Routing

/-! ## Pieces between slashes -/

theorem pieces_of_other {char : Char} (other : char ≠ '/') (chars : List Char) :
    pieces (char :: chars) =
      match pieces chars with
      | [] => [[char]]
      | piece :: rest => (char :: piece) :: rest := by
  cases found : pieces chars <;> simp [pieces, found]

theorem pieces_ne_nil (chars : List Char) : pieces chars ≠ [] := by
  cases chars with
  | nil => simp [pieces]
  | cons char rest =>
      by_cases slash : char = '/'
      · simp [slash, pieces]
      · rw [pieces_of_other slash]
        cases pieces rest <;> simp

/-- A piece holds no slash. -/
theorem slash_not_mem_of_mem_pieces {chars piece : List Char} (member : piece ∈ pieces chars) :
    '/' ∉ piece := by
  induction chars generalizing piece with
  | nil =>
      obtain rfl : piece = [] := by simpa [pieces] using member
      exact List.not_mem_nil
  | cons char rest ih =>
      by_cases slash : char = '/'
      · rw [slash, pieces, List.mem_cons] at member
        rcases member with rfl | inRest
        · exact List.not_mem_nil
        · exact ih inRest
      · rw [pieces_of_other slash] at member
        cases found : pieces rest with
        | nil => exact absurd found (pieces_ne_nil rest)
        | cons first others =>
            rw [found] at member ih
            rcases List.mem_cons.mp member with rfl | inOthers
            · rw [List.mem_cons, not_or]
              exact ⟨fun same => slash same.symm, ih List.mem_cons_self⟩
            · exact ih (List.mem_cons_of_mem first inOthers)

/-- A text without a slash is one piece. -/
theorem pieces_of_free {piece : List Char} (free : '/' ∉ piece) : pieces piece = [piece] := by
  induction piece with
  | nil => simp [pieces]
  | cons char rest ih =>
      rw [List.mem_cons, not_or] at free
      rw [pieces_of_other (Ne.symm free.1), ih free.2]

theorem pieces_append_slash {piece : List Char} (free : '/' ∉ piece) (chars : List Char) :
    pieces (piece ++ '/' :: chars) = piece :: pieces chars := by
  induction piece with
  | nil => rw [List.nil_append, pieces]
  | cons char rest ih =>
      rw [List.mem_cons, not_or] at free
      rw [List.cons_append, pieces_of_other (Ne.symm free.1), ih free.2]

/-- Texts without slashes are the pieces of what joins them. -/
theorem pieces_intercalate {texts : List (List Char)} (nonempty : texts ≠ [])
    (free : ∀ text ∈ texts, '/' ∉ text) : pieces (['/'].intercalate texts) = texts := by
  induction texts with
  | nil => exact absurd rfl nonempty
  | cons first rest ih =>
      rw [List.forall_mem_cons] at free
      cases rest with
      | nil => rw [List.intercalate_singleton, pieces_of_free free.1]
      | cons second others =>
          rw [List.intercalate_cons_cons, List.append_assoc, List.singleton_append,
            pieces_append_slash free.1, ih (List.cons_ne_nil second others) free.2]

theorem segmentTexts_ne_nil (path : String) : segmentTexts path ≠ [] := by
  rw [segmentTexts, Ne, List.map_eq_nil_iff]
  exact pieces_ne_nil path.toList

theorem slash_not_mem_of_mem_segmentTexts {path text : String}
    (member : text ∈ segmentTexts path) : '/' ∉ text.toList := by
  rcases List.mem_map.mp member with ⟨piece, isPiece, rfl⟩
  rw [String.toList_ofList]
  exact slash_not_mem_of_mem_pieces isPiece

theorem segmentTexts_joinSegments {texts : List String} (nonempty : texts ≠ [])
    (free : ∀ text ∈ texts, '/' ∉ text.toList) : segmentTexts (joinSegments texts) = texts := by
  have slash : "/".toList = ['/'] := rfl
  rw [segmentTexts, joinSegments, String.toList_intercalate, slash, pieces_intercalate]
  · simp
  · simpa using nonempty
  · simpa using free

/-! ## Segments -/

namespace Segment

theorem text_of_ofText_eq_fixed {text found : String} (reads : ofText text = .fixed found) :
    found = text := by
  rw [ofText] at reads
  split at reads
  · cases reads
  · cases reads
  · cases reads
  · split at reads
    · cases reads
    · cases reads
    · cases reads
      rfl

theorem betweenBraces?_eq_some_iff {chars inner : List Char} :
    betweenBraces? chars = some inner ↔ chars = '{' :: (inner ++ ['}']) := by
  constructor
  · intro between
    rw [betweenBraces?.eq_def] at between
    split at between
    · next rest =>
        split at between
        · next closed =>
            cases between
            rw [List.dropLast_append_getLast? _ closed]
        · cases between
    · cases between
  · rintro rfl
    simp [betweenBraces?]

theorem toList_braced (name : String) :
    ("\x7b" ++ name ++ "\x7d").toList = '{' :: (name.toList ++ ['}']) := by
  simp [String.toList_append]

/-- What stands in braces is a parameter, or one for the rest of the path if a star comes first. -/
theorem ofText_braced (name : String) :
    ofText ("\x7b" ++ name ++ "\x7d") =
      if name.toList.head? = some '*' then .rest (String.ofList name.toList.tail)
      else .param name := by
  rw [ofText, toList_braced]
  split
  · next clash => simp at clash
  · next clash => simp at clash
  · next clash => simp at clash
  · rw [betweenBraces?_eq_some_iff.mpr rfl]
    split
    · next rest same => simp [Option.some.inj same]
    · next inner notStar same =>
        rw [Option.some.inj same, if_neg, ← Option.some.inj same, String.ofList_toList]
        intro starred
        obtain ⟨rest, shape⟩ := List.head?_eq_some_iff.mp starred
        exact notStar rest shape
    · next absent => cases absent

/-- A parameter in braces is written in the same braces. -/
theorem templateText_ofText_braced (name : String) :
    (ofText ("\x7b" ++ name ++ "\x7d")).templateText = "\x7b" ++ name ++ "\x7d" := by
  rw [ofText_braced]
  split
  · next starred =>
      obtain ⟨rest, shape⟩ := List.head?_eq_some_iff.mp starred
      rw [templateText, ← String.toList_inj]
      simp [shape]
  · rfl

/-- A written segment is read as one that is written the same way. -/
theorem templateText_ofText_templateText (text : String) :
    (ofText (ofText text).templateText).templateText = (ofText text).templateText := by
  cases reads : ofText text with
  | fixed found =>
      obtain rfl := text_of_ofText_eq_fixed reads
      rw [templateText, reads, templateText]
  | param name => exact templateText_ofText_braced name
  | rest name =>
      have written : templateText (.rest name) = "\x7b" ++ ("*" ++ name) ++ "\x7d" := by
        rw [templateText, ← String.toList_inj]
        simp
      rw [written]
      exact templateText_ofText_braced ("*" ++ name)

theorem mem_of_mem_betweenBraces? {chars inner : List Char} {char : Char}
    (between : betweenBraces? chars = some inner) (member : char ∈ inner) : char ∈ chars := by
  rw [betweenBraces?_eq_some_iff.mp between]
  exact List.mem_cons_of_mem _ (List.mem_append_left _ member)

theorem slash_not_mem_templateText {text : String} (free : '/' ∉ text.toList) :
    '/' ∉ (ofText text).templateText.toList := by
  rw [ofText]
  split
  · next name shape => simp_all [templateText]
  · next shape => decide
  · next name notAlone shape => simp_all [templateText]
  · next chars _ _ _ =>
      split
      · next name between =>
          have fresh : '/' ∉ '*' :: name := fun member =>
            free (mem_of_mem_betweenBraces? between member)
          simp_all [templateText]
      · next name notStar between =>
          have fresh : '/' ∉ name := fun member =>
            free (mem_of_mem_betweenBraces? between member)
          simp_all [templateText]
      · exact free

end Segment

/-- The segments of a path that was written anew are found as they were written. -/
theorem segmentTexts_rewritten (path : String) {write : Segment → String}
    (free : ∀ text : String, '/' ∉ text.toList → '/' ∉ (write (.ofText text)).toList) :
    segmentTexts (joinSegments ((segments path).map write)) = (segments path).map write := by
  apply segmentTexts_joinSegments
  · simpa [segments] using segmentTexts_ne_nil path
  · simp only [segments, List.map_map, List.forall_mem_map]
    intro text member
    exact free text (slash_not_mem_of_mem_segmentTexts member)

theorem segmentTexts_templatePath (path : String) :
    segmentTexts (templatePath path) = (segments path).map Segment.templateText :=
  segmentTexts_rewritten path fun _ => Segment.slash_not_mem_templateText

/-- The form that matching uses is its own form. -/
theorem templatePath_templatePath (path : String) :
    templatePath (templatePath path) = templatePath path := by
  have again : (segments (templatePath path)).map Segment.templateText =
      (segments path).map Segment.templateText := by
    rw [segments, segmentTexts_templatePath]
    simp only [segments, List.map_map]
    apply List.map_congr_left
    intro text _
    exact Segment.templateText_ofText_templateText text
  rw [templatePath, again, templatePath]

/-! ## Paths in the form that documents use -/

namespace Segment

/-- The segment without its star. -/
def unstarred : Segment → Segment
  | .rest name => .param name
  | .fixed text => .fixed text
  | .param name => .param name

theorem documentText_unstarred (segment : Segment) :
    segment.unstarred.documentText = segment.documentText := by
  cases segment <;> rfl

theorem ofText_braced_ne_fixed (name found : String) :
    ofText ("\x7b" ++ name ++ "\x7d") ≠ .fixed found := by
  rw [ofText_braced]
  split <;> simp

theorem braced_injective {left right : String}
    (same : "\x7b" ++ left ++ "\x7d" = "\x7b" ++ right ++ "\x7d") : left = right := by
  have chars := congrArg String.toList same
  simp only [String.toList_append] at chars
  exact String.toList_inj.mp (List.append_cancel_left (List.append_cancel_right chars))

/-- Fixed text is never written like a name. -/
theorem documentText_ne_of_fixed {text found name : String} (reads : ofText text = .fixed found) :
    found ≠ "\x7b" ++ name ++ "\x7d" := by
  obtain rfl := text_of_ofText_eq_fixed reads
  rintro rfl
  exact ofText_braced_ne_fixed name _ reads

/-- Documents tell segments apart, except for stars. -/
theorem documentText_ofText_eq_iff {left right : String} :
    (ofText left).documentText = (ofText right).documentText ↔
      (ofText left).unstarred = (ofText right).unstarred := by
  constructor
  · intro same
    cases isLeft : ofText left with
    | fixed leftText =>
        cases isRight : ofText right with
        | fixed rightText =>
            rw [isLeft, isRight] at same
            exact congrArg Segment.fixed same
        | param name | rest name =>
            rw [isLeft, isRight] at same
            exact absurd same (documentText_ne_of_fixed isLeft)
    | param leftName | rest leftName =>
        cases isRight : ofText right with
        | fixed rightText =>
            rw [isLeft, isRight] at same
            exact absurd same.symm (documentText_ne_of_fixed isRight)
        | param rightName | rest rightName =>
            rw [isLeft, isRight] at same
            exact congrArg Segment.param (braced_injective same)
  · intro same
    rw [← documentText_unstarred, same, documentText_unstarred]

theorem mem_templateText_of_mem_documentText {segment : Segment} {char : Char}
    (member : char ∈ segment.documentText.toList) : char ∈ segment.templateText.toList := by
  cases segment with
  | fixed text | param name => exact member
  | rest name =>
      have opens : "\x7b*".toList = "\x7b".toList ++ ['*'] := rfl
      simp only [documentText, templateText, String.toList_append, List.mem_append] at member ⊢
      rcases member with (isOpen | inName) | isClose
      · rw [opens]
        exact .inl (.inl (List.mem_append_left _ isOpen))
      · exact .inl (.inr inName)
      · exact .inr isClose

theorem slash_not_mem_documentText {text : String} (free : '/' ∉ text.toList) :
    '/' ∉ (ofText text).documentText.toList :=
  fun slash => slash_not_mem_templateText free (mem_templateText_of_mem_documentText slash)

end Segment

theorem segmentTexts_documentPath (path : String) :
    segmentTexts (documentPath path) = (segments path).map Segment.documentText :=
  segmentTexts_rewritten path fun _ => Segment.slash_not_mem_documentText

/-- Two paths are declared by the same segments, except for stars. -/
def SameButStars (left right : String) : Prop :=
  (segments left).map Segment.unstarred = (segments right).map Segment.unstarred

theorem map_documentText_eq_iff (left right : List String) :
    left.map (Segment.documentText ∘ Segment.ofText) =
        right.map (Segment.documentText ∘ Segment.ofText) ↔
      left.map (Segment.unstarred ∘ Segment.ofText) =
        right.map (Segment.unstarred ∘ Segment.ofText) := by
  induction left generalizing right with
  | nil => simp
  | cons first rest ih =>
      cases right with
      | nil => simp
      | cons other others =>
          simp only [List.map_cons, List.cons.injEq, Function.comp_apply, ih others,
            Segment.documentText_ofText_eq_iff]

/-- Documents tell paths apart, except for stars. -/
theorem documentPath_eq_iff {left right : String} :
    documentPath left = documentPath right ↔ SameButStars left right := by
  have texts_iff : documentPath left = documentPath right ↔
      (segments left).map Segment.documentText = (segments right).map Segment.documentText := by
    constructor
    · intro same
      rw [← segmentTexts_documentPath, same, segmentTexts_documentPath]
    · intro same
      rw [documentPath, documentPath, same]
  rw [texts_iff, SameButStars, segments, segments, List.map_map, List.map_map, List.map_map,
    List.map_map]
  exact map_documentText_eq_iff _ _

/-- Where no segment has a star, the same segments are declared. -/
theorem SameButStars.templatePath_eq {left right : String} (same : SameButStars left right)
    (leftStarless : ∀ name, .rest name ∉ segments left)
    (rightStarless : ∀ name, .rest name ∉ segments right) :
    templatePath left = templatePath right := by
  have kept : ∀ path, (∀ name, .rest name ∉ segments path) →
      (segments path).map Segment.unstarred = segments path := by
    intro path starless
    have unchanged : ∀ segment ∈ segments path, segment.unstarred = id segment := by
      intro segment member
      cases segment with
      | fixed text | param name => rfl
      | rest name => exact absurd member (starless name)
    rw [List.map_congr_left unchanged, List.map_id]
  rw [SameButStars, kept left leftStarless, kept right rightStarless] at same
  rw [templatePath, templatePath, same]

end ApiContract.Routing
