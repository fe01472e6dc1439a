import ApiContract.Http.Template
import Mathlib.Data.List.Basic

/-!
# What templates match

A template spells a path when the path consists of its characters and of texts for its names.
Several templates that are matched at once find only what one of them spells, and find
something whenever one of them spells the path.
-/

namespace ApiContract.Http

/-- A template with texts for its names spells a path. -/
inductive Spells : List TemplatePart → List (String × String) → List Char → Prop where
  | nil : Spells [] [] []
  | char (char : Char) {parts : List TemplatePart} {texts : List (String × String)}
      {path : List Char} (spelled : Spells parts texts path) :
      Spells (.char char :: parts) texts (char :: path)
  | segment (name : String) {text : List Char} {parts : List TemplatePart}
      {texts : List (String × String)} {path : List Char} (nonempty : text ≠ [])
      (within : '/' ∉ text) (ends : ∀ next ∈ path.head?, next = '/')
      (spelled : Spells parts texts path) :
      Spells (.segment name :: parts) ((name, String.ofList text) :: texts) (text ++ path)
  | rest (name : String) {text : List Char} (nonempty : text ≠ []) :
      Spells [.rest name] [(name, String.ofList text)] text

/-! ## Where a spelled path goes on -/

section Spelled

variable {parts : List TemplatePart} {texts : List (String × String)} {rest text : List Char}

theorem spells_nil_iff : Spells parts texts [] ↔ parts = [] ∧ texts = [] := by
  constructor
  · intro spelled
    generalize isPath : ([] : List Char) = path at spelled
    cases spelled with
    | nil => exact ⟨rfl, rfl⟩
    | char char spelled => cases isPath
    | segment name nonempty within ends spelled =>
        exact absurd (List.append_eq_nil_iff.mp isPath.symm).1 nonempty
    | rest name nonempty => exact absurd isPath.symm nonempty
  · rintro ⟨rfl, rfl⟩
    exact .nil

/-- A segment reaches to the next slash. -/
theorem span_segment (within : '/' ∉ text) (ends : ∀ next ∈ rest.head?, next = '/') :
    (text ++ rest).takeWhile (· ≠ '/') = text ∧ (text ++ rest).dropWhile (· ≠ '/') = rest := by
  have inside : ∀ char ∈ text, decide (char ≠ '/') = true := by
    intro char member
    exact decide_eq_true fun isSlash => within (isSlash ▸ member)
  rw [List.takeWhile_append_of_pos inside, List.dropWhile_append_of_pos inside]
  cases rest with
  | nil => simp
  | cons next more =>
      obtain rfl := ends next rfl
      simp

theorem eq_slash_of_mem_head?_dropWhile (chars : List Char) :
    ∀ next ∈ (chars.dropWhile (· ≠ '/')).head?, next = '/' := by
  intro next isNext
  have stops := List.head?_dropWhile_not (· ≠ '/') chars
  rw [Option.mem_def.mp isNext] at stops
  simpa using stops

theorem slash_not_mem_takeWhile {char : Char} (other : char ≠ '/') (chars : List Char) :
    '/' ∉ char :: chars.takeWhile (· ≠ '/') := by
  rw [List.mem_cons, not_or]
  refine ⟨Ne.symm other, ?_⟩
  intro member
  simpa using List.all_eq_true.mp List.all_takeWhile '/' member

/-- A path goes on with a character of the template, with a segment for a name, or with a
text for a name that takes all that is left. -/
theorem spells_cons_iff {char : Char} :
    Spells parts texts (char :: rest) ↔
      (∃ later, parts = .char char :: later ∧ Spells later texts rest) ∨
      (char ≠ '/' ∧ ∃ name later more, parts = .segment name :: later ∧
        texts = (name, String.ofList (char :: rest.takeWhile (· ≠ '/'))) :: more ∧
        Spells later more (rest.dropWhile (· ≠ '/'))) ∨
      ∃ name, parts = [.rest name] ∧ texts = [(name, String.ofList (char :: rest))] := by
  constructor
  · intro spelled
    generalize isPath : char :: rest = path at spelled
    cases spelled with
    | nil => cases isPath
    | char char spelled =>
        cases isPath
        exact .inl ⟨_, rfl, spelled⟩
    | @segment name text later more tail nonempty within ends spelled =>
        cases text with
        | nil => exact absurd rfl nonempty
        | cons first inner =>
            rw [List.cons_append] at isPath
            rcases List.cons.inj isPath with ⟨rfl, rfl⟩
            rw [List.mem_cons, not_or] at within
            rcases span_segment within.2 ends with ⟨taken, left⟩
            refine .inr (.inl ⟨Ne.symm within.1, name, later, more, rfl, ?_, ?_⟩)
            · rw [taken]
            · rw [left]
              exact spelled
    | rest name nonempty =>
        subst isPath
        exact .inr (.inr ⟨name, rfl, rfl⟩)
  · rintro (⟨later, rfl, spelled⟩ | ⟨other, name, later, more, rfl, rfl, spelled⟩ |
      ⟨name, rfl, rfl⟩)
    · exact .char char spelled
    · have spelledAll := Spells.segment name (List.cons_ne_nil char _)
        (slash_not_mem_takeWhile other rest) (eq_slash_of_mem_head?_dropWhile rest) spelled
      rwa [List.cons_append, List.takeWhile_append_dropWhile] at spelledAll
    · exact .rest name (List.cons_ne_nil char rest)

/-- A template without names spells its own characters. -/
theorem spells_chars (chars : List Char) : Spells (chars.map .char) [] chars := by
  induction chars with
  | nil => exact .nil
  | cons char rest ih => exact .char char ih

/-- The search goes on behind a character, or behind all characters up to a slash. -/
theorem path_induction {motive : List Char → Prop} (nil : motive [])
    (cons : ∀ char rest, motive rest → motive (rest.dropWhile (· ≠ '/')) → motive (char :: rest))
    (path : List Char) : motive path := by
  induction length : path.length using Nat.strongRecOn generalizing path with
  | ind size ih =>
      cases path with
      | nil => exact nil
      | cons char rest =>
          subst length
          have shorter : (rest.dropWhile (· ≠ '/')).length < (char :: rest).length :=
            Nat.lt_succ_of_le (List.dropWhile_sublist _).length_le
          exact cons char rest (ih _ (by simp) rest rfl) (ih _ shorter _ rfl)

end Spelled

namespace TemplateState

variable {α : Type} {states : List (TemplateState α)} {state next : TemplateState α}
  {path : List Char} {found : α × List (String × String)}

theorem takeChar?_eq_some_iff {char : Char} :
    takeChar? char state = some next ↔
      ∃ parts, state.parts = .char char :: parts ∧ next = { state with parts := parts } := by
  rcases state with ⟨parts, taken, target⟩
  rw [takeChar?]
  split
  · next expected rest isParts =>
      dsimp only at isParts
      subst isParts
      split
      · next same => subst same; simp [eq_comm]
      · next differ => simp [differ]
  · next other =>
      constructor
      · intro impossible
        cases impossible
      · rintro ⟨rest, isParts, _⟩
        exact absurd isParts (other char rest)

theorem takeSegment?_eq_some_iff {text : List Char} :
    takeSegment? text state = some next ↔
      ∃ name parts, state.parts = .segment name :: parts ∧ next =
        { state with parts := parts, taken := state.taken ++ [(name, String.ofList text)] } := by
  rcases state with ⟨parts, taken, target⟩
  rw [takeSegment?]
  split
  · next name rest isParts =>
      dsimp only at isParts
      subst isParts
      simp [eq_comm]
  · next other =>
      constructor
      · intro impossible
        cases impossible
      · rintro ⟨name, rest, isParts, _⟩
        exact absurd isParts (other name rest)

theorem takeRest?_eq_some_iff :
    takeRest? path state = some found ↔
      ∃ name, state.parts = [.rest name] ∧
        found = (state.target, state.taken ++ [(name, String.ofList path)]) := by
  rcases state with ⟨parts, taken, target⟩
  rw [takeRest?]
  split
  · next name isParts =>
      dsimp only at isParts
      subst isParts
      simp [eq_comm]
  · next other =>
      constructor
      · intro impossible
        cases impossible
      · rintro ⟨name, isParts, _⟩
        exact absurd isParts (other name)

theorem finish?_eq_some_iff :
    finish? state = some found ↔ state.parts = [] ∧ found = (state.target, state.taken) := by
  rcases state with ⟨parts, taken, target⟩
  cases parts with
  | nil => simp [finish?, eq_comm]
  | cons part rest => simp [finish?]

theorem mem_filterMap_takeChar? (member : state ∈ states) {char : Char}
    {later : List TemplatePart} (hasParts : state.parts = .char char :: later) :
    { state with parts := later } ∈ states.filterMap (takeChar? char) :=
  List.mem_filterMap.mpr ⟨state, member, takeChar?_eq_some_iff.mpr ⟨later, hasParts, rfl⟩⟩

theorem mem_filterMap_takeSegment? (member : state ∈ states) {name : String}
    {later : List TemplatePart} (hasParts : state.parts = .segment name :: later)
    (text : List Char) :
    { state with parts := later, taken := state.taken ++ [(name, String.ofList text)] } ∈
      states.filterMap (takeSegment? text) :=
  List.mem_filterMap.mpr
    ⟨state, member, takeSegment?_eq_some_iff.mpr ⟨name, later, hasParts, rfl⟩⟩

/-! ## What the search does at each character -/

theorem resolve?_nil (states : List (TemplateState α)) :
    resolve? states [] = states.findSome? finish? := by
  cases states with
  | nil => rw [resolve?, List.findSome?_nil]
  | cons state rest => rw [resolve?]; simp

theorem resolve?_of_nil (path : List Char) : resolve? ([] : List (TemplateState α)) path = none := by
  rw [resolve?]

theorem resolve?_cons (states : List (TemplateState α)) (char : Char) (rest : List Char) :
    resolve? states (char :: rest) =
      (resolve? (states.filterMap (takeChar? char)) rest).or
        (if char = '/' then states.findSome? (takeRest? (char :: rest))
        else
          (resolve? (states.filterMap (takeSegment? (char :: rest.takeWhile (· ≠ '/'))))
            (rest.dropWhile (· ≠ '/'))).or (states.findSome? (takeRest? (char :: rest)))) := by
  cases states with
  | nil => simp [resolve?_of_nil]
  | cons state others => rw [resolve?]; simp

/-! ## What the search finds -/

/-- One of the templates under way spells the rest of a path for a target, with the texts that
its names take in the whole. -/
def Offers (states : List (TemplateState α)) (path : List Char) (target : α)
    (params : List (String × String)) : Prop :=
  ∃ state ∈ states, state.target = target ∧
    ∃ texts, params = state.taken ++ texts ∧ Spells state.parts texts path

section Offers

variable {target : α} {params : List (String × String)} {char : Char} {rest : List Char}

theorem offers_of_takeChar
    (offered : Offers (states.filterMap (takeChar? char)) rest target params) :
    Offers states (char :: rest) target params := by
  rcases offered with ⟨next, member, isTarget, texts, isParams, spelled⟩
  rcases List.mem_filterMap.mp member with ⟨state, isState, taken⟩
  rcases takeChar?_eq_some_iff.mp taken with ⟨parts, hasParts, rfl⟩
  exact ⟨state, isState, isTarget, texts, isParams, hasParts ▸ .char char spelled⟩

theorem offers_of_takeSegment (other : char ≠ '/')
    (offered : Offers (states.filterMap (takeSegment? (char :: rest.takeWhile (· ≠ '/'))))
      (rest.dropWhile (· ≠ '/')) target params) :
    Offers states (char :: rest) target params := by
  rcases offered with ⟨next, member, isTarget, texts, isParams, spelled⟩
  rcases List.mem_filterMap.mp member with ⟨state, isState, taken⟩
  rcases takeSegment?_eq_some_iff.mp taken with ⟨name, parts, hasParts, rfl⟩
  have spelledAll := spells_cons_iff.mpr
    (.inr (.inl ⟨other, name, parts, texts, hasParts, rfl, spelled⟩))
  refine ⟨state, isState, isTarget, _, ?_, spelledAll⟩
  rw [isParams, List.append_assoc]
  rfl

theorem offers_of_takeRest
    (found : states.findSome? (takeRest? (char :: rest)) = some (target, params)) :
    Offers states (char :: rest) target params := by
  rcases List.exists_of_findSome?_eq_some found with ⟨state, member, taken⟩
  rcases takeRest?_eq_some_iff.mp taken with ⟨name, isRest, result⟩
  cases result
  exact ⟨state, member, rfl, _, rfl, spells_cons_iff.mpr (.inr (.inr ⟨name, isRest, rfl⟩))⟩

/-- Only a template that spells the path is found. -/
theorem offers_of_resolve? (found : resolve? states path = some (target, params)) :
    Offers states path target params := by
  induction path using path_induction generalizing states with
  | nil =>
      rw [resolve?_nil] at found
      rcases List.exists_of_findSome?_eq_some found with ⟨state, member, finished⟩
      rcases finish?_eq_some_iff.mp finished with ⟨isEnd, result⟩
      cases result
      exact ⟨state, member, rfl, [], (List.append_nil _).symm, isEnd ▸ .nil⟩
  | cons char rest alongChar alongSegment =>
      rw [resolve?_cons, Option.or_eq_some_iff] at found
      rcases found with byChar | ⟨_, byName⟩
      · exact offers_of_takeChar (alongChar byChar)
      · split at byName
        · exact offers_of_takeRest byName
        · next other =>
            rw [Option.or_eq_some_iff] at byName
            rcases byName with bySegment | ⟨_, byRest⟩
            · exact offers_of_takeSegment other (alongSegment bySegment)
            · exact offers_of_takeRest byRest

/-- Where a template spells the path, one is found. -/
theorem isSome_resolve?_of_spells (member : state ∈ states) {texts : List (String × String)}
    (spelled : Spells state.parts texts path) : (resolve? states path).isSome := by
  induction path using path_induction generalizing states state texts with
  | nil =>
      have finished := finish?_eq_some_iff.mpr ⟨(spells_nil_iff.mp spelled).1, rfl⟩
      rw [resolve?_nil, List.findSome?_isSome_iff]
      exact ⟨state, member, Option.isSome_of_eq_some finished⟩
  | cons char rest alongChar alongSegment =>
      rw [resolve?_cons, Option.isSome_or, Bool.or_eq_true]
      rcases spells_cons_iff.mp spelled with
        ⟨later, hasParts, spelledLater⟩ |
          ⟨other, name, later, more, hasParts, _, spelledLater⟩ | ⟨name, hasParts, _⟩
      · exact .inl (alongChar (mem_filterMap_takeChar? member hasParts) spelledLater)
      · rw [if_neg other, Option.isSome_or, Bool.or_eq_true]
        exact .inr (.inl
          (alongSegment (mem_filterMap_takeSegment? member hasParts _) spelledLater))
      · have byRest : (states.findSome? (takeRest? (char :: rest))).isSome := by
          have taken : takeRest? (char :: rest) state = some _ :=
            takeRest?_eq_some_iff.mpr ⟨name, hasParts, rfl⟩
          exact List.findSome?_isSome_iff.mpr ⟨state, member, Option.isSome_of_eq_some taken⟩
        right
        split
        · exact byRest
        · rw [Option.isSome_or, byRest, Bool.or_true]

end Offers

/-! ## Finding one template among many -/

/-- No two of the templates under way run together. -/
def Apart (states : List (TemplateState α)) : Prop :=
  states.Pairwise fun left right => ¬Template.runTogether left.parts right.parts

/-- The texts begin with characters that no template under way has. -/
def Fresh (states : List (TemplateState α)) (texts : List (String × String)) : Prop :=
  ∀ taken ∈ texts, ∀ first ∈ taken.2.toList.head?, ∀ state ∈ states, .char first ∉ state.parts

section Alone

variable {texts : List (String × String)} {char : Char} {rest : List Char}

theorem Apart.takeChar (apart : Apart states) (char : Char) :
    Apart (states.filterMap (takeChar? char)) := by
  refine List.Pairwise.filterMap (takeChar? char) ?_ apart
  intro left right differ left' takenLeft right' takenRight
  rcases takeChar?_eq_some_iff.mp takenLeft with ⟨_, leftParts, rfl⟩
  rcases takeChar?_eq_some_iff.mp takenRight with ⟨_, rightParts, rfl⟩
  rw [leftParts, rightParts] at differ
  simpa [Template.runTogether] using differ

theorem Apart.takeSegment (apart : Apart states) (text : List Char) :
    Apart (states.filterMap (takeSegment? text)) := by
  refine List.Pairwise.filterMap (takeSegment? text) ?_ apart
  intro left right differ left' takenLeft right' takenRight
  rcases takeSegment?_eq_some_iff.mp takenLeft with ⟨_, _, leftParts, rfl⟩
  rcases takeSegment?_eq_some_iff.mp takenRight with ⟨_, _, rightParts, rfl⟩
  rw [leftParts, rightParts] at differ
  simpa [Template.runTogether] using differ

/-- What is found among templates that come first runs together with none of the later. -/
theorem Apart.findSome? (apart : Apart states) (member : state ∈ states)
    {take? : TemplateState α → Option (α × List (String × String))}
    (takes : take? state = some found)
    (clash : ∀ other, (take? other).isSome → Template.runTogether other.parts state.parts) :
    states.findSome? take? = some found := by
  rcases List.append_of_mem member with ⟨earlier, later, rfl⟩
  rw [List.findSome?_eq_some_iff]
  refine ⟨earlier, state, later, rfl, takes, ?_⟩
  intro other isEarlier
  by_contra taken
  have differ := (List.pairwise_append.mp apart).2.2 other isEarlier state List.mem_cons_self
  exact differ (clash other (Option.isSome_iff_ne_none.mpr taken))

theorem filterMap_takeChar?_of_fresh (fresh : ∀ state ∈ states, .char char ∉ state.parts) :
    states.filterMap (takeChar? char) = [] := by
  rw [List.filterMap_eq_nil_iff]
  intro state member
  by_contra taken
  rcases Option.ne_none_iff_exists'.mp taken with ⟨next, isNext⟩
  rcases takeChar?_eq_some_iff.mp isNext with ⟨later, hasParts, _⟩
  exact fresh state member (hasParts ▸ List.mem_cons_self)

/-- Beside a template that goes on with a name for the rest, none goes on with another. -/
theorem Apart.filterMap_takeSegment? (apart : Apart states) (member : state ∈ states)
    {name : String} (hasParts : state.parts = [.rest name]) (text : List Char) :
    states.filterMap (takeSegment? text) = [] := by
  rw [List.filterMap_eq_nil_iff]
  intro other isOther
  by_contra taken
  rcases Option.ne_none_iff_exists'.mp taken with ⟨next, isNext⟩
  rcases takeSegment?_eq_some_iff.mp isNext with ⟨_, later, otherParts, _⟩
  rcases List.append_of_mem member with ⟨before, after, rfl⟩
  rcases List.pairwise_append.mp apart with ⟨_, behind, across⟩
  rcases List.mem_append.mp isOther with isBefore | isAfter
  · apply across other isBefore state List.mem_cons_self
    rw [otherParts, hasParts]
    rfl
  · rcases List.mem_cons.mp isAfter with rfl | isBehind
    · rw [hasParts] at otherParts
      cases otherParts
    · apply (List.pairwise_cons.mp behind).1 other isBehind
      rw [otherParts, hasParts]
      rfl

theorem Fresh.takeChar (fresh : Fresh states texts) (char : Char) :
    Fresh (states.filterMap (takeChar? char)) texts := by
  intro taken isTaken first isFirst next member part
  rcases List.mem_filterMap.mp member with ⟨state, isState, takes⟩
  rcases takeChar?_eq_some_iff.mp takes with ⟨later, hasParts, rfl⟩
  apply fresh taken isTaken first isFirst state isState
  rw [hasParts]
  exact List.mem_cons_of_mem _ part

theorem Fresh.takeSegment {name text : String} (fresh : Fresh states ((name, text) :: texts))
    (segment : List Char) : Fresh (states.filterMap (takeSegment? segment)) texts := by
  intro taken isTaken first isFirst next member part
  rcases List.mem_filterMap.mp member with ⟨state, isState, takes⟩
  rcases takeSegment?_eq_some_iff.mp takes with ⟨_, later, hasParts, rfl⟩
  apply fresh taken (List.mem_cons_of_mem _ isTaken) first isFirst state isState
  rw [hasParts]
  exact List.mem_cons_of_mem _ part

/-- A path that a template spells with fresh texts is found for it, whatever other templates
there are. -/
theorem resolve?_eq_some_of_fresh (apart : Apart states) (member : state ∈ states)
    (spelled : Spells state.parts texts path) (fresh : Fresh states texts) :
    resolve? states path = some (state.target, state.taken ++ texts) := by
  induction path using path_induction generalizing states state texts with
  | nil =>
      rcases spells_nil_iff.mp spelled with ⟨isEnd, rfl⟩
      rw [resolve?_nil, List.append_nil]
      apply apart.findSome? member (finish?_eq_some_iff.mpr ⟨isEnd, rfl⟩)
      intro other finished
      rcases Option.isSome_iff_exists.mp finished with ⟨result, isResult⟩
      rw [(finish?_eq_some_iff.mp isResult).1, isEnd]
      rfl
  | cons char rest alongChar alongSegment =>
      rw [resolve?_cons]
      rcases spells_cons_iff.mp spelled with
        ⟨later, hasParts, spelledLater⟩ |
          ⟨other, name, later, more, hasParts, rfl, spelledLater⟩ | ⟨name, hasParts, rfl⟩
      · rw [alongChar (apart.takeChar char) (mem_filterMap_takeChar? member hasParts) spelledLater
          (fresh.takeChar char), Option.some_or]
      · have unknown : ∀ state ∈ states, .char char ∉ state.parts :=
          fresh _ List.mem_cons_self char (by simp)
        rw [filterMap_takeChar?_of_fresh unknown, resolve?_of_nil, Option.none_or, if_neg other,
          alongSegment (apart.takeSegment _) (mem_filterMap_takeSegment? member hasParts _)
            spelledLater (fresh.takeSegment _),
          Option.some_or, List.append_assoc, List.singleton_append]
      · have unknown : ∀ state ∈ states, .char char ∉ state.parts :=
          fresh _ List.mem_cons_self char (by simp)
        have byRest : states.findSome? (takeRest? (char :: rest)) =
            some (state.target, state.taken ++ [(name, String.ofList (char :: rest))]) := by
          apply apart.findSome? member (takeRest?_eq_some_iff.mpr ⟨name, hasParts, rfl⟩)
          intro other takes
          rcases Option.isSome_iff_exists.mp takes with ⟨result, isResult⟩
          rcases takeRest?_eq_some_iff.mp isResult with ⟨_, otherParts, _⟩
          rw [otherParts, hasParts]
          rfl
        rw [filterMap_takeChar?_of_fresh unknown, resolve?_of_nil, Option.none_or,
          apart.filterMap_takeSegment? member hasParts, resolve?_of_nil, Option.none_or, ite_self]
        exact byRest

end Alone

end TemplateState

/-! ## A path for every template -/

namespace Template

/-- A name for a segment is followed by a slash or by nothing, a name for the rest by
nothing. -/
def WellPlaced : List TemplatePart → Prop
  | [] => True
  | .char _ :: later => WellPlaced later
  | .segment _ :: later => (∀ part ∈ later.head?, part = .char '/') ∧ WellPlaced later
  | .rest _ :: later => later = []

/-- The path that a template makes of one text for all its names. -/
def fill (text : List Char) : List TemplatePart → List Char
  | [] => []
  | .char char :: later => char :: fill text later
  | .segment _ :: later => text ++ fill text later
  | .rest _ :: later => text ++ fill text later

/-- The names of a template, in order, with one text for all of them. -/
def filled (text : List Char) : List TemplatePart → List (String × String)
  | [] => []
  | .char _ :: later => filled text later
  | .segment name :: later => (name, String.ofList text) :: filled text later
  | .rest name :: later => (name, String.ofList text) :: filled text later

variable {text : List Char} {parts : List TemplatePart}

theorem spells_fill (nonempty : text ≠ []) (within : '/' ∉ text) (placed : WellPlaced parts) :
    Spells parts (filled text parts) (fill text parts) := by
  induction parts with
  | nil => exact .nil
  | cons part later ih =>
      cases part with
      | char char => exact .char char (ih placed)
      | segment name =>
          refine .segment name nonempty within ?_ (ih placed.2)
          intro next isNext
          cases later with
          | nil => cases isNext
          | cons after more =>
              obtain rfl := placed.1 after rfl
              cases isNext
              rfl
      | rest name =>
          obtain rfl : later = [] := placed
          rw [fill, fill, List.append_nil]
          exact .rest name nonempty

theorem snd_of_mem_filled {taken : String × String} (member : taken ∈ filled text parts) :
    taken.2 = String.ofList text := by
  induction parts with
  | nil => cases member
  | cons part later ih =>
      cases part with
      | char char => exact ih member
      | segment name | rest name =>
          rcases List.mem_cons.mp member with rfl | isLater
          · rfl
          · exact ih isLater

end Template

namespace TemplateMark

variable {parts : List TemplatePart}

theorem named?_cases {name : List Char} {after : List TemplateMark} {part : TemplatePart}
    (isPart : named? name after = some part) :
    (∃ name, part = .rest name ∧ after = []) ∨
      ∃ name, part = .segment name ∧ ∀ next ∈ after.head?, next.char = '/' := by
  rw [named?.eq_def] at isPart
  split at isPart
  · cases isPart
  · cases isPart
    exact .inl ⟨_, rfl, rfl⟩
  · cases isPart
  · cases isPart
    exact .inr ⟨_, rfl, fun _ impossible => by cases impossible⟩
  · next next more _ _ =>
      split at isPart
      · next isSlash =>
          cases isPart
          refine .inr ⟨_, rfl, ?_⟩
          rintro _ ⟨⟩
          exact isSlash
      · cases isPart

/-- What begins with a slash is read as parts that begin with one. -/
theorem head?_of_parts? {marks : List TemplateMark}
    (slash : ∀ next ∈ marks.head?, next.char = '/') (read : parts? none marks = some parts) :
    ∀ part ∈ parts.head?, part = .char '/' := by
  cases marks with
  | nil =>
      rw [parts?, Option.some.injEq] at read
      subst read
      exact fun _ impossible => by cases impossible
  | cons mark rest =>
      have isSlash := slash mark rfl
      have notBrace : ∀ char, char ≠ '/' → mark ≠ ⟨char, false⟩ := by
        rintro char other rfl
        exact other isSlash
      rw [parts?.eq_def] at read
      dsimp only at read
      rw [if_neg (notBrace '}' (by decide)), if_neg (notBrace '{' (by decide)),
        Option.map_eq_some_iff] at read
      rcases read with ⟨later, _, rfl⟩
      rintro _ ⟨⟩
      rw [isSlash]

theorem wellPlaced_of_parts? {name? : Option (List Char)} {marks : List TemplateMark}
    (read : parts? name? marks = some parts) : Template.WellPlaced parts := by
  fun_induction parts? name? marks generalizing parts with
  | case1 =>
      cases read
      trivial
  | case2 | case3 | case4 | case7 | case9 => cases read
  | case5 first rest _ _ ih => exact ih read
  | case6 mark rest _ _ ih =>
      rcases Option.map_eq_some_iff.mp read with ⟨later, isLater, rfl⟩
      have placed : Template.WellPlaced later := ih isLater
      exact placed
  | case8 name rest ih =>
      rcases Option.bind_eq_some_iff.mp read with ⟨part, isPart, readLater⟩
      rcases Option.bind_eq_some_iff.mp readLater with ⟨later, isLater, whole⟩
      cases whole
      rcases named?_cases isPart with ⟨_, rfl, rfl⟩ | ⟨_, rfl, follows⟩
      · rw [parts?, Option.some.injEq] at isLater
        exact isLater.symm
      · exact ⟨head?_of_parts? follows isLater, ih isLater⟩
  | case10 name mark rest _ _ ih => exact ih read

end TemplateMark

theorem Template.wellPlaced_of_ofText? {text : String} {template : Template}
    (read : Template.ofText? text = some template) : WellPlaced template.parts := by
  rw [ofText?] at read
  split at read
  · split at read
    · cases read
    · rcases Option.bind_eq_some_iff.mp read with ⟨parts, isParts, whole⟩
      split at whole
      · cases whole
        exact TemplateMark.wellPlaced_of_parts? isParts
      · cases whole
  · cases read

end ApiContract.Http
