import ApiContract.OpenApi.Document
import ApiContract.Proofs.Entries
import ApiContract.Proofs.Routing.Registration
import Mathlib.Data.List.Dedup
import Mathlib.Data.List.Induction

/-!
# Which operations a document holds

A document has one operation for every place that a described route has in it, and that of the
first route there.  The places of a document are told apart by methods and by paths as documents
write them, those of a registry by paths as they are matched.  A document forgets the star of a
name, so two routes of a registry can have one place in it, and then one of them is missing.
-/

namespace ApiContract

variable {State : Type}

/-- The place of a route in a document. -/
def Route.documentPlace (route : Route State) : String × String :=
  (route.documentPath, route.method)

namespace OpenApi

/-! ## The operations of one path -/

theorem methodBefore_iff {left right : String} :
    methodBefore left right ↔ knownMethods.idxOf left < knownMethods.idxOf right := by
  rw [methodBefore, decide_eq_true_eq]

theorem methodBefore_trans {first second third : String} (left : methodBefore first second)
    (right : methodBefore second third) : methodBefore first third := by
  rw [methodBefore_iff] at left right ⊢
  omega

theorem ne_of_methodBefore {left right : String} (before : methodBefore left right) :
    left ≠ right := by
  rintro rfl
  rw [methodBefore_iff] at before
  omega

/-- Of two known methods, one prints before the other. -/
theorem methodBefore_of_not {left right : String} (known : left ∈ knownMethods)
    (differ : left ≠ right) (notBefore : ¬methodBefore left right) : methodBefore right left := by
  rw [methodBefore_iff] at notBefore ⊢
  have places : knownMethods.idxOf left ≠ knownMethods.idxOf right := by
    intro same
    exact differ ((List.idxOf_inj known).mp same)
  omega

/-- The operations of a path stand in the order of their methods, which are known. -/
structure InOrder (operations : Entries Operation) : Prop where
  known : ∀ method ∈ Entries.keys operations, method ∈ knownMethods
  ascending : operations.Pairwise fun left right => methodBefore left.1 right.1

section Insertion

variable {operations : Entries Operation} {method : String} {added : Operation}

theorem InOrder.nodup_keys (inOrder : InOrder operations) : (Entries.keys operations).Nodup :=
  List.pairwise_map.mpr (inOrder.ascending.imp ne_of_methodBefore)

theorem inOrder_cons_iff {head : String × Operation} {rest : Entries Operation} :
    InOrder (head :: rest) ↔
      head.1 ∈ knownMethods ∧ (∀ later ∈ rest, methodBefore head.1 later.1) ∧ InOrder rest := by
  constructor
  · rintro ⟨known, ascending⟩
    rcases List.pairwise_cons.mp ascending with ⟨first, others⟩
    refine ⟨known _ List.mem_cons_self, first, ?_, others⟩
    intro method member
    exact known method (List.mem_cons_of_mem _ member)
  · rintro ⟨isKnown, first, known, others⟩
    refine ⟨?_, List.pairwise_cons.mpr ⟨first, others⟩⟩
    intro method member
    rcases List.mem_cons.mp member with rfl | later
    · exact isKnown
    · exact known method later

theorem mem_keys_insertOperation {other : String} :
    other ∈ Entries.keys (insertOperation method added operations) ↔
      other = method ∨ other ∈ Entries.keys operations := by
  induction operations with
  | nil => simp [insertOperation, Entries.keys]
  | cons head rest ih =>
      rcases head with ⟨existing, operation⟩
      rw [insertOperation]
      split
      · next same => simp [Entries.keys, same]
      · split
        · simp [Entries.keys]
        · simp only [Entries.keys, List.map_cons, List.mem_cons] at ih ⊢
          rw [ih]
          tauto

theorem InOrder.insertOperation (inOrder : InOrder operations) (isKnown : method ∈ knownMethods) :
    InOrder (insertOperation method added operations) := by
  induction operations with
  | nil =>
      refine ⟨?_, List.pairwise_singleton _ _⟩
      intro other member
      rwa [List.mem_singleton.mp member]
  | cons head rest ih =>
      rcases head with ⟨existing, operation⟩
      rcases inOrder_cons_iff.mp inOrder with ⟨existingKnown, first, others⟩
      rw [OpenApi.insertOperation]
      split
      · exact inOrder
      · next differ =>
          split
          · next before =>
              refine inOrder_cons_iff.mpr ⟨isKnown, ?_, inOrder⟩
              refine List.forall_mem_cons.mpr ⟨before, ?_⟩
              intro later member
              exact methodBefore_trans before (first later member)
          · next notBefore =>
              refine inOrder_cons_iff.mpr ⟨existingKnown, ?_, ih others⟩
              intro later member
              have named : later.1 ∈ Entries.keys (OpenApi.insertOperation method added rest) :=
                List.mem_map_of_mem member
              rcases mem_keys_insertOperation.mp named with same | inRest
              · rw [same]
                exact methodBefore_of_not isKnown differ notBefore
              · rcases List.mem_map.mp inRest with ⟨listed, isListed, same⟩
                rw [← same]
                exact first listed isListed

/-- Of two operations at one method the first stays. -/
theorem InOrder.get?_insertOperation (inOrder : InOrder operations) (other : String) :
    Entries.get? (OpenApi.insertOperation method added operations) other =
      if other = method then some ((Entries.get? operations method).getD added)
      else Entries.get? operations other := by
  induction operations with
  | nil => simp [OpenApi.insertOperation]
  | cons head rest ih =>
      rcases head with ⟨existing, operation⟩
      rcases inOrder_cons_iff.mp inOrder with ⟨_, first, others⟩
      rw [OpenApi.insertOperation]
      split
      · next same =>
          subst same
          by_cases found : other = method <;> simp [found]
      · next differ =>
          split
          · next before =>
              have absent : Entries.get? rest method = none := by
                rw [Entries.get?_eq_none_iff]
                intro member
                rcases List.mem_map.mp member with ⟨later, isLater, same⟩
                have after := methodBefore_trans before (first later isLater)
                exact ne_of_methodBefore after same.symm
              rw [Entries.get?_cons]
              by_cases found : other = method
              · simp [found, differ, absent]
              · simp [found]
          · rw [Entries.get?_cons, Entries.get?_cons, ih others, Entries.get?_cons]
            by_cases found : other = existing
            · subst found
              simp [Ne.symm differ]
            · simp [found, differ]

end Insertion

/-! ## The operations of all paths -/

/-- Paths ascend, and the operations of each stand in order. -/
structure Tidy (paths : Entries (Entries Operation)) : Prop where
  ascending : Entries.Ascending paths
  inOrder : ∀ entry ∈ paths, InOrder entry.2

/-- The operation at a path and a method. -/
def operationAt? (paths : Entries (Entries Operation)) (place : String × String) :
    Option Operation :=
  (Entries.get? paths place.1).bind fun operations => Entries.get? operations place.2

/-- All operations with their places. -/
def operationsOf (paths : Entries (Entries Operation)) : List ((String × String) × Operation) :=
  paths.flatMap fun entry => entry.2.map fun listed => ((entry.1, listed.1), listed.2)

section Addition

variable {paths : Entries (Entries Operation)} {path method : String} {added : Operation}

theorem Tidy.inOrder_getD (tidy : Tidy paths) (path : String) :
    InOrder ((Entries.get? paths path).getD []) := by
  cases found : Entries.get? paths path with
  | none => exact ⟨fun _ member => absurd member List.not_mem_nil, .nil⟩
  | some operations => exact tidy.inOrder _ (Entries.mem_of_get? found)

theorem Tidy.addOperation (tidy : Tidy paths) (isKnown : method ∈ knownMethods) :
    Tidy (addOperation paths path method added) where
  ascending := Entries.ascending_insert tidy.ascending
  inOrder := by
    intro entry member
    have found : Entries.get? (OpenApi.addOperation paths path method added) entry.1 =
        some entry.2 :=
      (Entries.get?_eq_some_iff (Entries.ascending_insert tidy.ascending).nodup_keys).mpr member
    rw [OpenApi.addOperation, Entries.get?_insert] at found
    split at found
    · rw [← Option.some.inj found]
      exact (tidy.inOrder_getD path).insertOperation isKnown
    · exact tidy.inOrder _ (Entries.mem_of_get? found)

theorem operationAt?_eq_get?_getD (paths : Entries (Entries Operation))
    (place : String × String) :
    operationAt? paths place = Entries.get? ((Entries.get? paths place.1).getD []) place.2 := by
  rw [operationAt?]
  cases Entries.get? paths place.1 <;> rfl

/-- Of two operations at one place the first stays. -/
theorem Tidy.operationAt?_addOperation (tidy : Tidy paths) (place : String × String) :
    operationAt? (OpenApi.addOperation paths path method added) place =
      if place = (path, method) then some ((operationAt? paths place).getD added)
      else operationAt? paths place := by
  rcases place with ⟨otherPath, otherMethod⟩
  rw [operationAt?_eq_get?_getD, operationAt?_eq_get?_getD, OpenApi.addOperation,
    Entries.get?_insert]
  by_cases samePath : otherPath = path
  · subst samePath
    rw [if_pos rfl, Option.getD_some, (tidy.inOrder_getD otherPath).get?_insertOperation]
    by_cases sameMethod : otherMethod = method
    · subst sameMethod
      rw [if_pos rfl, if_pos rfl]
    · rw [if_neg sameMethod, if_neg (by simpa using sameMethod)]
  · rw [if_neg samePath, if_neg (by simp [samePath])]

end Addition

/-! ## The operations of routes -/

/-- The paths of routes with methods that documents know. -/
def pathsOf (routes : List (Route State)) : Entries (Entries Operation) :=
  routes.foldl (fun paths route =>
    addOperation paths route.documentPath route.method (operation route)) []

/-- The routes with methods that documents know. -/
def knownRoutes (routes : List (Route State)) : List (Route State) :=
  routes.filter fun route => knownMethods.contains route.method

theorem mem_knownRoutes_iff {routes : List (Route State)} {route : Route State} :
    route ∈ knownRoutes routes ↔ route ∈ routes ∧ route.method ∈ knownMethods := by
  simp [knownRoutes]

theorem paths_describe (info : Info) (routes : List (Route State)) :
    (describe info routes).paths = pathsOf (knownRoutes routes) :=
  rfl

theorem pathsOf_concat (routes : List (Route State)) (route : Route State) :
    pathsOf (routes ++ [route]) =
      addOperation (pathsOf routes) route.documentPath route.method (operation route) :=
  List.foldl_append

section Paths

variable {routes : List (Route State)}

theorem tidy_pathsOf (known : ∀ route ∈ routes, route.method ∈ knownMethods) :
    Tidy (pathsOf routes) := by
  induction routes using List.reverseRecOn with
  | nil => exact ⟨.nil, fun _ member => absurd member List.not_mem_nil⟩
  | append_singleton routes route ih =>
      rw [List.forall_mem_append, List.forall_mem_singleton] at known
      rw [pathsOf_concat]
      exact (ih known.1).addOperation known.2

/-- At every place there is the operation of the first route there. -/
theorem operationAt?_pathsOf (known : ∀ route ∈ routes, route.method ∈ knownMethods)
    (place : String × String) :
    operationAt? (pathsOf routes) place =
      (routes.find? fun route => route.documentPlace = place).map operation := by
  induction routes using List.reverseRecOn with
  | nil => rfl
  | append_singleton routes route ih =>
      rw [List.forall_mem_append, List.forall_mem_singleton] at known
      rw [pathsOf_concat, (tidy_pathsOf known.1).operationAt?_addOperation, ih known.1,
        List.find?_append, List.find?_singleton]
      have isPlace : (route.documentPath, route.method) = route.documentPlace := rfl
      rw [isPlace]
      by_cases here : route.documentPlace = place
      · subst here
        rw [if_pos rfl, if_pos (decide_eq_true rfl)]
        cases routes.find? fun other => other.documentPlace = route.documentPlace <;> rfl
      · rw [if_neg (Ne.symm here), if_neg (by simpa using here), Option.or_none]

/-- A route that has a place of its own is found there. -/
theorem operationAt?_pathsOf_of_mem (known : ∀ route ∈ routes, route.method ∈ knownMethods)
    (distinct : (routes.map Route.documentPlace).Nodup) {route : Route State}
    (member : route ∈ routes) :
    operationAt? (pathsOf routes) route.documentPlace = some (operation route) := by
  rw [operationAt?_pathsOf known]
  cases found : routes.find? fun other => other.documentPlace = route.documentPlace with
  | none =>
      have missed := List.find?_eq_none.mp found route member
      simp at missed
  | some other =>
      have same : other.documentPlace = route.documentPlace := by
        simpa using List.find?_some found
      rw [List.inj_on_of_nodup_map distinct (List.mem_of_find?_eq_some found) member same]
      rfl

theorem isSome_operationAt?_iff (known : ∀ route ∈ routes, route.method ∈ knownMethods)
    {place : String × String} :
    (∃ found, operationAt? (pathsOf routes) place = some found) ↔
      place ∈ routes.map Route.documentPlace := by
  rw [← Option.isSome_iff_exists, operationAt?_pathsOf known, Option.isSome_map,
    List.find?_isSome, List.mem_map]
  simp only [decide_eq_true_eq]

end Paths

/-! ## How many operations there are -/

section Listing

variable {paths : Entries (Entries Operation)}

theorem Tidy.mem_operationsOf_iff (tidy : Tidy paths) {place : String × String}
    {found : Operation} :
    (place, found) ∈ operationsOf paths ↔ operationAt? paths place = some found := by
  rw [operationsOf, List.mem_flatMap, operationAt?, Option.bind_eq_some_iff]
  constructor
  · rintro ⟨⟨path, operations⟩, isEntry, member⟩
    rcases List.mem_map.mp member with ⟨⟨method, listed⟩, isListed, same⟩
    cases same
    refine ⟨operations, ?_, ?_⟩
    · exact (Entries.get?_eq_some_iff tidy.ascending.nodup_keys).mpr isEntry
    · exact (Entries.get?_eq_some_iff (tidy.inOrder _ isEntry).nodup_keys).mpr isListed
  · rintro ⟨operations, isEntry, isListed⟩
    exact ⟨_, Entries.mem_of_get? isEntry, List.mem_map_of_mem (Entries.mem_of_get? isListed)⟩

/-- No place is listed twice. -/
theorem Tidy.nodup_places (tidy : Tidy paths) :
    ((operationsOf paths).map Prod.fst).Nodup := by
  rw [operationsOf, List.map_flatMap, List.nodup_flatMap]
  constructor
  · intro entry isEntry
    have places : (entry.2.map fun listed => ((entry.1, listed.1), listed.2)).map Prod.fst =
        (Entries.keys entry.2).map fun method => (entry.1, method) := by
      simp [Entries.keys]
    rw [places]
    exact (tidy.inOrder entry isEntry).nodup_keys.map fun _ _ same => (Prod.mk.inj same).2
  · refine tidy.ascending.imp ?_
    intro left right before
    apply List.disjoint_left.mpr
    intro place inLeft inRight
    simp only [List.map_map, List.mem_map, Function.comp_apply] at inLeft inRight
    rcases inLeft with ⟨_, _, rfl⟩
    rcases inRight with ⟨_, _, same⟩
    exact String.ne_of_lt before (Prod.mk.inj same).1.symm

end Listing

theorem length_operationsOf {routes : List (Route State)}
    (known : ∀ route ∈ routes, route.method ∈ knownMethods) :
    (operationsOf (pathsOf routes)).length = (routes.map Route.documentPlace).dedup.length := by
  have tidy := tidy_pathsOf known
  have same : ((operationsOf (pathsOf routes)).map Prod.fst).Perm
      (routes.map Route.documentPlace).dedup := by
    rw [List.perm_ext_iff_of_nodup tidy.nodup_places (List.nodup_dedup _)]
    intro place
    rw [List.mem_dedup, ← isSome_operationAt?_iff known]
    simp only [List.mem_map, Prod.exists, exists_and_right, exists_eq_right,
      tidy.mem_operationsOf_iff]
  rw [← same.length_eq, List.length_map]

/-! ## The document of a registry -/

/-- Two routes have one method, and paths that are matched apart but differ in stars only. -/
structure Obscures (left right : Route State) : Prop where
  method : left.method = right.method
  paths : Routing.SameButStars left.fullPath right.fullPath
  apart : left.templatePath ≠ right.templatePath

/-- The operation that a document holds at a path and a method. -/
def Document.operation? (document : Document) (path method : String) : Option Operation :=
  operationAt? document.paths (path, method)

/-- All operations of a document with their places. -/
def Document.operations (document : Document) : List ((String × String) × Operation) :=
  operationsOf document.paths

/-- What a document holds of routes. -/
structure Describes (routes : List (Route State)) (document : Document) : Prop where
  /-- At every place of a known route there is the operation of the first route there, and
  nowhere else is one. -/
  operation?_iff : ∀ path method found, document.operation? path method = some found ↔
    ∃ earlier first later, earlier ++ first :: later = knownRoutes routes ∧
      first.documentPlace = (path, method) ∧
      (∀ other ∈ earlier, other.documentPlace ≠ (path, method)) ∧ found = operation first
  lists_iff : ∀ path method found,
    ((path, method), found) ∈ document.operations ↔ document.operation? path method = some found
  distinct : (document.operations.map Prod.fst).Nodup
  length : document.operations.length =
    ((knownRoutes routes).map Route.documentPlace).dedup.length
  /-- There is one operation for each known route just when no two of them differ in stars
  only. -/
  complete_iff : document.operations.length = (knownRoutes routes).length ↔
    ∀ left ∈ knownRoutes routes, ∀ right ∈ knownRoutes routes, ¬Obscures left right
  /-- Then every known route is found, under the name of its contract. -/
  found : (∀ left ∈ knownRoutes routes, ∀ right ∈ knownRoutes routes, ¬Obscures left right) →
    ∀ route ∈ knownRoutes routes,
      document.operation? route.documentPath route.method = some (operation route) ∧
        (operation route).id = route.name
  /-- That is so where no path ends in a star. -/
  starless : (∀ route ∈ knownRoutes routes, ∀ name,
      .rest name ∉ Routing.segments route.fullPath) →
    ∀ left ∈ knownRoutes routes, ∀ right ∈ knownRoutes routes, ¬Obscures left right

section Registered

variable {routes : List (Route State)}

theorem documentPlace_eq_iff {left right : Route State} :
    left.documentPlace = right.documentPlace ↔
      left.method = right.method ∧ Routing.SameButStars left.fullPath right.fullPath := by
  rw [Route.documentPlace, Route.documentPlace, Prod.mk.injEq, Route.documentPath,
    Route.documentPath, Routing.documentPath_eq_iff, and_comm]

/-- Routes of a registry have places of their own in a document unless one obscures another. -/
theorem nodup_documentPlaces_iff (distinct : (routes.map Route.place).Nodup) :
    ((knownRoutes routes).map Route.documentPlace).Nodup ↔
      ∀ left ∈ knownRoutes routes, ∀ right ∈ knownRoutes routes, ¬Obscures left right := by
  have places : ((knownRoutes routes).map Route.place).Nodup :=
    distinct.sublist (List.filter_sublist.map Route.place)
  constructor
  · intro nodup left isLeft right isRight obscures
    have same := List.inj_on_of_nodup_map nodup isLeft isRight
      (documentPlace_eq_iff.mpr ⟨obscures.method, obscures.paths⟩)
    exact obscures.apart (congrArg Route.templatePath same)
  · intro clear
    apply List.Nodup.map_on _ (List.Nodup.of_map _ places)
    intro left isLeft right isRight same
    rcases documentPlace_eq_iff.mp same with ⟨method, paths⟩
    have together : left.templatePath = right.templatePath := by
      by_contra apart
      exact clear left isLeft right isRight ⟨method, paths, apart⟩
    have samePlace : left.place = right.place := by
      rw [Route.place, Route.place, method, together]
    exact List.inj_on_of_nodup_map places isLeft isRight samePlace

theorem describes_describe (distinct : (routes.map Route.place).Nodup) (info : Info) :
    Describes routes (describe info routes) := by
  have known : ∀ route ∈ knownRoutes routes, route.method ∈ knownMethods :=
    fun route member => (mem_knownRoutes_iff.mp member).2
  have tidy := tidy_pathsOf known
  have length : (describe info routes).operations.length =
      ((knownRoutes routes).map Route.documentPlace).dedup.length := by
    rw [Document.operations, paths_describe, length_operationsOf known]
  have firstAt : ∀ path method, (describe info routes).operation? path method =
      ((knownRoutes routes).find? fun route => route.documentPlace = (path, method)).map
        operation := by
    intro path method
    rw [Document.operation?, paths_describe, operationAt?_pathsOf known]
  constructor
  · intro path method found
    rw [firstAt, Option.map_eq_some_iff]
    simp only [List.find?_eq_some_iff_append, decide_eq_true_eq, Bool.not_eq_true',
      decide_eq_false_iff_not]
    constructor
    · rintro ⟨route, ⟨isPlace, earlier, later, isKnown, isFirst⟩, rfl⟩
      exact ⟨earlier, route, later, isKnown.symm, isPlace, isFirst, rfl⟩
    · rintro ⟨earlier, route, later, isKnown, isPlace, isFirst, rfl⟩
      exact ⟨route, ⟨isPlace, earlier, later, isKnown.symm, isFirst⟩, rfl⟩
  · intro path method found
    exact tidy.mem_operationsOf_iff
  · exact tidy.nodup_places
  · exact length
  · rw [length, ← nodup_documentPlaces_iff distinct, ← List.dedup_eq_self]
    constructor
    · intro same
      apply (List.dedup_sublist _).eq_of_length
      rw [same, List.length_map]
    · intro same
      rw [same, List.length_map]
  · intro clear route member
    have nodup := (nodup_documentPlaces_iff distinct).mpr clear
    exact ⟨operationAt?_pathsOf_of_mem known nodup member, rfl⟩
  · intro starless left isLeft right isRight obscures
    exact obscures.apart
      (obscures.paths.templatePath_eq (starless left isLeft) (starless right isRight))

end Registered

/-- Whatever was registered, the document holds the first known route of every place, and all of
them just when none obscures another. -/
theorem describes_ofAttempts (attempts : List (Attempt State)) (info : Info) :
    Describes (Registry.ofAttempts attempts).routes
      (describe info (Registry.ofAttempts attempts).routes) :=
  describes_describe (Registry.consistent_empty.afterAll attempts).distinct info

/-- Two routes whose paths differ in a star. -/
def files : List (Attempt Nat) :=
  [.plain "one" "GET" "/files/:rest", .plain "all" "GET" "/files/*rest"]

/-- The registry takes both, and the document holds the first. -/
theorem files_obscured :
    (∀ outcome ∈ ({} : Registry Nat).outcomes files, outcome.isOk) ∧
      (knownRoutes (Registry.ofAttempts files).routes).length = 2 ∧
      (describe {} (Registry.ofAttempts files).routes).operations.map
        (fun listed => (listed.1, listed.2.id)) = [(("/files/\x7brest\x7d", "GET"), "one")] := by
  decide +kernel

end OpenApi

end ApiContract
