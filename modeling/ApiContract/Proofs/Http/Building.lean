import ApiContract.Proofs.Http.Matching
import ApiContract.Proofs.Http.Planning
import ApiContract.Proofs.Routing.Decision
import ApiContract.Proofs.Routing.Registration
import Mathlib.Data.List.Forall2
import Mathlib.Data.List.Pairwise

/-!
# When a surface can be built

Paths are mounted one after the other.  A path that is no template ends that, and so does one
that cannot be matched beside an earlier one.  Hence the surface of a registry is built just
when all its paths are templates and any two of them can be matched side by side, which the
registry itself does not see to.
-/

namespace ApiContract.Http

variable {State : Type}

namespace Template

theorem runTogether_comm (left right : List TemplatePart) :
    runTogether left right = runTogether right left := by
  induction left generalizing right with
  | nil =>
      cases right with
      | nil => rfl
      | cons other more => cases other <;> rfl
  | cons part rest ih =>
      cases right with
      | nil => cases part <;> rfl
      | cons other more => cases part <;> cases other <;> simp [runTogether, ih, BEq.comm]

end Template

/-- Two paths are templates that cannot be matched side by side. -/
def Clash (left right : String) : Prop :=
  ∃ first second, Template.ofText? left = some first ∧ Template.ofText? right = some second ∧
    first.conflictsWith second

theorem Clash.symm {left right : String} (clash : Clash left right) : Clash right left := by
  rcases clash with ⟨first, second, isFirst, isSecond, conflict⟩
  refine ⟨second, first, isSecond, isFirst, ?_⟩
  rwa [Template.conflictsWith, Template.runTogether_comm]

namespace Surface

/-! ## Mounting what is planned -/

/-- A mount serves what is planned for a path. -/
structure Mounts (plan : String × List (String × Endpoint State)) (mount : Mount State) :
    Prop where
  template : Template.ofText? plan.1 = some mount.template
  endpoints : mount.endpoints = plan.2

/-- Any two mounts can be matched side by side. -/
def Separate (mounts : List (Mount State)) : Prop :=
  mounts.Pairwise fun left right => ¬left.template.conflictsWith right.template

section Mounting

variable {mounts extended : List (Mount State)} {mount : Mount State}
  {plan : String × List (String × Endpoint State)}
  {plans : List (String × List (String × Endpoint State))}

theorem separate_concat_iff : Separate (mounts ++ [mount]) ↔
    Separate mounts ∧ ∀ earlier ∈ mounts, ¬earlier.template.conflictsWith mount.template := by
  simp [Separate, List.pairwise_append]

theorem mountPath_eq_ok_iff (separate : Separate mounts) :
    mountPath mounts plan = .ok extended ↔
      ∃ mount, Mounts plan mount ∧ extended = mounts ++ [mount] ∧ Separate extended := by
  rw [mountPath]
  split
  · next unread =>
      constructor
      · intro impossible
        cases impossible
      · rintro ⟨mount, mounted, _⟩
        rw [mounted.template] at unread
        cases unread
  · next template isTemplate =>
      have unique : ∀ mount, Mounts plan mount → mount = ⟨template, plan.2⟩ := by
        rintro ⟨other, endpoints⟩ ⟨isOther, isPlan⟩
        rw [isTemplate] at isOther
        cases isOther
        cases isPlan
        rfl
      have mounted : Mounts plan ⟨template, plan.2⟩ := ⟨isTemplate, rfl⟩
      split
      · next conflict =>
          rw [List.any_eq_true] at conflict
          rcases conflict with ⟨earlier, isEarlier, conflict⟩
          constructor
          · intro impossible
            cases impossible
          · rintro ⟨mount, isMount, rfl, apart⟩
            obtain rfl := unique mount isMount
            exact absurd conflict ((separate_concat_iff.mp apart).2 earlier isEarlier)
      · next free =>
          rw [List.any_eq_true] at free
          push Not at free
          rw [Except.ok.injEq]
          constructor
          · rintro rfl
            exact ⟨_, mounted, rfl, separate_concat_iff.mpr ⟨separate, free⟩⟩
          · rintro ⟨mount, isMount, rfl, _⟩
            rw [unique mount isMount]

/-- All paths are mounted, in their order, if any two can be matched side by side. -/
theorem foldlM_mountPath_eq_ok_iff (separate : Separate mounts) :
    plans.foldlM mountPath mounts = .ok extended ↔
      ∃ added, List.Forall₂ Mounts plans added ∧ extended = mounts ++ added ∧
        Separate extended := by
  induction plans generalizing mounts with
  | nil =>
      constructor
      · rintro ⟨⟩
        exact ⟨[], .nil, (List.append_nil _).symm, separate⟩
      · rintro ⟨added, none, rfl, _⟩
        cases none
        rw [List.append_nil]
        rfl
  | cons plan rest ih =>
      rw [List.foldlM_cons]
      constructor
      · intro built
        rcases exists_of_bind_eq_ok built with ⟨next, isNext, laterBuilt⟩
        rcases (mountPath_eq_ok_iff separate).mp isNext with ⟨mount, mounted, rfl, apart⟩
        rcases (ih apart).mp laterBuilt with ⟨added, later, rfl, allApart⟩
        exact ⟨mount :: added, .cons mounted later, List.append_assoc .., allApart⟩
      · rintro ⟨_, mounted, rfl, allApart⟩
        cases mounted with
        | @cons _ mount _ added mounted later =>
            have regrouped : mounts ++ mount :: added = mounts ++ [mount] ++ added :=
              List.append_cons mounts mount added
            rw [regrouped] at allApart
            have apart : Separate (mounts ++ [mount]) := (List.pairwise_append.mp allApart).1
            rw [(mountPath_eq_ok_iff separate).mpr ⟨mount, mounted, rfl, apart⟩]
            exact (ih apart).mpr ⟨added, later, regrouped, regrouped ▸ allApart⟩

theorem eq_unservablePath_of_foldlM {fault : SurfaceFault}
    (failed : plans.foldlM mountPath mounts = .error fault) :
    ∃ path, fault = .unservablePath path := by
  induction plans generalizing mounts with
  | nil => cases failed
  | cons plan rest ih =>
      rw [List.foldlM_cons] at failed
      cases mounted : mountPath mounts plan with
      | ok next =>
          rw [mounted] at failed
          exact ih failed
      | error other =>
          rw [mounted] at failed
          cases failed
          rw [mountPath] at mounted
          split at mounted
          · cases mounted
            exact ⟨_, rfl⟩
          · split at mounted
            · cases mounted
              exact ⟨_, rfl⟩
            · cases mounted

/-- Whether paths can be mounted is a matter of the paths alone. -/
theorem exists_mounts_iff :
    (∃ mounts, List.Forall₂ Mounts plans mounts ∧ Separate mounts) ↔
      (∀ path ∈ plans.map Prod.fst, (Template.ofText? path).isSome) ∧
        (plans.map Prod.fst).Pairwise fun left right => ¬Clash left right := by
  constructor
  · rintro ⟨mounts, mounted, separate⟩
    induction mounted with
    | nil => exact ⟨fun path member => absurd member List.not_mem_nil, .nil⟩
    | @cons plan mount rest others isMount later ih =>
        rcases List.pairwise_cons.mp separate with ⟨apart, othersApart⟩
        rcases ih othersApart with ⟨readable, pathsApart⟩
        rw [List.map_cons, List.forall_mem_cons, List.pairwise_cons]
        refine ⟨⟨Option.isSome_of_eq_some isMount.template, readable⟩, ?_, pathsApart⟩
        intro path member
        rcases List.mem_map.mp member with ⟨other, isOther, rfl⟩
        rcases later.exists_right_of_mem isOther with ⟨second, isSecond, mounts⟩
        rintro ⟨left, right, isLeft, isRight, conflict⟩
        rw [isMount.template, Option.some.injEq] at isLeft
        rw [mounts.template, Option.some.injEq] at isRight
        apply apart second isSecond
        rwa [isLeft, isRight]
  · rintro ⟨readable, pathsApart⟩
    induction plans with
    | nil => exact ⟨[], .nil, .nil⟩
    | cons plan rest ih =>
        rw [List.map_cons, List.forall_mem_cons] at readable
        rw [List.map_cons, List.pairwise_cons] at pathsApart
        rcases Option.isSome_iff_exists.mp readable.1 with ⟨template, isTemplate⟩
        rcases ih readable.2 pathsApart.2 with ⟨mounts, mounted, separate⟩
        refine ⟨⟨template, plan.2⟩ :: mounts, .cons ⟨isTemplate, rfl⟩ mounted, ?_⟩
        refine List.pairwise_cons.mpr ⟨?_, separate⟩
        intro mount member conflict
        rcases mounted.exists_left_of_mem member with ⟨other, isOther, mounts⟩
        exact pathsApart.1 other.1 (List.mem_map_of_mem isOther)
          ⟨template, mount.template, isTemplate, mounts.template, conflict⟩

end Mounting

/-! ## What comes of a registry -/

/-- The page of the docs has a path of its own, and no route takes a path that every surface
has. -/
structure Admits (settings : SurfaceSettings) (routes : List (Route State)) : Prop where
  absolute : settings.docsEnabled → settings.docsPath.toList.head? = some '/'
  unreserved : ∀ route ∈ routes, route.templatePath ∉ settings.reservedPaths

/-- All paths that are to be served are templates, and any two of them can be matched side by
side. -/
structure Matchable (settings : SurfaceSettings) (routes : List (Route State)) : Prop where
  builtInsReadable : ∀ path ∈ settings.builtInPaths, (Template.ofText? path).isSome
  builtInsApart : settings.builtInPaths.Pairwise fun left right => ¬Clash left right
  readable : ∀ route ∈ routes, route.Servable → (Template.ofText? route.templatePath).isSome
  beside : ∀ path ∈ settings.builtInPaths, ∀ route ∈ routes, route.Servable →
    ¬Clash path route.templatePath
  apart : ∀ route ∈ routes, ∀ other ∈ routes, route.Servable → other.Servable →
    route.templatePath ≠ other.templatePath → ¬Clash route.templatePath other.templatePath

section Building

variable {settings : SurfaceSettings} {routes : List (Route State)} {surface : Surface State}

/-- The paths of routes are planned once each, so they have to be apart only from others. -/
theorem pairwise_contractPlans_iff :
    ((contractPlans routes).map Prod.fst).Pairwise (fun left right => ¬Clash left right) ↔
      ∀ route ∈ routes, ∀ other ∈ routes, route.Servable → other.Servable →
        route.templatePath ≠ other.templatePath →
          ¬Clash route.templatePath other.templatePath := by
  constructor
  · intro pairwise route isRoute other isOther servable otherServable
    have symmetric : Std.Symm fun left right => ¬Clash left right :=
      ⟨fun left right apart clash => apart clash.symm⟩
    exact pairwise.forall
      (mem_paths_contractPlans_iff.mpr ⟨route, isRoute, rfl, servable⟩)
      (mem_paths_contractPlans_iff.mpr ⟨other, isOther, rfl, otherServable⟩)
  · intro apart
    apply (nodup_paths_contractPlans routes).pairwise_of_forall_ne
    intro left isLeft right isRight
    rcases mem_paths_contractPlans_iff.mp isLeft with ⟨route, isRoute, rfl, servable⟩
    rcases mem_paths_contractPlans_iff.mp isRight with ⟨other, isOther, rfl, otherServable⟩
    exact apart route isRoute other isOther servable otherServable

theorem exists_mounts_planned_iff :
    (∃ mounts, List.Forall₂ Mounts (planned settings routes) mounts ∧ Separate mounts) ↔
      Matchable settings routes := by
  have forall_paths_iff : ∀ property : String → Prop,
      (∀ path ∈ (contractPlans routes).map Prod.fst, property path) ↔
        ∀ route ∈ routes, route.Servable → property route.templatePath := by
    intro property
    simp only [mem_paths_contractPlans_iff]
    constructor
    · intro all route member servable
      exact all _ ⟨route, member, rfl, servable⟩
    · rintro all _ ⟨route, member, rfl, servable⟩
      exact all route member servable
  rw [exists_mounts_iff, planned_eq, List.map_append, map_fst_builtIns, List.forall_mem_append,
    List.pairwise_append, pairwise_contractPlans_iff]
  simp only [forall_paths_iff]
  constructor
  · rintro ⟨⟨builtInsReadable, readable⟩, builtInsApart, apart, beside⟩
    exact ⟨builtInsReadable, builtInsApart, readable, beside, apart⟩
  · rintro ⟨builtInsReadable, builtInsApart, readable, beside, apart⟩
    exact ⟨⟨builtInsReadable, readable⟩, builtInsApart, apart, beside⟩

theorem build_of_relative (wanted : settings.docsEnabled)
    (relative : settings.docsPath.toList.head? ≠ some '/') :
    build settings routes = .error (.relativeDocsPath settings.docsPath) := by
  rw [build, if_pos ⟨wanted, relative⟩]

/-- The first route at a path that every surface has is reported. -/
theorem build_of_reserved
    (absolute : settings.docsEnabled → settings.docsPath.toList.head? = some '/')
    {earlier later : List (Route State)} {route : Route State}
    (unreserved : ∀ other ∈ earlier, other.templatePath ∉ settings.reservedPaths)
    (reserved : route.templatePath ∈ settings.reservedPaths) :
    build settings (earlier ++ route :: later) =
      .error (.reservedPath route.name route.fullPath) := by
  have first : (earlier ++ route :: later).find?
      (fun route => settings.reservedPaths.contains route.templatePath) = some route := by
    rw [List.find?_eq_some_iff_append]
    refine ⟨by simpa using reserved, earlier, later, rfl, ?_⟩
    intro other member
    simpa using unreserved other member
  rw [build, if_neg (fun relative => relative.2 (absolute relative.1)), first]

theorem build_of_admits (admits : Admits settings routes) :
    build settings routes =
      (planned settings routes).foldlM mountPath [] >>= fun mounts =>
        .ok ⟨mounts, settings.bodyLimit⟩ := by
  have free : routes.find? (fun route => settings.reservedPaths.contains route.templatePath) =
      none := by
    rw [List.find?_eq_none]
    intro route member
    simpa using admits.unreserved route member
  rw [build, if_neg (fun relative => relative.2 (admits.absolute relative.1)), free]

/-- What keeps settings and routes from each other is reported. -/
theorem exists_reported_of_not_admits (refused : ¬Admits settings routes) :
    ∃ fault, build settings routes = .error fault ∧ ∀ path, fault ≠ .unservablePath path := by
  by_cases absolute : settings.docsEnabled → settings.docsPath.toList.head? = some '/'
  · have reserved : ∃ route ∈ routes, route.templatePath ∈ settings.reservedPaths := by
      by_contra unreserved
      push Not at unreserved
      exact refused ⟨absolute, unreserved⟩
    rcases reserved with ⟨route, member, reserved⟩
    cases found : routes.find? fun route =>
        settings.reservedPaths.contains route.templatePath with
    | none => exact absurd reserved (by simpa using List.find?_eq_none.mp found route member)
    | some first =>
        rcases List.find?_eq_some_iff_append.mp found with
          ⟨isReserved, earlier, later, rfl, unreserved⟩
        refine ⟨_, build_of_reserved absolute ?_ (by simpa using isReserved), ?_⟩
        · intro other member
          simpa using unreserved other member
        · intro path impossible
          cases impossible
  · push Not at absolute
    refine ⟨_, build_of_relative absolute.1 absolute.2, ?_⟩
    intro path impossible
    cases impossible

/-- A surface serves what is planned, path by path, and any two of its paths can be matched
side by side. -/
theorem build_eq_ok_iff : build settings routes = .ok surface ↔
    Admits settings routes ∧ List.Forall₂ Mounts (planned settings routes) surface.mounts ∧
      Separate surface.mounts ∧ surface.bodyLimit = settings.bodyLimit := by
  by_cases admits : Admits settings routes
  · rw [build_of_admits admits]
    constructor
    · intro built
      rcases exists_of_bind_eq_ok built with ⟨mounts, isMounted, whole⟩
      cases whole
      rcases (foldlM_mountPath_eq_ok_iff .nil).mp isMounted with ⟨added, mounted, rfl, separate⟩
      exact ⟨admits, mounted, separate, rfl⟩
    · rintro ⟨_, mounted, separate, isLimit⟩
      rw [(foldlM_mountPath_eq_ok_iff .nil).mpr
        ⟨surface.mounts, mounted, (List.nil_append _).symm, separate⟩, ← isLimit]
      rfl
  · rcases exists_reported_of_not_admits admits with ⟨fault, failed, _⟩
    rw [failed]
    constructor
    · intro impossible
      cases impossible
    · rintro ⟨isAdmitted, _⟩
      exact absurd isAdmitted admits

theorem exists_build_eq_ok_iff :
    (∃ surface, build settings routes = .ok surface) ↔
      Admits settings routes ∧ Matchable settings routes := by
  simp only [build_eq_ok_iff, ← exists_mounts_planned_iff]
  constructor
  · rintro ⟨surface, admits, mounted, separate, _⟩
    exact ⟨admits, surface.mounts, mounted, separate⟩
  · rintro ⟨admits, mounts, mounted, separate⟩
    exact ⟨⟨mounts, settings.bodyLimit⟩, admits, mounted, separate, rfl⟩

/-- What can be admitted and not be matched ends the attempt to mount it. -/
theorem exists_unservablePath_iff :
    (∃ path, build settings routes = .error (.unservablePath path)) ↔
      Admits settings routes ∧ ¬Matchable settings routes := by
  constructor
  · rintro ⟨path, failed⟩
    have admits : Admits settings routes := by
      by_contra refused
      rcases exists_reported_of_not_admits refused with ⟨fault, reported, other⟩
      rw [reported, Except.error.injEq] at failed
      exact other path failed
    refine ⟨admits, ?_⟩
    intro matchable
    rcases exists_build_eq_ok_iff.mpr ⟨admits, matchable⟩ with ⟨surface, built⟩
    rw [built] at failed
    cases failed
  · rintro ⟨admits, unmatched⟩
    cases built : build settings routes with
    | ok surface => exact absurd (exists_build_eq_ok_iff.mp ⟨surface, built⟩).2 unmatched
    | error fault =>
        rw [build_of_admits admits] at built
        cases mounted : (planned settings routes).foldlM mountPath [] with
        | ok mounts =>
            rw [mounted] at built
            cases built
        | error other =>
            rw [mounted] at built
            cases built
            rcases eq_unservablePath_of_foldlM mounted with ⟨path, rfl⟩
            exact ⟨path, rfl⟩

end Building

/-- What comes of serving routes. -/
structure Outcomes (settings : SurfaceSettings) (routes : List (Route State)) : Prop where
  /-- A page of the docs without a path of its own is reported. -/
  relative : settings.docsEnabled → settings.docsPath.toList.head? ≠ some '/' →
    build settings routes = .error (.relativeDocsPath settings.docsPath)
  /-- Otherwise the first route at a path that every surface has is reported. -/
  reserved : (settings.docsEnabled → settings.docsPath.toList.head? = some '/') →
    ∀ earlier route later, earlier ++ route :: later = routes →
      (∀ other ∈ earlier, other.templatePath ∉ settings.reservedPaths) →
      route.templatePath ∈ settings.reservedPaths →
        build settings routes = .error (.reservedPath route.name route.fullPath)
  served_iff : (∃ surface, build settings routes = .ok surface) ↔
    Admits settings routes ∧ Matchable settings routes
  /-- Nothing else that cannot be matched is reported: it stops the matcher. -/
  stopped_iff : (∃ path, build settings routes = .error (.unservablePath path)) ↔
    Admits settings routes ∧ ¬Matchable settings routes
  /-- Never is a method answered twice at one path. -/
  distinct : ∀ plan ∈ planned settings routes, (Entries.keys plan.2).Nodup

/-- Whatever was registered, a surface is built, a fault is reported, or the paths that were
taken cannot be matched side by side. -/
theorem outcomes_ofAttempts (attempts : List (Attempt State)) (settings : SurfaceSettings) :
    Outcomes settings (Registry.ofAttempts attempts).routes where
  relative := build_of_relative
  reserved := by
    intro absolute earlier route later isRoutes unreserved reserved
    rw [← isRoutes]
    exact build_of_reserved absolute unreserved reserved
  served_iff := exists_build_eq_ok_iff
  stopped_iff := exists_unservablePath_iff
  distinct := fun _ member =>
    nodup_keys_of_mem_planned (Registry.consistent_empty.afterAll attempts).distinct member

/-- Two routes whose paths differ in the name of a parameter. -/
def namesakes : List (Attempt Nat) :=
  [.plain "one" "GET" "/:x", .plain "other" "GET" "/:y"]

/-- The registry takes both, and the surface stops at the second. -/
theorem namesakes_stop :
    (∀ outcome ∈ ({} : Registry Nat).outcomes namesakes, outcome.isOk) ∧
      ∃ path, build {} (Registry.ofAttempts namesakes).routes =
        .error (.unservablePath path) := by
  have places : (Registry.ofAttempts namesakes).routes.map Route.place =
      [("GET", "/\x7bx\x7d"), ("GET", "/\x7by\x7d")] := by decide +kernel
  have oneListed : ("GET", "/\x7bx\x7d") ∈
      (Registry.ofAttempts namesakes).routes.map Route.place := by simp [places]
  have otherListed : ("GET", "/\x7by\x7d") ∈
      (Registry.ofAttempts namesakes).routes.map Route.place := by simp [places]
  rcases Route.exists_servable_of_mem_places oneListed (by decide) with
    ⟨one, isOne, oneServable, _, onePath⟩
  rcases Route.exists_servable_of_mem_places otherListed (by decide) with
    ⟨other, isOther, otherServable, _, otherPath⟩
  have clash : Clash "/\x7bx\x7d" "/\x7by\x7d" :=
    ⟨⟨[.char '/', .segment "x"]⟩, ⟨[.char '/', .segment "y"]⟩, by decide +kernel,
      by decide +kernel, rfl⟩
  have unmatched : ¬Matchable {} (Registry.ofAttempts namesakes).routes := by
    intro matchable
    have apart := matchable.apart one isOne other isOther oneServable otherServable
    rw [onePath, otherPath] at apart
    exact apart (by decide) clash
  have admits : Admits {} (Registry.ofAttempts namesakes).routes :=
    ⟨fun _ => by decide +kernel, by decide +kernel⟩
  exact ⟨by decide +kernel, exists_unservablePath_iff.mpr ⟨admits, unmatched⟩⟩

end Surface

end ApiContract.Http
