import ApiContract.Proofs.Logging.Delivery

/-!
# Records and the sections that govern them

The section that limits the records of a target and the one that keeps them need not be the one
that governs the target.  This module says when the records of a target go where its governing
section sends them, and shows three ways in which they do not.
-/

namespace ApiContract.Logging

/-! ## Limits -/

namespace Limit

theorem admits_self (level : Level) : Limit.admits (some level) level :=
  decide_eq_true (Nat.le_refl _)

/-- A limit is known from what it admits. -/
theorem eq_of_admits_iff {limit other : Limit}
    (same : ∀ level, limit.admits level ↔ other.admits level) : limit = other := by
  have injective {least most : Level} (same : least.rank = most.rank) : least = most := by
    cases least <;> cases most <;> simp [Level.rank] at same ⊢
  cases limit with
  | none =>
      cases other with
      | none => rfl
      | some most => exact absurd ((same most).mpr (admits_self most)) Bool.false_ne_true
  | some least =>
      cases other with
      | none => exact absurd ((same least).mp (admits_self least)) Bool.false_ne_true
      | some most =>
          have atMost : most.rank ≤ least.rank :=
            of_decide_eq_true ((same least).mp (admits_self least))
          have atLeast : least.rank ≤ most.rank :=
            of_decide_eq_true ((same most).mpr (admits_self most))
          rw [injective (Nat.le_antisymm atLeast atMost)]

end Limit

namespace LogSections

variable {sections : LogSections} {directory : String}

/-! ## The governing section -/

/-- A target is governed by the section with the longest name that covers it, and by the default
section if no other name does. -/
theorem governs_iff {target : String} {governor : LogSection} :
    sections.Governs target governor ↔
      (∃ name, (name, governor) ∈ sections ∧ name ≠ defaultTarget ∧ Covers name target ∧
        ∀ other ∈ sections, other.1 ≠ defaultTarget → Covers other.1 target →
          other.1.length ≤ name.length) ∨
      ((∀ other ∈ sections, other.1 ≠ defaultTarget → ¬Covers other.1 target) ∧
        sections.default? = some governor) := by
  constructor
  · intro governs
    cases governs with
    | @longest entry member belongs most =>
        rcases mem_ofTargets_iff.mp member with ⟨isEntry, named⟩
        refine .inl ⟨entry.1, isEntry, named, belongsTo_iff.mp belongs, ?_⟩
        intro other isOther otherNamed covers
        exact most other (mem_ofTargets_iff.mpr ⟨isOther, otherNamed⟩) (belongsTo_iff.mpr covers)
    | reserve none isDefault =>
        refine .inr ⟨?_, isDefault⟩
        intro other isOther otherNamed covers
        exact none other (mem_ofTargets_iff.mpr ⟨isOther, otherNamed⟩) (belongsTo_iff.mpr covers)
  · rintro (⟨name, isEntry, named, covers, most⟩ | ⟨none, isDefault⟩)
    · refine @Decides.longest _ _ _ (name, governor) (mem_ofTargets_iff.mpr ⟨isEntry, named⟩)
        (belongsTo_iff.mpr covers) ?_
      intro other isOther belongs
      rcases mem_ofTargets_iff.mp isOther with ⟨isOther, otherNamed⟩
      exact most other isOther otherNamed (belongsTo_iff.mp belongs)
    · refine .reserve ?_ isDefault
      intro other isOther belongs
      rcases mem_ofTargets_iff.mp isOther with ⟨isOther, otherNamed⟩
      exact none other isOther otherNamed (belongsTo_iff.mp belongs)

/-- The file for the records that a section governs: its own, or else the default one. -/
def fileFor? (directory : String) (sections : LogSections) (governor : LogSection) :
    Option String :=
  (governor.path? directory).or (sections.default?.bind (LogSection.path? directory))

/-- A record goes where the section that governs its target sends it. -/
def FollowsGovernor (directory : String) (sections : LogSections) (record : LogRecord) : Prop :=
  ∀ governor, sections.Governs record.target governor → ∀ path,
    (LogPlan.ofSections directory sections).destination? none record = some path ↔
      governor.limit.admits record.level ∧ sections.fileFor? directory governor = some path

/-- All records of a target go where the section that governs it sends them. -/
def TargetFollows (directory : String) (sections : LogSections) (target : String) : Prop :=
  ∀ level message, sections.FollowsGovernor directory ⟨target, level, message⟩

/-- A governing section sends no record anywhere. -/
def SendsNothing (directory : String) (sections : LogSections) (governor : LogSection) : Prop :=
  governor.limit = none ∨ sections.fileFor? directory governor = none

/-- No record of a target is written. -/
def IsSilent (directory : String) (sections : LogSections) (target : String) : Prop :=
  ∀ level message,
    (LogPlan.ofSections directory sections).destination? none ⟨target, level, message⟩ = none

section Following

variable {target : String} {governor limiter keeper : LogSection}

theorem SendsNothing.not_sends (nothing : sections.SendsNothing directory governor)
    (level : Level) (path : String) :
    ¬(governor.limit.admits level ∧ sections.fileFor? directory governor = some path) := by
  rintro ⟨admitted, isFile⟩
  rcases nothing with unlimited | fileless
  · rw [unlimited] at admitted
    exact Bool.false_ne_true admitted
  · rw [fileless] at isFile
    cases isFile

theorem TargetFollows.isSilent (follows : sections.TargetFollows directory target)
    (governs : sections.Governs target governor)
    (nothing : sections.SendsNothing directory governor) : sections.IsSilent directory target := by
  intro level message
  rw [Option.eq_none_iff_forall_ne_some]
  intro path isWritten
  exact nothing.not_sends level path ((follows level message governor governs path).mp isWritten)

theorem targetFollows_of_isSilent (distinct : (Entries.keys sections).Nodup)
    (governs : sections.Governs target governor)
    (nothing : sections.SendsNothing directory governor)
    (silent : sections.IsSilent directory target) : sections.TargetFollows directory target := by
  intro level message other otherGoverns path
  rw [← governs.unique distinct otherGoverns, silent level message]
  refine iff_of_false ?_ (nothing.not_sends level path)
  intro isWritten
  cases isWritten

/-- Where the governing section sends records, and they go there, the sections that limit and
keep them do the same as it. -/
theorem TargetFollows.exists_limiter_keeper (follows : sections.TargetFollows directory target)
    (distinct : (Entries.keys sections).Nodup) (canOpen : sections.opens directory)
    (governs : sections.Governs target governor)
    (something : ¬sections.SendsNothing directory governor) :
    ∃ limiter keeper, sections.Limits directory target limiter ∧
      sections.Keeps directory target keeper ∧ limiter.limit = governor.limit ∧
      keeper.path? directory = sections.fileFor? directory governor := by
  rw [SendsNothing, not_or] at something
  rcases Option.ne_none_iff_exists'.mp something.1 with ⟨least, isLimit⟩
  rcases Option.ne_none_iff_exists'.mp something.2 with ⟨path, isFile⟩
  have followed (level : Level) := follows level "" governor governs path
  have written (level : Level) :=
    destination?_eq_some_iff distinct canOpen ⟨target, level, ""⟩ path
  -- A record at the governor's own limit is written, which shows what limits and keeps.
  have first := (followed least).mpr ⟨isLimit ▸ Limit.admits_self least, isFile⟩
  rcases (written least).mp first with ⟨limiter, keeper, limits, keeps, _, named⟩
  refine ⟨limiter, keeper, limits, keeps, Limit.eq_of_admits_iff ?_, named.trans isFile.symm⟩
  intro level
  constructor
  · intro admitted
    have isWritten := (written level).mpr ⟨limiter, keeper, limits, keeps, admitted, named⟩
    exact ((followed level).mp isWritten).1
  · intro admitted
    rcases (written level).mp ((followed level).mpr ⟨admitted, isFile⟩) with
      ⟨other, _, otherLimits, _, otherAdmits, _⟩
    rwa [limits.unique distinct otherLimits]

theorem targetFollows_of_limiter_keeper (distinct : (Entries.keys sections).Nodup)
    (canOpen : sections.opens directory) (governs : sections.Governs target governor)
    (limits : sections.Limits directory target limiter)
    (keeps : sections.Keeps directory target keeper) (sameLimit : limiter.limit = governor.limit)
    (sameFile : keeper.path? directory = sections.fileFor? directory governor) :
    sections.TargetFollows directory target := by
  intro level message other otherGoverns path
  rw [← governs.unique distinct otherGoverns, destination?_eq_some_iff distinct canOpen,
    ← sameLimit, ← sameFile]
  constructor
  · rintro ⟨otherLimiter, otherKeeper, otherLimits, otherKeeps, admitted, named⟩
    rw [limits.unique distinct otherLimits, keeps.unique distinct otherKeeps]
    exact ⟨admitted, named⟩
  · rintro ⟨admitted, named⟩
    exact ⟨limiter, keeper, limits, keeps, admitted, named⟩

theorem targetFollows_iff (distinct : (Entries.keys sections).Nodup)
    (canOpen : sections.opens directory) (governs : sections.Governs target governor) :
    sections.TargetFollows directory target ↔
      (sections.SendsNothing directory governor ∧ sections.IsSilent directory target) ∨
      ∃ limiter keeper, sections.Limits directory target limiter ∧
        sections.Keeps directory target keeper ∧ limiter.limit = governor.limit ∧
        keeper.path? directory = sections.fileFor? directory governor := by
  constructor
  · intro follows
    by_cases nothing : sections.SendsNothing directory governor
    · exact .inl ⟨nothing, follows.isSilent governs nothing⟩
    · exact .inr (follows.exists_limiter_keeper distinct canOpen governs nothing)
  · rintro (⟨nothing, silent⟩ | ⟨limiter, keeper, limits, keeps, sameLimit, sameFile⟩)
    · exact targetFollows_of_isSilent distinct governs nothing silent
    · exact targetFollows_of_limiter_keeper distinct canOpen governs limits keeps sameLimit sameFile

end Following

/-! ## Configurations without slips -/

/-- Where no section that the target belongs to has a file, the default section keeps. -/
theorem keeps_iff_of_unfiled {target : String}
    (unfiled : ∀ other ∈ sections.ofTargets, belongsTo other.1 target →
      other.2.path? directory = none) {keeper : LogSection} :
    sections.Keeps directory target keeper ↔ sections.default? = some keeper := by
  have unsuited : ∀ other ∈ sections.ofTargets, ¬canKeep directory target other := by
    intro other isOther suited
    rcases canKeep_iff.mp suited with ⟨belongs, named⟩
    rw [unfiled other isOther belongs] at named
    cases named
  constructor
  · intro keeps
    cases keeps with
    | longest member suitable _ => exact absurd suitable (unsuited _ member)
    | reserve _ isDefault => exact isDefault
  · exact .reserve unsuited

/-- Nothing is written where the keeping section has no file. -/
theorem isSilent_of_keepless (distinct : (Entries.keys sections).Nodup)
    (canOpen : sections.opens directory) {target : String}
    (keepless : ∀ keeper, sections.Keeps directory target keeper →
      keeper.path? directory = none) : sections.IsSilent directory target := by
  intro level message
  rw [Option.eq_none_iff_forall_ne_some]
  intro path isWritten
  rcases (destination?_eq_some_iff distinct canOpen _ path).mp isWritten with
    ⟨_, keeper, _, keeps, _, named⟩
  rw [keepless keeper keeps] at named
  cases named

/-- The sections of targets make no difference between the two tables and the rule: a name that
starts the target is one that it belongs to, the governing section is not shut off, and it has
a file if any section has one that the target belongs to. -/
structure Coherent (directory : String) (sections : LogSections) (target : String)
    (governor : LogSection) : Prop where
  bounded : ∀ other ∈ sections.ofTargets, Filter.isPrefix other.1 target →
    belongsTo other.1 target
  limited : governor.limit.isSome ∨ ∀ other ∈ sections.ofTargets, ¬belongsTo other.1 target
  filed : (governor.path? directory).isSome ∨
    ∀ other ∈ sections.ofTargets, belongsTo other.1 target → other.2.path? directory = none

theorem targetFollows_of_coherent (distinct : (Entries.keys sections).Nodup)
    (canOpen : sections.opens directory) {target : String} {governor : LogSection}
    (governs : sections.Governs target governor)
    (coherent : sections.Coherent directory target governor) :
    sections.TargetFollows directory target := by
  cases governs with
  | @longest entry member belongs most =>
      have limited : entry.2.limit.isSome :=
        coherent.limited.resolve_right fun none => none entry member belongs
      have limits : sections.Limits directory target entry.2 :=
        .longest member (canLimit_iff.mpr ⟨isPrefix_of_belongsTo belongs, limited⟩)
          fun other isOther suited =>
            most other isOther (coherent.bounded other isOther (isPrefix_of_canLimit suited))
      rcases coherent.filed with own | unfiled
      · have keeps : sections.Keeps directory target entry.2 :=
          .longest member (canKeep_iff.mpr ⟨belongs, own⟩)
            fun other isOther suited => most other isOther (canKeep_iff.mp suited).1
        rcases Option.isSome_iff_exists.mp own with ⟨path, named⟩
        have same : entry.2.path? directory = sections.fileFor? directory entry.2 := by
          rw [fileFor?, named, Option.some_or]
        exact targetFollows_of_limiter_keeper distinct canOpen (.longest member belongs most)
          limits keeps rfl same
      · have fileFor_eq : sections.fileFor? directory entry.2 =
            sections.default?.bind (LogSection.path? directory) := by
          rw [fileFor?, unfiled entry member belongs, Option.none_or]
        cases found : sections.default? with
        | none =>
            rw [found] at fileFor_eq
            refine targetFollows_of_isSilent distinct (.longest member belongs most)
              (.inr fileFor_eq) (isSilent_of_keepless distinct canOpen ?_)
            intro keeper keeps
            have isDefault := (keeps_iff_of_unfiled unfiled).mp keeps
            rw [found] at isDefault
            cases isDefault
        | some item =>
            rw [found] at fileFor_eq
            exact targetFollows_of_limiter_keeper distinct canOpen (.longest member belongs most)
              limits ((keeps_iff_of_unfiled unfiled).mpr found) rfl fileFor_eq.symm
  | reserve none isDefault =>
      have keeps : sections.Keeps directory target governor :=
        (keeps_iff_of_unfiled fun other isOther belongs =>
          absurd belongs (none other isOther)).mpr isDefault
      have fileFor_eq : sections.fileFor? directory governor = governor.path? directory := by
        rw [fileFor?, isDefault, Option.bind_some, Option.or_self]
      cases named : governor.path? directory with
      | none =>
          refine targetFollows_of_isSilent distinct (.reserve none isDefault)
            (.inr (fileFor_eq.trans named)) (isSilent_of_keepless distinct canOpen ?_)
          intro keeper otherKeeps
          rwa [← keeps.unique distinct otherKeeps]
      | some path =>
          have limits : sections.Limits directory target governor := by
            refine .reserve ?_ (by simp [isDefault, Option.filter, named])
            intro other isOther suited
            exact none other isOther
              (coherent.bounded other isOther (isPrefix_of_canLimit suited))
          exact targetFollows_of_limiter_keeper distinct canOpen (.reserve none isDefault)
            limits keeps rfl fileFor_eq.symm

/-! ## What a configuration does with records -/

/-- Where the records of a program go under a configuration, with no cap on all of them. -/
structure Delivers (directory : String) (sections : LogSections) : Prop where
  governs_iff : ∀ target governor, sections.Governs target governor ↔
    (∃ name, (name, governor) ∈ sections ∧ name ≠ defaultTarget ∧ Covers name target ∧
      ∀ other ∈ sections, other.1 ≠ defaultTarget → Covers other.1 target →
        other.1.length ≤ name.length) ∨
    ((∀ other ∈ sections, other.1 ≠ defaultTarget → ¬Covers other.1 target) ∧
      sections.default? = some governor)
  destination_iff : ∀ record path,
    (LogPlan.ofSections directory sections).destination? none record = some path ↔
      ∃ limiter keeper, sections.Limits directory record.target limiter ∧
        sections.Keeps directory record.target keeper ∧
        limiter.limit.admits record.level ∧ keeper.path? directory = some path
  contents : ∀ records location,
    (Entries.get? ((LogPlan.ofSections directory sections).written none directory records)
        location).getD [] =
      records.filter fun record =>
        ((LogPlan.ofSections directory sections).destination? none record >>=
          Disk.inside? directory) = some location
  /-- The records of a target go where the governing section sends them just if it sends none
  and none is written, or if the limiting and the keeping section do the same as it. -/
  follows_iff : ∀ target governor, sections.Governs target governor →
    (sections.TargetFollows directory target ↔
      (sections.SendsNothing directory governor ∧ sections.IsSilent directory target) ∨
      ∃ limiter keeper, sections.Limits directory target limiter ∧
        sections.Keeps directory target keeper ∧ limiter.limit = governor.limit ∧
        keeper.path? directory = sections.fileFor? directory governor)
  follows : ∀ target governor, sections.Governs target governor →
    sections.Coherent directory target governor → sections.TargetFollows directory target

theorem delivers_of_opens (distinct : (Entries.keys sections).Nodup)
    (canOpen : sections.opens directory) : sections.Delivers directory where
  governs_iff _ _ := governs_iff
  destination_iff := destination?_eq_some_iff distinct canOpen
  contents := LogPlan.getD_get?_written _ none directory
  follows_iff _ _ := targetFollows_iff distinct canOpen
  follows _ _ := targetFollows_of_coherent distinct canOpen

/-- Two names, of which one goes on from the other, and a default, each with a file. -/
def layered : LogSections :=
  [("core", { file := "core.log", fileLevel := "warn" }),
    ("core::pipeline", { file := "pipeline.log", fileLevel := "trace" }),
    ("default", { file := "all.log", fileLevel := "info" })]

theorem layered_delivers :
    layered.TargetFollows "/logs" "core::pipeline::stages" ∧
      (LogPlan.ofSections "/logs" layered).destination? none
        ⟨"core::pipeline::stages", .debug, "parsed"⟩ = some "/logs/pipeline.log" := by
  have delivers : layered.Delivers "/logs" :=
    delivers_of_opens (by decide +kernel) (by decide +kernel)
  have governs : layered.Governs "core::pipeline::stages"
      { file := "pipeline.log", fileLevel := "trace" } :=
    @Decides.longest _ _ _ ("core::pipeline", _) (by decide +kernel) (by decide +kernel)
      (by decide +kernel)
  have follows := delivers.follows _ _ governs
    ⟨by decide +kernel, .inl (by decide +kernel), .inl (by decide +kernel)⟩
  exact ⟨follows, (follows .debug "parsed" _ governs _).mpr
    ⟨by decide +kernel, by decide +kernel⟩⟩

/-- A section without a file, one that is shut off, both below a name with a file, and a
default. -/
def muddled : LogSections :=
  [("contractkit", { consoleLevel := "info", file := "core.log", fileLevel := "debug" }),
    ("contractkit::pipeline", { consoleLevel := "info", fileLevel := "debug" }),
    ("contractkit::pipeline::stages", { consoleLevel := "info", fileLevel := "off" }),
    ("default", { consoleLevel := "info", file := "all.log", fileLevel := "error" })]

/-- A record is written to a file to which the section that governs its target does not send it. -/
def Strays (directory : String) (sections : LogSections) (record : LogRecord) (path : String) :
    Prop :=
  (LogPlan.ofSections directory sections).destination? none record = some path ∧
    ¬sections.FollowsGovernor directory record

theorem strays_of_governs {record : LogRecord} {path : String} {governor : LogSection}
    (governs : sections.Governs record.target governor)
    (isWritten : (LogPlan.ofSections directory sections).destination? none record = some path)
    (unsent : ¬(governor.limit.admits record.level ∧
      sections.fileFor? directory governor = some path)) :
    sections.Strays directory record path :=
  ⟨isWritten, fun follows => unsent ((follows governor governs path).mp isWritten)⟩

/-- Records of a target that is shut off are written, records of a section without a file do not
go to the default file, and a name limits targets that do not belong to it. -/
theorem records_go_astray :
    (Entries.keys muddled).Nodup ∧ muddled.opens "/logs" ∧
      muddled.Strays "/logs" ⟨"contractkit::pipeline::stages", .error, "m"⟩ "/logs/core.log" ∧
      muddled.Strays "/logs" ⟨"contractkit::pipeline", .error, "m"⟩ "/logs/core.log" ∧
      muddled.Strays "/logs" ⟨"contractkit_bootstrap", .debug, "m"⟩ "/logs/all.log" := by
  have shut : muddled.Governs "contractkit::pipeline::stages"
      { consoleLevel := "info", fileLevel := "off" } :=
    @Decides.longest _ _ _ ("contractkit::pipeline::stages", _) (by decide +kernel)
      (by decide +kernel) (by decide +kernel)
  have fileless : muddled.Governs "contractkit::pipeline"
      { consoleLevel := "info", fileLevel := "debug" } :=
    @Decides.longest _ _ _ ("contractkit::pipeline", _) (by decide +kernel) (by decide +kernel)
      (by decide +kernel)
  have other : muddled.Governs "contractkit_bootstrap"
      { consoleLevel := "info", file := "all.log", fileLevel := "error" } :=
    .reserve (by decide +kernel) (by decide +kernel)
  exact ⟨by decide +kernel, by decide +kernel,
    strays_of_governs shut (by decide +kernel) (by decide +kernel),
    strays_of_governs fileless (by decide +kernel) (by decide +kernel),
    strays_of_governs other (by decide +kernel) (by decide +kernel)⟩

end LogSections

end ApiContract.Logging
