import ApiContract.Proofs.Logging.Selection

/-!
# Where records are written

The plan of log files limits records by one table and sends them to files by another.  In the
first a name counts for all targets that it starts, and a section that is shut off does not
count; in the second a section without a file does not count.  When all files can be opened, a
record is written to the file of the section that keeps it, if the section that limits it admits
it.
-/

namespace ApiContract.Logging

/-! ## Files -/

namespace LogSection

/-- The limit of a section for its file. -/
def limit (item : LogSection) : Limit :=
  Limit.ofSetting item.fileLevel

/-- The path of the file that a section names. -/
def path? (directory : String) (item : LogSection) : Option String :=
  if Text.isBlankText item.file then none else some (Disk.join directory item.file)

theorem openFile_of_nameless {directory : String} {item : LogSection}
    (nameless : item.path? directory = none) (files : List String) :
    item.openFile directory files = .error .absent := by
  rw [path?] at nameless
  split at nameless
  · next blank => rw [openFile, if_pos blank]
  · cases nameless

end LogSection

/-- The files that sections name, as open. -/
def filesOf (directory : String) (items : List (String × LogSection)) : List (String × Opened) :=
  items.filterMap fun entry =>
    ((entry.2.path? directory).map some).map fun opened => (entry.1, opened)

theorem fst_mem_keys_of_mem_filesOf {directory : String} {items : List (String × LogSection)}
    {file : String × Opened} (member : file ∈ filesOf directory items) :
    file.1 ∈ Entries.keys items := by
  rcases List.mem_filterMap.mp member with ⟨entry, isEntry, isFile⟩
  rcases Option.map_eq_some_iff.mp isFile with ⟨_, _, rfl⟩
  exact List.mem_map_of_mem isEntry

/-- Every file that sections name can be opened beside those that are open already. -/
def opensAll (directory : String) : List String → List (String × LogSection) → Bool
  | _, [] => true
  | files, (_, item) :: rest =>
      match item.path? directory with
      | none => opensAll directory files rest
      | some path =>
          decide (item.openFile directory files = .ok (some path)) &&
            opensAll directory (files ++ [path]) rest

namespace OpenFiles

theorem ofSections_of_opensAll {directory : String} {items : List (String × LogSection)}
    {files : OpenFiles} (opens : opensAll directory files.paths items) :
    ofSections directory files items =
      { files with entries := files.entries ++ filesOf directory items } := by
  induction items generalizing files with
  | nil => simp [ofSections, filesOf]
  | cons entry rest ih =>
      rcases entry with ⟨target, item⟩
      rw [opensAll] at opens
      rw [ofSections]
      cases named : item.path? directory with
      | none =>
          rw [named] at opens
          rw [LogSection.openFile_of_nameless named, filesOf, List.filterMap_cons, named]
          exact ih opens
      | some path =>
          simp only [named, Bool.and_eq_true, decide_eq_true_eq] at opens
          -- The rest is opened beside the file that this section has just opened.
          have more : opensAll directory
              (paths { files with entries := files.entries ++ [(target, some path)] }) rest := by
            simpa [paths, List.filterMap_append] using opens.2
          rw [opens.1]
          simp only [ih more, filesOf, List.filterMap_cons, named, Option.map_some,
            List.append_assoc, List.singleton_append]

end OpenFiles

namespace LogSections

variable {sections : LogSections} {directory : String}

/-- The sections in the order in which their files are opened. -/
def inOrder (sections : LogSections) : List (String × LogSection) :=
  (sections.default?.toList.map fun item => (defaultTarget, item)) ++ sections.ofTargets

/-- All files of a configuration can be opened. -/
def opens (directory : String) (sections : LogSections) : Bool :=
  opensAll directory [] sections.inOrder

theorem defaultTarget_not_mem_keys_ofTargets : defaultTarget ∉ Entries.keys sections.ofTargets := by
  intro isKey
  rcases List.mem_map.mp isKey with ⟨entry, isEntry, same⟩
  exact (mem_ofTargets_iff.mp isEntry).2 same

/-- The default file is that of the default section. -/
theorem get?_filesOf_inOrder (sections : LogSections) (directory : String) :
    Entries.get? (filesOf directory sections.inOrder) defaultTarget =
      sections.default?.bind fun item => (item.path? directory).map some := by
  have others : Entries.get? (filesOf directory sections.ofTargets) defaultTarget = none := by
    rw [Entries.get?_eq_none_iff]
    intro isKey
    rcases List.mem_map.mp isKey with ⟨file, member, same⟩
    exact defaultTarget_not_mem_keys_ofTargets (same ▸ fst_mem_keys_of_mem_filesOf member)
  rw [inOrder, filesOf, List.filterMap_append]
  cases sections.default? with
  | none => exact others
  | some item =>
      cases named : item.path? directory with
      | none => simpa [filesOf, named] using others
      | some path => simp [named]

/-- The other files are those of the sections of targets. -/
theorem filter_filesOf_inOrder (sections : LogSections) (directory : String) :
    ((filesOf directory sections.inOrder).filter fun file => file.1 ≠ defaultTarget) =
      filesOf directory sections.ofTargets := by
  have first : ((filesOf directory (sections.default?.toList.map fun item =>
      (defaultTarget, item))).filter fun file => file.1 ≠ defaultTarget) = [] := by
    rw [List.filter_eq_nil_iff]
    intro file member
    rcases List.mem_map.mp (fst_mem_keys_of_mem_filesOf member) with ⟨entry, isEntry, same⟩
    rcases List.mem_map.mp isEntry with ⟨_, _, rfl⟩
    simpa using same.symm
  have others : ((filesOf directory sections.ofTargets).filter
      fun file => file.1 ≠ defaultTarget) = filesOf directory sections.ofTargets := by
    rw [List.filter_eq_self]
    intro file member
    apply decide_eq_true
    intro same
    exact defaultTarget_not_mem_keys_ofTargets (same ▸ fst_mem_keys_of_mem_filesOf member)
  rw [inOrder, filesOf, List.filterMap_append, List.filter_append]
  exact (congr (congrArg _ first) others).trans (List.nil_append _)

/-! ## Rules -/

/-- A section can limit the records of a target: its name starts the target, and it is not shut
off. -/
def canLimit (target : String) (entry : String × LogSection) : Bool :=
  Filter.isPrefix entry.1 target && entry.2.limit.isSome

/-- A section can keep the records of a target: the target belongs to its name, and it has a
file. -/
def canKeep (directory target : String) (entry : String × LogSection) : Bool :=
  belongsTo entry.1 target && (entry.2.path? directory).isSome

/-- The section that governs a target. -/
def Governs (sections : LogSections) (target : String) : LogSection → Prop :=
  sections.Decides (fun entry => belongsTo entry.1 target) sections.default?

/-- The section whose limit the records of a target must meet. The default section sets one if
it has a file. -/
def Limits (directory : String) (sections : LogSections) (target : String) : LogSection → Prop :=
  sections.Decides (canLimit target)
    (sections.default?.filter fun item => (item.path? directory).isSome)

/-- The section whose file the records of a target are written to. -/
def Keeps (directory : String) (sections : LogSections) (target : String) : LogSection → Prop :=
  sections.Decides (canKeep directory target) sections.default?

/-- The section that limits the records of a target, found. -/
def limiter? (directory : String) (sections : LogSections) (target : String) : Option LogSection :=
  sections.decider? (canLimit target)
    (sections.default?.filter fun item => (item.path? directory).isSome)

/-- The section that keeps the records of a target, found. -/
def keeper? (directory : String) (sections : LogSections) (target : String) : Option LogSection :=
  sections.decider? (canKeep directory target) sections.default?

section Rules

variable {target : String} {entry : String × LogSection} {item other : LogSection}

theorem canLimit_iff :
    canLimit target entry ↔ Filter.isPrefix entry.1 target ∧ entry.2.limit.isSome :=
  iff_of_eq (Bool.and_eq_true _ _)

theorem canKeep_iff :
    canKeep directory target entry ↔
      belongsTo entry.1 target ∧ (entry.2.path? directory).isSome :=
  iff_of_eq (Bool.and_eq_true _ _)

theorem isPrefix_of_canLimit (suited : canLimit target entry) : Filter.isPrefix entry.1 target :=
  (canLimit_iff.mp suited).1

theorem isPrefix_of_canKeep (suited : canKeep directory target entry) :
    Filter.isPrefix entry.1 target :=
  isPrefix_of_belongsTo (canKeep_iff.mp suited).1

theorem limiter?_eq_some_iff (distinct : (Entries.keys sections).Nodup) :
    sections.limiter? directory target = some item ↔ sections.Limits directory target item :=
  decider?_eq_some_iff distinct fun _ => isPrefix_of_canLimit

theorem keeper?_eq_some_iff (distinct : (Entries.keys sections).Nodup) :
    sections.keeper? directory target = some item ↔ sections.Keeps directory target item :=
  decider?_eq_some_iff distinct fun _ => isPrefix_of_canKeep

theorem Governs.unique (distinct : (Entries.keys sections).Nodup)
    (governs : sections.Governs target item) (otherGoverns : sections.Governs target other) :
    item = other :=
  Decides.unique distinct (fun _ => isPrefix_of_belongsTo) governs otherGoverns

theorem Limits.unique (distinct : (Entries.keys sections).Nodup)
    (limits : sections.Limits directory target item)
    (otherLimits : sections.Limits directory target other) : item = other :=
  Decides.unique distinct (fun _ => isPrefix_of_canLimit) limits otherLimits

theorem Keeps.unique (distinct : (Entries.keys sections).Nodup)
    (keeps : sections.Keeps directory target item)
    (otherKeeps : sections.Keeps directory target other) : item = other :=
  Decides.unique distinct (fun _ => isPrefix_of_canKeep) keeps otherKeeps

end Rules

/-! ## The plan -/

/-- The plan when all files can be opened. -/
theorem plan_eq (canOpen : sections.opens directory) :
    LogPlan.ofSections directory sections =
      { routes :=
          ⟨sections.default?.bind fun item => (item.path? directory).map some,
            filesOf directory sections.ofTargets⟩
        filter :=
          ⟨(sections.default?.filter fun item => (item.path? directory).isSome).bind
              LogSection.limit,
            sections.ofTargets.filterMap fun entry =>
              (entry.2.limit.map some).map fun limit => (entry.1, limit)⟩
        isSound := true } := by
  have files : OpenFiles.ofSections directory {} sections.inOrder =
      { entries := filesOf directory sections.inOrder, isComplete := true } :=
    OpenFiles.ofSections_of_opensAll canOpen
  have limits : (sections.ofTargets.filterMap fun entry =>
        entry.2.limit.map fun level => (entry.1, some level)) =
      sections.ofTargets.filterMap fun entry =>
        (entry.2.limit.map some).map fun limit => (entry.1, limit) := by
    apply List.filterMap_congr
    intro entry _
    rw [Option.map_map]
    rfl
  have fallback : (if (Entries.get? (filesOf directory sections.inOrder) defaultTarget).isSome then
        sections.default? >>= LogSection.limit
      else none) =
      (sections.default?.filter fun item => (item.path? directory).isSome).bind
        LogSection.limit := by
    rw [get?_filesOf_inOrder]
    cases sections.default? with
    | none => rfl
    | some item => cases named : item.path? directory <;> simp [named, Option.filter]
  -- From here on both sides are the same once the files are those that the sections name.
  rw [← limits, ← fallback, ← get?_filesOf_inOrder, ← filter_filesOf_inOrder, LogPlan.ofSections]
  rw [inOrder] at files
  simp only [files]
  rfl

theorem join_bind_map_some {α β : Type} (found : Option α) (has : α → Option β) :
    (found.bind fun item => (has item).map some).join = found.bind has := by
  cases found with
  | none => rfl
  | some item => cases owned : has item <;> simp [owned]

theorem limitFor_eq (canOpen : sections.opens directory) (target : String) :
    (LogPlan.ofSections directory sections).filter.limitFor target =
      (sections.limiter? directory target).bind LogSection.limit := by
  have table := longestNamed?_table sections (fun name => Filter.isPrefix name target)
    (fun item => item.limit.map some)
    (sections.default?.filter fun item => (item.path? directory).isSome)
  simp only [Option.isSome_map] at table
  rw [limiter?, ← join_bind_map_some]
  refine Eq.trans ?_ (congrArg Option.join table)
  rw [plan_eq canOpen, Filter.limitFor]
  cases (longestNamed? _).map Prod.snd with
  | none => exact (join_bind_map_some _ _).symm
  | some limit => rfl

theorem resolve?_eq (canOpen : sections.opens directory) (target : String) :
    ((LogPlan.ofSections directory sections).routes.resolve? target).join =
      (sections.keeper? directory target).bind (LogSection.path? directory) := by
  have table := longestNamed?_table sections (fun name => belongsTo name target)
    (fun item => (item.path? directory).map some) sections.default?
  simp only [Option.isSome_map] at table
  rw [keeper?, ← join_bind_map_some]
  refine Eq.trans ?_ (congrArg Option.join table)
  rw [plan_eq canOpen, FileRoutes.resolve?, filesOf]
  cases longestNamed? _ with
  | none => rfl
  | some entry => rfl

/-- A record is written to the file of the section that keeps it if the section that limits it
admits it. -/
theorem destination?_eq (canOpen : sections.opens directory) (record : LogRecord) :
    (LogPlan.ofSections directory sections).destination? none record =
      if Limit.admits ((sections.limiter? directory record.target).bind LogSection.limit)
          record.level then
        (sections.keeper? directory record.target).bind (LogSection.path? directory)
      else none := by
  have sound : (LogPlan.ofSections directory sections).isSound = true := by rw [plan_eq canOpen]
  rw [LogPlan.destination?, sound, resolve?_eq canOpen, Filter.admits, limitFor_eq canOpen]
  rfl

theorem destination?_eq_some_iff (distinct : (Entries.keys sections).Nodup)
    (canOpen : sections.opens directory) (record : LogRecord) (path : String) :
    (LogPlan.ofSections directory sections).destination? none record = some path ↔
      ∃ limiter keeper, sections.Limits directory record.target limiter ∧
        sections.Keeps directory record.target keeper ∧
        limiter.limit.admits record.level ∧ keeper.path? directory = some path := by
  simp only [← limiter?_eq_some_iff distinct, ← keeper?_eq_some_iff distinct]
  rw [destination?_eq canOpen]
  cases sections.limiter? directory record.target with
  | none => simp [Limit.admits]
  | some limiter => cases sections.keeper? directory record.target <;> simp

end LogSections

/-! ## Contents of files -/

namespace LogPlan

variable {plan : LogPlan} {cap : Option Filter} {directory : String}

/-- A file starts empty. -/
theorem getD_get?_created (paths : List String) (location : String) :
    (Entries.get? (Entries.ofList (paths.map fun path => (path, ([] : List LogRecord))))
      location).getD [] = [] := by
  cases found : Entries.get? (Entries.ofList (paths.map fun path =>
      (path, ([] : List LogRecord)))) location with
  | none => rfl
  | some records =>
      rcases List.mem_map.mp (Entries.mem_of_get?_ofList found) with ⟨_, _, same⟩
      exact (Prod.mk.inj same).2.symm

/-- Files to which each record is added at its own place have the records of their places. -/
theorem getD_get?_foldl
    {step : Entries (List LogRecord) → LogRecord → Entries (List LogRecord)}
    {place : LogRecord → Option String}
    (adds : ∀ files record location,
      (Entries.get? (step files record) location).getD [] =
        (Entries.get? files location).getD [] ++
          if place record = some location then [record] else [])
    (records : List LogRecord) (files : Entries (List LogRecord)) (location : String) :
    (Entries.get? (records.foldl step files) location).getD [] =
      (Entries.get? files location).getD [] ++
        records.filter fun record => place record = some location := by
  induction records generalizing files with
  | nil => rw [List.foldl_nil, List.filter_nil, List.append_nil]
  | cons record rest ih =>
      rw [List.foldl_cons, ih, adds, List.append_assoc, List.filter_cons]
      by_cases here : place record = some location <;> simp [here]

/-- A file has the records that are written to it, in the order in which they come. -/
theorem getD_get?_written (plan : LogPlan) (cap : Option Filter) (directory : String)
    (records : List LogRecord) (location : String) :
    (Entries.get? (plan.written cap directory records) location).getD [] =
      records.filter fun record =>
        (plan.destination? cap record >>= Disk.inside? directory) = some location := by
  rw [written, @getD_get?_foldl _
    (fun record => plan.destination? cap record >>= Disk.inside? directory),
    getD_get?_created, List.nil_append]
  intro files record location
  cases plan.destination? cap record >>= Disk.inside? directory with
  | none => simp
  | some path =>
      by_cases here : path = location
      · simp [here, Entries.get?_insert]
      · simp [here, Entries.get?_insert, Ne.symm here]

end LogPlan

end ApiContract.Logging
