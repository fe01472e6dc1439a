import ApiContract.Disk.Obstacle
import ApiContract.Logging.Filter
import ApiContract.Logging.Section

/-!
# Log files

Each section may have a file of its own.  A record goes to the file of the section
with the longest name that its target equals or extends by two colons, and otherwise
to the default file.
-/

namespace ApiContract.Logging

/-- A target belongs to a name if it is the name or extends it by two colons. -/
def belongsTo (name target : String) : Bool :=
  let rest := target.toList.drop name.length
  Filter.isPrefix name target && (rest.isEmpty || [':', ':'].isPrefixOf rest)

/-- Where records of some targets go, and where all others go. -/
structure FileRoutes (α : Type) where
  fallback : Option α := none
  named : List (String × α) := []

/-- Where the records of a target go. -/
def FileRoutes.resolve? {α : Type} (routes : FileRoutes α) (target : String) : Option α :=
  match longestNamed? (routes.named.filter fun entry => belongsTo entry.1 target) with
  | some (_, destination) => some destination
  | none => routes.fallback

namespace LogSections

/-- The sections other than the default one. -/
def ofTargets (sections : LogSections) : List (String × LogSection) :=
  sections.filter fun entry => entry.1 ≠ defaultTarget

/-- The default section. -/
def default? (sections : LogSections) : Option LogSection :=
  Entries.get? sections defaultTarget

end LogSections

/-- What comes of opening the file of a section: a path to write to, none if its records
are lost. -/
abbrev Opened := Option String

/-- Why a section has no file of its own, or stops the program. -/
inductive FileFault where
  | absent
  | fatal
  deriving DecidableEq

namespace LogSection

/-- The most megabytes that a file grows to if a section does not say. -/
def usualMegabytes : Nat := 100

/-- The number of bytes beyond which a file is put aside, in a machine word. -/
def capacity (item : LogSection) : Nat :=
  (item.maxSizeMegabytes.getD usualMegabytes * twoTo 20) % twoTo 64

/-- Opens the file of a section, its path relative to a directory. A blank path is no
file, and neither is one that no directory can be made for. A file without capacity
cannot be kept. In the place of a directory there can be no file, and records are lost. -/
def openFile (directory : String) (files : List String) (item : LogSection) :
    Except FileFault Opened :=
  let path := Disk.join directory item.file
  if Text.isBlankText item.file then .error .absent
  else if (Disk.obstacle? files (Disk.parent path)).isSome then .error .absent
  else if item.capacity = 0 then .error .fatal
  else if Disk.isDirectory files directory path then .ok none
  else .ok (some path)

end LogSection

/-- The sections that have a file, with what came of opening it. -/
structure OpenFiles where
  entries : List (String × Opened) := []
  isComplete : Bool := true

namespace OpenFiles

/-- The paths that are written to. -/
def paths (files : OpenFiles) : List String :=
  files.entries.filterMap Prod.snd

/-- Opens the files of sections one after the other, up to one that stops the program. -/
def ofSections (directory : String) (files : OpenFiles) : List (String × LogSection) → OpenFiles
  | [] => files
  | (target, item) :: rest =>
      match item.openFile directory files.paths with
      | .ok opened =>
          ofSections directory { files with entries := files.entries ++ [(target, opened)] } rest
      | .error .absent => ofSections directory files rest
      | .error .fatal => { files with isComplete := false }

end OpenFiles

/-- What is written where. A plan is sound if the program does not stop when it is put
in place. -/
structure LogPlan where
  routes : FileRoutes Opened
  filter : Filter
  isSound : Bool

namespace LogPlan

/-- The plan that sections describe. The default file is opened first. A section that is
shut off sets no limit of its own; the default limit counts only if there is a default
file. -/
def ofSections (directory : String) (sections : LogSections) : LogPlan :=
  let first := sections.default?.toList.map fun item => (defaultTarget, item)
  let files := OpenFiles.ofSections directory {} (first ++ sections.ofTargets)
  let defaultFile := Entries.get? files.entries defaultTarget
  let defaultLimit : Limit :=
    if defaultFile.isSome then
      sections.default? >>= fun item => Limit.ofSetting item.fileLevel
    else none
  let limits := sections.ofTargets.filterMap fun (target, item) =>
    (Limit.ofSetting item.fileLevel).map fun level => (target, some level)
  { routes := ⟨defaultFile, files.entries.filter fun entry => entry.1 ≠ defaultTarget⟩
    filter := ⟨defaultLimit, limits⟩
    isSound := files.isComplete }

/-- The files that exist once the plan is in place. -/
def paths (plan : LogPlan) : List String :=
  (plan.routes.fallback.toList ++ plan.routes.named.map Prod.snd).filterMap id

/-- The file that a record is written to. A cap holds for all records. -/
def destination? (plan : LogPlan) (cap : Option Filter) (record : LogRecord) : Option String :=
  if plan.isSound && cap.all (fun filter => filter.admits record) &&
      plan.filter.admits record then
    (plan.routes.resolve? record.target).join
  else none

/-- The records in every file inside a directory, by the path inside of it. -/
def written (plan : LogPlan) (cap : Option Filter) (directory : String)
    (records : List LogRecord) : Entries (List LogRecord) :=
  let location? (path : String) : Option String := Disk.inside? directory path
  let created := Entries.ofList ((plan.paths.filterMap location?).map fun path => (path, []))
  records.foldl (fun files record =>
    match plan.destination? cap record >>= location? with
    | some path => Entries.insert path ((Entries.get? files path).getD [] ++ [record]) files
    | none => files) created

end LogPlan

end ApiContract.Logging
