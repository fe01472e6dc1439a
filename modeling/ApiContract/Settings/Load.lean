import ApiContract.Disk.Obstacle
import ApiContract.Settings.Basic
import ApiContract.Settings.Variables
import ApiContract.Yaml.Document

/-!
# Loading settings

Settings are the defaults, or the defaults with a file and variables laid over them.
In either case the home directory is made absolute, and nothing may stand in its way.
-/

namespace ApiContract

/-- Why there is no home directory. -/
inductive HomeFault where
  | unknownUser
  | notAbsolute (path : String)
  | obstructed (obstacle : Disk.Obstacle)
  deriving DecidableEq

/-- The wording of a fault of the home directory. -/
def HomeFault.message : HomeFault → String
  | .unknownUser => "HOME environment variable is not set"
  | .notAbsolute path => s!"home_dir must be an absolute path (after ~ expansion): {path}"
  | .obstructed obstacle => "IO error: " ++ obstacle.message

/-- Why there are no settings. -/
inductive SettingsFault where
  | unreadable (reason : String)
  | homeless (areDefaults : Bool) (fault : HomeFault)
  deriving DecidableEq

/-- What went wrong and what caused it, outermost first. -/
def SettingsFault.chain : SettingsFault → List String
  | .unreadable reason => ["Failed to extract config from figment", reason]
  | .homeless areDefaults fault =>
      let subject := if areDefaults then "server.home_dir (defaults)" else "server.home_dir"
      [s!"Failed to resolve {subject}", "home_dir normalization failed", fault.message]

/-- What surrounds the service: the home directory of its user, environment variables,
a file of settings, with its name, and the plain files that are known to be there. -/
structure Surroundings where
  userHome : Option String
  environment : List (String × String) := []
  file : Option (String × String) := none
  plainFiles : List String := []

namespace Settings

/-- The directory below the home of the user that is used if none is configured. -/
def homeName : String := ".billing-server"

/-- What a path has after a tilde and a slash of either kind. -/
def afterTilde? (path : String) : Option String :=
  match path.toList with
  | '~' :: '/' :: rest | '~' :: '\\' :: rest => some (String.ofList rest)
  | _ => none

/-- The home directory that a setting names. A blank setting stands for a directory
below the home of the user, and a tilde for that home itself. -/
def homeDirectory (setting : String) (userHome : Option String) : Except HomeFault String := do
  let user : Except HomeFault String :=
    match userHome with
    | some path => .ok path
    | none => .error .unknownUser
  if Text.isBlankText setting then pure (Disk.join (← user) homeName)
  else
    let path ←
      if setting = "~" then user
      else
        match afterTilde? setting with
        | some rest => pure (Disk.join (← user) rest)
        | none => pure setting
    if Disk.isAbsolute path then pure path else .error (.notAbsolute path)

/-- The home directory, with nothing in its way. -/
def clearHome (setting : String) (surroundings : Surroundings) : Except HomeFault String := do
  let path ← homeDirectory setting surroundings.userHome
  match Disk.obstacle? surroundings.plainFiles path with
  | none => pure path
  | some obstacle => .error (.obstructed obstacle)

/-- The settings with their home directory resolved. -/
def settled (settings : Settings) (areDefaults : Bool) (surroundings : Surroundings) :
    Except SettingsFault Settings :=
  match clearHome settings.server.homeDirectory surroundings with
  | .ok path => .ok { settings with server := { settings.server with homeDirectory := path } }
  | .error fault => .error (.homeless areDefaults fault)

/-- The lead of the names of variables that are settings. -/
def variableLead : String := "APP__"

/-- The members of the default settings. Log sections are not among them. -/
def defaultMembers : List (String × Datum) :=
  match ({} : Settings).toDatum.sorted with
  | .map members => members
  | _ => []

/-- The layer of a file. -/
def fileLayer (file : Option (String × String)) : Except SettingsFault (List Layer) :=
  match file with
  | none => .ok []
  | some (name, text) =>
      match Yaml.readMap text with
      | .ok members => .ok [⟨.file name, members⟩]
      | .error fault => .error (.unreadable (fault.message ++ (Origin.file name).text))

/-- The layers of the settings, the lowest first. -/
def layers (surroundings : Surroundings) : Except SettingsFault (List Layer) := do
  let file ← fileLayer surroundings.file
  let members := variableMembers variableLead surroundings.environment
  pure (⟨.defaults, defaultMembers⟩ :: file ++ [⟨.environment variableLead, members⟩])

/-- The settings that surroundings describe. -/
def load (surroundings : Surroundings) : Except SettingsFault Settings := do
  let layers ← layers surroundings
  match read (merged layers) with
  | .error misfit => .error (.unreadable (misfitText layers misfit))
  | .ok settings => settings.settled false surroundings

/-- The default settings. -/
def loadDefaults (surroundings : Surroundings) : Except SettingsFault Settings :=
  defaults.settled true surroundings

end Settings

end ApiContract
