import ApiContract.CommandLine.Program

/-!
# The executable

Looks up what the program needs to know of its surroundings, runs it, makes its home
directory, and prints what came of it.
-/

namespace ApiContract.CommandLine.Executable

/-- The text of a file, if there is one that can be read. -/
def readText? (path : String) : IO (Option String) := do
  try
    return some (← IO.FS.readFile path)
  catch _ =>
    return none

/-- The first of some files that can be read, with its text. -/
def readFirst? : List String → IO (Option (String × String))
  | [] => return none
  | path :: rest => do
      match ← readText? path with
      | some text => return some (path, text)
      | none => readFirst? rest

/-- The file of settings, named as seen from the working directory. A relative path is
looked for there and then in the directories around it. -/
def findSettings (path : String) : IO (Option (String × String)) := do
  let directory := (← IO.currentDir).toString
  let candidates := (Disk.ancestors directory).map fun ancestor => Disk.join ancestor path
  let found ← readFirst? (if Disk.isAbsolute path then [path] else candidates)
  return found.map fun (path, text) => (Disk.seenFrom directory path, text)

/-- The environment variables of the process. -/
def environment : IO (List (String × String)) := do
  let text := (← readText? "/proc/self/environ").getD ""
  return (Text.splitOnChar '\x00' text.toList).filterMap fun entry =>
    match Text.splitAtFirst '=' entry with
    | (name, some value) => some (String.ofList name, String.ofList value)
    | (_, none) => none

/-- What surrounds the process. -/
def surroundings (options : Options) : IO Surroundings := do
  let file ← match options.config with
    | some path => findSettings path
    | none => pure none
  return { userHome := ← IO.getEnv "HOME", environment := ← environment, file := file }

/-- Makes the home directory of the settings; tells what stands in the way. -/
def makeHome (path : String) : IO (Option Disk.Obstacle) := do
  try
    IO.FS.createDirAll path
    return none
  catch
    | .alreadyExists _ number _ | .inappropriateType _ number _
    | .permissionDenied _ number _ | .noFileOrDirectory _ number _
    | .resourceExhausted _ number _ => return some (.ofNumber number.toNat)
    | _ => return some (.system 0)

/-- Runs an invocation in the surroundings of the process. -/
def runHere (invocation : Invocation) : IO Outcome := do
  match invocation with
  | .command options _ =>
      let surroundings ← surroundings options
      match loadSettings options surroundings with
      | .error fault => return .unsettled fault
      | .ok settings =>
          match ← makeHome settings.server.homeDirectory with
          | some obstacle =>
              return .unsettled (.homeless options.config.isNone (.obstructed obstacle))
          | none => return run invocation surroundings
  | _ => return run invocation { userHome := none }

end ApiContract.CommandLine.Executable

open ApiContract.CommandLine in
/-- Runs the command line and ends with the code that it leads to. -/
def main (words : List String) : IO UInt32 := do
  let outcome ← Executable.runHere (Invocation.ofWords words)
  IO.print outcome.output
  unless outcome.report.isEmpty do
    IO.eprintln outcome.report
  return outcome.code.toUInt32
