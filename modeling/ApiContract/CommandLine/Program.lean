import ApiContract.Billing.Api
import ApiContract.Bindings.Draft
import ApiContract.CommandLine.Help
import ApiContract.Logging.Files
import ApiContract.OpenApi.Document
import ApiContract.Settings.Load
import ApiContract.Yaml.Printer

/-!
# The program

What a command line leads to in given surroundings: what is printed, what is reported,
and with which code the program ends.
-/

namespace ApiContract.CommandLine

/-- How the program ends: its code, what it prints, and its report of a failure. -/
structure Outcome where
  code : Nat := 0
  output : String := ""
  report : String := ""
  deriving DecidableEq

/-- A cause in a report, every line after its first set in as far as the first. -/
def causeText (lead cause : String) : String :=
  let margin := String.ofList (List.replicate lead.length ' ')
  lead ++ s!"\n{margin}".intercalate
    ((Text.splitOnChar '\n' cause.toList).map String.ofList)

/-- The causes in a report, numbered if there are several. -/
def causeTexts : List String → List String
  | [cause] => [causeText "    " cause]
  | causes =>
      causes.zipIdx.map fun (cause, index) =>
        let number := Text.padLeft 5 ' ' (Text.decimalText index).toList
        causeText (String.ofList number ++ ": ") cause

/-- The report of a failure and its causes. -/
def reportText (failure : String) (causes : List String) : String :=
  let lead := "Error: " ++ failure
  if causes.isEmpty then lead
  else lead ++ "\n\nCaused by:\n" ++ "\n".intercalate (causeTexts causes)

namespace Outcome

/-- The program prints a text and a line end, and succeeds. -/
def printed (text : String) : Outcome where
  output := text ++ "\n"

/-- The program fails with a report. -/
def failed (failure : String) (causes : List String) : Outcome where
  code := 1
  report := reportText failure causes

/-- The program stops in the middle of its work. -/
def stopped : Outcome where
  code := 101

/-- The command line cannot be understood. -/
def unusable : Outcome where
  code := 2

/-- The program fails since there are no settings. -/
def unsettled (fault : SettingsFault) : Outcome :=
  match fault.chain with
  | [] => failed "" []
  | failure :: causes => failed failure causes

end Outcome

/-- The base path of the billing endpoints. -/
def billingPath : String := "/billing"

/-- The routes of the service under some settings. -/
def serviceRoutes (settings : Settings) (backend : Backend) :
    Except RegistrationFailure (List (Route Billing.InvoiceStore)) :=
  let router : Router :=
    { basePath := billingPath, backend := backend, cors := settings.api.cors
      identities := some settings.api.identities }
  match Billing.install router {} with
  | (some failure, _) => .error failure
  | (none, registry) => .ok registry.routes

/-- The text that describes the settings. -/
def settingsText (settings : Settings) : String :=
  Yaml.write settings.toDatum

/-- Checks that all routes can be served together. -/
def check (settings : Settings) (routes : List (Route Billing.InvoiceStore)) : Outcome :=
  match Http.Surface.build settings.surface routes with
  | .error (.unservablePath _) => .stopped
  | .error fault => .failed fault.message []
  | .ok _ => .printed ("Configuration is valid\n" ++ settingsText settings)

/-- Prints the document that describes the routes. -/
def printDocument (settings : Settings) (routes : List (Route Billing.InvoiceStore)) :
    Outcome :=
  let info : OpenApi.Info := { title := settings.api.title, version := settings.api.version }
  .printed (OpenApi.describe info routes).toJson.indented

/-- Prints the bindings of the contracts of a name, or of all contracts. -/
def printBindings (routes : List (Route Billing.InvoiceStore)) (contract : Option String) :
    Outcome :=
  let selected := routes.filter fun route => contract.all fun name => route.name = name
  let name := contract.getD ""
  if selected.isEmpty then .failed s!"no contract named '{name}'" []
  else
    match selected.mapM fun route => route.contract.bindingsText? with
    | none => .stopped
    | some codes => .printed ("\n".intercalate codes)

/-- Starts the service. There is no listener to start it with. -/
def serve (settings : Settings) (routes : List (Route Billing.InvoiceStore)) : Outcome :=
  match check settings routes with
  | { code := 0, .. } =>
      .failed s!"Failed to bind {settings.bindAddress}" ["Function not implemented (os error 38)"]
  | outcome => outcome

/-- Carries out a command under some settings. -/
def perform (settings : Settings) (backend : Backend) (command : Command) : Outcome :=
  match serviceRoutes settings backend with
  | .error failure => .failed "Failed to register billing routes" [failure.message]
  | .ok routes =>
      match command with
      | .run => serve settings routes
      | .check => check settings routes
      | .openapi => printDocument settings routes
      | .bindings contract => printBindings routes contract

/-- The settings under some options. Without a file named there, the defaults hold and
variables do not matter. -/
def loadSettings (options : Options) (surroundings : Surroundings) :
    Except SettingsFault Settings := do
  let settings ←
    if options.config.isSome then Settings.load surroundings
    else Settings.loadDefaults surroundings
  pure (settings.override { port := options.port, verbosity := options.verbosity })

/-- The log files under some settings. -/
def logPlan (settings : Settings) : Logging.LogPlan :=
  Logging.LogPlan.ofSections settings.server.homeDirectory (settings.logging.getD [])

/-- Carries out a command with some options. -/
def runCommand (options : Options) (command : Command) (surroundings : Surroundings) :
    Outcome :=
  match loadSettings options surroundings with
  | .error fault => .unsettled fault
  | .ok settings =>
      if !(logPlan settings).isSound then .stopped
      else if options.printsConfig then .printed (settingsText settings)
      else perform settings (options.backend.getD .native) command

/-- What an invocation leads to. -/
def run (invocation : Invocation) (surroundings : Surroundings) : Outcome :=
  match invocation with
  | .command options command => runCommand options command surroundings
  | .help topic => { output := topic.text }
  | .version => { output := versionText }
  | .unusable => .unusable

end ApiContract.CommandLine
