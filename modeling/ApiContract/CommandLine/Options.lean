import ApiContract.Number.Decimal
import ApiContract.Schema.Backend
import ApiContract.Text.Search

/-!
# Command lines

Options come before the command, each at most once except the one that is counted.
A word that cannot be understood makes the whole line unusable, unless help or the
version was asked for before it.
-/

namespace ApiContract.CommandLine

/-- What is to be done. -/
inductive Command where
  | run
  | check
  | openapi
  | bindings (contract : Option String)
  deriving DecidableEq

/-- What the words before the command say. -/
structure Options where
  config : Option String := none
  port : Option Nat := none
  printsConfig : Bool := false
  verbosity : Nat := 0
  backend : Option Backend := none

/-- What help is about. -/
inductive Topic where
  | program
  | run
  | check
  | openapi
  | bindings
  | help
  deriving DecidableEq

/-- What a command line asks for. -/
inductive Invocation where
  | command (options : Options) (command : Command)
  | help (topic : Topic)
  | version
  | unusable

/-- The topic that a word names. -/
def Topic.ofName? : String → Option Topic
  | "run" => some .run
  | "check" => some .check
  | "openapi" => some .openapi
  | "bindings" => some .bindings
  | "help" => some .help
  | _ => none

/-- The backend that a word names. -/
def backendOfName? : String → Option Backend
  | "native" => some .native
  | "json-schema" => some .document
  | _ => none

/-- The port that a word denotes. -/
def readPort? (word : String) : Option Nat := do
  let number ← Decimal.readInt word.toList
  if 0 ≤ number ∧ number < twoTo 16 then some number.toNat else none

/-- An option with a value. -/
inductive ValueOption where
  | config
  | port
  | backend
  deriving DecidableEq

/-- The options with a value given; none if an option has a value already, or if the
value does not suit it. -/
def Options.assign? (options : Options) (option : ValueOption) (word : String) :
    Option Options :=
  match option with
  | .config =>
      if options.config.isSome ∨ word = "" then none else some { options with config := some word }
  | .port =>
      if options.port.isSome then none
      else (readPort? word).map fun port => { options with port := some port }
  | .backend =>
      if options.backend.isSome then none
      else (backendOfName? word).map fun backend => { options with backend := some backend }

/-- An option. -/
inductive OptionName where
  | value (option : ValueOption)
  | printsConfig
  | verbose
  | help
  | version

/-- The option of a long name. -/
def OptionName.ofLong? : String → Option OptionName
  | "config" => some (.value .config)
  | "port" => some (.value .port)
  | "schema-backend" => some (.value .backend)
  | "print-config" => some .printsConfig
  | "verbose" => some .verbose
  | "help" => some .help
  | "version" => some .version
  | _ => none

/-- The option of a letter. -/
def OptionName.ofShort? : Char → Option OptionName
  | 'c' => some (.value .config)
  | 'p' => some (.value .port)
  | 'v' => some .verbose
  | 'h' => some .help
  | 'V' => some .version
  | _ => none

/-- The word looks like an option. -/
def isOptionLike (word : String) : Bool :=
  match word.toList with
  | '-' :: _ :: _ => true
  | _ => false

/-- What one word does to the options: it sets them, it wants the next word as a value,
or it ends the line. -/
inductive WordEffect where
  | sets (options : Options)
  | awaits (options : Options) (option : ValueOption)
  | ends (invocation : Invocation)

/-- The effect of an option without a value. -/
def flagEffect (options : Options) : OptionName → WordEffect
  | .printsConfig =>
      if options.printsConfig then .ends .unusable
      else .sets { options with printsConfig := true }
  | .verbose => .sets { options with verbosity := min 255 (options.verbosity + 1) }
  | .help => .ends (.help .program)
  | .version => .ends .version
  | .value _ => .ends .unusable

/-- The effect of an option with the value that is attached to it. -/
def attachedEffect (options : Options) (option : ValueOption) (word : String) : WordEffect :=
  match options.assign? option word with
  | some options => .sets options
  | none => .ends .unusable

/-- The effect of a long option. -/
def longEffect (options : Options) (word : List Char) : WordEffect :=
  let (name, attached) := Text.splitAtFirst '=' word
  match OptionName.ofLong? (String.ofList name), attached with
  | none, _ => .ends .unusable
  | some (.value option), none => .awaits options option
  | some (.value option), some value => attachedEffect options option (String.ofList value)
  | some flag, none => flagEffect options flag
  | some _, some _ => .ends .unusable

/-- The effect of letters after one hyphen. Those after an option with a value are its
value. -/
def shortEffect (options : Options) : List Char → WordEffect
  | [] => .sets options
  | letter :: rest =>
      match OptionName.ofShort? letter, rest with
      | none, _ => .ends .unusable
      | some (.value option), [] => .awaits options option
      | some (.value option), '=' :: value =>
          attachedEffect options option (String.ofList value)
      | some (.value option), value => attachedEffect options option (String.ofList value)
      | some flag, rest =>
          match flagEffect options flag with
          | .sets options => shortEffect options rest
          | effect => effect

/-- The words after a command that takes none. -/
def afterCommand (invocation : Invocation) (topic : Topic) : List String → Invocation
  | [] => invocation
  | ["--"] => invocation
  | word :: _ =>
      if word = "--help" ∨ ['-', 'h'].isPrefixOf word.toList then .help topic else .unusable

/-- The words after the command for bindings: at most one name. -/
def afterBindings (options : Options) (contract : Option String) : List String → Invocation
  | [] => .command options (.bindings contract)
  | "--" :: rest =>
      match contract, rest with
      | contract, [] => .command options (.bindings contract)
      | none, [name] => .command options (.bindings (some name))
      | _, _ => .unusable
  | word :: rest =>
      if word = "--help" ∨ ['-', 'h'].isPrefixOf word.toList then .help .bindings
      else if isOptionLike word ∨ contract.isSome then .unusable
      else afterBindings options (some word) rest

/-- The words after the command for help: at most one topic. -/
def afterHelp : List String → Invocation
  | [] => .help .program
  | [name] => ((Topic.ofName? name).map Invocation.help).getD .unusable
  | _ => .unusable

/-- A command and the words after it. -/
def readCommand (options : Options) (name : String) (rest : List String) : Invocation :=
  match Topic.ofName? name with
  | some .run => afterCommand (.command options .run) .run rest
  | some .check => afterCommand (.command options .check) .check rest
  | some .openapi => afterCommand (.command options .openapi) .openapi rest
  | some .bindings => afterBindings options none rest
  | some .help => afterHelp rest
  | _ => .unusable

/-- An invocation after a value that does not suit its option. Only the help for a
command is still given. -/
def withoutOptions : Invocation → Invocation
  | .help topic => .help topic
  | _ => .unusable

/-- Reads the words before the command. A value that does not suit its option is noticed
at the next option or at the end. -/
def readWords (options : Options) (isSound : Bool) : List String → Invocation
  | [] => if isSound then .command options .run else .unusable
  | ["--"] => if isSound then .command options .run else .unusable
  | word :: rest =>
      if !isOptionLike word then
        let invocation := readCommand options word rest
        if isSound then invocation else withoutOptions invocation
      else if !isSound then .unusable
      else
        let effect :=
          match word.toList.drop 1 with
          | '-' :: name => longEffect options name
          | letters => shortEffect options letters
        match effect, rest with
        | .sets options, rest => readWords options true rest
        | .ends invocation, _ => invocation
        | .awaits _ _, [] => .unusable
        | .awaits options option, value :: rest =>
            if isOptionLike value then .unusable
            else
              match options.assign? option value with
              | some options => readWords options true rest
              | none => readWords options false rest

/-- What a command line asks for. Without a command the service is to run. -/
def Invocation.ofWords (words : List String) : Invocation :=
  readWords {} true words

end ApiContract.CommandLine
