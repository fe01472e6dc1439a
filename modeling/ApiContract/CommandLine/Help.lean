import ApiContract.CommandLine.Options

/-!
# Help texts

The texts that tell what can be written on a command line.
-/

namespace ApiContract.CommandLine

/-- The name and the version of the program. -/
def versionText : String := "billing-server 0.1.0\n"

/-- The help for the program as a whole. -/
def programHelp : String :=
  "Billing Server - contract-driven demo API\n\n" ++
  "Usage: billing-server [OPTIONS] [COMMAND]\n\n" ++
  "Commands:\n" ++
  "  run       Start the server\n" ++
  "  check     Validate configuration and routes, then exit\n" ++
  "  openapi   Print the OpenAPI document and exit\n" ++
  "  bindings  Print typed bindings for one contract, or for all of them\n" ++
  "  help      Print this message or the help of the given subcommand(s)\n\n" ++
  "Options:\n" ++
  "  -c, --config <CONFIG>\n" ++
  "          Path to configuration file\n" ++
  "  -p, --port <PORT>\n" ++
  "          Port override for HTTP server (overrides config)\n" ++
  "      --print-config\n" ++
  "          Print effective configuration (YAML) and exit\n" ++
  "  -v, --verbose...\n" ++
  "          Log verbosity level (-v debug, -vv trace)\n" ++
  "      --schema-backend <SCHEMA_BACKEND>\n" ++
  "          Validation backend the contracts are compiled with [default: native] " ++
  "[possible values: native, json-schema]\n" ++
  "  -h, --help\n" ++
  "          Print help\n" ++
  "  -V, --version\n" ++
  "          Print version\n"

/-- The help for a command that takes no words. -/
def plainHelp (name about : String) : String :=
  s!"{about}\n\nUsage: billing-server {name}\n\nOptions:\n  -h, --help  Print help\n"

/-- The help for the command that prints bindings. -/
def bindingsHelp : String :=
  "Print typed bindings for one contract, or for all of them\n\n" ++
  "Usage: billing-server bindings [CONTRACT]\n\n" ++
  "Arguments:\n" ++
  "  [CONTRACT]  Contract name, e.g. `getInvoice`\n\n" ++
  "Options:\n" ++
  "  -h, --help  Print help\n"

/-- The help for the command that prints help. -/
def helpHelp : String :=
  "Print this message or the help of the given subcommand(s)\n\n" ++
  "Usage: billing-server help [COMMAND]...\n\n" ++
  "Arguments:\n" ++
  "  [COMMAND]...  Print help for the subcommand(s)\n"

/-- The help on a topic. -/
def Topic.text : Topic → String
  | .program => programHelp
  | .run => plainHelp "run" "Start the server"
  | .check => plainHelp "check" "Validate configuration and routes, then exit"
  | .openapi => plainHelp "openapi" "Print the OpenAPI document and exit"
  | .bindings => bindingsHelp
  | .help => helpHelp

end ApiContract.CommandLine
