import ApiContract.Exchange.Auth
import ApiContract.Exchange.Cors
import ApiContract.Http.Surface
import ApiContract.Logging.Section

/-!
# Settings

What can be configured: where the service listens and keeps its files, what it logs,
and how its endpoints are served.
-/

namespace ApiContract

/-- How an identity is read. -/
def Identity.shape : Typed.Shape Identity where
  name := "StaticIdentity"
  start := { subject := "" }
  fields :=
    [{ name := "subject"
       presence := .needed
       assign := fun datum identity => do
        pure { identity with subject := ← Typed.string datum } },
     { name := "roles"
       assign := fun datum identity => do
        pure { identity with roles := ← Typed.list Typed.string datum } },
     { name := "permissions"
       assign := fun datum identity => do
        pure { identity with permissions := ← Typed.list Typed.string datum } }]

/-- The identity as a datum, its fields in order. -/
def Identity.toDatum (identity : Identity) : Datum :=
  .map [("subject", .string identity.subject), ("roles", .ofStrings identity.roles),
    ("permissions", .ofStrings identity.permissions)]

/-- Where the service keeps its files and where it listens. -/
structure ServerSettings where
  homeDirectory : String := ""
  host : String := "127.0.0.1"
  port : Nat := 8087
  deriving DecidableEq

/-- How endpoints are served. -/
structure ApiSettings where
  version : String := "v1"
  title : String := "Billing API"
  docsPath : String := "/docs"
  docsEnabled : Bool := true
  bodyLimit : Nat := 16 * 1024 * 1024
  timeoutSeconds : Nat := 30
  cors : CorsPolicy := {}
  identities : Identities := []
  deriving DecidableEq

/-- All settings. -/
structure Settings where
  server : ServerSettings := {}
  logging : Option Logging.LogSections := none
  api : ApiSettings := {}
  deriving DecidableEq

namespace ServerSettings

/-- How server settings are read. -/
def shape : Typed.Shape ServerSettings where
  name := "ServerConfig"
  closed := true
  start := {}
  fields :=
    [{ name := "home_dir"
       presence := .needed
       assign := fun datum server => do
        pure { server with homeDirectory := ← Typed.string datum } },
     { name := "host"
       presence := .needed
       assign := fun datum server => do pure { server with host := ← Typed.string datum } },
     { name := "port"
       presence := .needed
       assign := fun datum server => do
        pure { server with port := ← Typed.below (twoTo 16) "u16" datum } }]

/-- The server settings as a datum, their fields in order. -/
def toDatum (server : ServerSettings) : Datum :=
  .map [("home_dir", .string server.homeDirectory), ("host", .string server.host),
    ("port", .ofNat server.port)]

end ServerSettings

namespace ApiSettings

/-- How the settings of endpoints are read. -/
def shape : Typed.Shape ApiSettings where
  name := "ApiConfig"
  closed := true
  start := {}
  fields :=
    [{ name := "version"
       assign := fun datum api => do pure { api with version := ← Typed.string datum } },
     { name := "title"
       assign := fun datum api => do pure { api with title := ← Typed.string datum } },
     { name := "docs_path"
       assign := fun datum api => do pure { api with docsPath := ← Typed.string datum } },
     { name := "enable_docs"
       assign := fun datum api => do pure { api with docsEnabled := ← Typed.bool datum } },
     { name := "body_limit_bytes"
       assign := fun datum api => do
        pure { api with bodyLimit := ← Typed.below (twoTo 64) "usize" datum } },
     { name := "timeout_secs"
       assign := fun datum api => do
        pure { api with timeoutSeconds := ← Typed.below (twoTo 64) "u64" datum } },
     { name := "cors"
       assign := fun datum api => do
        pure { api with cors := ← Typed.record CorsPolicy.shape true datum } },
     { name := "auth_tokens"
       assign := fun datum api => do
        let identities ← Typed.entries (Typed.record Identity.shape true) datum
        pure { api with identities := identities } }]

/-- The settings of endpoints as a datum, their fields in order. -/
def toDatum (api : ApiSettings) : Datum :=
  .map [("version", .string api.version), ("title", .string api.title),
    ("docs_path", .string api.docsPath), ("enable_docs", .bool api.docsEnabled),
    ("body_limit_bytes", .ofNat api.bodyLimit), ("timeout_secs", .ofNat api.timeoutSeconds),
    ("cors", api.cors.toDatum),
    ("auth_tokens", .map (Entries.mapValues Identity.toDatum api.identities))]

end ApiSettings

namespace Settings

/-- How settings are read. A list for a record may have a surplus of items. -/
def shape : Typed.Shape Settings where
  name := "AppConfig"
  closed := true
  start := {}
  fields :=
    [{ name := "server"
       presence := .needed
       assign := fun datum settings => do
        pure { settings with server := ← Typed.record ServerSettings.shape true datum } },
     { name := "logging"
       presence := .neededByPlace
       assign := fun datum settings => do
        let sections ← Typed.optional (Logging.LogSections.read true) datum
        pure { settings with logging := sections } },
     { name := "api"
       assign := fun datum settings => do
        pure { settings with api := ← Typed.record ApiSettings.shape true datum } }]

/-- Reads settings. -/
def read : Typed Settings :=
  Typed.record shape true

/-- The settings as a datum, their fields in order. -/
def toDatum (settings : Settings) : Datum :=
  .map [("server", settings.server.toDatum),
    ("logging", .ofOption Logging.LogSections.toDatum settings.logging),
    ("api", settings.api.toDatum)]

/-- The settings without any configuration. -/
def defaults : Settings where
  logging := some Logging.LogSections.defaults

/-- The address at which the service listens. -/
def bindAddress (settings : Settings) : String :=
  s!"{settings.server.host}:{settings.server.port}"

/-- The settings of the HTTP surface. -/
def surface (settings : Settings) : Http.SurfaceSettings where
  bindAddress := settings.bindAddress
  apiVersion := settings.api.version
  title := settings.api.title
  docsEnabled := settings.api.docsEnabled
  docsPath := settings.api.docsPath
  bodyLimit := settings.api.bodyLimit
  timeoutSeconds := settings.api.timeoutSeconds

/-- What a command line says about settings: a port, and how much is to be logged. -/
structure Overrides where
  port : Option Nat := none
  verbosity : Nat := 0

/-- The console level that a verbosity asks for; none keeps the one that is set. -/
def verboseLevel? : Nat → Option String
  | 0 => none
  | 1 => some "debug"
  | _ + 2 => some "trace"

/-- The section at a verbosity. -/
def verbose (verbosity : Nat) (item : Logging.LogSection) : Logging.LogSection :=
  { item with consoleLevel := (verboseLevel? verbosity).getD item.consoleLevel }

/-- The settings with overrides. Log sections are filled in where there are none, and
the verbosity concerns the default one. -/
def override (settings : Settings) (overrides : Overrides) : Settings :=
  let sections := settings.logging.getD Logging.LogSections.defaults
  let sections := sections.map fun (target, item) =>
    (target, if target = Logging.defaultTarget then verbose overrides.verbosity item else item)
  { settings with
    server := { settings.server with port := overrides.port.getD settings.server.port }
    logging := some sections }

end Settings

end ApiContract
