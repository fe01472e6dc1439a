import ApiContract.Json.Basic
import ApiContract.Text.Search

/-!
# Telemetry

What an endpoint tells its operators: log records and metrics, in the order in
which they arise.
-/

namespace ApiContract

/-- How grave a log record is. -/
inductive LogLevel where
  | debug
  | info
  | warn
  | error
  deriving DecidableEq

/-- The name of a level. -/
def LogLevel.name : LogLevel → String
  | .debug => "debug"
  | .info => "info"
  | .warn => "warn"
  | .error => "error"

/-- A log record with its details. -/
structure LogRecord where
  level : LogLevel
  message : String
  details : Json

/-- A counted event with its tags. -/
structure Metric where
  name : String
  tags : List (String × String)
  deriving DecidableEq

/-- Everything recorded so far. -/
structure Telemetry where
  logs : List LogRecord := []
  metrics : List Metric := []

namespace Telemetry

/-- The telemetry with one more log record. -/
def log (telemetry : Telemetry) (record : LogRecord) : Telemetry :=
  { telemetry with logs := telemetry.logs ++ [record] }

/-- The telemetry with more log records. -/
def logAll (telemetry : Telemetry) (records : List LogRecord) : Telemetry :=
  { telemetry with logs := telemetry.logs ++ records }

/-- The telemetry with one more metric. -/
def count (telemetry : Telemetry) (metric : Metric) : Telemetry :=
  { telemetry with metrics := telemetry.metrics ++ [metric] }

/-- How many log records have a level. -/
def countLevel (telemetry : Telemetry) (level : LogLevel) : Nat :=
  telemetry.logs.countP fun record => record.level = level

/-- The log records whose message mentions a text. -/
def mentioning (telemetry : Telemetry) (needle : String) : List LogRecord :=
  telemetry.logs.filter fun record => Text.occursIn needle.toList record.message.toList

/-- What was recorded after an earlier point. -/
def since (telemetry earlier : Telemetry) : Telemetry where
  logs := telemetry.logs.drop earlier.logs.length
  metrics := telemetry.metrics.drop earlier.metrics.length

end Telemetry

end ApiContract
