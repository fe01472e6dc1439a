import ApiContract.Billing.Api
import ApiContract.Billing.Store
import ApiContract.Bindings.Declaration
import ApiContract.Bindings.Draft
import ApiContract.Bindings.Name
import ApiContract.CommandLine.Help
import ApiContract.CommandLine.Options
import ApiContract.CommandLine.Program
import ApiContract.Contract.Basic
import ApiContract.Contract.Compiled
import ApiContract.Contract.OptionsText
import ApiContract.Datum.Basic
import ApiContract.Datum.Typed
import ApiContract.Disk.Obstacle
import ApiContract.Disk.Path
import ApiContract.Entries
import ApiContract.Exchange.Auth
import ApiContract.Exchange.Cors
import ApiContract.Exchange.Failure
import ApiContract.Exchange.Request
import ApiContract.Exchange.Response
import ApiContract.Exchange.Stage
import ApiContract.Exchange.Telemetry
import ApiContract.Http.Binding
import ApiContract.Http.Message
import ApiContract.Http.Status
import ApiContract.Http.Surface
import ApiContract.Http.Template
import ApiContract.Json.Basic
import ApiContract.Json.Cursor
import ApiContract.Json.Printer
import ApiContract.Json.Reader
import ApiContract.Logging.Files
import ApiContract.Logging.Filter
import ApiContract.Logging.Level
import ApiContract.Logging.Section
import ApiContract.Main
import ApiContract.Notation.Contract
import ApiContract.Notation.Exchange
import ApiContract.Notation.Http
import ApiContract.Notation.Schema
import ApiContract.Notation.Value
import ApiContract.Number.Binary64
import ApiContract.Number.Decimal
import ApiContract.Number.Int128
import ApiContract.Number.Power
import ApiContract.Number.Shortest
import ApiContract.OpenApi.Document
import ApiContract.OpenApi.SchemaObject
import ApiContract.Proofs.Billing.Access
import ApiContract.Proofs.Billing.Answers
import ApiContract.Proofs.Billing.Book
import ApiContract.Proofs.Billing.Creation
import ApiContract.Proofs.Billing.Endpoints
import ApiContract.Proofs.Billing.Payment
import ApiContract.Proofs.Billing.Shape
import ApiContract.Proofs.Contract.Compiled
import ApiContract.Proofs.Contract.Parts
import ApiContract.Proofs.Contract.Strictness
import ApiContract.Proofs.Entries
import ApiContract.Proofs.Exchange.Authorization
import ApiContract.Proofs.Exchange.Disguise
import ApiContract.Proofs.Exchange.Finality
import ApiContract.Proofs.Exchange.Indifference
import ApiContract.Proofs.Exchange.Stages
import ApiContract.Proofs.Http.Building
import ApiContract.Proofs.Http.Exposure
import ApiContract.Proofs.Http.Matching
import ApiContract.Proofs.Http.Parity
import ApiContract.Proofs.Http.Planning
import ApiContract.Proofs.Logging.Delivery
import ApiContract.Proofs.Logging.Governance
import ApiContract.Proofs.Logging.Selection
import ApiContract.Proofs.Number.Exact
import ApiContract.Proofs.Number.Notation
import ApiContract.Proofs.Number.Rounding
import ApiContract.Proofs.OpenApi.Completeness
import ApiContract.Proofs.OpenApi.Portrayal
import ApiContract.Proofs.OpenApi.Requirement
import ApiContract.Proofs.Routing.Advice
import ApiContract.Proofs.Routing.Correlation
import ApiContract.Proofs.Routing.Decision
import ApiContract.Proofs.Routing.Discretion
import ApiContract.Proofs.Routing.Options
import ApiContract.Proofs.Routing.Path
import ApiContract.Proofs.Routing.Registration
import ApiContract.Proofs.Routing.Service
import ApiContract.Proofs.Routing.Settlement
import ApiContract.Proofs.Routing.Visit
import ApiContract.Proofs.Schema.Agreement
import ApiContract.Proofs.Schema.Conformance
import ApiContract.Proofs.Schema.Extent
import ApiContract.Proofs.Schema.Idempotence
import ApiContract.Proofs.Schema.Integers
import ApiContract.Proofs.Schema.Persistence
import ApiContract.Proofs.Schema.Rendering
import ApiContract.Proofs.Schema.Soundness
import ApiContract.Proofs.Schema.Strictness
import ApiContract.Proofs.Schema.Structure
import ApiContract.Proofs.Schema.Walk
import ApiContract.Proofs.Text.Digits
import ApiContract.Proofs.Time.Calendar
import ApiContract.Proofs.Time.Reader
import ApiContract.Proofs.Value.Json
import ApiContract.Proofs.Value.Passage
import ApiContract.Proofs.Value.Place
import ApiContract.Proofs.Value.RoundTrip
import ApiContract.Routing.Path
import ApiContract.Routing.Registry
import ApiContract.Routing.Route
import ApiContract.Routing.Router
import ApiContract.Schema.Backend
import ApiContract.Schema.Basic
import ApiContract.Schema.Coercion
import ApiContract.Schema.Document
import ApiContract.Schema.Document.Judgement
import ApiContract.Schema.Document.Pointer
import ApiContract.Schema.Document.Published
import ApiContract.Schema.Issue
import ApiContract.Schema.Walk
import ApiContract.Schema.WellFormed
import ApiContract.Settings.Basic
import ApiContract.Settings.Layers
import ApiContract.Settings.Load
import ApiContract.Settings.Variables
import ApiContract.Text.Ascii
import ApiContract.Text.Base64
import ApiContract.Text.Blank
import ApiContract.Text.Escaped
import ApiContract.Text.LetterCase
import ApiContract.Text.PercentEncoded
import ApiContract.Text.Search
import ApiContract.Text.Sha256
import ApiContract.Text.Unicode.Alphanumeric
import ApiContract.Text.Unicode.Identifier
import ApiContract.Text.Unicode.Invisible
import ApiContract.Text.Unicode.LetterCase
import ApiContract.Text.Utf8
import ApiContract.Text.Words
import ApiContract.Time.Calendar
import ApiContract.Time.Instant
import ApiContract.Time.Reader
import ApiContract.Value.Basic
import ApiContract.Value.Json
import ApiContract.Value.MultiValue
import ApiContract.Yaml.Cursor
import ApiContract.Yaml.Document
import ApiContract.Yaml.Event
import ApiContract.Yaml.Event.Grammar
import ApiContract.Yaml.Fault
import ApiContract.Yaml.Printer
import ApiContract.Yaml.Scalar
import ApiContract.Yaml.Style
import ApiContract.Yaml.Token
import ApiContract.Yaml.Token.Block
import ApiContract.Yaml.Token.Lexer
import ApiContract.Yaml.Token.Plain
import ApiContract.Yaml.Token.Quoted
import ApiContract.Yaml.Token.Tag
import ApiContract.Proofs.Schema.Location
import ApiContract.Proofs.Schema.Pointer
import ApiContract.Proofs.Schema.Blame
import ApiContract.Proofs.Schema.Relaxation
import ApiContract.Proofs.Bindings.Naming
import ApiContract.Proofs.Bindings.Account
import ApiContract.Proofs.Bindings.Closure
import ApiContract.Proofs.Text.LetterCase
import ApiContract.Proofs.Text.Words
import ApiContract.Proofs.Bindings.Identifier
import ApiContract.Proofs.Bindings.Legality
import ApiContract.Proofs.Schema.Publication
import ApiContract.Proofs.Schema.Nodes
import ApiContract.Proofs.OpenApi.Transcription
import ApiContract.Proofs.Contract.Declaration
import ApiContract.Proofs.Contract.Malformed
import ApiContract.Proofs.Exchange.Headers
import ApiContract.Proofs.Exchange.Script
import ApiContract.Proofs.Routing.Grants
import ApiContract.Proofs.Routing.HeaderNames
import ApiContract.Proofs.Exchange.FirstAnswer
import ApiContract.Proofs.Http.Collection
import ApiContract.Proofs.Routing.Rewriting
import ApiContract.Proofs.Json.Line
import ApiContract.Proofs.Http.EventStream
import ApiContract.Proofs.Logging.Routes
