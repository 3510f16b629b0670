import RowGate.App.Config
import RowGate.App.EnvFile
import RowGate.App.Routes
import RowGate.App.Server
import RowGate.App.Session
import RowGate.App.World
import RowGate.Backend
import RowGate.Backend.Memory
import RowGate.Cache.Inflight
import RowGate.Cache.Key
import RowGate.Cache.Lru
import RowGate.Catalog.Admin
import RowGate.Catalog.Entity
import RowGate.Catalog.Request
import RowGate.Catalog.Slug
import RowGate.Catalog.Store
import RowGate.Catalog.Stored
import RowGate.Connection.Config
import RowGate.Connection.Locator
import RowGate.Connection.Pools
import RowGate.Connection.Postgres
import RowGate.Connection.Stale
import RowGate.Engine.Read
import RowGate.Engine.Request
import RowGate.Executor.Document
import RowGate.Executor.Live
import RowGate.Executor.ResultSet
import RowGate.Executor.Sql
import RowGate.Fault
import RowGate.Filter.Basic
import RowGate.Filter.Parse
import RowGate.Filter.Sort
import RowGate.Filter.Terms
import RowGate.Hash.XXHash
import RowGate.Http.Limiter
import RowGate.Http.Message
import RowGate.Http.Wire
import RowGate.Json.Binding
import RowGate.Json.Reader
import RowGate.Json.Tagged
import RowGate.Json.Writer
import RowGate.Log.Level
import RowGate.Log.Logger
import RowGate.Main
import RowGate.Net.Ip
import RowGate.Net.Url
import RowGate.Number.Binary
import RowGate.Number.Decimal
import RowGate.Number.Float
import RowGate.Number.Parse
import RowGate.Policy.Field
import RowGate.Policy.Row
import RowGate.Policy.Template
import RowGate.Proofs.Filter.WellFormed
import RowGate.Proofs.Filter.Parsed
import RowGate.Proofs.Filter.Shape
import RowGate.Proofs.Json.Grammar
import RowGate.Proofs.Filter.Splitting
import RowGate.Proofs.Filter.TextForm
import RowGate.Proofs.Engine.Plan
import RowGate.Proofs.Engine.Confinement
import RowGate.Proofs.Engine.Prepare
import RowGate.Proofs.Engine.Scope
import RowGate.Proofs.Engine.Handlers
import RowGate.Proofs.Sql.Statement
import RowGate.Proofs.Sql.WhereClause
import RowGate.Proofs.Query.Writable
import RowGate.Proofs.Connection.PoolKey
import RowGate.Proofs.Cache.SingleFlight
import RowGate.Proofs.Connection.PoolManager
import RowGate.Proofs.Backend.Steps
import RowGate.Proofs.Catalog.Exposure
import RowGate.Proofs.Catalog.PolicyUpsert
import RowGate.Proofs.Realtime.Index
import RowGate.Proofs.Realtime.Registry
import RowGate.Proofs.Realtime.Listeners
import RowGate.Proofs.Realtime.Changes
import RowGate.Proofs.Query.Paging
import RowGate.Proofs.Policy.Render
import RowGate.Proofs.Policy.Validation
import RowGate.Proofs.Catalog.SlugForm
import RowGate.Proofs.Policy.FieldAccess
import RowGate.Proofs.Engine.Retry
import RowGate.Proofs.Query.Pattern
import RowGate.Proofs.Executor.Documents
import RowGate.Query.Builder
import RowGate.Query.Document
import RowGate.Query.Kind
import RowGate.Query.Page
import RowGate.Query.Plan
import RowGate.Query.Sql
import RowGate.Realtime.Mode
import RowGate.Realtime.Service
import RowGate.Realtime.Trigger
import RowGate.Relational.Database
import RowGate.Relational.Datum
import RowGate.Relational.Eval
import RowGate.Relational.Lexer
import RowGate.Relational.Parser
import RowGate.Relational.Syntax
import RowGate.Relational.Type
import RowGate.Relational.Wire
import RowGate.Rest.Param
import RowGate.Text.Accents
import RowGate.Text.Base64
import RowGate.Text.Blank
import RowGate.Text.Case
import RowGate.Text.Printable
import RowGate.Text.Quoted
import RowGate.Text.Ranges
import RowGate.Text.Regex
import RowGate.Text.Search
import RowGate.Text.Utf8
import RowGate.Time.Duration
import RowGate.Value.Access
import RowGate.Value.Basic
import RowGate.Value.Display
import RowGate.Value.Instant
