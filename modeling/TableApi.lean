import TableApi.Access.Decision
import TableApi.Access.Sha256
import TableApi.Access.Token
import TableApi.Address.Basic
import TableApi.Address.Escape
import TableApi.Address.Host
import TableApi.Address.Path
import TableApi.Address.Reader
import TableApi.Calendar
import TableApi.CommandLine.Commands
import TableApi.CommandLine.Grammar
import TableApi.CommandLine.Output
import TableApi.Configuration.Basic
import TableApi.Configuration.VariablesFile
import TableApi.Database.Basic
import TableApi.Database.Memory.Arrangement
import TableApi.Database.Memory.Arrangement.Permutation
import TableApi.Database.Memory.Database
import TableApi.Database.Memory.Order
import TableApi.Database.Memory.Reading
import TableApi.Database.Memory.Table
import TableApi.Database.Remote.Binding
import TableApi.Database.Remote.Column
import TableApi.Database.Remote.Connection
import TableApi.Database.Remote.Session
import TableApi.Domain.Direction
import TableApi.Domain.Joining
import TableApi.Domain.Mapping
import TableApi.Domain.Name
import TableApi.Domain.Punycode
import TableApi.Effect.Action
import TableApi.Effect.Log
import TableApi.Effect.Threshold
import TableApi.Endpoint.Descriptor
import TableApi.Endpoint.Document
import TableApi.Endpoint.Kind
import TableApi.Endpoint.Route
import TableApi.Endpoint.Summary
import TableApi.Files.Tree
import TableApi.Filter.Basic
import TableApi.Filter.Body
import TableApi.Filter.QueryString
import TableApi.Hook.Payload
import TableApi.Hook.Registry
import TableApi.Hook.Script
import TableApi.Json.Basic
import TableApi.Json.Printer
import TableApi.Json.Reader
import TableApi.Main
import TableApi.Named
import TableApi.Number.Decimal
import TableApi.Number.Double
import TableApi.Number.FixedPoint
import TableApi.Number.Shortest
import TableApi.Program.Exit
import TableApi.Program.Operator
import TableApi.Program.Service
import TableApi.Proofs.Access.Decision
import TableApi.Proofs.CommandLine.Explanation
import TableApi.Proofs.Database.Alteration
import TableApi.Proofs.Database.Arrangement
import TableApi.Proofs.Database.Coercion
import TableApi.Proofs.Database.Filtering
import TableApi.Proofs.Database.Identity
import TableApi.Proofs.Database.Interpretation
import TableApi.Proofs.Database.Operations
import TableApi.Proofs.Database.Ordering
import TableApi.Proofs.Database.Reading
import TableApi.Proofs.Database.Selection
import TableApi.Proofs.Database.Steady
import TableApi.Proofs.Effect.Action
import TableApi.Proofs.Effect.Coupling
import TableApi.Proofs.Effect.Pipeline
import TableApi.Proofs.Effect.Result
import TableApi.Proofs.Endpoint.Descriptor
import TableApi.Proofs.Endpoint.Paths
import TableApi.Proofs.Endpoint.Policy
import TableApi.Proofs.Endpoint.RecordId
import TableApi.Proofs.Endpoint.Route
import TableApi.Proofs.Endpoint.Summary
import TableApi.Proofs.Filter.Body
import TableApi.Proofs.Filter.Delimiter
import TableApi.Proofs.Filter.Key
import TableApi.Proofs.Filter.Pairs
import TableApi.Proofs.Filter.QueryString
import TableApi.Proofs.Filter.Refusal
import TableApi.Proofs.Filter.Spacing
import TableApi.Proofs.Filter.Splitting
import TableApi.Proofs.Hook.Names
import TableApi.Proofs.Json.Fields
import TableApi.Proofs.Json.Tidy
import TableApi.Proofs.Number.Decimal
import TableApi.Proofs.Number.Rounding
import TableApi.Proofs.Request.Alteration
import TableApi.Proofs.Request.Amendment
import TableApi.Proofs.Request.Anonymous
import TableApi.Proofs.Request.ApiError
import TableApi.Proofs.Request.Batch
import TableApi.Proofs.Request.Change
import TableApi.Proofs.Request.Creation
import TableApi.Proofs.Request.Discretion
import TableApi.Proofs.Request.Exchange
import TableApi.Proofs.Request.Execution
import TableApi.Proofs.Request.Handling
import TableApi.Proofs.Request.Likeness
import TableApi.Proofs.Request.Ownership
import TableApi.Proofs.Request.Paging
import TableApi.Proofs.Request.Presence
import TableApi.Proofs.Request.Record
import TableApi.Proofs.Request.Removal
import TableApi.Proofs.Request.Routing
import TableApi.Proofs.Request.Search
import TableApi.Proofs.Request.Stages
import TableApi.Proofs.Request.Statements
import TableApi.Proofs.Request.Stored
import TableApi.Proofs.Request.Writing
import TableApi.Proofs.Server.Discretion
import TableApi.Proofs.Server.Errors
import TableApi.Proofs.Server.Origins
import TableApi.Proofs.Server.Runs
import TableApi.Proofs.Server.Secrecy
import TableApi.Proofs.Sql.Grammar
import TableApi.Proofs.Table.Order
import TableApi.Proofs.Table.Query
import TableApi.Proofs.Table.Schema
import TableApi.Proofs.Table.Separators
import TableApi.Proofs.Text.Blank
import TableApi.Proofs.Text.Cutting
import TableApi.Proofs.Text.Percent
import TableApi.Proofs.Text.Utf8
import TableApi.Proofs.Text.Words
import TableApi.Request.ApiError
import TableApi.Request.Context
import TableApi.Request.Execution
import TableApi.Request.Handling
import TableApi.Request.Response
import TableApi.Server.Answer
import TableApi.Server.Origin
import TableApi.Server.Target
import TableApi.Sql.Statement
import TableApi.Table.Query
import TableApi.Table.Schema
import TableApi.Text.Blank
import TableApi.Text.Integer
import TableApi.Text.Percent
import TableApi.Text.Quoted
import TableApi.Text.Scan
import TableApi.Text.Utf8
import TableApi.Text.Visible
import TableApi.Unicode.Alphanumeric
import TableApi.Unicode.CodeSet
import TableApi.Unicode.Composite
import TableApi.Unicode.Mark
import TableApi.Unicode.Normal
