import QueryGateway.Account.Authorizer
import QueryGateway.Account.Basic
import QueryGateway.Authorization.Question
import QueryGateway.Authorization.Verdict
import QueryGateway.Cache.Hit
import QueryGateway.Cache.Key
import QueryGateway.Cache.Store
import QueryGateway.Collaboration
import QueryGateway.CommandLine
import QueryGateway.Config.Basic
import QueryGateway.Config.Document
import QueryGateway.Config.Loading
import QueryGateway.Config.Reader
import QueryGateway.Dialogue
import QueryGateway.Digest.Sha256
import QueryGateway.Envelope
import QueryGateway.Execution.Basic
import QueryGateway.Gatekeeper
import QueryGateway.Gateway
import QueryGateway.Http.Message
import QueryGateway.Http.Service
import QueryGateway.Http.Target
import QueryGateway.Inspection
import QueryGateway.Json.Basic
import QueryGateway.Json.Fields
import QueryGateway.Json.Printer
import QueryGateway.Json.Reader
import QueryGateway.Main
import QueryGateway.Number.Binary64
import QueryGateway.Policy
import QueryGateway.Postgres.Adapter
import QueryGateway.Postgres.Error
import QueryGateway.Refusal
import QueryGateway.Relation.Basic
import QueryGateway.Relation.Extraction
import QueryGateway.Request.Basic
import QueryGateway.Request.Params
import QueryGateway.Sql.Ast
import QueryGateway.Sql.Grammar
import QueryGateway.Sql.Grammar.Alteration
import QueryGateway.Sql.Grammar.Basic
import QueryGateway.Sql.Grammar.Call
import QueryGateway.Sql.Grammar.Change
import QueryGateway.Sql.Grammar.Column
import QueryGateway.Sql.Grammar.Command
import QueryGateway.Sql.Grammar.Control
import QueryGateway.Sql.Grammar.DataType
import QueryGateway.Sql.Grammar.Definition
import QueryGateway.Sql.Grammar.Expression
import QueryGateway.Sql.Grammar.Object
import QueryGateway.Sql.Grammar.Operator
import QueryGateway.Sql.Grammar.Option
import QueryGateway.Sql.Grammar.Query
import QueryGateway.Sql.Grammar.Relation
import QueryGateway.Sql.Grammar.Removal
import QueryGateway.Sql.Grammar.Right
import QueryGateway.Sql.Grammar.Role
import QueryGateway.Sql.Grammar.Routine
import QueryGateway.Sql.Grammar.Session
import QueryGateway.Sql.Grammar.Table
import QueryGateway.Sql.Grammar.Transfer
import QueryGateway.Sql.Keyword
import QueryGateway.Sql.Lexer
import QueryGateway.Sql.Lowering
import QueryGateway.Sql.Name
import QueryGateway.Sql.Phrase
import QueryGateway.Sql.Token
import QueryGateway.Text.Base64
import QueryGateway.Text.Blank
import QueryGateway.Text.Form
import QueryGateway.Text.Hex
import QueryGateway.Text.Letter
import QueryGateway.Text.Lines
import QueryGateway.Text.Percent
import QueryGateway.Text.Utf8
import QueryGateway.Time.Instant
import QueryGateway.Time.Timestamp
import QueryGateway.Tree
import QueryGateway.Tree.Json
import QueryGateway.Tree.Reader
import QueryGateway.Yaml.Line
import QueryGateway.Yaml.Scalar
import QueryGateway.Yaml.Token
import QueryGateway.Proofs.Relation.Occurrence
import QueryGateway.Proofs.Relation.Walk
import QueryGateway.Proofs.Relation.Exactness
import QueryGateway.Proofs.Tree.Section
import QueryGateway.Proofs.Tree.Change
import QueryGateway.Proofs.Relation.ReadOnly
import QueryGateway.Proofs.Relation.AddedEntry
import QueryGateway.Proofs.Sql.Completeness
import QueryGateway.Proofs.Gateway.Clearance
import QueryGateway.Proofs.Gateway.Mediation
import QueryGateway.Proofs.Gateway.WriteAuthority
import QueryGateway.Proofs.Gateway.CreationKey
import QueryGateway.Proofs.Gateway.Batch
import QueryGateway.Proofs.Gateway.Transparency
import QueryGateway.Proofs.Gateway.Concurrency
import QueryGateway.Proofs.Gateway.Replay
import QueryGateway.Proofs.Sql.Shadowing
import QueryGateway.Proofs.Sql.OnlyMarker
import QueryGateway.Proofs.Account.Access
import QueryGateway.Proofs.Account.DatabaseName
import QueryGateway.Proofs.Sql.ForbiddenSchema
import QueryGateway.Proofs.Postgres.Wrapping
import QueryGateway.Proofs.Gateway.StoreTrouble
import QueryGateway.Proofs.Gateway.Streaming
import QueryGateway.Proofs.Gateway.SingleLine
import QueryGateway.Proofs.Gateway.CallerBlindness
import QueryGateway.Proofs.Postgres.Discipline
import QueryGateway.Proofs.Gateway.FirstDenial
import QueryGateway.Proofs.Cache.History
import QueryGateway.Proofs.Cache.Staleness
import QueryGateway.Proofs.Sql.InnerStatement
import QueryGateway.Proofs.Tree.Parentheses
import QueryGateway.Proofs.Sql.DottedName
import QueryGateway.Proofs.Gateway.AddedFields
import QueryGateway.Proofs.Gateway.EnvelopeForm
import QueryGateway.Proofs.Http.Framing
import QueryGateway.Proofs.Sql.CopiedTable
import QueryGateway.Proofs.Http.StatementText
import QueryGateway.Proofs.Account.Address
import QueryGateway.Proofs.Config.DisplayTarget
import QueryGateway.Proofs.Relation.OrderedMap
import QueryGateway.Proofs.Gateway.SharedEntry
