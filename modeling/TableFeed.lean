import TableFeed.Cli.Invocation
import TableFeed.Cli.Option
import TableFeed.Cli.Program
import TableFeed.Config.Basic
import TableFeed.Config.Load
import TableFeed.Decimal.Binary
import TableFeed.Decimal.Literal
import TableFeed.Decimal.Shortest
import TableFeed.Http.Message
import TableFeed.Json.Basic
import TableFeed.Json.Compact
import TableFeed.Json.Pretty
import TableFeed.Main
import TableFeed.Model.Basic
import TableFeed.Model.Default
import TableFeed.Model.Insertion
import TableFeed.Model.OfStatement
import TableFeed.Model.Table
import TableFeed.Model.Values
import TableFeed.Model.Wire
import TableFeed.Run.Configured
import TableFeed.Run.Display
import TableFeed.Run.Instant
import TableFeed.Run.Outcome
import TableFeed.Run.Processor
import TableFeed.Run.Reading
import TableFeed.Run.Report
import TableFeed.Run.RunId
import TableFeed.Script.Input
import TableFeed.Script.LineMode
import TableFeed.Script.Segmenter
import TableFeed.Script.Statements
import TableFeed.Service.Api
import TableFeed.Service.Client
import TableFeed.Service.Handler
import TableFeed.Service.Response
import TableFeed.Service.Scripted
import TableFeed.Service.Server
import TableFeed.Sql.Arithmetic
import TableFeed.Sql.Dialect
import TableFeed.Sql.Keyword
import TableFeed.Sql.Lexer
import TableFeed.Sql.Parser
import TableFeed.Sql.Parser.Alter
import TableFeed.Sql.Parser.AlterTable
import TableFeed.Sql.Parser.Basic
import TableFeed.Sql.Parser.Block
import TableFeed.Sql.Parser.Call
import TableFeed.Sql.Parser.Column
import TableFeed.Sql.Parser.Command
import TableFeed.Sql.Parser.Constraint
import TableFeed.Sql.Parser.Copy
import TableFeed.Sql.Parser.Create
import TableFeed.Sql.Parser.CreateOperator
import TableFeed.Sql.Parser.CreateType
import TableFeed.Sql.Parser.DataType
import TableFeed.Sql.Parser.Dispatch
import TableFeed.Sql.Parser.Document
import TableFeed.Sql.Parser.Drop
import TableFeed.Sql.Parser.Expression
import TableFeed.Sql.Parser.Forms
import TableFeed.Sql.Parser.From
import TableFeed.Sql.Parser.Grammar
import TableFeed.Sql.Parser.Grant
import TableFeed.Sql.Parser.Modify
import TableFeed.Sql.Parser.Names
import TableFeed.Sql.Parser.Operators
import TableFeed.Sql.Parser.Pipe
import TableFeed.Sql.Parser.Pivot
import TableFeed.Sql.Parser.Property
import TableFeed.Sql.Parser.Query
import TableFeed.Sql.Parser.Rename
import TableFeed.Sql.Parser.Role
import TableFeed.Sql.Parser.Routine
import TableFeed.Sql.Parser.RowPattern
import TableFeed.Sql.Parser.Select
import TableFeed.Sql.Parser.Setting
import TableFeed.Sql.Parser.Show
import TableFeed.Sql.Parser.Table
import TableFeed.Sql.Parser.Transaction
import TableFeed.Sql.Quoted
import TableFeed.Sql.Rules
import TableFeed.Sql.Single
import TableFeed.Sql.Statement
import TableFeed.Sql.Token
import TableFeed.Sql.Tree
import TableFeed.Text.Blank
import TableFeed.Text.Casing
import TableFeed.Text.Letters
import TableFeed.Text.Lines
import TableFeed.Text.Scanner
import TableFeed.Text.Utf8
import TableFeed.Toml.Document
import TableFeed.Toml.Record
import TableFeed.Toml.Scalar
import TableFeed.Toml.Table
import TableFeed.Url.Address
import TableFeed.Url.Path
import TableFeed.Url.Percent
import TableFeed.Proofs.Script.Lexeme
import TableFeed.Proofs.Script.Outlook
import TableFeed.Proofs.Script.Segmentation
import TableFeed.Proofs.Text.Lines
import TableFeed.Proofs.Script.Feed
import TableFeed.Proofs.Script.OnDemand
import TableFeed.Proofs.Run.Executions
import TableFeed.Proofs.Run.Stateful
import TableFeed.Proofs.Run.Cancellation
import TableFeed.Proofs.Run.Readings
import TableFeed.Proofs.Run.BrokenInput
import TableFeed.Proofs.Model.Sources
import TableFeed.Proofs.Model.Wire
import TableFeed.Proofs.Run.Served
import TableFeed.Proofs.Script.Refeed
import TableFeed.Proofs.Sql.InStep
import TableFeed.Proofs.Sql.Isolation
import TableFeed.Proofs.Script.LineModes
import TableFeed.Proofs.Model.Columns
import TableFeed.Proofs.Model.Rows
import TableFeed.Proofs.Service.Targets
import TableFeed.Proofs.Json.Restated
import TableFeed.Proofs.Model.Tolerance
import TableFeed.Proofs.Model.Refusals
import TableFeed.Proofs.Model.Filling
import TableFeed.Proofs.Sql.LeadingText
import TableFeed.Proofs.Model.Defaults
import TableFeed.Proofs.Sql.Arithmetic
import TableFeed.Proofs.Script.Answers
import TableFeed.Proofs.Script.Invariant
import TableFeed.Proofs.Script.Boundary
import TableFeed.Proofs.Run.Success
import TableFeed.Proofs.Config.Address
import TableFeed.Proofs.Script.Flags
