import Cadastre.Cassette.Basic
import Cadastre.Cassette.Reel
import Cadastre.Cassette.Replay
import Cadastre.Cli.Arguments
import Cadastre.Cli.Level
import Cadastre.Command.Basic
import Cadastre.Config
import Cadastre.Decode.Failure
import Cadastre.Decode.JsonSource
import Cadastre.Decode.Source
import Cadastre.Decode.YamlSource
import Cadastre.Environment.File
import Cadastre.Environment.Line
import Cadastre.Environment.Value
import Cadastre.Json.Basic
import Cadastre.Json.Numeral
import Cadastre.Json.Reader
import Cadastre.Json.Writer
import Cadastre.Log.Entry
import Cadastre.Log.Filter
import Cadastre.Log.Pattern
import Cadastre.Main
import Cadastre.Modules.Registry
import Cadastre.Number.Double
import Cadastre.Number.DoubleText
import Cadastre.Number.Shortest
import Cadastre.Path
import Cadastre.Plan
import Cadastre.Program
import Cadastre.Proofs.Cassette.Exhaustion
import Cadastre.Proofs.Cassette.Order
import Cadastre.Proofs.Cassette.Output
import Cadastre.Proofs.Cassette.Recording
import Cadastre.Proofs.Cassette.Reel
import Cadastre.Proofs.Cassette.Replay
import Cadastre.Proofs.Command.Effects
import Cadastre.Proofs.Command.Unchanged
import Cadastre.Proofs.Config.Layers
import Cadastre.Proofs.Decode.Filled
import Cadastre.Proofs.Decode.Json
import Cadastre.Proofs.Decode.Presented
import Cadastre.Proofs.Json.RoundTrip
import Cadastre.Proofs.Json.Scalar
import Cadastre.Proofs.Path.Normal
import Cadastre.Proofs.Plan.Only
import Cadastre.Proofs.Plan.Outcome
import Cadastre.Proofs.Plan.Replies
import Cadastre.Proofs.Router.Auth
import Cadastre.Proofs.Router.Binding
import Cadastre.Proofs.Router.Exact
import Cadastre.Proofs.Router.Grammar
import Cadastre.Proofs.Router.LineEnd
import Cadastre.Proofs.Router.Source
import Cadastre.Proofs.Router.Span
import Cadastre.Proofs.Router.Split
import Cadastre.Proofs.Saved.AsYaml
import Cadastre.Proofs.Saved.Fields
import Cadastre.Proofs.Saved.RoundTrip
import Cadastre.Proofs.Scan.Addition
import Cadastre.Proofs.Scan.Coverage
import Cadastre.Proofs.Scan.Directory
import Cadastre.Proofs.Scan.Found
import Cadastre.Proofs.Scan.Isolation
import Cadastre.Proofs.Scan.Listing
import Cadastre.Proofs.Scan.Looks
import Cadastre.Proofs.Scan.Order
import Cadastre.Proofs.Scan.Root
import Cadastre.Proofs.Scan.SourceFile
import Cadastre.Proofs.Scan.Stages
import Cadastre.Proofs.Scan.Warnings
import Cadastre.Proofs.Schema.Body
import Cadastre.Proofs.Schema.Constraint
import Cadastre.Proofs.Schema.Exact
import Cadastre.Proofs.Schema.Grammar
import Cadastre.Proofs.Schema.Kept
import Cadastre.Proofs.Schema.Line
import Cadastre.Proofs.Schema.LineEnd
import Cadastre.Proofs.Schema.Source
import Cadastre.Proofs.Snapshot.Addition
import Cadastre.Proofs.Snapshot.Coverage
import Cadastre.Proofs.Snapshot.Exact
import Cadastre.Proofs.Snapshot.Index
import Cadastre.Proofs.Snapshot.Narrowed
import Cadastre.Proofs.Snapshot.Order
import Cadastre.Proofs.Snapshot.Report
import Cadastre.Proofs.Snapshot.Reversed
import Cadastre.Proofs.Snapshot.Searches
import Cadastre.Proofs.Snapshot.Unchanged
import Cadastre.Proofs.Snapshot.Verbatim
import Cadastre.Proofs.Text.ByteOrder
import Cadastre.Proofs.Text.Digits
import Cadastre.Proofs.Text.LineEnd
import Cadastre.Proofs.Text.Lower
import Cadastre.Proofs.Text.Places
import Cadastre.Proofs.Text.Run
import Cadastre.Proofs.Text.Word
import Cadastre.Proofs.Time.Calendar
import Cadastre.Proofs.Time.RoundTrip
import Cadastre.Proofs.World.Steps
import Cadastre.Proofs.World.Storage
import Cadastre.Router.Endpoint
import Cadastre.Router.Routes
import Cadastre.Saved.Snapshot
import Cadastre.Scan.Options
import Cadastre.Scan.Snapshot
import Cadastre.Scan.Stages
import Cadastre.Schema.Column
import Cadastre.Schema.Tables
import Cadastre.Snapshot.Basic
import Cadastre.Snapshot.Diff
import Cadastre.Snapshot.Filter
import Cadastre.Snapshot.Order
import Cadastre.Snapshot.Report
import Cadastre.Text.Blank
import Cadastre.Text.Case
import Cadastre.Text.CaseTable
import Cadastre.Text.EscapeTable
import Cadastre.Text.LetterTable
import Cadastre.Text.Position
import Cadastre.Text.Quoted
import Cadastre.Text.Search
import Cadastre.Text.Stored
import Cadastre.Text.Word
import Cadastre.Text.WordTable
import Cadastre.Time.Calendar
import Cadastre.Time.Instant
import Cadastre.Time.Reader
import Cadastre.Time.Writer
import Cadastre.World.Disk
import Cadastre.World.Storage
import Cadastre.World.Tree
import Cadastre.Yaml.Chars
import Cadastre.Yaml.Cursor
import Cadastre.Yaml.Fault
import Cadastre.Yaml.Node
import Cadastre.Yaml.Plain
import Cadastre.Yaml.Property
import Cadastre.Yaml.Scalar
import Cadastre.Yaml.Scanner
import Cadastre.Yaml.Token
import Cadastre.Yaml.Writer
