import WebTestRun.Artifact.Extraction
import WebTestRun.Artifact.Map
import WebTestRun.Artifact.Store
import WebTestRun.Attempt.Basic
import WebTestRun.Attempt.Running
import WebTestRun.Baseline.Basic
import WebTestRun.Baseline.Comparison
import WebTestRun.Baseline.Outcome
import WebTestRun.Baseline.Read
import WebTestRun.Baseline.Written
import WebTestRun.Bytes.Base64
import WebTestRun.Bytes.Checksum
import WebTestRun.Bytes.Deflate
import WebTestRun.Bytes.Octets
import WebTestRun.Collection.Choice
import WebTestRun.Collection.Keyed
import WebTestRun.Collection.Named
import WebTestRun.Config.Basic
import WebTestRun.Config.Read
import WebTestRun.Console.Filter
import WebTestRun.Console.Lines
import WebTestRun.Console.Palette
import WebTestRun.Decimal.Fixed
import WebTestRun.Decimal.Shortest
import WebTestRun.Decimal.Width
import WebTestRun.Decimal.Written
import WebTestRun.Diff.Block
import WebTestRun.Diff.Change
import WebTestRun.Diff.Page
import WebTestRun.Diff.Script
import WebTestRun.Diff.Settled
import WebTestRun.Diff.Unified
import WebTestRun.Duration
import WebTestRun.Event.Basic
import WebTestRun.Event.Call
import WebTestRun.Event.Read
import WebTestRun.Event.Stream
import WebTestRun.ExitCode
import WebTestRun.Expectation.Line
import WebTestRun.Expectation.Table
import WebTestRun.File.Overwrite
import WebTestRun.File.Path
import WebTestRun.File.Tree
import WebTestRun.History
import WebTestRun.Image.Basic
import WebTestRun.Image.Compared
import WebTestRun.Image.Difference
import WebTestRun.Image.Png
import WebTestRun.Image.Stats
import WebTestRun.Invocation.Basic
import WebTestRun.Invocation.Help
import WebTestRun.Invocation.Key
import WebTestRun.Invocation.Read
import WebTestRun.Invocation.Scan
import WebTestRun.Json.Basic
import WebTestRun.Json.Decode
import WebTestRun.Json.Document
import WebTestRun.Json.Numeral
import WebTestRun.Json.Written
import WebTestRun.Layout
import WebTestRun.Log
import WebTestRun.Main
import WebTestRun.Manifest
import WebTestRun.Processor.Basic
import WebTestRun.Processor.Consume
import WebTestRun.Processor.Lookup
import WebTestRun.Processor.Step
import WebTestRun.Proofs.Artifact.Merge
import WebTestRun.Proofs.Artifact.Place
import WebTestRun.Proofs.Artifact.Plan
import WebTestRun.Proofs.Artifact.Recorded
import WebTestRun.Proofs.Artifact.Renamed
import WebTestRun.Proofs.Artifact.Reset
import WebTestRun.Proofs.Artifact.Screenshots
import WebTestRun.Proofs.Artifact.Written
import WebTestRun.Proofs.Attempt.Dashboard
import WebTestRun.Proofs.Attempt.Rebaseline
import WebTestRun.Proofs.Attempt.Reports
import WebTestRun.Proofs.Baseline.Agreement
import WebTestRun.Proofs.Baseline.Canonical
import WebTestRun.Proofs.Baseline.Comparison
import WebTestRun.Proofs.Baseline.Grammar
import WebTestRun.Proofs.Baseline.RoundTrip
import WebTestRun.Proofs.Collection.Answer
import WebTestRun.Proofs.Collection.Keyed
import WebTestRun.Proofs.Decimal.Digits
import WebTestRun.Proofs.Diff.Page
import WebTestRun.Proofs.Event.Stream
import WebTestRun.Proofs.Expectation.Declared
import WebTestRun.Proofs.Expectation.Grammar
import WebTestRun.Proofs.File.Resolved
import WebTestRun.Proofs.File.Tree
import WebTestRun.Proofs.Image.Difference
import WebTestRun.Proofs.Json.Equality
import WebTestRun.Proofs.Json.Gap
import WebTestRun.Proofs.Json.Ordered
import WebTestRun.Proofs.Json.Printable
import WebTestRun.Proofs.Json.Reordered
import WebTestRun.Proofs.Layout.Precedence
import WebTestRun.Proofs.Layout.Search
import WebTestRun.Proofs.Manifest.Index
import WebTestRun.Proofs.Manifest.Listing
import WebTestRun.Proofs.Processor.Answered
import WebTestRun.Proofs.Processor.Budget
import WebTestRun.Proofs.Processor.Conservation
import WebTestRun.Proofs.Processor.CrashLog
import WebTestRun.Proofs.Processor.Deposits
import WebTestRun.Proofs.Processor.Ends
import WebTestRun.Proofs.Processor.InFlight
import WebTestRun.Proofs.Processor.Independence
import WebTestRun.Proofs.Processor.Rejection
import WebTestRun.Proofs.Processor.Resets
import WebTestRun.Proofs.Processor.Run
import WebTestRun.Proofs.Processor.SameTest
import WebTestRun.Proofs.Processor.Suite
import WebTestRun.Proofs.Report.Insertion
import WebTestRun.Proofs.Report.Leaves
import WebTestRun.Proofs.Report.Numbers
import WebTestRun.Proofs.Report.Placement
import WebTestRun.Proofs.Report.Regressions
import WebTestRun.Proofs.Report.RoundTrip
import WebTestRun.Proofs.Report.Skips
import WebTestRun.Proofs.Report.Trie
import WebTestRun.Proofs.Run.Schedule
import WebTestRun.Proofs.RunnerReport.Merged
import WebTestRun.Proofs.TestName.Stem
import WebTestRun.Proofs.TestName.Suite
import WebTestRun.Proofs.Text.Bytes
import WebTestRun.Proofs.Text.Percent
import WebTestRun.Proofs.Text.Pieces
import WebTestRun.Proofs.Text.Utf8
import WebTestRun.Proofs.Threshold
import WebTestRun.Proofs.Upload
import WebTestRun.Report.Basic
import WebTestRun.Report.Files
import WebTestRun.Report.Leaf
import WebTestRun.Report.Summary
import WebTestRun.Report.Trie
import WebTestRun.Run.Basic
import WebTestRun.Run.Command
import WebTestRun.Run.Ending
import WebTestRun.Run.Failure
import WebTestRun.Run.Process
import WebTestRun.Run.Schedule
import WebTestRun.Run.Setup
import WebTestRun.RunnerReport
import WebTestRun.Setting.Basic
import WebTestRun.Setting.Layer
import WebTestRun.Status
import WebTestRun.Tally
import WebTestRun.TestKind
import WebTestRun.TestName
import WebTestRun.Text.Blank
import WebTestRun.Text.Cut
import WebTestRun.Text.Glyph
import WebTestRun.Text.Line
import WebTestRun.Text.Percent
import WebTestRun.Text.Quoted
import WebTestRun.Text.Utf8
import WebTestRun.Threshold
import WebTestRun.Toml.Scalar
import WebTestRun.Toml.Statement
import WebTestRun.Toml.Table
import WebTestRun.Upload
import WebTestRun.Verdict
