import TodoLedger.CommandLine.Basic
import TodoLedger.CommandLine.Matching
import TodoLedger.CommandLine.Parse
import TodoLedger.Comment
import TodoLedger.Config.Basic
import TodoLedger.Config.Environment
import TodoLedger.Config.Reader
import TodoLedger.Config.Validation
import TodoLedger.Digest.Sha256
import TodoLedger.Directive
import TodoLedger.Disk.Access
import TodoLedger.Disk.Basic
import TodoLedger.Disk.Error
import TodoLedger.Disk.Place
import TodoLedger.Disk.Survey
import TodoLedger.Gate
import TodoLedger.Glob.Pattern
import TodoLedger.Glob.Token
import TodoLedger.GrammarCache
import TodoLedger.Hit
import TodoLedger.Http.Exchange
import TodoLedger.Http.Script
import TodoLedger.Http.Url
import TodoLedger.Ignore.Entries
import TodoLedger.Ignore.Rules
import TodoLedger.Inventory
import TodoLedger.Issue
import TodoLedger.Json.Basic
import TodoLedger.Json.Extent
import TodoLedger.Json.Reader
import TodoLedger.Keyword
import TodoLedger.Language
import TodoLedger.Log.Event
import TodoLedger.Log.Filter
import TodoLedger.Main
import TodoLedger.Path
import TodoLedger.Proofs.Config.Settings
import TodoLedger.Proofs.Directive.Labels
import TodoLedger.Proofs.Directive.Line
import TodoLedger.Proofs.Directive.Mention
import TodoLedger.Proofs.Directive.Structured
import TodoLedger.Proofs.Disk.Append
import TodoLedger.Proofs.Disk.Contents
import TodoLedger.Proofs.Disk.Follow
import TodoLedger.Proofs.Disk.Leads
import TodoLedger.Proofs.Disk.Sound
import TodoLedger.Proofs.Disk.Spelling
import TodoLedger.Proofs.Glob.Draft
import TodoLedger.Proofs.Glob.Literal
import TodoLedger.Proofs.Glob.Matching
import TodoLedger.Proofs.Glob.Reading
import TodoLedger.Proofs.GrammarCache
import TodoLedger.Proofs.Http.Requests
import TodoLedger.Proofs.Ignore.Entries
import TodoLedger.Proofs.Ignore.Plain
import TodoLedger.Proofs.Ignore.Rendered
import TodoLedger.Proofs.Ignore.Union
import TodoLedger.Proofs.Ignore.Update
import TodoLedger.Proofs.Ignore.Walk
import TodoLedger.Proofs.Inventory.Listing
import TodoLedger.Proofs.Inventory.News
import TodoLedger.Proofs.Inventory.Relisting
import TodoLedger.Proofs.Issue.Link
import TodoLedger.Proofs.Issue.Mentions
import TodoLedger.Proofs.Json.Reading
import TodoLedger.Proofs.Json.RoundTrip
import TodoLedger.Proofs.Path
import TodoLedger.Proofs.Reconciler.Calls
import TodoLedger.Proofs.Reconciler.Cap
import TodoLedger.Proofs.Reconciler.Course
import TodoLedger.Proofs.Reconciler.Drivers
import TodoLedger.Proofs.Reconciler.Exceeded
import TodoLedger.Proofs.Reconciler.Filing
import TodoLedger.Proofs.Reconciler.LargerCap
import TodoLedger.Proofs.Reconciler.Rerun
import TodoLedger.Proofs.Reconciler.Run
import TodoLedger.Proofs.Reconciler.UntilCap
import TodoLedger.Proofs.Report.RoundTrip
import TodoLedger.Proofs.Run.Accepted
import TodoLedger.Proofs.Run.Decisions
import TodoLedger.Proofs.Run.EntryCount
import TodoLedger.Proofs.Run.EnvironmentFile
import TodoLedger.Proofs.Run.Excluded
import TodoLedger.Proofs.Run.ExitCode
import TodoLedger.Proofs.Run.Gate
import TodoLedger.Proofs.Run.IgnoreFile
import TodoLedger.Proofs.Run.Layers
import TodoLedger.Proofs.Run.Patterns
import TodoLedger.Proofs.Run.Print
import TodoLedger.Proofs.Run.Reorder
import TodoLedger.Proofs.Scan.Files
import TodoLedger.Proofs.Scan.Flagged
import TodoLedger.Proofs.Scan.Hits
import TodoLedger.Proofs.Scan.Moved
import TodoLedger.Proofs.Scan.Numbered
import TodoLedger.Proofs.Scan.Reorder
import TodoLedger.Proofs.Scan.Seam
import TodoLedger.Proofs.Scan.Stored
import TodoLedger.Proofs.Scan.Tally
import TodoLedger.Proofs.Scan.Window
import TodoLedger.Proofs.Targets
import TodoLedger.Proofs.Text.Cut
import TodoLedger.Proofs.Text.Encoding
import TodoLedger.Proofs.Text.Lines
import TodoLedger.Proofs.Text.Lowercase
import TodoLedger.Proofs.Text.Misread
import TodoLedger.Proofs.Text.Number
import TodoLedger.Proofs.Text.Order
import TodoLedger.Proofs.Text.Trim
import TodoLedger.Proofs.Tracker.Entries
import TodoLedger.Proofs.Tracker.Paging
import TodoLedger.Reconciler
import TodoLedger.Report.Document
import TodoLedger.Report.Pretty
import TodoLedger.Report.Reader
import TodoLedger.Repository
import TodoLedger.Run.Basic
import TodoLedger.Run.Check
import TodoLedger.Run.Error
import TodoLedger.Run.Ignore
import TodoLedger.Run.Program
import TodoLedger.RunStats
import TodoLedger.Scan
import TodoLedger.Scan.Result
import TodoLedger.ScanError
import TodoLedger.Targets
import TodoLedger.Text.Basic
import TodoLedger.Text.Encoding
import TodoLedger.Text.Lowercase
import TodoLedger.Text.Number
import TodoLedger.Text.Quoted
import TodoLedger.Text.Utf16
import TodoLedger.Text.Utf8
import TodoLedger.Text.Word
import TodoLedger.Tracker.Basic
import TodoLedger.Tracker.DryRun
import TodoLedger.Tracker.GitHub
import TodoLedger.Window
import TodoLedger.Yaml.Cursor
import TodoLedger.Yaml.Lexer
import TodoLedger.Yaml.Node
import TodoLedger.Yaml.Scalar
import TodoLedger.Yaml.Token
