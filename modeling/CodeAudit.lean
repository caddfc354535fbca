import CodeAudit.CommandLine.Grammar
import CodeAudit.CommandLine.Invocation
import CodeAudit.CommandLine.Run
import CodeAudit.Compliance
import CodeAudit.Config.Basic
import CodeAudit.Config.Load
import CodeAudit.Console
import CodeAudit.Decimal.Double
import CodeAudit.Decimal.Read
import CodeAudit.Decimal.Shortest
import CodeAudit.Disk
import CodeAudit.Failure
import CodeAudit.Finding.Basic
import CodeAudit.Fingerprint.Key
import CodeAudit.Fingerprint.Sha256
import CodeAudit.Glob
import CodeAudit.Json.Draft
import CodeAudit.Json.Read
import CodeAudit.Json.Write
import CodeAudit.Keyed
import CodeAudit.Label
import CodeAudit.Log
import CodeAudit.Main
import CodeAudit.Matching
import CodeAudit.Path
import CodeAudit.Pattern.CharTest
import CodeAudit.Pattern.Match
import CodeAudit.Pattern.Parse
import CodeAudit.Pattern.Syntax
import CodeAudit.Project
import CodeAudit.Report.Basic
import CodeAudit.Report.Generate
import CodeAudit.Report.Store
import CodeAudit.Rule.Basic
import CodeAudit.Rule.Builtin
import CodeAudit.Rule.Decode
import CodeAudit.Rule.Repository
import CodeAudit.Scan
import CodeAudit.Selection
import CodeAudit.Sorted
import CodeAudit.Source
import CodeAudit.Text.Blank
import CodeAudit.Text.Case
import CodeAudit.Text.CaseTable
import CodeAudit.Text.CharName
import CodeAudit.Text.CharName.BasicPlane
import CodeAudit.Text.CharName.Run
import CodeAudit.Text.CharName.UpperPlanes
import CodeAudit.Text.Digit
import CodeAudit.Text.Identifier
import CodeAudit.Text.Integer
import CodeAudit.Text.Lines
import CodeAudit.Text.Printable
import CodeAudit.Text.Quoted
import CodeAudit.Text.Ranges
import CodeAudit.Text.Stream
import CodeAudit.Text.Utf8
import CodeAudit.Text.Word
import CodeAudit.Timestamp
import CodeAudit.Tracking
import CodeAudit.Value.Basic
import CodeAudit.Value.Fault
import CodeAudit.Value.Moment
import CodeAudit.Value.Print
import CodeAudit.Wording
import CodeAudit.Yaml.Cursor
import CodeAudit.Yaml.Error
import CodeAudit.Yaml.Load
import CodeAudit.Yaml.Merge
import CodeAudit.Yaml.Name
import CodeAudit.Yaml.Node
import CodeAudit.Yaml.Plain
import CodeAudit.Yaml.Resolve
import CodeAudit.Yaml.Scalar
import CodeAudit.Yaml.Supply
import CodeAudit.Yaml.Token
import CodeAudit.Yaml.TokenStream
import CodeAudit.Proofs.Value.Written
import CodeAudit.Proofs.Decimal.Rounding
import CodeAudit.Proofs.Digits
import CodeAudit.Proofs.Decimal.Shortest
import CodeAudit.Proofs.Disk.Paths
import CodeAudit.Proofs.Disk.Tree
import CodeAudit.Proofs.Disk.Walk
import CodeAudit.Proofs.Disk.Folder
import CodeAudit.Proofs.Sorting
import CodeAudit.Proofs.Disk.Trails
import CodeAudit.Proofs.Disk.Changes
import CodeAudit.Proofs.Disk.Relative
import CodeAudit.Proofs.Disk.WayBack
import CodeAudit.Proofs.Fingerprint.Key
import CodeAudit.Proofs.Text.Stream
import CodeAudit.Proofs.Text.Utf8
import CodeAudit.Proofs.Text.Words
import CodeAudit.Proofs.Text.Case
import CodeAudit.Proofs.Fingerprint.Separation
import CodeAudit.Proofs.Fingerprint.Assign
import CodeAudit.Proofs.Fingerprint.Numbering
import CodeAudit.Proofs.Json.Number
import CodeAudit.Proofs.Json.Float
import CodeAudit.Proofs.Json.Text
import CodeAudit.Proofs.Json.Readers
import CodeAudit.Proofs.Json.RoundTrip
import CodeAudit.Proofs.Json.Bytes
import CodeAudit.Proofs.Json.Draft
import CodeAudit.Proofs.Value.Parts
import CodeAudit.Proofs.Json.Reading
import CodeAudit.Proofs.Operation
import CodeAudit.Proofs.Store.Names
import CodeAudit.Proofs.Store.Save
import CodeAudit.Proofs.Project
import CodeAudit.Proofs.Report.Faults
import CodeAudit.Proofs.Report.Labels
import CodeAudit.Proofs.Report.RoundTrip
import CodeAudit.Proofs.Keyed
import CodeAudit.Proofs.Report.Compliance
import CodeAudit.Proofs.Report.Generated
import CodeAudit.Proofs.Store.Reading
import CodeAudit.Proofs.Store.Archive
import CodeAudit.Proofs.Store.Listing
import CodeAudit.Proofs.Rule.Loading
import CodeAudit.Proofs.Rule.Normal
import CodeAudit.Proofs.Scan.Matcher
import CodeAudit.Proofs.Scan.Skipping
import CodeAudit.Proofs.Scan.Sequence
import CodeAudit.Proofs.Scan.Files
import CodeAudit.Proofs.Scan.View
import CodeAudit.Proofs.Scan.Locality
import CodeAudit.Proofs.Store.Unreadable
import CodeAudit.Proofs.Store.Stored
import CodeAudit.Proofs.Store.Writes
import CodeAudit.Proofs.Tracking.Scans
import CodeAudit.Proofs.Tracking.Comparison
import CodeAudit.Proofs.Tracking.History
import CodeAudit.Proofs.Tracking.Rescan
import CodeAudit.Proofs.Text.Lines
import CodeAudit.Proofs.Text.Snippets
import CodeAudit.Proofs.Pattern.Spans
import CodeAudit.Proofs.Pattern.Reading
import CodeAudit.Proofs.Pattern.Pieces
import CodeAudit.Proofs.Scan.Reported
import CodeAudit.Proofs.Scan.Accounting
import CodeAudit.Proofs.Scan.Filtering
import CodeAudit.Proofs.Scan.Selecting
import CodeAudit.Proofs.Scan.SourceText
import CodeAudit.Proofs.Glob.Compiled
import CodeAudit.Proofs.Glob.Matching
import CodeAudit.Proofs.Glob.Components
import CodeAudit.Proofs.Config.Loading
import CodeAudit.Proofs.Config.Overlays
import CodeAudit.Proofs.Disk.Made
import CodeAudit.Proofs.Store.Added
import CodeAudit.Proofs.Store.Shown
import CodeAudit.Proofs.Disk.Opened
import CodeAudit.Proofs.Store.Failed
import CodeAudit.Proofs.CommandLine.Scanning
import CodeAudit.Proofs.Disk.Moved
import CodeAudit.Proofs.Store.Latest
import CodeAudit.Proofs.CommandLine.Reporting
import CodeAudit.Proofs.CommandLine.Disabling
import CodeAudit.Proofs.Report.Counted
import CodeAudit.Proofs.Console
import CodeAudit.Proofs.CommandLine.ExitCode
