import Conformance.CommandLine.Arguments
import Conformance.CommandLine.Help
import Conformance.CommandLine.Message
import Conformance.CommandLine.Option
import Conformance.CommandLine.Parse
import Conformance.CommandLine.Session
import Conformance.CommandLine.Similarity
import Conformance.CommandLine.Styled
import Conformance.Config
import Conformance.Decimal.Binary64
import Conformance.Decimal.Shortest
import Conformance.Discovery
import Conformance.Duration
import Conformance.Error
import Conformance.Execution
import Conformance.Expectation
import Conformance.Filter
import Conformance.Fixture
import Conformance.Host.Archive
import Conformance.Host.Basic
import Conformance.Host.FileTree
import Conformance.Host.IoError
import Conformance.Log
import Conformance.Main
import Conformance.Pattern.Basic
import Conformance.Pattern.ClassReader
import Conformance.Pattern.Cursor
import Conformance.Pattern.Error
import Conformance.Pattern.EscapeReader
import Conformance.Pattern.Expr
import Conformance.Pattern.Matcher
import Conformance.Pattern.Meaning
import Conformance.Pattern.Reader
import Conformance.Pattern.Size
import Conformance.Pattern.Tree
import Conformance.Report.Format
import Conformance.Report.Junit
import Conformance.Report.Masked
import Conformance.Report.Reporter
import Conformance.Report.Sink
import Conformance.Result
import Conformance.Run
import Conformance.Shell.Glob
import Conformance.Shell.Interpreter
import Conformance.Shell.Machine
import Conformance.Shell.Process
import Conformance.Shell.Reader
import Conformance.Shell.Script
import Conformance.Shell.Tool
import Conformance.Text.CharSet
import Conformance.Text.Colour
import Conformance.Text.Line
import Conformance.Text.Path
import Conformance.Text.Quoted
import Conformance.Text.Utf8
import Conformance.Unicode.Age
import Conformance.Unicode.Binary
import Conformance.Unicode.Category
import Conformance.Unicode.Folding
import Conformance.Unicode.Packed
import Conformance.Unicode.Property
import Conformance.Unicode.Script
import Conformance.Unicode.Segmentation
import Conformance.Proofs.Decoding
import Conformance.Proofs.Encoding
import Conformance.Proofs.FirstLine
import Conformance.Proofs.Recording
import Conformance.Proofs.Stopping
import Conformance.Proofs.Verdicts
import Conformance.Proofs.Ending
import Conformance.Proofs.Agreement
import Conformance.Proofs.Schedule.Independence
import Conformance.Proofs.Schedule.Interruption
import Conformance.Proofs.LimitedSink
import Conformance.Proofs.Schedule.Ending
import Conformance.Proofs.Schedule.Abandonment
import Conformance.Proofs.Schedule.Truthfulness
import Conformance.Proofs.Pattern.Language
import Conformance.Proofs.Pattern.Matching
import Conformance.Proofs.Synchronisation
import Conformance.Proofs.Pattern.Occurrence
import Conformance.Proofs.Pattern.Literal
import Conformance.Proofs.LiteralMarker
import Conformance.Proofs.LineEndings
import Conformance.Proofs.Components
import Conformance.Proofs.Listing
import Conformance.Proofs.Reasons
import Conformance.Proofs.Markup.Reader
import Conformance.Proofs.Markup.Writing
import Conformance.Proofs.Markup.Account
import Conformance.Proofs.Schedule.CompleteReport
import Conformance.Proofs.Schedule.Isolation
import Conformance.Proofs.ExitStatus
import Conformance.Proofs.Schedule.Calls
import Conformance.Proofs.Schedule.Permits
import Conformance.Proofs.Counting
import Conformance.Proofs.Schedule.Sharding
import Conformance.Proofs.CommandLine.Requests
import Conformance.Proofs.CommandLine.RoundTrip
import Conformance.Proofs.CommandLine.Steps
import Conformance.Proofs.CommandLine.Alongside
import Conformance.Proofs.CommandLine.Fallback
import Conformance.Proofs.Schedule.Telling
import Conformance.Proofs.Diagnostics
import Conformance.Proofs.Filtering
import Conformance.Proofs.Output
import Conformance.Proofs.TerseReports
import Conformance.Proofs.Decoration
import Conformance.Proofs.LimitedCalls
import Conformance.Proofs.Schedule.Capacity
import Conformance.Proofs.Spellings
import Conformance.Proofs.DurationTexts
