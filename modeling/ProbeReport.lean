import ProbeReport.Main
import ProbeReport.Proofs.Run.Course
import ProbeReport.Proofs.Run.Whole
import ProbeReport.Proofs.Run.Transcript
import ProbeReport.Proofs.Run.Announced
import ProbeReport.Proofs.Json.Grammar
import ProbeReport.Proofs.Json.Numeral
import ProbeReport.Proofs.Json.Scan
import ProbeReport.Proofs.Json.Strings
import ProbeReport.Proofs.Json.Completeness
import ProbeReport.Proofs.Json.Soundness
import ProbeReport.Proofs.Json.Acceptance
import ProbeReport.Proofs.Json.Printing
import ProbeReport.Proofs.Json.Tokens
import ProbeReport.Proofs.Json.Lossless
import ProbeReport.Proofs.Text.Search
import ProbeReport.Proofs.Text.Slice
import ProbeReport.Proofs.Text.Utf8
import ProbeReport.Proofs.Text.Compose
import ProbeReport.Proofs.Url.Percent
import ProbeReport.Proofs.Http.Credentials
import ProbeReport.Proofs.Http.Course
import ProbeReport.Proofs.Http.Opening
import ProbeReport.Proofs.Http.Redirects
import ProbeReport.Proofs.Http.Visit
import ProbeReport.Proofs.Url.Domain
import ProbeReport.Proofs.Url.Mapping
import ProbeReport.Proofs.Url.Authority
import ProbeReport.Proofs.Url.Origin
import ProbeReport.Proofs.Url.Continuation
import ProbeReport.Proofs.Url.Host
import ProbeReport.Proofs.Http.RequestLine
import ProbeReport.Proofs.Http.Readiness
import ProbeReport.Proofs.Log.Breakdown
import ProbeReport.Proofs.Program.Visible
import ProbeReport.Proofs.Decimal.Binary
import ProbeReport.Proofs.Decimal.Shortest
import ProbeReport.Proofs.Log.Spelling
import ProbeReport.Proofs.Log.Amount
import ProbeReport.Proofs.Log.Line
import ProbeReport.Proofs.Http.MediaType
import ProbeReport.Proofs.Text.Label
import ProbeReport.Proofs.Text.Encoding
import ProbeReport.Proofs.Http.Decoding
import ProbeReport.Proofs.Run.Story
import ProbeReport.Proofs.Program.Levels
import ProbeReport.Proofs.Http.Agreement
import ProbeReport.Proofs.Run.Agreement
import ProbeReport.Proofs.Causes
import ProbeReport.Proofs.Clock.Calendar
import ProbeReport.Proofs.Text.Figures
import ProbeReport.Proofs.Clock.Stamp
import ProbeReport.Proofs.Clock.Order
import ProbeReport.Proofs.Http.Arrival
import ProbeReport.Proofs.Http.Conclusion
import ProbeReport.Proofs.Run.Entries
import ProbeReport.Proofs.Http.Malformed
import ProbeReport.Proofs.Json.Nesting
import ProbeReport.Proofs.Report.Lines
import ProbeReport.Proofs.Log.Decision
import ProbeReport.Proofs.Log.Directive
import ProbeReport.Proofs.Program.Enabling
import ProbeReport.Proofs.Json.Passage
import ProbeReport.Proofs.Json.Rejection
import ProbeReport.Proofs.Json.Location
import ProbeReport.Proofs.Url.Printable
import ProbeReport.Proofs.Http.Wire
import ProbeReport.Proofs.Text.Quoted
import ProbeReport.Proofs.Layout
import ProbeReport.Proofs.Program.Failure
