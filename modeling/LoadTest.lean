import LoadTest.CommandLine.Run
import LoadTest.Display
import LoadTest.Main
import LoadTest.Server.Basic
import LoadTest.Proofs.Number.Nearest
import LoadTest.Proofs.Number.Distance
import LoadTest.Proofs.Number.Plain
import LoadTest.Proofs.Number.Numeral
import LoadTest.Proofs.Number.Order
import LoadTest.Proofs.Number.Shortest
import LoadTest.Proofs.Json.Number
import LoadTest.Proofs.Entries
import LoadTest.Proofs.Json.RoundTrip
import LoadTest.Proofs.Json.Record
import LoadTest.Proofs.Json.Decode
import LoadTest.Proofs.Config.RoundTrip
import LoadTest.Proofs.Json.Accepts
import LoadTest.Proofs.Json.Ensures
import LoadTest.Proofs.Config.Format
import LoadTest.Proofs.Config.FormNumbers
import LoadTest.Proofs.Config.Headers
import LoadTest.Proofs.Config.LoadedHeaders
import LoadTest.Proofs.Report.RoundTrip
import LoadTest.Proofs.Result.RoundTrip
import LoadTest.Proofs.Result.Routes
import LoadTest.Proofs.Series.Batch
import LoadTest.Proofs.Series.Combining
import LoadTest.Proofs.Series.Arrival
import LoadTest.Proofs.Series.Seconds
import LoadTest.Proofs.Series.Change
import LoadTest.Proofs.Series.Stream
import LoadTest.Proofs.Script.Headers
import LoadTest.Proofs.Script.Literal
import LoadTest.Proofs.Script.Request
import LoadTest.Proofs.Report.Layout
import LoadTest.Proofs.Report.Scan
import LoadTest.Proofs.Report.Values
import LoadTest.Proofs.Report.Arrow
import LoadTest.Proofs.Report.Find
import LoadTest.Proofs.Report.Rows
import LoadTest.Proofs.Report.Checks
import LoadTest.Proofs.Report.Recovery
import LoadTest.Proofs.Config.Relevance
import LoadTest.Proofs.Text.White
import LoadTest.Proofs.Duration
import LoadTest.Proofs.Options.Durations
import LoadTest.Proofs.Text.Between
import LoadTest.Proofs.Json.Layout
import LoadTest.Proofs.Script.Options
import LoadTest.Proofs.Json.Steps
import LoadTest.Proofs.Json.Reader
import LoadTest.Proofs.Json.Grammar
import LoadTest.Proofs.Json.Tokens
import LoadTest.Proofs.Json.Recognition
import LoadTest.Proofs.Json.Documents
import LoadTest.Proofs.Script.Payload
import LoadTest.Proofs.Script.Pause
import LoadTest.Proofs.Script.Expression
import LoadTest.Proofs.Report.Size
import LoadTest.Proofs.Report.Finite
import LoadTest.Proofs.Report.Sections
import LoadTest.Proofs.Result.Run
import LoadTest.Proofs.Server.Post
import LoadTest.Proofs.Server.Download
import LoadTest.Proofs.Server.Commands
import LoadTest.Proofs.Server.PartText
import LoadTest.Proofs.Server.Attributes
import LoadTest.Proofs.Server.SentParts
import LoadTest.Proofs.Server.Form
import LoadTest.Proofs.Server.Import
import LoadTest.Proofs.Report.Spared
import LoadTest.Proofs.Report.AppendedChecks
import LoadTest.Proofs.Report.AppendedSections
import LoadTest.Proofs.Report.First
import LoadTest.Proofs.Report.Rates
import LoadTest.Proofs.Script.Quoted
import LoadTest.Proofs.Options.Union
import LoadTest.Proofs.Options.Runnable
