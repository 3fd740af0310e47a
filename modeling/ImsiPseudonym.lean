import ImsiPseudonym.Aka
import ImsiPseudonym.Backoff
import ImsiPseudonym.Base64
import ImsiPseudonym.Calendar
import ImsiPseudonym.CommandLine.Basic
import ImsiPseudonym.CommandLine.Reader
import ImsiPseudonym.Decimal.Binary64
import ImsiPseudonym.Decimal.Integer
import ImsiPseudonym.Dialogue.Basic
import ImsiPseudonym.Dialogue.Rehearsal
import ImsiPseudonym.Engine
import ImsiPseudonym.Failure
import ImsiPseudonym.Gzip.Bits
import ImsiPseudonym.Gzip.Checksum
import ImsiPseudonym.Gzip.Deflate
import ImsiPseudonym.Gzip.Inflate
import ImsiPseudonym.Gzip.Member
import ImsiPseudonym.Gzip.Piece
import ImsiPseudonym.Gzip.PrefixCode
import ImsiPseudonym.Gzip.Search
import ImsiPseudonym.Gzip.WordLengths
import ImsiPseudonym.Http.Body
import ImsiPseudonym.Http.Exchange
import ImsiPseudonym.Http.Head
import ImsiPseudonym.Identity
import ImsiPseudonym.Instant
import ImsiPseudonym.Json.Printer
import ImsiPseudonym.Json.Reader
import ImsiPseudonym.Json.Value
import ImsiPseudonym.Main
import ImsiPseudonym.Manager.Basic
import ImsiPseudonym.Manager.Operation
import ImsiPseudonym.Message.Entry
import ImsiPseudonym.Message.Response
import ImsiPseudonym.Message.ResponseCode
import ImsiPseudonym.Program
import ImsiPseudonym.Proofs.Dialogue.Progress
import ImsiPseudonym.Proofs.Engine.Content
import ImsiPseudonym.Proofs.Engine.Stage
import ImsiPseudonym.Record
import ImsiPseudonym.Report
import ImsiPseudonym.ServerUrl
import ImsiPseudonym.Subscriber
import ImsiPseudonym.Table
import ImsiPseudonym.Text.Blank
import ImsiPseudonym.Text.Diagnostic
import ImsiPseudonym.Text.Extending
import ImsiPseudonym.Text.Folding
import ImsiPseudonym.Text.Pieces
import ImsiPseudonym.Text.Quoted
import ImsiPseudonym.Text.Unprintable
import ImsiPseudonym.Text.Utf8
import ImsiPseudonym.Url.Basic
import ImsiPseudonym.Url.Host
import ImsiPseudonym.Url.Percent
import ImsiPseudonym.Url.Punycode
import ImsiPseudonym.Url.Reader
import ImsiPseudonym.Worker
import ImsiPseudonym.Proofs.Engine.Invariant
import ImsiPseudonym.Proofs.Engine.Life
import ImsiPseudonym.Proofs.Engine.StaleToken
import ImsiPseudonym.Proofs.Engine.TokenOrigin
import ImsiPseudonym.Proofs.Engine.Traffic
import ImsiPseudonym.Proofs.Engine.Outcome
import ImsiPseudonym.Proofs.Engine.Series
import ImsiPseudonym.Proofs.Engine.TokenText
import ImsiPseudonym.Proofs.Worker.Schedule
import ImsiPseudonym.Proofs.Worker.Delivery
import ImsiPseudonym.Proofs.Worker.InTurn
import ImsiPseudonym.Proofs.Worker.Breakdown
import ImsiPseudonym.Proofs.Message.Reading
import ImsiPseudonym.Proofs.Message.LastEntry
import ImsiPseudonym.Proofs.Json.Leaves
import ImsiPseudonym.Proofs.Json.RoundTrip
import ImsiPseudonym.Proofs.Json.Documents
import ImsiPseudonym.Proofs.Manager.Journal
import ImsiPseudonym.Proofs.Manager.Retries
import ImsiPseudonym.Proofs.Manager.FailureTime
import ImsiPseudonym.Proofs.Manager.Fallback
import ImsiPseudonym.Proofs.Manager.Change
import ImsiPseudonym.Proofs.Manager.Separation
import ImsiPseudonym.Proofs.Manager.Circulation
import ImsiPseudonym.Proofs.Manager.Lineage
import ImsiPseudonym.Proofs.Manager.Spacing
import ImsiPseudonym.Proofs.Record.Usable
import ImsiPseudonym.Proofs.Json.Locality
import ImsiPseudonym.Proofs.Json.Replacement
import ImsiPseudonym.Proofs.Message.Spelling
import ImsiPseudonym.Proofs.Record.Timing
import ImsiPseudonym.Proofs.Manager.Due
import ImsiPseudonym.Proofs.Manager.RateLimit
import ImsiPseudonym.Proofs.Manager.Refusal
import ImsiPseudonym.Proofs.Manager.Listeners
import ImsiPseudonym.Proofs.Engine.SimProgram
import ImsiPseudonym.Proofs.Message.HandlerTable
import ImsiPseudonym.Proofs.Subscriber.Identities
import ImsiPseudonym.Proofs.Text.Unambiguous
import ImsiPseudonym.Proofs.Masking
import ImsiPseudonym.Proofs.Calendar.Gregorian
import ImsiPseudonym.Proofs.Calendar.Reading
import ImsiPseudonym.Proofs.Record.ReportedTimes
