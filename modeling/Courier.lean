import Courier.Main
import Courier.Report.Reader
import Courier.Report.Store
import Courier.Run.Fleet
import Courier.Run.Script
import Courier.Run.Callers
import Courier.Run.Session
import Courier.Run.Solo
import Courier.Proofs.Binary64.Power
import Courier.Proofs.Binary64.Rounding
import Courier.Proofs.Binary64.Shortest
import Courier.Proofs.Clock
import Courier.Proofs.Command.Histories
import Courier.Proofs.Command.Outcome
import Courier.Proofs.Environment
import Courier.Proofs.Fleet.Moves
import Courier.Proofs.Fleet.Pace
import Courier.Proofs.Fleet.Separate
import Courier.Proofs.Http.Answers
import Courier.Proofs.Http.Chunks
import Courier.Proofs.Http.Exchange
import Courier.Proofs.Http.Grammar
import Courier.Proofs.Http.Heads
import Courier.Proofs.Http.Hosts
import Courier.Proofs.Identifiers
import Courier.Proofs.Json.Accepted
import Courier.Proofs.Json.Attributes
import Courier.Proofs.Json.Canonical
import Courier.Proofs.Json.Decimals
import Courier.Proofs.Json.Envelope
import Courier.Proofs.Json.Forwarding
import Courier.Proofs.Json.Grammar
import Courier.Proofs.Json.Loops
import Courier.Proofs.Json.Numbers
import Courier.Proofs.Json.Numerals
import Courier.Proofs.Json.Pieces
import Courier.Proofs.Json.Strings
import Courier.Proofs.Json.Values
import Courier.Proofs.Json.Written
import Courier.Proofs.Pool.Cancelling
import Courier.Proofs.Pool.Clearing
import Courier.Proofs.Pool.Closing
import Courier.Proofs.Pool.Finish
import Courier.Proofs.Pool.History
import Courier.Proofs.Pool.Intake
import Courier.Proofs.Pool.Join
import Courier.Proofs.Pool.Ledger
import Courier.Proofs.Pool.Load
import Courier.Proofs.Pool.Moves
import Courier.Proofs.Pool.Pace
import Courier.Proofs.Pool.Size
import Courier.Proofs.Pool.Timely
import Courier.Proofs.Pool.Undisturbed
import Courier.Proofs.Report.Made
import Courier.Proofs.Report.RoundTrip
import Courier.Proofs.Retry.Backoff
import Courier.Proofs.Run.Account
import Courier.Proofs.Run.Alone
import Courier.Proofs.Run.Attempts
import Courier.Proofs.Run.Budget
import Courier.Proofs.Run.Cancellation
import Courier.Proofs.Run.Close
import Courier.Proofs.Run.Course
import Courier.Proofs.Run.Deadline
import Courier.Proofs.Run.Detail
import Courier.Proofs.Run.Log
import Courier.Proofs.Run.Moves
import Courier.Proofs.Run.Path
import Courier.Proofs.Run.Rank
import Courier.Proofs.Run.Script
import Courier.Proofs.Run.Session
import Courier.Proofs.Run.Shift
import Courier.Proofs.Run.Timeline
import Courier.Proofs.Settings
import Courier.Proofs.Target
import Courier.Proofs.Text.Ascii
import Courier.Proofs.Text.Decoded
import Courier.Proofs.Text.Utf8
import Courier.Proofs.Time.Seconds
