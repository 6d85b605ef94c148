import Symposium.Bus
import Symposium.Check.Checked
import Symposium.Check.Fault
import Symposium.Check.Reader
import Symposium.Conference
import Symposium.Conference.Card
import Symposium.Decimal
import Symposium.Decimal.Shortest
import Symposium.Edit
import Symposium.Event
import Symposium.Failure
import Symposium.Feedback
import Symposium.FeedbackBook
import Symposium.Http.Call
import Symposium.Http.Framework
import Symposium.Http.Message
import Symposium.Http.Parameters
import Symposium.Http.Percent
import Symposium.Http.Problem
import Symposium.Http.Route
import Symposium.Http.Service
import Symposium.Http.Wire
import Symposium.IdSource
import Symposium.Json
import Symposium.Json.Display
import Symposium.Json.Misfit
import Symposium.Json.Order
import Symposium.Json.Printer
import Symposium.Json.Reader
import Symposium.Lifecycle
import Symposium.Logging
import Symposium.Office
import Symposium.Office.Change
import Symposium.Office.Comments
import Symposium.Office.Perform
import Symposium.Office.Scheduling
import Symposium.Office.Seating
import Symposium.Page
import Symposium.Page.Cut
import Symposium.Page.Loose
import Symposium.Page.Order
import Symposium.Principal
import Symposium.Programme
import Symposium.Proofs.Acceptance
import Symposium.Proofs.ActiveProposals
import Symposium.Proofs.Admissions
import Symposium.Proofs.Annals
import Symposium.Proofs.Answers
import Symposium.Proofs.Approvals
import Symposium.Proofs.Attendance
import Symposium.Proofs.Bookings
import Symposium.Proofs.Calendars
import Symposium.Proofs.Calls
import Symposium.Proofs.Checks
import Symposium.Proofs.Chronicle
import Symposium.Proofs.Chronology
import Symposium.Proofs.Clashes
import Symposium.Proofs.Clocks
import Symposium.Proofs.Comments
import Symposium.Proofs.Conflicts
import Symposium.Proofs.Dates
import Symposium.Proofs.Days
import Symposium.Proofs.Decisions
import Symposium.Proofs.Disclosures
import Symposium.Proofs.Edits
import Symposium.Proofs.Escapes
import Symposium.Proofs.Excerpts
import Symposium.Proofs.Explanations
import Symposium.Proofs.Failures
import Symposium.Proofs.Grants
import Symposium.Proofs.Hidden
import Symposium.Proofs.History
import Symposium.Proofs.Inscriptions
import Symposium.Proofs.Listings
import Symposium.Proofs.LostUpdates
import Symposium.Proofs.Members
import Symposium.Proofs.Origins
import Symposium.Proofs.Pages
import Symposium.Proofs.Performance
import Symposium.Proofs.Proposals
import Symposium.Proofs.Races
import Symposium.Proofs.Readers
import Symposium.Proofs.Readings
import Symposium.Proofs.Records
import Symposium.Proofs.Refusals
import Symposium.Proofs.Requirements
import Symposium.Proofs.Retries
import Symposium.Proofs.Rewrites
import Symposium.Proofs.Rights
import Symposium.Proofs.Rules
import Symposium.Proofs.Rushes
import Symposium.Proofs.Seats
import Symposium.Proofs.Sorting
import Symposium.Proofs.Stages
import Symposium.Proofs.Stores
import Symposium.Proofs.Traffic
import Symposium.Proofs.Turns
import Symposium.Proofs.Validity
import Symposium.Proofs.Verdicts
import Symposium.Proofs.Views
import Symposium.Proofs.Visits
import Symposium.Proofs.Walks
import Symposium.Proofs.Weights
import Symposium.Proofs.Withdrawals
import Symposium.Proposal
import Symposium.Query
import Symposium.Refusal
import Symposium.Refusal.Kind
import Symposium.Refusal.Report
import Symposium.Registration
import Symposium.Roll
import Symposium.Settings
import Symposium.Table
import Symposium.Text.Blank
import Symposium.Text.Encoding
import Symposium.Text.Fold
import Symposium.Text.FoldTable
import Symposium.Text.Numeral
import Symposium.Text.Order
import Symposium.Text.Printable
import Symposium.Text.Quoted
import Symposium.Text.Utf8
import Symposium.Time.Calendar
import Symposium.Time.Printer
import Symposium.Time.Reader
import Symposium.Time.Timestamp
import Symposium.Timeline
import Symposium.Uuid7
import Symposium.Visibility
