import StationFinder.Session
import StationFinder.Proofs.Text.Occurrence
import StationFinder.Proofs.Schedule.Join
import StationFinder.Proofs.Text.Padding
import StationFinder.Proofs.Text.Digits
import StationFinder.Proofs.Text.Utf8
import StationFinder.Proofs.Text.Form
import StationFinder.Proofs.Area.Ids
import StationFinder.Proofs.Week.Clock
import StationFinder.Proofs.Config.Lifetime
import StationFinder.Proofs.Schedule.Grammar
import StationFinder.Proofs.Session.Transparency
import StationFinder.Proofs.Session.Calls
import StationFinder.Proofs.Session.Freshness
import StationFinder.Proofs.Json.Readback
import StationFinder.Proofs.Json.Structures
import StationFinder.Proofs.Source.Written
import StationFinder.Proofs.Server.Visit
import StationFinder.Proofs.Search.Answer
import StationFinder.Proofs.Server.Presentations
import StationFinder.Proofs.Page.Delimiters
import StationFinder.Proofs.Page.Reading
import StationFinder.Proofs.Page.Controls
import StationFinder.Proofs.Page.Rendered
import StationFinder.Proofs.Page.Submission
import StationFinder.Proofs.Source.Settled
import StationFinder.Proofs.Text.Between
import StationFinder.Proofs.Page.Sections
import StationFinder.Proofs.Server.Agreement
import StationFinder.Proofs.Source.Files
import StationFinder.Proofs.Source.StandIn
import StationFinder.Proofs.Session.Reload
import StationFinder.Proofs.Server.Blame
import StationFinder.Proofs.Session.Requests
import StationFinder.Proofs.Session.Redirects
import StationFinder.Proofs.Session.Listed
import StationFinder.Proofs.Session.Submitted
import StationFinder.Proofs.Page.Recovery
import StationFinder.Proofs.Source.Loading
import StationFinder.Proofs.Source.Verdicts
import StationFinder.Proofs.Schedule.Written
import StationFinder.Proofs.Schedule.Coverage
import StationFinder.Proofs.Schedule.Marker
import StationFinder.Proofs.Search.Validity
import StationFinder.Proofs.Table
import StationFinder.Proofs.Json.Numbers
import StationFinder.Proofs.Json.Sorted
import StationFinder.Proofs.Json.Nesting
import StationFinder.Proofs.Station.Members
import StationFinder.Proofs.Search.Composition
import StationFinder.Proofs.Source.History
import StationFinder.Proofs.Address.Endpoint
import StationFinder.Proofs.Config.Readback
import StationFinder.Proofs.Session.Offered
import StationFinder.Proofs.Week.Words
import StationFinder.Proofs.Week.Calendar
