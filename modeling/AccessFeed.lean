import AccessFeed.Json.Reader
import AccessFeed.Main
import AccessFeed.Pipeline.Publishing
import AccessFeed.Proofs.Deliveries
import AccessFeed.Proofs.Keeping
import AccessFeed.Proofs.Services
import AccessFeed.Remote.Call
import AccessFeed.Report.Views
import AccessFeed.Retention.Timer
import AccessFeed.System.Succession
import AccessFeed.Proofs.Cleanups
import AccessFeed.Proofs.Groups
import AccessFeed.Proofs.Listeners
import AccessFeed.Proofs.Acknowledgements
import AccessFeed.Proofs.Attendance
import AccessFeed.Proofs.Replays
import AccessFeed.Proofs.Overlaps
import AccessFeed.Proofs.Refusals
import AccessFeed.Proofs.Survivors
import AccessFeed.Proofs.Bookkeeping
import AccessFeed.Proofs.EventMaps
import AccessFeed.Proofs.Foundings
import AccessFeed.Proofs.Ensuring
import AccessFeed.Proofs.TaskCalls
import AccessFeed.Proofs.Readiness
import AccessFeed.Proofs.Publications
import AccessFeed.Proofs.Launches
import AccessFeed.Proofs.Redeliveries
import AccessFeed.Proofs.Rescues
import AccessFeed.Proofs.Days
import AccessFeed.Proofs.Thresholds
import AccessFeed.Proofs.ServerReads
import AccessFeed.Proofs.Categories
import AccessFeed.Proofs.Registrations
import AccessFeed.Proofs.Summaries
import AccessFeed.Proofs.Gauges
import AccessFeed.Proofs.Decodings
import AccessFeed.Proofs.TimeForms
import AccessFeed.Proofs.IdTexts
import AccessFeed.Proofs.Cutoffs
