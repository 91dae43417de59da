import Outreach.Api.Server
import Outreach.Assembly
import Outreach.Audience.Wire
import Outreach.Log.Setup
import Outreach.Proofs.Api.Echo
import Outreach.Proofs.Api.Identifier
import Outreach.Proofs.Api.Sinks
import Outreach.Proofs.Backend.Run
import Outreach.Proofs.Campaign.Outcomes
import Outreach.Proofs.Intake.Accounts
import Outreach.Proofs.Intake.Amounts
import Outreach.Proofs.Intake.Emails
import Outreach.Proofs.Json.RoundTrip
import Outreach.Proofs.Lifecycle.Record
import Outreach.Proofs.Log.Record
import Outreach.Proofs.Log.Scope
import Outreach.Proofs.Rule.Faults
import Outreach.Proofs.Rule.Groups
import Outreach.Proofs.Rule.Number
import Outreach.Proofs.Rule.Partition
import Outreach.Proofs.Run.Exhaustion
import Outreach.Proofs.Run.Intact
import Outreach.Proofs.Run.Invariant.Reports
import Outreach.Proofs.Run.Metrics
import Outreach.Proofs.Run.Receipts
import Outreach.Proofs.Run.SingleDispatch
import Outreach.Proofs.Service.Audience
import Outreach.Proofs.Service.Postcondition
import Outreach.Proofs.Settings.Load
import Outreach.Proofs.Settings.Mask
import Outreach.Proofs.Settings.Precedence
import Outreach.Proofs.Sql.Reading
import Outreach.Proofs.Store.Database
import Outreach.Proofs.Store.Listing
import Outreach.Proofs.Text.Normal
import Outreach.Proofs.Text.Substitute
import Outreach.Proofs.Time.Instant
import Outreach.Proofs.Vendor.Accounts
import Outreach.Service.View
import Outreach.Settings.Display
import Outreach.Settings.Load
import Outreach.Store.Database
import Outreach.Store.Wire
