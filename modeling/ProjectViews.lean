import ProjectViews.Main
import ProjectViews.Number.Shortest
import ProjectViews.Proofs.Json.Settings
import ProjectViews.Proofs.Search.Active
import ProjectViews.Proofs.Search.Reading
import ProjectViews.Proofs.View.Asking
import ProjectViews.Proofs.View.Events
import ProjectViews.Proofs.View.Intact
import ProjectViews.Proofs.View.Late
import ProjectViews.Proofs.View.Provenance
import ProjectViews.Proofs.View.Pruning
import ProjectViews.Proofs.View.Restart
import ProjectViews.Proofs.View.Rows
import ProjectViews.Proofs.View.Saving
import ProjectViews.Proofs.View.Schedule
import ProjectViews.Proofs.View.Validity
import ProjectViews.Proofs.Usage.Daily
import ProjectViews.Proofs.Usage.Session
import ProjectViews.Proofs.Usage.Expiry
import ProjectViews.Proofs.View.Locks
import ProjectViews.Proofs.View.Rest
import ProjectViews.Proofs.View.Sending
import ProjectViews.Proofs.View.Configuration
import ProjectViews.Proofs.View.Waiting
import ProjectViews.Proofs.View.Keeping
import ProjectViews.Proofs.Json.Wire
import ProjectViews.Proofs.View.Picking
import ProjectViews.Proofs.Usage.Threshold
import ProjectViews.Proofs.Command.Listing
import ProjectViews.Proofs.View.Fields
import ProjectViews.Proofs.Usage.Metadata
import ProjectViews.Proofs.Project.Paths
import ProjectViews.Proofs.Server.Organization
import ProjectViews.Proofs.View.Table
