import K5Vision.Analytics.NativeCapacity
import K5Vision.Analytics.ViewSafety
import K5Vision.Auth.AttemptLimiter
import K5Vision.Auth.AuthenticationSafety
import K5Vision.Devices.DiscoveryScopes
import K5Vision.Devices.EnrolmentSafety
import K5Vision.Identity.BootstrapLifetime
import K5Vision.Identity.WindowsAdmission
import K5Vision.Media.AcquireFailure
import K5Vision.Media.AspectFit
import K5Vision.Media.CapacitySlots
import K5Vision.Media.ContinuousSafety
import K5Vision.Media.ExportLeases
import K5Vision.Media.LeadingOffset
import K5Vision.Media.OverlayFailOpen
import K5Vision.Media.OverlayPixels
import K5Vision.Media.PacedPlayback
import K5Vision.Media.PlaybackExits
import K5Vision.Media.PresentationDelivery
import K5Vision.Media.RecordingTimeline
import K5Vision.Media.RtpDelivery
import K5Vision.Media.SinkCancellation
import K5Vision.Operator.AnchorSafety
import K5Vision.Operator.AuditCompleteness
import K5Vision.Operator.AuditHistory
import K5Vision.Operator.EventRetention
import K5Vision.Operator.NativeProcess
import K5Vision.Operator.PrivilegeContainment
import K5Vision.Operator.ProbeSafety
import K5Vision.Operator.PullProgress
import K5Vision.Presentation.ControllerSafety
import K5Vision.Presentation.HostSafety
import K5Vision.Presentation.MixedSafety
import K5Vision.Presentation.OperatorSafety
import K5Vision.Presentation.SupervisorAgreement
import K5Vision.Storage.MigrationRestart
import K5Vision.Storage.PruneOutcome
import K5Vision.Viewport.CatalogRoundTrip
import K5Vision.Viewport.HistoryLine
import K5Vision.Viewport.PointerSafety
import K5Vision.Viewport.ProjectedHits
import K5Vision.Viewport.StackEdits
import K5Vision.Viewport.StackingAgreement
import K5Vision.Viewport.WindowsSafety
