import PulseForge.SessionHistory
import PulseForge.SessionFamilies
import PulseForge.WriteIntegrity
import PulseForge.ReadIsolation
import PulseForge.ArrivalOrder
import PulseForge.Sequential
import PulseForge.AuditTrail
import PulseForge.ResolvedFinal
import PulseForge.LostEvents
import PulseForge.MissedIncident
import PulseForge.BulkRevocation
import PulseForge.Loading
import PulseForge.FailedRequests
import PulseForge.Severity
import PulseForge.EventHomes
import PulseForge.InOrderDetection
import PulseForge.Redelivery
import PulseForge.SoundDetection
import PulseForge.Lib.Overtake
import PulseForge.FrozenIncidents
import PulseForge.KeyRotation
import PulseForge.RoleLaws
import PulseForge.SingleUse
import PulseForge.RateLimitWindow
import PulseForge.ConcurrentChecks
import PulseForge.SecretMetadata
import PulseForge.AdminLimits
import PulseForge.SessionLineage
import PulseForge.AuditJournal
import PulseForge.Loaders
import PulseForge.ClientTokens
import PulseForge.ApiAttempts
import PulseForge.OneTab
import PulseForge.RetryAfter
import PulseForge.SanitizedTree
import PulseForge.FreshRetry
import PulseForge.EventPages
import PulseForge.AuditViewer
import PulseForge.StoredRows
import PulseForge.ServiceUpdates
import PulseForge.KeySuccession
import PulseForge.WindowRange
import PulseForge.TextBounds
import PulseForge.ResetTokens
import PulseForge.Lib.Words
import PulseForge.Slugs
import PulseForge.EventTypes
import PulseForge.LimitedApi
import PulseForge.PasswordHistory
import PulseForge.Registry
import PulseForge.KeyHistory
import PulseForge.CreationTransactions
import PulseForge.Controls
import PulseForge.RecordKeeping
import PulseForge.EventsPage
import PulseForge.ServicesPage
import PulseForge.Separation
