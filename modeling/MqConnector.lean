import MqConnector.SingleProbe
import MqConnector.LeaseRenewal
import MqConnector.Kafka
import MqConnector.AtRest
import MqConnector.StopBarrier
import MqConnector.RetryCap
import MqConnector.PoolExclusion
import MqConnector.PoolLeaks
import MqConnector.LeaseHandover
import MqConnector.Registrations
import MqConnector.RoleChanges
import MqConnector.DedupWindow
import MqConnector.AuditRoundTrip
import MqConnector.ArchiveLoss
import MqConnector.LastOwner
import MqConnector.MessageFlow
import MqConnector.SnapshotDiff
import MqConnector.TornSnapshots
import MqConnector.AlertStreaks
import MqConnector.RateWindows
import MqConnector.Finiteness
import MqConnector.PasswordRewraps
import MqConnector.TenantPurge
import MqConnector.Gitops
import MqConnector.FlowBuilder
import MqConnector.Quantiles
import MqConnector.RedactionPaths
import MqConnector.QuotedTexts
import MqConnector.ScriptSafety
import MqConnector.StageChain
import MqConnector.SchemaPreload
import MqConnector.LockoutThreshold
import MqConnector.PathPicker
import MqConnector.SchemaValidation
import MqConnector.MembershipAdoption
import MqConnector.DlqFilters
import MqConnector.ErrorClusters
import MqConnector.UntouchedValues
import MqConnector.RetryBackoff
import MqConnector.SyslogReceivers
import MqConnector.Truncation
import MqConnector.Placeholders
import MqConnector.PooledConfigs
import MqConnector.StudioLoads
import MqConnector.LineDiffs
import MqConnector.Csrf
import MqConnector.Translation
import MqConnector.ShadowTraffic
import MqConnector.Migrations
