import RtspProxy.Nodes.Revisions
import RtspProxy.Nodes.Idempotency
import RtspProxy.Nodes.Placement
import RtspProxy.Nodes.PublicIds
import RtspProxy.Nodes.Catalog
import RtspProxy.Nodes.PortSelection
import RtspProxy.Probes.WorkerRuns
import RtspProxy.Probes.Persistence
import RtspProxy.Probes.Claiming
import RtspProxy.Probes.Security
import RtspProxy.Broker.Admission
import RtspProxy.Broker.ReceiveSafety
import RtspProxy.Managers.Tracking
import RtspProxy.Access.IssueOnce
import RtspProxy.Access.SessionLifetime
import RtspProxy.Access.ActionLimits
import RtspProxy.Access.AttemptLimiter
import RtspProxy.Logins.Fences
import RtspProxy.Logins.Lockout
import RtspProxy.Reconcile.Coordinator
import RtspProxy.Reconcile.Convergence
import RtspProxy.Reconcile.ConfirmationTokens
import RtspProxy.Media.FenceSafety
import RtspProxy.Media.RoundTrip
import RtspProxy.Observability.AtMostOnce
import RtspProxy.Observability.AgreementRuns
import RtspProxy.Observability.Collector
import RtspProxy.Supervisor.ScopedNodeLock
import RtspProxy.Live.Reconnect
import RtspProxy.Live.Freshness
import RtspProxy.Deploy.ActivationSafety
import RtspProxy.Operations.BackupSafety
import RtspProxy.Operations.RestoreSafety
import RtspProxy.Firewall.ReconcileSafety
import RtspProxy.Netem.Concurrency
import RtspProxy.Load.MetricHistory
import RtspProxy.Load.RollingSlope
import RtspProxy.Load.ReservedPorts
