import Kronkeeper.ApiRefinement
import Kronkeeper.AtomicObject
import Kronkeeper.AttemptAccounting
import Kronkeeper.BoundedWork
import Kronkeeper.CreationRace
import Kronkeeper.DeliveryLoop
import Kronkeeper.DerivedKeys
import Kronkeeper.DispatchErrors
import Kronkeeper.DispatchLiveness
import Kronkeeper.DueLeases
import Kronkeeper.ExclusiveExecution
import Kronkeeper.ExpiryDeadline
import Kronkeeper.FairExecution
import Kronkeeper.FairParties
import Kronkeeper.FireContiguity
import Kronkeeper.Gateway
import Kronkeeper.GracefulShutdown
import Kronkeeper.HandoffLedger
import Kronkeeper.HandoffLiveness
import Kronkeeper.JobAttribution
import Kronkeeper.JobCompletion
import Kronkeeper.JobLifecycle
import Kronkeeper.JobStore
import Kronkeeper.LastRestart
import Kronkeeper.LeaseColumns
import Kronkeeper.LeaseLiveness
import Kronkeeper.Metrics
import Kronkeeper.OccurrenceLimit
import Kronkeeper.OutputCapture
import Kronkeeper.RecurrenceAccounting
import Kronkeeper.RecurrenceLimits
import Kronkeeper.RecurringChain
import Kronkeeper.RecurringLiveness
import Kronkeeper.RequestErrors
import Kronkeeper.RetryBudget
import Kronkeeper.RetryDelay
import Kronkeeper.RetryLifecycle
import Kronkeeper.RowRoundTrip
import Kronkeeper.RunningOwnership
import Kronkeeper.SchedulerWakeup
import Kronkeeper.ScriptSandbox
import Kronkeeper.SingleInstance
import Kronkeeper.SpawnRetries
import Kronkeeper.StartupRecovery
import Kronkeeper.StoredQueries
import Kronkeeper.TenantConfidentiality
import Kronkeeper.TerminalReports
import Kronkeeper.UnexecutedTemplates
import Kronkeeper.UsableCron
import Kronkeeper.WebhookDelivery
import Kronkeeper.WebhookLiveness
import Kronkeeper.WebhookReports
import Kronkeeper.WorkerCapacity
