import Pcrf.Lib.Store
import Pcrf.Lib.Multimap
import Pcrf.Lib.Machine
import Pcrf.Lib.Retry
import Pcrf.Lib.Reconcile
import Pcrf.Lib.Calls
import Pcrf.Lib.Cells
import Pcrf.Lib.Frame
import Pcrf.Lib.Traces
import Pcrf.Lib.Dispatch
import Pcrf.Lib.Program
import Pcrf.Lib.Tally
import Pcrf.Lib.Bytes
import Pcrf.Lib.Streams
import Pcrf.Lib.Fairness
import Pcrf.Lib.Writers
import Pcrf.Lib.LastWrite
import Pcrf.Lib.Decimal
import Pcrf.Types
import Pcrf.SessionIndex
import Pcrf.SessionCache
import Pcrf.SessionLookup
import Pcrf.SessionLinks
import Pcrf.SessionIndexes
import Pcrf.SessionRemoval
import Pcrf.SubscriberIndex
import Pcrf.LocalQueue
import Pcrf.StalledSessions
import Pcrf.SessionRule
import Pcrf.ChargingRule
import Pcrf.RuleInstall
import Pcrf.RuleReconcile
import Pcrf.SubscriberRules
import Pcrf.DefaultRules
import Pcrf.Quota
import Pcrf.Gathering
import Pcrf.GatheringRuns
import Pcrf.GatheringUsage
import Pcrf.GatheringDeletion
import Pcrf.GatheringOutcome
import Pcrf.UsageCharging
import Pcrf.CreditControl
import Pcrf.RuleEffects
import Pcrf.MessageFrames
import Pcrf.KeptRules
import Pcrf.CreditControlRules
import Pcrf.GatheringFailures
import Pcrf.DefaultFallback
import Pcrf.Refresh
import Pcrf.RefreshTurns
import Pcrf.RefreshRules
import Pcrf.RefreshReleases
import Pcrf.SqlQueue
import Pcrf.SqlQueueBatch
import Pcrf.SqlQueueLosses
import Pcrf.SqlQueueOrder
import Pcrf.DbPool
import Pcrf.IpcPacket
import Pcrf.IpcRequest
import Pcrf.IpcSending
import Pcrf.IpcRoundTrip
import Pcrf.NodeCalls
import Pcrf.Replication
import Pcrf.IpcOperator
import Pcrf.IpcOrder
import Pcrf.CcrHandlers
import Pcrf.CcrTermination
import Pcrf.RuleStatements
import Pcrf.DefaultSelector
import Pcrf.RefreshCycle
import Pcrf.RuleCacheReload
import Pcrf.ProceraTargets
import Pcrf.UnknownSessions
import Pcrf.IpcMalformed
import Pcrf.IpcNameless
import Pcrf.IpcHandOff
import Pcrf.WorkerSlots
import Pcrf.PoolStarvation
import Pcrf.SqlQueueSuccess
import Pcrf.SessionRuleTable
import Pcrf.SessionRuleMirror
import Pcrf.MonitKeys
import Pcrf.UserLocation
import Pcrf.UserLocationSafety
import Pcrf.Loaders
import Pcrf.UsageRetry
import Pcrf.SessionMerge
import Pcrf.SubscriberCache
import Pcrf.Tracer
import Pcrf.RefreshIndependence
import Pcrf.LinkedSessions
import Pcrf.LinkedSessionsAlone
import Pcrf.UmiRarSessions
import Pcrf.RequestAvps
import Pcrf.RequestExtraction
import Pcrf.UserLocationTexts
import Pcrf.LocationRules
import Pcrf.BitrateLimits
import Pcrf.SessionParents
import Pcrf.SessionRoundTrip
import Pcrf.ChildUpdates
import Pcrf.RuleRecords
import Pcrf.RuleReports
import Pcrf.UsageMonitoring
import Pcrf.UsageReportRequests
import Pcrf.GrantedQuotas
import Pcrf.TetheringReports
import Pcrf.AnswerTriggers
import Pcrf.SubscriberLookups
import Pcrf.LocalQueueRuns
import Pcrf.Cdr
import Pcrf.RoutingAreas
import Pcrf.RequestSafety
import Pcrf.EchoedValues
import Pcrf.RuleRows
import Pcrf.ProceraLocation
import Pcrf.Timeouts
import Pcrf.StoredSessions
import Pcrf.SessionStandings
import Pcrf.ConfHandling
import Pcrf.CacheSnapshots
import Pcrf.CdrSettled
import Pcrf.Lib.Mirror
import Pcrf.RuleAgreement
