import LiveChat.Foundation.TransitionSystem
import LiveChat.Foundation.BoundedQueue
import LiveChat.Foundation.WorkerRegistry
import LiveChat.Core.PlanLimits
import LiveChat.Foundation.Json
import LiveChat.Core.Schemas
import LiveChat.Core.SessionState
import LiveChat.Core.GeminiRunner
import LiveChat.Core.RunnerSteps
import LiveChat.Core.RunnerShutdown
import LiveChat.Core.SessionManager
import LiveChat.Core.SessionManagerSteps
import LiveChat.Core.SessionRegistry
import LiveChat.Core.SessionRecords
import LiveChat.Repositories.AuthTokenRepo
import LiveChat.Repositories.RefreshRotation
import LiveChat.Repositories.RefreshRevocation
import LiveChat.Foundation.Timeline
import LiveChat.Repositories.ProjectRepo
import LiveChat.Repositories.ConfigCoherence
import LiveChat.Api.Projects
import LiveChat.Api.PlanConcurrency
import LiveChat.Core.IdleSweep
import LiveChat.Core.SessionResume
import LiveChat.Api.Forwarding
import LiveChat.Api.Tools
import LiveChat.Repositories.APIKeyRepo
import LiveChat.Repositories.TenantRepo
import LiveChat.Api.Rest
import LiveChat.Api.RestSteps
import LiveChat.Api.ToolUpdates
import LiveChat.Db.RedisClient
import LiveChat.Api.Chat
import LiveChat.Api.Service
import LiveChat.Api.ServiceSteps
import LiveChat.Api.ConfigOwnership
import LiveChat.Api.TokenChains
import LiveChat.Api.TokenRedemption
import LiveChat.Api.KeyRevocation
import LiveChat.Api.DailyQuota
import LiveChat.Api.Auth
import LiveChat.Api.EntryPoints
import LiveChat.Api.Lockout
import LiveChat.Foundation.Tables
import LiveChat.Api.ProjectLimit
import LiveChat.Api.PlanCaps
import LiveChat.Api.ToolIntegrity
import LiveChat.Api.PlanChanges
import LiveChat.Core.SweepResume
import LiveChat.Core.RunnerTurns
import LiveChat.Api.ReceiveLoop
import LiveChat.Api.TextDelivery
import LiveChat.Core.ConsumerOutput
import LiveChat.Core.TurnAlignment
import LiveChat.Db.RateLimiter
import LiveChat.Api.KeyRateLimits
import LiveChat.Api.ResolveProject
import LiveChat.Api.HandshakeGate
import LiveChat.Api.ToolParameters
import LiveChat.Core.UsageCapture
import LiveChat.Core.WebhookRetries
import LiveChat.Core.WebhookBudget
import LiveChat.Core.ToolResults
import LiveChat.Api.LoopSurvival
import LiveChat.Api.VoiceFraming
import LiveChat.Core.GeminiReaders
import LiveChat.Core.ToolCalls
import LiveChat.Core.Cancellation
import LiveChat.Foundation.FixedWindows
import LiveChat.Db.WindowCounts
import LiveChat.Api.KeyDeletion
import LiveChat.Repositories.KeyLookup
import LiveChat.Api.Registration
import LiveChat.Foundation.JsonText
import LiveChat.Foundation.JsonRoundTrip
import LiveChat.Foundation.JsonCodec
import LiveChat.Repositories.ConfigDict
import LiveChat.Db.Keyspace
import LiveChat.Foundation.Simulation
import LiveChat.Repositories.KeyspaceRefinement
import LiveChat.Core.SessionEvents
import LiveChat.Core.LifecycleEvents
import LiveChat.Api.WireFrames
import LiveChat.Foundation.OffsetPaging
import LiveChat.Repositories.SessionQueries
import LiveChat.Api.RecordOwnership
import LiveChat.Api.SessionHistory
import LiveChat.Api.HistoryPaging
import LiveChat.Api.UsageAgreement
import LiveChat.Api.TenantIsolation
import LiveChat.Core.GeminiTraffic
import LiveChat.Api.ClientInputs
import LiveChat.Api.ClientReplies
import LiveChat.Api.AccountCalls
import LiveChat.Api.AccountAuthority
import LiveChat.Core.ManagedSessions
import LiveChat.Core.ToolRequests
