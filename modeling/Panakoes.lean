import Panakoes.Foundation.Run
import Panakoes.Foundation.PyJson
import Panakoes.Foundation.JsonText
import Panakoes.Foundation.JsonRoundTrip
import Panakoes.Foundation.JsonReading
import Panakoes.Foundation.Base64
import Panakoes.Foundation.Ownership
import Panakoes.Foundation.ConditionalWrite
import Panakoes.Foundation.Rounding
import Panakoes.Foundation.SortedSet
import Panakoes.TranscriberStream.SqsConsumer
import Panakoes.TranscriberStream.FrameLoss
import Panakoes.GpuSpawner.PoolClaim
import Panakoes.GpuSpawner.PoolExclusion
import Panakoes.Streaming.DisconnectFinal
import Panakoes.StreamingRouter.FrameRouting
import Panakoes.GpuSpawner.SpawnCallback
import Panakoes.TranscriberStream.FrameSource
import Panakoes.Streaming.AudioIsolation
import Panakoes.Streaming.SpawnDelivery
import Panakoes.Streaming.SlotLifetime
import Panakoes.Billing.StripeEvent
import Panakoes.Billing.SubscriptionStore
import Panakoes.Billing.BillingEventStore
import Panakoes.Billing.Webhook
import Panakoes.Billing.WebhookReplay
import Panakoes.Billing.WebhookOrder
import Panakoes.Billing.WebhookCrash
import Panakoes.Billing.CheckoutSession
import Panakoes.Foundation.Forest
import Panakoes.Telemetry.TraceContext
import Panakoes.Telemetry.Flusher
import Panakoes.Telemetry.Completeness
import Panakoes.Telemetry.TraceTree
import Panakoes.AdminSpa.StreamingSession
import Panakoes.AdminSpa.AudioPath
import Panakoes.AdminSpa.TerminalStatus
import Panakoes.AdminSpa.Restart
import Panakoes.TranscriberStream.Transcribe
import Panakoes.TranscriberStream.Session
import Panakoes.TranscriberStream.Finalize
import Panakoes.TranscriberStream.Archive
import Panakoes.Streaming.LiveTranscript
import Panakoes.AdminSpa.FinalChunks
import Panakoes.Streaming.FrameCodec
import Panakoes.Streaming.HostileFrames
import Panakoes.Streaming.AdminStop
import Panakoes.AdminApi.AtMostOnce
import Panakoes.AdminApi.ReplayBinding
import Panakoes.AdminApi.AuditTruth
import Panakoes.SessionManager.UpdateSession
import Panakoes.EventRouter.Handler
import Panakoes.IngestionApi.Transcription
import Panakoes.TranscribeWorker.Dispatch
import Panakoes.AuthClient.Validator
import Panakoes.AdminApi.StepUp
import Panakoes.Middleware.RateLimit
import Panakoes.Auth.Verify
import Panakoes.AuthClient.JwksValidator
import Panakoes.Middleware.PlanGating
import Panakoes.Foundation.PyDecimal
import Panakoes.Foundation.Table
import Panakoes.CostRollupAggregator.Aggregator
import Panakoes.CostRollupAggregator.Rollup
import Panakoes.Telemetry.TraceIdentity
import Panakoes.Foundation.Substitution
import Panakoes.Telemetry.ProcessEvent
import Panakoes.Telemetry.ToolResults
import Panakoes.Telemetry.DrainPass
import Panakoes.Telemetry.HarmlessEvent
import Panakoes.Telemetry.SpoolIsolation
import Panakoes.TranscriberBatch.Attempt
import Panakoes.TranscriberBatch.Regression
import Panakoes.TranscribeWorker.InFlight
import Panakoes.Foundation.DynamoItem
import Panakoes.QueryApi.SessionReader
import Panakoes.Summarization.RecordPairing
import Panakoes.Summarization.SummaryRoutes
import Panakoes.Auth.SessionBinding
import Panakoes.Foundation.PagedQuery
import Panakoes.Streaming.SessionsTable
import Panakoes.QueryApi.SessionIsolation
import Panakoes.QueryApi.SessionPages
import Panakoes.QueryApi.SessionWriters
import Panakoes.Foundation.DynamoValue
import Panakoes.Foundation.ModelFields
import Panakoes.IngestionApi.IngestionItems
import Panakoes.TranscriberBatch.IngestionRow
import Panakoes.IngestionApi.TranscriptDump
import Panakoes.IngestionApi.RecordRow
import Panakoes.QueryApi.TranscriptRoundTrip
import Panakoes.Foundation.CursorListing
import Panakoes.Notification.NotificationStore
import Panakoes.QueryApi.ListingPages
import Panakoes.GpuSpawner.ClaimAtomicity
import Panakoes.GpuSpawner.Eviction
import Panakoes.GpuSpawner.InstanceRoutes
import Panakoes.TranscriberStream.ReceiveProgress
import Panakoes.TranscriberStream.FrameLedger
import Panakoes.TranscriberStream.FrameAccount
import Panakoes.TranscriberStream.StopDrain
import Panakoes.AdminSpa.AuthStore
import Panakoes.AdminSpa.PageOwnership
import Panakoes.AdminSpa.RecordingStop
import Panakoes.AdminSpa.FileDrain
import Panakoes.AdminApi.BlockUserSessions
import Panakoes.Billing.SubscriptionView
import Panakoes.Foundation.JsonSize
import Panakoes.Middleware.RequestBudget
import Panakoes.Billing.EventHistory
import Panakoes.Billing.RowKeys
import Panakoes.Foundation.ShellWords
import Panakoes.GpuSpawner.UserData
import Panakoes.TranscriberStream.SpotWarning
import Panakoes.Foundation.IsoTimestamp
import Panakoes.Foundation.JsonPrefix
import Panakoes.Foundation.StableSort
import Panakoes.Telemetry.SpoolOrder
import Panakoes.Telemetry.SpanReplay
import Panakoes.Telemetry.InsertFailure
import Panakoes.Foundation.UrlSplit
import Panakoes.Billing.ReturnUrl
import Panakoes.Foundation.PyStrip
import Panakoes.Foundation.QuotePlus
import Panakoes.TranscribeWorker.RateLimitRetry
import Panakoes.IngestionApi.ObjectKey
import Panakoes.TranscribeWorker.KeyRoundTrip
import Panakoes.AuthClient.JwksCache
import Panakoes.AuthClient.JwksErrors
import Panakoes.Foundation.PyFloat
import Panakoes.WsAuthorizer.Authorizer
import Panakoes.TranscriberGroq.Backend
import Panakoes.TranscriberGroq.WordAttribution
import Panakoes.EventRouter.Batch
import Panakoes.TranscribeWorker.Batch
import Panakoes.GpuSpawner.SpawnQueue
import Panakoes.Foundation.Framing
import Panakoes.AdminSpa.PcmFrames
import Panakoes.Foundation.FairRun
import Panakoes.TranscriberStream.WsPublisher
import Panakoes.TranscriberStream.GoneConnection
import Panakoes.TranscriberStream.OnlineAsr
import Panakoes.TranscriberStream.PromptSeed
import Panakoes.Foundation.PagedScan
import Panakoes.Foundation.Tally
import Panakoes.CostApi.RollupStore
import Panakoes.CostApi.TenantBreakdown
import Panakoes.CostApi.WindowTotals
import Panakoes.CostApi.WindowQuery
import Panakoes.CostApi.CacheStaleness
import Panakoes.CostApi.ServiceBreakdown
import Panakoes.CostRollupAggregator.Amounts
import Panakoes.CostApi.AlertState
import Panakoes.CostApi.AnomalyDetector
import Panakoes.AuditLib.AuditTable
import Panakoes.CostApi.FeedIsolation
import Panakoes.Notification.WebhookClient
import Panakoes.Foundation.AwkEscapes
import Panakoes.Changelog.AssembleChangelog
import Panakoes.Changelog.Lossless
import Panakoes.Foundation.Episodes
import Panakoes.PrMonitor.CheckView
import Panakoes.PrMonitor.OpenChecks
import Panakoes.PrMonitor.FiresOnce
import Panakoes.Middleware.CorrelationUlid
import Panakoes.StreamingRouter.WarmCache
import Panakoes.Auth.KmsSigner
import Panakoes.Auth.MfaRoutes
import Panakoes.Auth.Migrate
import Panakoes.TranscriberStream.LocalAgreement
import Panakoes.AdminApi.AuditRead
import Panakoes.AdminApi.OperationHandlers
import Panakoes.AdminSpa.WavBlob
