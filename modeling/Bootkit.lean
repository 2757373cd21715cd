import Bootkit.Go.Machine
import Bootkit.Go.Errors
import Bootkit.Go.Trace
import Bootkit.Go.Duration
import Bootkit.Go.Context
import Bootkit.Healthkit.Aggregator
import Bootkit.Core.Runner
import Bootkit.Core.RunnerMoves
import Bootkit.Core.RunnerTrace
import Bootkit.Core.RunnerShape
import Bootkit.Core.RunnerErrors
import Bootkit.Core.RunnerContexts
import Bootkit.Go.Mutex
import Bootkit.Core.Lifecycle
import Bootkit.Core.LifecycleMoves
import Bootkit.Core.LifecycleLaws
import Bootkit.Healthkit.Evaluate
import Bootkit.Healthkit.EvaluateMoves
import Bootkit.Healthkit.EvaluateIsolation
import Bootkit.Databasekit.Provider
import Bootkit.Databasekit.TxManager
import Bootkit.Databasekit.TxMoves
import Bootkit.Databasekit.TxFrame
import Bootkit.Databasekit.TxStack
import Bootkit.Databasekit.TxLeaks
import Bootkit.Databasekit.TxReference
import Bootkit.Healthkit.EvaluateFlights
import Bootkit.Healthkit.EvaluateCycles
import Bootkit.Healthkit.EvaluateAnswers
import Bootkit.Healthkit.EvaluateWindow
import Bootkit.Core.LifecycleReadiness
import Bootkit.Core.LifecycleRestarts
import Bootkit.Core.RunnerBudget
import Bootkit.Core.Retry
import Bootkit.Core.RetryLaws
import Bootkit.Adapters.Connector
import Bootkit.Adapters.ConnectorMoves
import Bootkit.Adapters.ConnectorLaws
import Bootkit.Adapters.ConnectorLeaks
import Bootkit.Databasekit.Postgres
import Bootkit.Cachekit.Redis
import Bootkit.Databasekit.PostgresGate
import Bootkit.Cachekit.RedisSafety
import Bootkit.Databasekit.Seam
import Bootkit.Databasekit.SeamErrors
import Bootkit.Core.RetryBackoff
import Bootkit.Core.TraceHandler
import Bootkit.Go.Options
import Bootkit.Workerkit.Enqueuer
import Bootkit.Cachekit.Stores
import Bootkit.Workerkit.EnqueuerLaws
import Bootkit.Cachekit.StoresLaws
import Bootkit.Cachekit.StoresExpiry
import Bootkit.Healthkit.EvaluateHooks
import Bootkit.Adapters.Readiness
import Bootkit.Core.Application
import Bootkit.Core.ApplicationMoves
import Bootkit.Core.ApplicationReleases
import Bootkit.Core.ApplicationCauses
import Bootkit.Core.ApplicationErrors
import Bootkit.Core.ApplicationWork
import Bootkit.Core.ApplicationProgress
import Bootkit.Orders.Moves
import Bootkit.Go.Journal
import Bootkit.Orders.Locks
import Bootkit.Orders.Shop
import Bootkit.Orders.Sales
import Bootkit.Orders.Answers
import Bootkit.Orders.Reads
import Bootkit.Orders.Cache
import Bootkit.Orders.Refusals
import Bootkit.Orders.Coherence
import Bootkit.Orders.Releases
import Bootkit.Otelkit.Hooks
import Bootkit.Otelkit.RunMetrics
import Bootkit.Otelkit.StartMetrics
import Bootkit.Otelkit.HealthMetrics
import Bootkit.Healthkit.EvaluateKinds
import Bootkit.Core.TraceHandlerSlices
import Bootkit.Go.Slices
import Bootkit.Core.TraceHandlerIsolation
import Bootkit.Go.Http
import Bootkit.Workerkit.Server
import Bootkit.Serverkit.Hosting
import Bootkit.Serverkit.HostingDrains
