import SapperBricks.ForStd.Interleaving
import SapperBricks.ForStd.Sections
import SapperBricks.ForStd.Linearizable
import SapperBricks.Native.Json
import SapperBricks.Native.KeyProvider
import SapperBricks.Spec.KeyCache
import SapperBricks.Spec.ProviderCalls
import SapperBricks.Native.JwtAuth
import SapperBricks.Spec.JwtAuthCorrect
import SapperBricks.Native.Postgres
import SapperBricks.Native.Repos
import SapperBricks.ForStd.Latest
import SapperBricks.Spec.CoreInvariant
import SapperBricks.Spec.SetEntityInterleaving
import SapperBricks.Spec.ConnectionManager
import SapperBricks.ForStd.KeyedTable
import SapperBricks.Spec.WithConnection
import SapperBricks.Spec.Backends
import SapperBricks.Spec.RepoRefinement
import SapperBricks.Spec.RepoFailures
import SapperBricks.ForStd.Escapes
import SapperBricks.Native.Http
import SapperBricks.Spec.NotifyReplication
import SapperBricks.ForStd.Monitor
import SapperBricks.Native.Handlers
import SapperBricks.Spec.PubSubShutdown
import SapperBricks.Spec.GrpcShutdown
import SapperBricks.Spec.ConnectionAttempts
import SapperBricks.Spec.JwtAuthErrors
import SapperBricks.Spec.JwksKeys
import SapperBricks.Spec.KeyProviderErrors
import SapperBricks.Native.OpenID
import SapperBricks.Spec.HttpFetch
import SapperBricks.Spec.EntityPaths
import SapperBricks.Native.EntityHandlers
import SapperBricks.Spec.EntityBodies
import SapperBricks.Spec.SetEntityFailures
import SapperBricks.Spec.StoreRetries
import SapperBricks.Spec.OpenIDConfiguration
import SapperBricks.ForStd.Nested
import SapperBricks.Native.Tracing
import SapperBricks.Spec.TracingNesting
import SapperBricks.ForStd.History
import SapperBricks.Spec.RepoInterleaving
import SapperBricks.ForStd.PrefixUpdate
import SapperBricks.Spec.NotifierChain
import SapperBricks.ForStd.Adapter
import SapperBricks.Spec.ServiceRequests
import SapperBricks.ForStd.Delivery
import SapperBricks.Native.PubSub
import SapperBricks.Spec.PubSubReplication
import SapperBricks.Native.SecuredService
import SapperBricks.Spec.KeyRotation
import SapperBricks.ForStd.Handles
import SapperBricks.Native.KeyConversion
import SapperBricks.Spec.KeyConversion
import SapperBricks.ForStd.Machine
import SapperBricks.ForStd.Forest
import SapperBricks.Native.TracedServices
import SapperBricks.Spec.TraceHistory
import SapperBricks.Spec.TraceForest
