import NestBackend.Lib.System
import NestBackend.Lib.History
import NestBackend.Lib.OrderedSet
import NestBackend.Lib.Script
import NestBackend.Lib.Service
import NestBackend.Lib.Pattern
import NestBackend.Js.Value
import NestBackend.Js.ClassValidator
import NestBackend.Js.Number
import NestBackend.UserTopics.Message
import NestBackend.UserTopics.WireFormat
import NestBackend.Ws.Service
import NestBackend.Ws.RegistryLaws
import NestBackend.Ws.Lifecycle
import NestBackend.Ws.Nack
import NestBackend.Ws.Gateway
import NestBackend.Ws.Turns
import NestBackend.Ws.Alarms
import NestBackend.Ws.Expiry
import NestBackend.Ws.OnTime
import NestBackend.Ws.Stale
import NestBackend.Ws.Refusal
import NestBackend.Ws.Routing
import NestBackend.Ws.Inbound
import NestBackend.Ws.Effects
import NestBackend.Ws.Discipline
import NestBackend.Ws.LocalDelivery
import NestBackend.Ws.Serialization
import NestBackend.Common.Retry
import NestBackend.Common.RetryRuns
import NestBackend.UserTopics.Service
import NestBackend.Replica
import NestBackend.Replica.Subscriptions
import NestBackend.Replica.Ownership
import NestBackend.Replica.Claims
import NestBackend.Replica.Delivery
import NestBackend.Replica.Listeners
import NestBackend.Replica.PresenceRows
import NestBackend.Replica.PresenceLifetime
import NestBackend.Replica.Redelivery
import NestBackend.Replica.Steady
import NestBackend.Replica.Healing
import NestBackend.Replica.Load
import NestBackend.Replica.Operations
import NestBackend.Cluster.FanOut
import NestBackend.Cluster.Exclusion
import NestBackend.Cluster.Provenance
import NestBackend.Cluster.Gate
import NestBackend.Cluster.Readers
import NestBackend.Cluster.Presence
import NestBackend.Cluster.Backend
import NestBackend.Redis.Service
import NestBackend.Redis.Dto
import NestBackend.Redis.Controller
import NestBackend.Redis.ReadBack
import NestBackend.Redis.Entry
import NestBackend.Redis.Protected
import NestBackend.Dynamo.TableDefs
import NestBackend.Dynamo.Service
import NestBackend.Dynamo.Bootstrap
import NestBackend.Dynamo.Database
import NestBackend.Dynamo.Boots
import NestBackend.Dynamo.Gate
import NestBackend.Health.Constants
import NestBackend.Metrics.Service
import NestBackend.Metrics.Middleware
import NestBackend.Metrics.Accounting
import NestBackend.Auth.Bearer
import NestBackend.Auth.Verifier
import NestBackend.Auth.Guard
import NestBackend.Auth.Admission
