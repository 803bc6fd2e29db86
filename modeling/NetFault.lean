import NetFault.Lib.Assignments
import NetFault.Lib.BinaryFloat
import NetFault.Lib.BoundedFifo
import NetFault.Lib.Circular
import NetFault.Lib.Conveyance
import NetFault.Lib.History
import NetFault.Lib.Hysteresis
import NetFault.Lib.Json
import NetFault.Lib.JsonParser
import NetFault.Lib.Lines
import NetFault.Lib.Loop
import NetFault.Lib.Meter
import NetFault.Lib.Process
import NetFault.Lib.StampedQueue
import NetFault.Lib.WordMix
import NetFault.Basic
import NetFault.ByteQueue
import NetFault.ByteQueue.Fifo
import NetFault.Backpressure
import NetFault.ConnectionState
import NetFault.DelayLine
import NetFault.TokenBucket
import NetFault.TokenBucket.Exact
import NetFault.TokenBucket.Eligible
import NetFault.FaultRng
import NetFault.FaultPlan
import NetFault.TokenBucket.Overflow
import NetFault.SocketIo
import NetFault.Relay.Model
import NetFault.SeedDerivation
import NetFault.Relay.Moves
import NetFault.Relay.Methods
import NetFault.Relay.Integrity
import NetFault.Relay.Channels
import NetFault.Relay.Pacing
import NetFault.Relay.RateLimit
import NetFault.Relay.Latency
import NetFault.Relay.Lifecycle
import NetFault.Relay.Forwarding
import NetFault.Relay.LifecycleBudget
import NetFault.Relay.Jitter
import NetFault.Relay.DelayLimits
import NetFault.Relay.QueryPurity
import NetFault.Relay.WakeChain
import NetFault.Relay.Passage
import NetFault.Relay.Stamps
import NetFault.Relay.Winding
import NetFault.Relay.Draining
import NetFault.Relay.InjectedHalfClose
import NetFault.Relay.Watermarks
import NetFault.TimerQueue
import NetFault.Endpoint
import NetFault.Logger
import NetFault.LogLine
import NetFault.Proxy.Config
import NetFault.Proxy.Model
import NetFault.Relay.Outcomes
import NetFault.Proxy.Acts
import NetFault.Proxy.Runs
import NetFault.Proxy.Wakeups
import NetFault.Proxy.OrderlyClose
import NetFault.Proxy.Sessions
import NetFault.Proxy.TimerArming
import NetFault.Proxy.ConnectionTable
import NetFault.Proxy.PumpTimers
import NetFault.Proxy.Hangups
import NetFault.Proxy.Timeouts
import NetFault.Proxy.Winding
import NetFault.Proxy.DueTimers
import NetFault.Proxy.ErrorStates
import NetFault.Proxy.MetricsFile
import NetFault.Proxy.MetricsDocument
import NetFault.Proxy.RelayRuns
import NetFault.Proxy.Figures
import NetFault.Proxy.Audit
import NetFault.Proxy.CloseDetail
import NetFault.Lib.CommandLine
import NetFault.Arguments
import NetFault.Proxy.CommandLine
import NetFault.Workload.BlockingSocket
import NetFault.Workload.Server
import NetFault.Workload.CommandLine
import NetFault.Workload.ServerRules
import NetFault.Workload.ServerModes
import NetFault.Workload.ServerGuarantees
import NetFault.Workload.ServerMain
import NetFault.Workload.Percentile
import NetFault.Workload.Client
import NetFault.Workload.ClientBulk
import NetFault.Workload.ClientRequests
import NetFault.Workload.EndToEnd
