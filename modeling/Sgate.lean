import Sgate.Lib.Interleaving
import Sgate.Lib.KeyMap
import Sgate.Routes.Frame
import Sgate.Logic.Server
import Sgate.Logic.Takeover
import Sgate.Backend.Queue
import Sgate.Backend.Client
import Sgate.Backend.Steps
import Sgate.Backend.Ownership
import Sgate.Backend.Attach
import Sgate.Backend.Stranded
import Sgate.Backend.Fifo
import Sgate.Connection.Manager
import Sgate.Connection.Sessions
import Sgate.Gateway.State
import Sgate.Gateway.Program
import Sgate.Gateway.Steps
import Sgate.Lib.History
import Sgate.Gateway.LoginGate
import Sgate.Gateway.AccessList
import Sgate.Gateway.Maintenance
import Sgate.Gateway.Users
import Sgate.Gateway.DuplicateLogin
import Sgate.Gateway.CloseOld
import Sgate.Connection.Operations
import Sgate.Connection.ServerUsers
import Sgate.Connection.Groups
import Sgate.Connection.Accounts
import Sgate.Connection.AddressCounts
import Sgate.Connection.Admission
import Sgate.Gateway.Objects
import Sgate.Gateway.Identity
import Sgate.Gateway.CachedClient
import Sgate.Gateway.ClientAddress
import Sgate.Gateway.Delivery
import Sgate.Lib.Simulation
import Sgate.Gateway.LoginPaths
import Sgate.Gateway.Frames
import Sgate.Gateway.WebSocket
import Sgate.Gateway.Limits
import Sgate.Gateway.Traffic
import Sgate.Backend.Conservation
import Sgate.Backend.Recycling
import Sgate.Gateway.Offline
import Sgate.Gateway.LoginOrder
import Sgate.Gateway.Logout
import Sgate.Backend.Push
import Sgate.Connection.Coalescer
import Sgate.Gateway.WSOutput
import Sgate.Security.RateLimiter
import Sgate.Security.RateReload
import Sgate.Config.Settings
import Sgate.Config.Components
import Sgate.Config.HotUpdate
import Sgate.Config.Restart
import Sgate.Config.AdminRace
import Sgate.Config.UpdateChannel
import Sgate.Lib.StableSort
import Sgate.Types.FilterChain
import Sgate.Gateway.Integrity
import Sgate.Lib.EarlyExit
import Sgate.Security.Screening
import Sgate.Traffic.Filters
import Sgate.Gateway.Pipeline
import Sgate.Gateway.FastPath
import Sgate.Gateway.Degraded
import Sgate.Gateway.Revocation
import Sgate.Gateway.WorkerPool
import Sgate.Gateway.Fragments
import Sgate.Gateway.IdleCheck
import Sgate.Lib.SetMap
import Sgate.Logic.Streams
import Sgate.Backend.Reattach
import Sgate.Gateway.Buffering
import Sgate.Logic.Dialer
import Sgate.Connection.UserIndex
import Sgate.Connection.Calls
import Sgate.Connection.Counters
import Sgate.Backend.GroupCalls
import Sgate.Connection.Dangling
import Sgate.Gateway.ProxyHeader
import Sgate.Logic.Groups
import Sgate.Security.Accounting
import Sgate.Security.Overflow
import Sgate.Backend.QueueOrder
import Sgate.Gateway.FrameCodec
import Sgate.Traffic.Degradation
import Sgate.Traffic.Wasm
import Sgate.Gateway.MsgRate
import Sgate.Gateway.Batches
import Sgate.Backend.SendLoop
import Sgate.Backend.Pool
import Sgate.Obs.Latency
