import Flowd.Lib.Transition
import Flowd.Lib.Ring
import Flowd.Lib.HashMap
import Flowd.Api.Message
import Flowd.Scheduler.Machine
import Flowd.Scheduler.Invariant
import Flowd.Scheduler.Moves
import Flowd.Scheduler.Wakeup
import Flowd.Scheduler.Stop
import Flowd.Lib.Ports
import Flowd.Api.Call
import Flowd.Component.Buffered
import Flowd.Component.Basic
import Flowd.Component.Forwarding
import Flowd.Component.Droppers
import Flowd.Component.Router
import Flowd.Component.Muxer
import Flowd.Component.SplitLines
import Flowd.Component.EndOfStream
import Flowd.Component.Backpressure
import Flowd.Component.Dispatch
import Flowd.Component.Accumulation
import Flowd.Component.Email
import Flowd.Component.Dropping
import Flowd.Runtime.Outport
import Flowd.Runtime.Watchdog
import Flowd.Lib.MultiMap
import Flowd.Runtime.Start
import Flowd.Runtime.Wiring
import Flowd.Lib.SortedMap
import Flowd.Api.Json
import Flowd.Graph.Model
import Flowd.Graph.Requests
import Flowd.Graph.Codec
import Flowd.Lib.Simulation
import Flowd.Graph.Alike
import Flowd.Graph.Persist
import Flowd.Graph.Answers
import Flowd.Lib.Guards
import Flowd.Runtime.Expects
import Flowd.Runtime.Relock
import Flowd.Server.Runtime
import Flowd.Server.Handlers
import Flowd.Server.Answering
import Flowd.Server.Lifecycle
import Flowd.Server.Running
import Flowd.Server.Teardown
import Flowd.Graph.Properties
import Flowd.Server.Registry
import Flowd.Server.Refusal
import Flowd.Server.Locks
import Flowd.Server.Secrets
import Flowd.Lib.Line
import Flowd.Scheduler.Host
import Flowd.Scheduler.Tracked
import Flowd.Scheduler.Budget
import Flowd.Scheduler.Fairness
import Flowd.Scheduler.Retirement
import Flowd.Scheduler.Timers
import Flowd.Scheduler.Registered
import Flowd.Graph.References
import Flowd.Server.Restart
import Flowd.Http.Parser
import Flowd.Http.Server
import Flowd.Http.Moves
import Flowd.Http.Correlation
import Flowd.Http.Answers
import Flowd.Http.Segments
import Flowd.Http.Streams
import Flowd.Graph.Frames
import Flowd.Graph.Effects
import Flowd.Graph.Initial
import Flowd.Graph.Metadata
import Flowd.Component.Ordered
import Flowd.Component.Delivery
import Flowd.Component.Separation
import Flowd.Component.Count
import Flowd.Component.Delay
import Flowd.Component.Spending
import Flowd.Scheduler.Node
import Flowd.Component.Site
import Flowd.Component.Delayed
import Flowd.Component.Cron
import Flowd.Component.Ticking
import Flowd.Component.Lines
import Flowd.Component.Tags
import Flowd.Component.Hashing
import Flowd.Component.Roundtrip
import Flowd.Api.Background
import Flowd.Component.Outpost
import Flowd.Component.Connecting
import Flowd.Component.Clients
import Flowd.Component.Requests
import Flowd.Component.Idling
import Flowd.Component.Accounts
import Flowd.Component.Retries
import Flowd.Component.Cmd
import Flowd.Component.Fetching
import Flowd.Component.Removal
import Flowd.Scheduler.InStep
import Flowd.Lib.Utf8
import Flowd.Component.Framing
import Flowd.Component.Sockets
import Flowd.Component.Inbound
import Flowd.Http.Envelope
import Flowd.Network.Machine
import Flowd.Network.Shutdown
import Flowd.Component.Passing
import Flowd.Scheduler.Parking
import Flowd.Network.Flow
import Flowd.Network.Delivery
import Flowd.Component.Blocking
import Flowd.Network.Backpressure
import Flowd.Network.Calls
import Flowd.Network.Arrival
import Flowd.Scheduler.Causes
import Flowd.Network.Settling
import Flowd.Network.Resting
import Flowd.Component.Reading
import Flowd.Component.Writing
