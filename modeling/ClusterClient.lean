import ClusterClient.Address.Basic
import ClusterClient.Address.Literal
import ClusterClient.Address.Parse
import ClusterClient.Client
import ClusterClient.Cluster.Description
import ClusterClient.Cluster.Membership
import ClusterClient.Cluster.System
import ClusterClient.Command
import ClusterClient.Connection.Basic
import ClusterClient.Connection.Dial
import ClusterClient.Connection.Link
import ClusterClient.Connection.Network
import ClusterClient.Connection.Usage
import ClusterClient.Credential
import ClusterClient.Duration
import ClusterClient.Entries
import ClusterClient.Error
import ClusterClient.Json.Basic
import ClusterClient.Json.Number
import ClusterClient.Json.Parser
import ClusterClient.Pool.Basic
import ClusterClient.Pool.Session
import ClusterClient.Pool.System
import ClusterClient.Proofs.Address.Order
import ClusterClient.Proofs.Address.Spelling
import ClusterClient.Proofs.Address.Variants
import ClusterClient.Proofs.Client.Correlation
import ClusterClient.Proofs.Client.Correspondence
import ClusterClient.Proofs.Client.Pools
import ClusterClient.Proofs.Client.Reach
import ClusterClient.Proofs.Client.Restoration
import ClusterClient.Proofs.Client.Routing
import ClusterClient.Proofs.Client.Staleness
import ClusterClient.Proofs.Client.Tending
import ClusterClient.Proofs.Client.Traffic
import ClusterClient.Proofs.Client.Uninterrupted
import ClusterClient.Proofs.Cluster.Convergence
import ClusterClient.Proofs.Cluster.Discovery
import ClusterClient.Proofs.Cluster.Disposal
import ClusterClient.Proofs.Cluster.Inference
import ClusterClient.Proofs.Cluster.Lifetimes
import ClusterClient.Proofs.Cluster.Looks
import ClusterClient.Proofs.Cluster.ReplicaSet
import ClusterClient.Proofs.Cluster.Representation
import ClusterClient.Proofs.Cluster.Searches
import ClusterClient.Proofs.Cluster.Steps
import ClusterClient.Proofs.Cluster.Unanimity
import ClusterClient.Proofs.Connection.Authentication
import ClusterClient.Proofs.Connection.Bodies
import ClusterClient.Proofs.Connection.Exchanges
import ClusterClient.Proofs.Connection.Identity
import ClusterClient.Proofs.Connection.Lifecycle
import ClusterClient.Proofs.Connection.Payload
import ClusterClient.Proofs.Connection.Streaming
import ClusterClient.Proofs.Pool.Accounting
import ClusterClient.Proofs.Pool.Answers
import ClusterClient.Proofs.Pool.Barrier
import ClusterClient.Proofs.Pool.Custody
import ClusterClient.Proofs.Pool.Decisions
import ClusterClient.Proofs.Pool.Freshness
import ClusterClient.Proofs.Pool.Gate
import ClusterClient.Proofs.Pool.Ledger
import ClusterClient.Proofs.Pool.Maintenance
import ClusterClient.Proofs.Pool.Moves
import ClusterClient.Proofs.Pool.Operations
import ClusterClient.Proofs.Pool.Phases
import ClusterClient.Proofs.Pool.Queue
import ClusterClient.Proofs.Pool.Returns
import ClusterClient.Proofs.Pool.Sessions
import ClusterClient.Proofs.Pool.Setbacks
import ClusterClient.Proofs.Pool.Shutdown
import ClusterClient.Proofs.Pool.Solo
import ClusterClient.Proofs.Pool.Steps
import ClusterClient.Proofs.Pool.Streams
import ClusterClient.Proofs.Pool.Tags
import ClusterClient.Proofs.Pool.Upkeep
import ClusterClient.Proofs.Pool.Verdicts
import ClusterClient.Proofs.Pool.Wakeups
import ClusterClient.Proofs.Selection.Agreement
import ClusterClient.Proofs.Selection.Composition
import ClusterClient.Proofs.Selection.Connected
import ClusterClient.Proofs.Selection.Dispatch
import ClusterClient.Proofs.Selection.Nearness
import ClusterClient.Proofs.Selection.Preference
import ClusterClient.Proofs.Selection.Snapshot
import ClusterClient.Proofs.Selection.Stickiness
import ClusterClient.Proofs.Selection.Window
import ClusterClient.Proofs.Server.Findings
import ClusterClient.Proofs.Server.Observed
import ClusterClient.Proofs.Server.Recovery
import ClusterClient.Proofs.Server.Signals
import ClusterClient.Proofs.Server.Silence
import ClusterClient.Proofs.Server.Streams
import ClusterClient.Proofs.Server.Succession
import ClusterClient.Proofs.Wire.Admission
import ClusterClient.Proofs.Wire.Documents
import ClusterClient.Proofs.Wire.Headers
import ClusterClient.Proofs.Wire.Layout
import ClusterClient.Proofs.Wire.Recycling
import ClusterClient.Proofs.Wire.Reply
import ClusterClient.Proofs.Wire.Request
import ClusterClient.Proofs.Wire.Uniqueness
import ClusterClient.ReadPreference
import ClusterClient.Report.Description
import ClusterClient.Report.Failure
import ClusterClient.Report.Message
import ClusterClient.Report.Settings
import ClusterClient.Selection.Selector
import ClusterClient.Selection.Window
import ClusterClient.Server.Description
import ClusterClient.Server.Monitor
import ClusterClient.Server.MovingAverage
import ClusterClient.Server.Probe
import ClusterClient.Server.Reply
import ClusterClient.Server.Type
import ClusterClient.Settings.Basic
import ClusterClient.Settings.Decode
import ClusterClient.Simulation.Behaviour
import ClusterClient.Simulation.ClusterScenario
import ClusterClient.Simulation.ConnectionScenario
import ClusterClient.Simulation.LiveScenario
import ClusterClient.Simulation.MonitorScenario
import ClusterClient.Simulation.PoolScenario
import ClusterClient.TagSet
import ClusterClient.Text.Blank
import ClusterClient.Text.Hex
import ClusterClient.Text.Printable
import ClusterClient.Text.Quoted
import ClusterClient.Wire.Buffer
import ClusterClient.Wire.Bytes
import ClusterClient.Wire.Header
import ClusterClient.Wire.Reply
import ClusterClient.Wire.Request
import ClusterClient.Wire.Response
