import SwitchOps.Lib.Program
import SwitchOps.Lib.Text
import SwitchOps.Lib.Dict
import SwitchOps.Lib.Regex
import SwitchOps.Models
import SwitchOps.ChangeModels
import SwitchOps.CommandRegistry
import SwitchOps.InterfaceNames
import SwitchOps.InterfacePolicy
import SwitchOps.Guards
import SwitchOps.Parsers
import SwitchOps.Operations
import SwitchOps.Operations.Frame
import SwitchOps.Environment
import SwitchOps.Operations.Commands
import SwitchOps.Operations.BlankDescription
import SwitchOps.Operations.Outcome
import SwitchOps.Assurance.Snapshot
import SwitchOps.Assurance.Preflight
import SwitchOps.Assurance.Comparison
import SwitchOps.Assurance.Service
import SwitchOps.Assurance.Frame
import SwitchOps.Assurance.Verdict
import SwitchOps.Assurance.Evidence
import SwitchOps.PolicyStore
import SwitchOps.Lib.UnionFind
import SwitchOps.Unified.Identity
import SwitchOps.Unified.Reconciliation
import SwitchOps.Unified.Merging
import SwitchOps.Lib.Machine
import SwitchOps.Session.Connection
import SwitchOps.Session.Worker
import SwitchOps.Session.Reconnect
import SwitchOps.Session.Manager
import SwitchOps.Session.SingleWorker
import SwitchOps.Session.SkipNotQueue
import SwitchOps.Lib.Placement
import SwitchOps.Session.Traffic
import SwitchOps.Session.Lifecycle
import SwitchOps.Session.JobDelivery
import SwitchOps.Requests.Handlers
import SwitchOps.Requests.QuietTelemetry
import SwitchOps.Requests.UnsavedChanges
import SwitchOps.Live.Attribution
import SwitchOps.Sessions.Conduct
import SwitchOps.Sessions.Server
import SwitchOps.Sessions.Terminal
import SwitchOps.Sessions.Recovery
import SwitchOps.Gates.Hold
import SwitchOps.Gates.Programs
import SwitchOps.Lib.Locks
import SwitchOps.Gates.Threads
import SwitchOps.Gates.Target
import SwitchOps.Lib.Reorder
import SwitchOps.Unified.Order
import SwitchOps.Unified.Contract
import SwitchOps.Unified.CatalystAdapter
import SwitchOps.Unified.MerakiCollector
import SwitchOps.Unified.Adjacency
import SwitchOps.Unified.Service
import SwitchOps.Unified.Interleaving
import SwitchOps.Lib.Url
import SwitchOps.Unified.MerakiClient
import SwitchOps.Unified.Pagination
import SwitchOps.Lab.Models
import SwitchOps.Lib.Graph
import SwitchOps.Lab.Failures
import SwitchOps.Lab.Simulation
import SwitchOps.Lib.History
import SwitchOps.Telemetry.MissingSections
import SwitchOps.Telemetry.LinkEvents
import SwitchOps.Reconciliation.Events
import SwitchOps.Lab.Probes
import SwitchOps.Ssh.HostKeys
import SwitchOps.Ssh.Trust
import SwitchOps.Credentials.Atomicity
import SwitchOps.Lab.DeviceStore
import SwitchOps.Lib.Transitions
import SwitchOps.Live.Merging
import SwitchOps.Operations.RollbackExactness
import SwitchOps.Configuration.Redaction
import SwitchOps.Configuration.Secrets
import SwitchOps.Configuration.Interference
import SwitchOps.Configuration.Recognized
import SwitchOps.Topology.Evidence
import SwitchOps.Lib.Lifecycle
import SwitchOps.Topology.DiscoveryStore
import SwitchOps.Topology.Lifecycle
import SwitchOps.Topology.Builder
import SwitchOps.Reconciliation.Providers
import SwitchOps.Reconciliation.Reconciler
import SwitchOps.Reconciliation.Descriptions
import SwitchOps.Topology.OneEndpoint
import SwitchOps.Lib.Scanning
import SwitchOps.Parsers.Discovery
import SwitchOps.Topology.Collection
import SwitchOps.PolicyAliases
import SwitchOps.Unified.Confirmation
import SwitchOps.Unified.Relationships
import SwitchOps.Unified.CurrentEvidence
import SwitchOps.Unified.UniqueIds
import SwitchOps.Unified.PageTermination
import SwitchOps.Unified.Completeness
import SwitchOps.Lab.Paths
import SwitchOps.Lab.Collection
import SwitchOps.Lab.Graph
import SwitchOps.Lab.HostnameMerging
import SwitchOps.Lab.GraphIds
import SwitchOps.Lib.Wrapping
import SwitchOps.Reconciliation.Signatures
import SwitchOps.Telemetry.CounterDeltas
import SwitchOps.Topology.WellFormed
import SwitchOps.InterfaceGrammar
import SwitchOps.Parsers.Shorteners
import SwitchOps.Parsers.CounterTables
import SwitchOps.Parsers.StatusTable
import SwitchOps.Parsers.VlanTable
import SwitchOps.Lib.Datetime
import SwitchOps.Lib.Transaction
import SwitchOps.Telemetry.Recording
import SwitchOps.Lib.LineSearch
import SwitchOps.Lib.Blocks
import SwitchOps.Parsers.VlanLists
import SwitchOps.Parsers.Switchports
import SwitchOps.Parsers.ConfigInterfaces
import SwitchOps.Lab.TrunkVlans
import SwitchOps.Live.Overlay
import SwitchOps.Configuration.VersionHistory
import SwitchOps.Operations.LldpExperiment
import SwitchOps.Lib.Tiling
import SwitchOps.Logging.Redaction
import SwitchOps.Telemetry.Sparkline
import SwitchOps.Topology.LocalHost
import SwitchOps.Logging.Masking
import SwitchOps.Logging.Patterns
import SwitchOps.Logging.Completeness
import SwitchOps.Lib.DropOldest
import SwitchOps.Live.Channel
import SwitchOps.Lab.Cabling
import SwitchOps.Live.Convergence
import SwitchOps.Lib.Chunked
import SwitchOps.Live.ContextAge
import SwitchOps.Ssh.LegacyShell
import SwitchOps.Telemetry.Health
import SwitchOps.Ssh.Transports
import SwitchOps.Lib.Cadence
import SwitchOps.Live.Collector
import SwitchOps.Operations.AuditTrail
import SwitchOps.Lib.Records
import SwitchOps.Parsers.CdpDetail
import SwitchOps.Lab.Findings
import SwitchOps.Lab.Provenance
