import SwarmFi.Foundation.Program
import SwarmFi.Foundation.History
import SwarmFi.Foundation.Retry
import SwarmFi.Foundation.FirstHit
import SwarmFi.Foundation.EventLoop
import SwarmFi.Foundation.Verdict
import SwarmFi.Foundation.Triple
import SwarmFi.Foundation.Rely
import SwarmFi.Python.JsonReader
import SwarmFi.Python.Http
import SwarmFi.Core.Schema
import SwarmFi.Core.Uniswap.Models
import SwarmFi.Core.KeeperHub.Models
import SwarmFi.Core.KeeperHub.Client
import SwarmFi.Core.KeeperHub.Executor
import SwarmFi.Core.KeeperHub.Runs
import SwarmFi.Core.KeeperHub.Verdict
import SwarmFi.Core.KeeperHub.AuditEntries
import SwarmFi.Core.KeeperHub.LiveRuns
import SwarmFi.Core.KeeperHub.TransferCount
import SwarmFi.Core.KeeperHub.FailureVerdict
import SwarmFi.Core.Compute.RiskScorer
import SwarmFi.Core.Compute.RiskGate
import SwarmFi.Core.Compute.FailSafe
import SwarmFi.Core.Uniswap.Executor
import SwarmFi.Core.Uniswap.DryRun
import SwarmFi.Core.Uniswap.Nonces
import SwarmFi.Core.AxlClient
import SwarmFi.Agents.Base
import SwarmFi.Agents.Executor
import SwarmFi.Agents.Risk
import SwarmFi.Agents.Survival
import SwarmFi.Agents.ExecutionReports
import SwarmFi.Agents.Calls
import SwarmFi.Agents.TradeTriggers
import SwarmFi.Agents.DecisionPosts
import SwarmFi.Agents.Delivery
import SwarmFi.Agents.FailSafe
import SwarmFi.Dashboard.Server
import SwarmFi.Dashboard.Stages
import SwarmFi.Dashboard.Threshold
import SwarmFi.Dashboard.StateFile
import SwarmFi.Dashboard.CycleRuns
import SwarmFi.Dashboard.Snapshots
import SwarmFi.Dashboard.Bookkeeping
import SwarmFi.Dashboard.Progress
import SwarmFi.Core.Ens.Coherence
import SwarmFi.Core.Scanner
import SwarmFi.Core.Pnl
import SwarmFi.Demo.Records
import SwarmFi.Python.Bytes
import SwarmFi.Python.Mapping
import SwarmFi.Python.JsonObject
import SwarmFi.Python.JsonWriter
import SwarmFi.Python.JsonRoundTrip
import SwarmFi.Python.Sha256
import SwarmFi.Core.Storage.Client
import SwarmFi.Core.Storage.Kv
import SwarmFi.Core.Storage.Models
import SwarmFi.Core.Storage.PlainModels
import SwarmFi.Core.Storage.Log
import SwarmFi.Core.Storage.AgentMemory
import SwarmFi.Core.Storage.Durable
import SwarmFi.Core.Storage.RoundTrip
import SwarmFi.Core.Storage.DurableMap
import SwarmFi.Core.Storage.KvRuns
import SwarmFi.Core.Storage.DurableLog
import SwarmFi.Core.Storage.LogRuns
import SwarmFi.Core.Storage.DurableMemory
import SwarmFi.Core.Storage.MemoryRuns
import SwarmFi.Core.Storage.Wirings
import SwarmFi.Core.Storage.PlainBackend
import SwarmFi.Core.Storage.Snapshot
import SwarmFi.Core.Storage.SnapshotRuns
import SwarmFi.Core.Storage.Restart
import SwarmFi.Core.Storage.Revisions
import SwarmFi.Core.Storage.ConcurrentLog
import SwarmFi.Core.Storage.ConcurrentMemory
import SwarmFi.Core.Storage.Publishing
import SwarmFi.Core.Storage.AuditTrail
import SwarmFi.Python.Numeral
import SwarmFi.Core.Uniswap.Receipts
import SwarmFi.Core.Uniswap.Transcription
import SwarmFi.Core.KeeperHub.Settlement
import SwarmFi.Dashboard.Agreement
import SwarmFi.Core.Storage.Interruptions
import SwarmFi.Core.Storage.Atomicity
import SwarmFi.Core.Storage.ManifestLoads
import SwarmFi.Core.Storage.Attempts
import SwarmFi.Core.Storage.StatusUpdates
import SwarmFi.Core.Storage.IndexReads
import SwarmFi.Core.Storage.RootHashes
import SwarmFi.Core.Storage.LogFilters
import SwarmFi.Python.Arithmetic
import SwarmFi.Core.Pnl.RollUp
import SwarmFi.Core.Pnl.Definition
import SwarmFi.Core.KeeperHub.Waiting
import SwarmFi.Python.HexLiteral
import SwarmFi.Core.PublicKeys
import SwarmFi.Core.Pnl.Baseline
import SwarmFi.Core.Pnl.Commitments
import SwarmFi.Demo.Outcomes
import SwarmFi.Foundation.Ranking
import SwarmFi.Core.Scanner.Profile
import SwarmFi.Core.Scanner.Edge
import SwarmFi.Core.Scanner.Prices
import SwarmFi.Core.Scanner.Readable
import SwarmFi.Foundation.Moves
import SwarmFi.Core.Scanner.CacheRuns
import SwarmFi.Core.Scanner.RequestRate
import SwarmFi.Python.Display
import SwarmFi.Core.AxlBus
import SwarmFi.Python.JsonSyntax
import SwarmFi.Python.JsonExtent
import SwarmFi.Python.JsonDepth
import SwarmFi.Core.Compute.Fences
import SwarmFi.Core.Compute.ReplyExtraction
import SwarmFi.Foundation.Linearization
import SwarmFi.Foundation.Overwriting
import SwarmFi.Core.Storage.ManifestHistory
import SwarmFi.Core.Storage.Linearizability
import SwarmFi.Core.Storage.Survivors
import SwarmFi.Core.Storage.Overlapping
import SwarmFi.Dashboard.EventLog
import SwarmFi.Python.Subscript
import SwarmFi.Core.Registry
import SwarmFi.Core.Compute.Client
import SwarmFi.Foundation.Newest
import SwarmFi.Core.AxlBus.Interleaving
import SwarmFi.Python.Decoding
import SwarmFi.ZgSidecar
import SwarmFi.Core.Storage.Sidecar
import SwarmFi.Core.Storage.SidecarRuns
