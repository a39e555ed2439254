import Replicat.Lib.Prog
import Replicat.Lib.Pool
import Replicat.Lib.Actor
import Replicat.Lib.Served
import Replicat.Lib.Unwinding
import Replicat.Lib.Advance
import Replicat.Lib.Heap
import Replicat.Lib.Proto3
import Replicat.Lib.Sqlite
import Replicat.Lib.Related
import Replicat.Storage.Params
import Replicat.Storage.FromRow
import Replicat.Basic
import Replicat.Lib.RowidTable
import Replicat.Storage.Database
import Replicat.Storage.Handle
import Replicat.Storage.SqliteMemory
import Replicat.Storage.Raft
import Replicat.Storage.Tasks
import Replicat.Storage.Apply
import Replicat.Storage.Open
import Replicat.Storage.CrashApply
import Replicat.Lib.Codec
import Replicat.Storage.Catalog
import Replicat.Lib.Timed
import Replicat.Lib.Trace
import Replicat.Storage.SnapshotCut
import Replicat.Storage.ClientErrors
import Replicat.Storage.Snapshots
import Replicat.Storage.HardState
import Replicat.Storage.Replicas
import Replicat.Storage.Durable
import Replicat.Storage.Faults
import Replicat.Storage.Rows
import Replicat.Storage.SnapshotFile
import Replicat.Storage.LogTable
import Replicat.Storage.LogWrites
import Replicat.Storage.MemState
import Replicat.Storage.PowerLoss
import Replicat.Storage.LocalReads
import Replicat.Storage.PurgeMark
import Replicat.Storage.Linearizable
import Replicat.Storage.Bookkeeping
import Replicat.Storage.ClientFrame
import Replicat.Storage.FailedApply
import Replicat.Storage.Installs
import Replicat.Storage.ApplyFold
import Replicat.Storage.SnapshotRuns
import Replicat.Storage.SnapshotIds
import Replicat.Storage.LogLimits
import Replicat.Storage.NodeSpec
import Replicat.Storage.NodeRefines
import Replicat.Storage.NodeProgress
import Replicat.Storage.SharedLoss
import Replicat.Storage.Clones
import Replicat.Storage.PrefixReads
import Replicat.Storage.NodeThreads
import Replicat.Rpc.Models
import Replicat.Rpc.Server
import Replicat.Rpc.Client
import Replicat.Rpc.Network
import Replicat.Client
import Replicat.Rpc.WriteOutcome
import Replicat.Rpc.ProposeOnce
import Replicat.Rpc.Redirects
import Replicat.Rpc.Routing
import Replicat.Rpc.SharedClient
import Replicat.Rpc.StableLeader
import Replicat.Rpc.Peers
import Replicat.Rpc.PeerOutcome
import Replicat.Rpc.Arrival
import Replicat.Rpc.Handlers
import Replicat.Rpc.Service
import Replicat.Rpc.Untrusted
import Replicat.Writes
