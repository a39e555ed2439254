import Replicat.Basic

/-!
# The messages of the cluster service

The messages of `proto/raft_rpc.proto`, tonic's `Status`, the requests of openraft, and the
errors of openraft that the server turns into messages. Every reply is an `RpcResponse`
whose `error` field carries one of the codes of `RpcError` inside a successful call. What
openraft answers, or says inside an error that is not looked into, is only passed on, so its
types are parameters: `W` is `ClientWriteResponse`, `M` is `ChangeMembershipError`, `F` is
`Fatal`, and `A`, `V`, `I` are the responses to `append_entries`, `vote` and
`install_snapshot`.
-/

namespace Replicat

open Sqlite

namespace RpcModels

inductive RpcError where
  | none
  | forwardToLeader
  | changeMembership
  | fatal
  | network
  | snapshotMismatch
  deriving DecidableEq, Repr

/-- The number of the code in a message. -/
def RpcError.toI32 : RpcError → Int32
  | none => 0
  | forwardToLeader => 1
  | changeMembership => 2
  | fatal => 3
  | network => 4
  | snapshotMismatch => 5

structure Node where
  id : NodeId
  rpcAddr : String
  deriving DecidableEq, Repr

structure RpcResponse where
  error : Int32
  leader : Option Node
  message : String
  additionalData : Bytes
  deriving DecidableEq, Repr

structure ChangeMembershipRequest where
  members : List NodeId
  deriving DecidableEq, Repr

structure MutateRequest where
  sql : String
  parameters : Bytes
  deriving DecidableEq, Repr

structure Vote where
  term : UInt64
  nodeId : UInt64
  committed : Bool
  deriving DecidableEq, Repr

structure LogId where
  term : UInt64
  nodeId : UInt64
  index : UInt64
  deriving DecidableEq, Repr

structure AppendEntriesRequest where
  vote : Option RpcModels.Vote
  prevLogId : Option RpcModels.LogId
  entries : Bytes
  leaderCommit : Option RpcModels.LogId
  deriving DecidableEq, Repr

structure InstallSnapshotRequest where
  vote : Option RpcModels.Vote
  metadata : Bytes
  offset : UInt64
  data : Bytes
  done : Bool
  deriving DecidableEq, Repr

structure VoteRequest where
  vote : Option RpcModels.Vote
  lastLogId : Option RpcModels.LogId
  deriving DecidableEq, Repr

end RpcModels

/-! ## The requests of openraft -/

namespace Raft

structure AppendEntriesRequest where
  vote : Vote
  prevLogId : Option LogId
  entries : List Entry
  leaderCommit : Option LogId
  deriving DecidableEq, Repr

structure InstallSnapshotRequest where
  vote : Vote
  metadata : SnapshotMeta
  offset : UInt64
  data : Bytes
  done : Bool
  deriving DecidableEq, Repr

structure VoteRequest where
  vote : Vote
  lastLogId : Option LogId
  deriving DecidableEq, Repr

end Raft

/-! ## Statuses and errors -/

/-- The status codes of gRPC. -/
inductive Code where
  | ok | cancelled | unknown | invalidArgument | deadlineExceeded | notFound | alreadyExists
  | permissionDenied | resourceExhausted | failedPrecondition | aborted | outOfRange
  | unimplemented | internal | unavailable | dataLoss | unauthenticated
  deriving DecidableEq, Repr

structure Status where
  code : Code
  message : String
  deriving DecidableEq, Repr

/-- `Status::unavailable`. -/
def Status.unavailable (message : String) : Status := ⟨.unavailable, message⟩

/-- The raft core is not the leader: who is, as far as it knows. -/
structure ForwardToLeader where
  leaderId : Option NodeId
  leaderNode : Option BasicNode
  deriving DecidableEq, Repr

inductive ClientWriteError (M F : Type) where
  | forwardToLeader (leader : ForwardToLeader)
  | changeMembershipError (error : M)
  | fatal (error : F)
  deriving DecidableEq, Repr

inductive AppendEntriesError (F : Type) where
  | fatal (error : F)
  deriving DecidableEq, Repr

inductive VoteError (F : Type) where
  | fatal (error : F)
  deriving DecidableEq, Repr

structure SnapshotSegmentId where
  id : String
  offset : UInt64
  deriving DecidableEq, Repr

/-- The segment that was expected is not the one that came. -/
structure SnapshotMismatch where
  expect : SnapshotSegmentId
  got : SnapshotSegmentId
  deriving DecidableEq, Repr

inductive InstallSnapshotError (F : Type) where
  | snapshotMismatch (error : SnapshotMismatch)
  | fatal (error : F)
  deriving DecidableEq, Repr

/-- What a node's raft core answers to its peers. -/
structure PeerRaft (A V I F : Type) where
  appendEntries : Raft.AppendEntriesRequest → Except (AppendEntriesError F) A
  vote : Raft.VoteRequest → Except (VoteError F) V
  installSnapshot : Raft.InstallSnapshotRequest → Except (InstallSnapshotError F) I

/-- What a node's raft core answers to the calls of the handlers. -/
structure ReplicatRaft (W M F : Type) where
  clientWrite : Request → Except (ClientWriteError M F) W
  changeMembership : List NodeId → Bool → Bool → Except (ClientWriteError M F) W

end Replicat
