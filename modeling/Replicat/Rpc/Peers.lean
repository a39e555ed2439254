import Replicat.Rpc.Client
import Replicat.Rpc.Network
import Replicat.Rpc.Server

/-!
# The calls between peers

`append_entries`, `install_snapshot` and `vote` on their way from one raft core to another: the
methods of `RpcClient` and `NetworkConnection` that send them, and the handlers of `RpcServer`
that pass them on. A request is flattened into a message on one side and rebuilt on the other;
every reply, error or not, is an `RpcResponse`.
-/

namespace Replicat

open RpcModels Atomics Atomics.Prog

variable {A V I F : Type}

/-! ## Flattening and rebuilding -/

def Vote.toMessage (vote : Vote) : RpcModels.Vote :=
  { term := vote.term, nodeId := vote.nodeId, committed := vote.committed }

def LogId.toMessage (logId : LogId) : RpcModels.LogId :=
  { term := logId.leaderId.term, nodeId := logId.leaderId.nodeId, index := logId.index }

/-- `From<Vote>`. -/
def Vote.ofMessage (vote : RpcModels.Vote) : Vote :=
  { term := vote.term, nodeId := vote.nodeId, committed := vote.committed }

/-- `From<LogId>`. -/
def LogId.ofMessage (logId : RpcModels.LogId) : LogId :=
  { leaderId := { term := logId.term, nodeId := logId.nodeId }, index := logId.index }

@[simp] theorem Vote.ofMessage_toMessage (vote : Vote) : ofMessage vote.toMessage = vote := rfl

@[simp] theorem LogId.ofMessage_toMessage (logId : LogId) : ofMessage logId.toMessage = logId := rfl

@[simp] theorem LogId.map_ofMessage_toMessage (logId : Option LogId) :
    (logId.map toMessage).map ofMessage = logId := by
  cases logId <;> rfl

/-! ## The client's methods -/

namespace RpcClient

section Encode

/-- The message `append_entries` sends. -/
def appendEntriesMessage [Serde (List Entry)] (req : Raft.AppendEntriesRequest) :
    Except EncodeError AppendEntriesRequest := do
  let entriesBytes ← toBytes req.entries
  return { vote := some req.vote.toMessage
           prevLogId := req.prevLogId.map LogId.toMessage
           entries := entriesBytes
           leaderCommit := req.leaderCommit.map LogId.toMessage }

/-- The message `install_snapshot` sends. -/
def installSnapshotMessage [Serde SnapshotMeta] (req : Raft.InstallSnapshotRequest) :
    Except EncodeError InstallSnapshotRequest := do
  let metadata ← toBytes req.metadata
  return { vote := some req.vote.toMessage
           metadata
           offset := req.offset
           data := req.data
           done := req.done }

/-- The message `vote` sends. -/
def voteMessage (req : Raft.VoteRequest) : VoteRequest :=
  { vote := some req.vote.toMessage, lastLogId := req.lastLogId.map LogId.toMessage }

/-- The message `mutate_state` sends. -/
def mutateMessage [Serde (List TransportableParam)] (sql : String)
    (params : List TransportableParam) : Except EncodeError MutateRequest := do
  let parameters ← toBytes params
  return { sql, parameters }

end Encode

variable {σ : Type}

/-- `resp.additional_data` is decoded at the type of the answer, whatever `resp.error` says. -/
def decodeReply {α : Type} [Serde α] (resp : RpcResponse) : Except Rpc.Error α :=
  (fromBytes resp.additionalData).mapError .deserializationError

def appendEntries [Serde (List Entry)] [Serde A]
    (stub : Uri → AppendEntriesRequest → Fallible σ Status RpcResponse) (self : RpcClient)
    (req : Raft.AppendEntriesRequest) : Fallible σ Rpc.Error A := do
  let req ← liftResult ((appendEntriesMessage req).mapError .serializationError)
  let resp ← mapErr .networkError (stub self.uri req)
  liftResult (decodeReply resp)

def installSnapshot [Serde SnapshotMeta] [Serde I]
    (stub : Uri → InstallSnapshotRequest → Fallible σ Status RpcResponse) (self : RpcClient)
    (req : Raft.InstallSnapshotRequest) : Fallible σ Rpc.Error I := do
  let req ← liftResult ((installSnapshotMessage req).mapError .serializationError)
  let resp ← mapErr .networkError (stub self.uri req)
  liftResult (decodeReply resp)

def vote [Serde V] (stub : Uri → VoteRequest → Fallible σ Status RpcResponse) (self : RpcClient)
    (req : Raft.VoteRequest) : Fallible σ Rpc.Error V := do
  let req := voteMessage req
  let resp ← mapErr .networkError (stub self.uri req)
  liftResult (decodeReply resp)

end RpcClient

/-! ## The connection of the raft core -/

/-- `openraft::error::RPCError`. -/
inductive RPCError (ε : Type) where
  | nodeNotFound (nodeId : NodeId)
  | timeout
  /-- `NetworkError::new`, with the error it is of. -/
  | network (source : Rpc.Error)
  /-- What the remote raft core returned. -/
  | remoteError (target : NodeId) (source : ε)
  deriving DecidableEq, Repr

namespace NetworkConnection

variable {σ : Type}

def sendAppendEntries [Serde (List Entry)] [Serde A]
    (stub : Uri → AppendEntriesRequest → Fallible σ Status RpcResponse)
    (self : NetworkConnection) (rpc : Raft.AppendEntriesRequest) :
    Fallible σ (RPCError (AppendEntriesError F)) A :=
  mapErr .network (self.client.appendEntries stub rpc)

def sendInstallSnapshot [Serde SnapshotMeta] [Serde I]
    (stub : Uri → InstallSnapshotRequest → Fallible σ Status RpcResponse)
    (self : NetworkConnection) (rpc : Raft.InstallSnapshotRequest) :
    Fallible σ (RPCError (InstallSnapshotError F)) I :=
  mapErr .network (self.client.installSnapshot stub rpc)

def sendVote [Serde V] (stub : Uri → VoteRequest → Fallible σ Status RpcResponse)
    (self : NetworkConnection) (rpc : Raft.VoteRequest) :
    Fallible σ (RPCError (VoteError F)) V :=
  mapErr .network (self.client.vote stub rpc)

end NetworkConnection

/-! ## The server's handlers -/

namespace RpcServer

/-- `request.vote.unwrap()`. -/
def unwrapVote (vote : Option RpcModels.Vote) : Except (Stop Status) RpcModels.Vote :=
  vote.elim (.error .panic) .ok

/-- What `append_entries` calls the raft core with. -/
def appendEntriesRpc [Serde (List Entry)] (request : AppendEntriesRequest) :
    Except (Stop Status) Raft.AppendEntriesRequest := do
  let vote ← unwrapVote request.vote
  let entries ← (fromBytes request.entries).mapError fun e => .err (internalDecode e)
  return { vote := .ofMessage vote
           prevLogId := request.prevLogId.map LogId.ofMessage
           entries
           leaderCommit := request.leaderCommit.map LogId.ofMessage }

/-- What `install_snapshot` calls the raft core with. -/
def installSnapshotRpc [Serde SnapshotMeta] (request : InstallSnapshotRequest) :
    Except (Stop Status) Raft.InstallSnapshotRequest := do
  let vote ← unwrapVote request.vote
  let metadata ← (fromBytes request.metadata).mapError fun e => .err (internalDecode e)
  return { vote := .ofMessage vote
           metadata
           offset := request.offset
           data := request.data
           done := request.done }

/-- What `vote` calls the raft core with. -/
def voteRpc (request : VoteRequest) : Except (Stop Status) Raft.VoteRequest := do
  let vote ← unwrapVote request.vote
  return { vote := .ofMessage vote, lastLogId := request.lastLogId.map LogId.ofMessage }

/-- What `mutate_state` calls the raft core with. -/
def mutateRpc [Serde (List TransportableParam)] (request : MutateRequest) :
    Except (Stop Status) Request := do
  let params ← (fromBytes request.parameters).mapError fun e => .err (internalDecode e)
  return .execute request.sql params

section Answers

variable [Serde F]

def appendEntriesAnswer [Serde A] : Except (AppendEntriesError F) A → Except Status RpcResponse
  | .ok res => RpcResponse.ok res
  | .error (.fatal error) => fatalResp error

def installSnapshotAnswer [Serde I] [Serde SnapshotMismatch] :
    Except (InstallSnapshotError F) I → Except Status RpcResponse
  | .ok res => RpcResponse.ok res
  | .error (.snapshotMismatch error) =>
    dataResp .snapshotMismatch "The provided snapshot does not match." error
  | .error (.fatal error) => fatalResp error

def voteAnswer [Serde V] : Except (VoteError F) V → Except Status RpcResponse
  | .ok res => RpcResponse.ok res
  | .error (.fatal error) => fatalResp error

variable (raft : PeerRaft A V I F)

def appendEntries [Serde (List Entry)] [Serde A] (request : AppendEntriesRequest) :
    Except (Stop Status) RpcResponse := do
  let rpc ← appendEntriesRpc request
  (appendEntriesAnswer (raft.appendEntries rpc)).mapError .err

def installSnapshot [Serde SnapshotMeta] [Serde I] [Serde SnapshotMismatch]
    (request : InstallSnapshotRequest) : Except (Stop Status) RpcResponse := do
  let rpc ← installSnapshotRpc request
  (installSnapshotAnswer (raft.installSnapshot rpc)).mapError .err

def vote [Serde V] (request : VoteRequest) : Except (Stop Status) RpcResponse := do
  let rpc ← voteRpc request
  (voteAnswer (raft.vote rpc)).mapError .err

end Answers

end RpcServer

/-! ## A message rebuilt is the request -/

section Rebuild

theorem appendEntriesMessage_rpc [Serde (List Entry)] (req : Raft.AppendEntriesRequest) :
    ∃ message, RpcClient.appendEntriesMessage req = .ok message ∧
      RpcServer.appendEntriesRpc message = .ok req := by
  refine ⟨⟨some req.vote.toMessage, req.prevLogId.map LogId.toMessage, encoded req.entries,
    req.leaderCommit.map LogId.toMessage⟩, ?_, ?_⟩
  · unfold RpcClient.appendEntriesMessage
    rw [toBytes_eq]
    rfl
  · unfold RpcServer.appendEntriesRpc
    simp only [fromBytes_encoded, LogId.map_ofMessage_toMessage]
    rfl

theorem installSnapshotMessage_rpc [Serde SnapshotMeta] (req : Raft.InstallSnapshotRequest) :
    ∃ message, RpcClient.installSnapshotMessage req = .ok message ∧
      RpcServer.installSnapshotRpc message = .ok req := by
  refine ⟨⟨some req.vote.toMessage, encoded req.metadata, req.offset, req.data, req.done⟩, ?_, ?_⟩
  · unfold RpcClient.installSnapshotMessage
    rw [toBytes_eq]
    rfl
  · unfold RpcServer.installSnapshotRpc
    simp only [fromBytes_encoded]
    rfl

theorem voteMessage_rpc (req : Raft.VoteRequest) :
    RpcServer.voteRpc (RpcClient.voteMessage req) = .ok req := by
  unfold RpcServer.voteRpc RpcClient.voteMessage
  simp only [LogId.map_ofMessage_toMessage]
  rfl

theorem mutateMessage_rpc [Serde (List TransportableParam)] (sql : String)
    (params : List TransportableParam) :
    ∃ message, RpcClient.mutateMessage sql params = .ok message ∧
      RpcServer.mutateRpc message = .ok (.execute sql params) := by
  refine ⟨⟨sql, encoded params⟩, ?_, ?_⟩
  · unfold RpcClient.mutateMessage
    rw [toBytes_eq]
    rfl
  · unfold RpcServer.mutateRpc
    rw [fromBytes_encoded]
    rfl

end Rebuild

end Replicat
