import Replicat.Rpc.Models

/-!
# The server's handlers

`RpcServer` of `rpc/server.rs`: the handlers of the write path and the constructors of their
replies. Each reply constructor sets its own code; `clientWriteResp_error` says which codes
the error of a raft call can end in.
-/

namespace Replicat

open RpcModels

variable {W M F : Type} [Serde M] [Serde F]

/-- `Status::new(Code::Internal, e.to_string())`. -/
def internalEncode (e : EncodeError) : Status := ⟨.internal, e.message⟩

def internalDecode (e : DecodeError) : Status := ⟨.internal, e.message⟩

/-- A reply whose additional data are the bytes of a value. -/
def dataResp {α : Type} [Serde α] (error : RpcError) (message : String) (v : α) :
    Except Status RpcResponse := do
  let data ← (toBytes v).mapError internalEncode
  return { error := error.toI32, leader := none, message, additionalData := data }

def RpcModels.RpcResponse.ok {α : Type} [Serde α] (v : α) : Except Status RpcResponse :=
  dataResp .none "Request OK" v

def forwardToLeaderResp (leader : ForwardToLeader) : Except Status RpcResponse :=
  -- A leader is named only if both its id and its node are known.
  let leader := leader.leaderId.bind fun id => do
    let node ← leader.leaderNode
    some (id, node)
  let leader := leader.map fun (id, node) => { id, rpcAddr := node.addr : Node }
  .ok { error := RpcError.forwardToLeader.toI32, leader,
        message := "Forward request to leader node.", additionalData := [] }

def changeMembershipResp (error : M) : Except Status RpcResponse :=
  dataResp .changeMembership "Change the Raft membership." error

def fatalResp (error : F) : Except Status RpcResponse :=
  dataResp .fatal "Fatal error has occurred." error

def clientWriteResp : ClientWriteError M F → Except Status RpcResponse
  | .forwardToLeader leader => forwardToLeaderResp leader
  | .changeMembershipError error => changeMembershipResp error
  | .fatal error => fatalResp error

/-! ## What the replies carry -/

@[simp] theorem dataResp_eq {α : Type} [Serde α] (error : RpcError) (message : String) (v : α) :
    dataResp error message v = .ok ⟨error.toI32, none, message, encoded v⟩ := by
  simp [dataResp, Except.mapError]

/-- The code of the reply to a failed write. -/
def ClientWriteError.rpcError : ClientWriteError M F → RpcError
  | .forwardToLeader _ => .forwardToLeader
  | .changeMembershipError _ => .changeMembership
  | .fatal _ => .fatal

/-- The node a redirect names. -/
def ClientWriteError.leader? : ClientWriteError M F → Option Node
  | .forwardToLeader leader =>
    leader.leaderId.bind fun id => leader.leaderNode.map fun node => ⟨id, node.addr⟩
  | _ => none

/-- The reply to a failed write carries the code of its error, and a leader only where the
error names one. -/
theorem clientWriteResp_error (e : ClientWriteError M F) : ∃ resp, clientWriteResp e = .ok resp ∧
    resp.error = e.rpcError.toI32 ∧ resp.leader = e.leader? := by
  cases e with
  | forwardToLeader leader =>
    refine ⟨_, rfl, rfl, ?_⟩
    rcases leader with ⟨_ | id, _ | node⟩ <;> rfl
  | changeMembershipError error => exact ⟨_, dataResp_eq _ _ error, rfl, rfl⟩
  | fatal error => exact ⟨_, dataResp_eq _ _ error, rfl, rfl⟩

/-! ## Handlers -/

variable [Serde W] [Serde (List TransportableParam)]

structure RpcServer (W M F : Type) where
  raft : ReplicatRaft W M F

namespace RpcServer

def changeMembership (self : RpcServer W M F) (request : ChangeMembershipRequest) :
    Except Status RpcResponse :=
  match self.raft.changeMembership request.members true true with
  | .ok res => RpcResponse.ok res
  | .error error => clientWriteResp error

def mutateState (self : RpcServer W M F) (request : MutateRequest) :
    Except Status RpcResponse := do
  let params ← (fromBytes request.parameters).mapError internalDecode
  match self.raft.clientWrite (.execute request.sql params) with
  | .ok res => RpcResponse.ok res
  | .error error => clientWriteResp error

end RpcServer

/-- Parameters that were encoded by a client reach the raft core. -/
theorem RpcServer.mutateState_encoded (self : RpcServer W M F) (sql : String)
    (params : List TransportableParam) :
    self.mutateState ⟨sql, encoded params⟩ =
      match self.raft.clientWrite (.execute sql params) with
      | .ok res => RpcResponse.ok res
      | .error error => clientWriteResp error := by
  unfold mutateState
  rw [fromBytes_encoded]
  rfl

end Replicat
