import Replicat.Lib.Prog
import Replicat.Rpc.Models

/-!
# The client's methods

`RpcClient` of `rpc/client.rs`. A client is connected to the address its channel was built
for. The methods are programs over any state `σ`; what tonic's stub does with a request is
their first argument: it reaches the node at the client's address, or fails on the way.
-/

namespace Replicat

open RpcModels Atomics Atomics.Prog

structure Uri where
  text : String
  deriving DecidableEq, Repr

structure InvalidUri where
  message : String
  deriving DecidableEq, Repr

/-- `str::parse::<Uri>`. -/
class UriParser where
  parse : String → Except InvalidUri Uri

/-- `rpc::Error`. -/
inductive Rpc.Error where
  | networkError (status : Status)
  | serializationError (error : EncodeError)
  | deserializationError (error : DecodeError)
  | updateLeader (leader : Node)
  | unknownLeader
  deriving DecidableEq, Repr

/-- A call that does not return a value returns an error or panics. -/
inductive Stop (ε : Type) where
  | err (error : ε)
  | panic
  deriving DecidableEq, Repr

/-- A client, by the address of its channel. -/
structure RpcClient where
  uri : Uri
  deriving DecidableEq, Repr

namespace RpcClient

/-- The connection itself is made by the first request. -/
def connect [UriParser] (addr : String) : Except InvalidUri RpcClient := do
  let uri ← UriParser.parse ("http://" ++ addr)
  return ⟨uri⟩

variable {σ : Type}

def changeMembership (stub : Uri → ChangeMembershipRequest → Fallible σ Status RpcResponse)
    (self : RpcClient) (members : List NodeId) : Fallible σ (Stop Rpc.Error) Unit := do
  let req := { members : ChangeMembershipRequest }
  let _resp ← mapErr (fun e => .err (.networkError e)) (stub self.uri req)
  return ()

variable [Serde (List TransportableParam)]

def mutateState (stub : Uri → MutateRequest → Fallible σ Status RpcResponse) (self : RpcClient)
    (sql : String) (params : List TransportableParam) : Fallible σ (Stop Rpc.Error) Unit := do
  let parameters ← liftResult ((toBytes params).mapError fun e => .err (.serializationError e))
  let req := { sql, parameters : MutateRequest }
  let resp ← mapErr (fun e => .err (.networkError e)) (stub self.uri req)
  if resp.error = RpcError.forwardToLeader.toI32 then
    match resp.leader with
    | some leader => throw (.err (.updateLeader leader))
    | none => throw .panic
  return ()

/-! ## What the methods make of a reply -/

/-- The result of `mutate_state` on a reply. -/
def writeResult (resp : RpcResponse) : Except (Stop Rpc.Error) Unit :=
  if resp.error = RpcError.forwardToLeader.toI32 then
    match resp.leader with
    | some leader => .error (.err (.updateLeader leader))
    | none => .error .panic
  else .ok ()

theorem exec_mutateState (stub : Uri → MutateRequest → Fallible σ Status RpcResponse)
    (self : RpcClient) (sql : String) (params : List TransportableParam) (w : σ) :
    (self.mutateState stub sql params).run.exec w =
      ((match ((stub self.uri ⟨sql, encoded params⟩).run.exec w).1 with
        | .ok resp => writeResult resp
        | .error e => .error (.err (.networkError e))),
       ((stub self.uri ⟨sql, encoded params⟩).run.exec w).2) := by
  unfold mutateState
  rw [exec_run_bind_ok (a := encoded params) (t := w) (by simp [Except.mapError]), exec_run_bind,
    exec_run_mapErr]
  rcases (stub self.uri ⟨sql, encoded params⟩).run.exec w with ⟨e | resp, t⟩
  · rfl
  · unfold writeResult
    rcases hl : resp.leader with _ | leader <;>
      by_cases hf : resp.error = RpcError.forwardToLeader.toI32 <;> simp [Except.mapError, hf, hl]

end RpcClient

end Replicat
