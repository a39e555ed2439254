import Mathlib.Logic.Function.Basic
import Replicat.Rpc.Client
import Replicat.Rpc.Server

/-!
# The network of clients

`ReplicatNetwork` of `rpc/raft.rs`: one client for each node id, stored with the address it
was connected to, behind a lock. `Net` holds these clients and the leader of `ReplicatClient`,
which is behind a lock of its own. The other nodes and the transport are free: they may treat
every request as they like.
-/

namespace Replicat

open RpcModels Atomics Atomics.Prog

/-- What becomes of a request. -/
inductive Passage where
  /-- It does not reach the node. -/
  | lost (status : Status)
  /-- The node handles it and the reply does not arrive. -/
  | unheard (status : Status)
  | answered
  deriving DecidableEq, Repr

/-- A write request that was sent, and how it was met: its passage, and the raft core of the
node at the address. -/
structure Contact (W M F : Type) where
  uri : Uri
  request : MutateRequest
  passage : Passage
  raft : ReplicatRaft W M F

/-- The other nodes and the transport: from all requests so far they decide what becomes of
the next one, and what the raft core of the node at its address answers. -/
abbrev Remote (W M F : Type) := List (Contact W M F) → Uri → Passage × ReplicatRaft W M F

/-- What the tasks of a process share, and the requests they sent so far. -/
structure Net (W M F : Type) where
  leader : NodeId × String
  clients : NodeId → Option (String × RpcClient)
  contacts : List (Contact W M F)

structure NetworkError where
  message : String
  deriving DecidableEq, Repr

def NetworkError.new (e : InvalidUri) : NetworkError := ⟨e.message⟩

structure NetworkConnection where
  nodeId : NodeId
  client : RpcClient
  deriving DecidableEq, Repr

variable {W M F : Type}

namespace Net

/-- The network of a process that has connected to no node. -/
def fresh (leader : NodeId × String) : Net W M F := ⟨leader, fun _ => none, []⟩

def insertClient (nodeId : NodeId) (addr : String) (client : RpcClient) (w : Net W M F) : Net W M F :=
  { w with clients := Function.update w.clients nodeId (some (addr, client)) }

def setLeader (leader : Node) (w : Net W M F) : Net W M F :=
  { w with leader := (leader.id, leader.rpcAddr) }

def addContact (contact : Contact W M F) (w : Net W M F) : Net W M F :=
  { w with contacts := w.contacts ++ [contact] }

@[simp] theorem insertClient_contacts (nodeId : NodeId) (addr : String) (client : RpcClient)
    (w : Net W M F) : (w.insertClient nodeId addr client).contacts = w.contacts := rfl

@[simp] theorem setLeader_contacts (leader : Node) (w : Net W M F) :
    (w.setLeader leader).contacts = w.contacts := rfl

@[simp] theorem addContact_contacts (contact : Contact W M F) (w : Net W M F) :
    (w.addContact contact).contacts = w.contacts ++ [contact] := rfl

end Net

namespace ReplicatNetwork

variable [UriParser]

def getOrConnectClient (nodeId : NodeId) (addr : String) :
    Fallible (Net W M F) NetworkError RpcClient := do
  let existing ← liftAct fun w => (w.clients nodeId, w)
  if let some (addr, client) := existing then
    -- Both sides are the stored address: the pattern shadows the argument.
    if addr = addr then
      return client
  let client ← liftResult ((RpcClient.connect addr).mapError NetworkError.new)
  liftAct fun w => ((), w.insertClient nodeId addr client)
  return client

/-- `RaftNetworkFactory::new_client`. -/
def newClient (nodeId : NodeId) (node : BasicNode) :
    Fallible (Net W M F) NetworkError NetworkConnection := do
  let client ← getOrConnectClient nodeId node.addr
  return { nodeId, client }

/-- A client that is stored is returned, else one is connected and stored. -/
theorem getOrConnectClient_eq (nodeId : NodeId) (addr : String) :
    (getOrConnectClient nodeId addr : Fallible (Net W M F) _ _).run =
      .act id fun w =>
        match w.clients nodeId, RpcClient.connect addr with
        | some (_, client), _ => .ret (.ok client)
        | none, .error e => .ret (.error (.new e))
        | none, .ok client => .act (Net.insertClient nodeId addr client) fun _ => .ret (.ok client) := by
  have htail : (do
      let client ← liftResult ((RpcClient.connect addr).mapError NetworkError.new)
      liftAct fun w => ((), w.insertClient nodeId addr client)
      return client : Fallible (Net W M F) NetworkError RpcClient).run =
        match RpcClient.connect addr with
        | .error e => .ret (.error (.new e))
        | .ok client => .act (Net.insertClient nodeId addr client) fun _ => .ret (.ok client) := by
    rcases RpcClient.connect addr with e | client <;> rfl
  unfold getOrConnectClient
  refine congrArg (Prog.act id) (funext fun w => ?_)
  show Prog.bind (.ret (Except.ok (w.clients nodeId))) _ = _
  rcases w.clients nodeId with _ | ⟨a, client⟩
  · refine Eq.trans htail ?_
    rcases RpcClient.connect addr with e | client <;> rfl
  · show ExceptT.run (if a = a then return client else _) = _
    rw [if_pos rfl]
    rfl

end ReplicatNetwork

end Replicat
