import Replicat.Rpc.Network

/-!
# The client of the database

`ReplicatClient` of `client.rs`: it sends statements to the node it takes for the leader and
follows redirects. A request is met as `Remote` says, the environment of every program here.
-/

namespace Replicat

open RpcModels Atomics Atomics.Prog

variable {W M F : Type}

section Deliver

variable [Serde W] [Serde M] [Serde F] [Serde (List TransportableParam)]

/-- A write request travels to the node at `uri`. -/
def Net.deliver (remote : Remote W M F) (uri : Uri) (request : MutateRequest) :
    Fallible (Net W M F) Status RpcResponse := do
  let contact ← liftAct fun w =>
    let (passage, raft) := remote w.contacts uri
    let contact := { uri, request, passage, raft : Contact W M F }
    (contact, w.addContact contact)
  match contact.passage with
  | .lost status => throw status
  | .unheard status => throw status
  | .answered => liftResult (RpcServer.mutateState ⟨contact.raft⟩ request)

/-- The contact the next request to `uri` makes. -/
def Net.nextContact (remote : Remote W M F) (w : Net W M F) (uri : Uri)
    (request : MutateRequest) : Contact W M F :=
  ⟨uri, request, (remote w.contacts uri).1, (remote w.contacts uri).2⟩

theorem exec_deliver (remote : Remote W M F) (uri : Uri) (request : MutateRequest)
    (w : Net W M F) :
    (Net.deliver remote uri request).run.exec w =
      ((match (w.nextContact remote uri request).passage with
        | .lost status => .error status
        | .unheard status => .error status
        | .answered =>
          RpcServer.mutateState ⟨(w.nextContact remote uri request).raft⟩ request),
       w.addContact (w.nextContact remote uri request)) := by
  unfold Net.deliver Net.nextContact
  rw [exec_run_bind, exec_run_liftAct]
  rcases remote w.contacts uri with ⟨_ | _ | _, raft⟩ <;> rfl

end Deliver

namespace ReplicatClient

variable [UriParser]

def getLeaderClient : Fallible (Net W M F) Rpc.Error RpcClient := do
  let (nodeId, addr) ← liftAct fun w => (w.leader, w)
  mapErr (fun _ => .networkError (.unavailable "Unable to connect to remote client"))
    (ReplicatNetwork.getOrConnectClient nodeId addr)

/-- The stored client of the leader's node, or a new one for its address. -/
theorem exec_getLeaderClient (w : Net W M F) :
    getLeaderClient.run.exec w =
      match w.clients w.leader.1, RpcClient.connect w.leader.2 with
      | some (_, client), _ => (.ok client, w)
      | none, .error _ =>
        (.error (.networkError (.unavailable "Unable to connect to remote client")), w)
      | none, .ok client => (.ok client, w.insertClient w.leader.1 w.leader.2 client) := by
  unfold getLeaderClient
  rw [exec_run_bind, exec_run_liftAct]
  show (mapErr _ (ReplicatNetwork.getOrConnectClient w.leader.1 w.leader.2)).run.exec w = _
  rw [exec_run_mapErr, ReplicatNetwork.getOrConnectClient_eq, exec_act]
  rcases w.clients w.leader.1 with _ | ⟨a, client⟩
  · rcases RpcClient.connect w.leader.2 with e | client <;> rfl
  · rfl

/-- Looking for a client sends nothing. -/
theorem getLeaderClient_contacts (w : Net W M F) :
    (getLeaderClient.run.exec w).2.contacts = w.contacts := by
  rw [exec_getLeaderClient]
  rcases w.clients w.leader.1 with _ | ⟨a, client⟩
  · rcases RpcClient.connect w.leader.2 with e | client <;> rfl
  · rfl

variable [Serde W] [Serde M] [Serde F] [Serde (List TransportableParam)]

/-- One turn of the loop of `execute`; `again` is what follows a redirect. -/
def executeTurn (remote : Remote W M F) (sql : String) (transportable : List TransportableParam)
    (again : Fallible (Net W M F) (Stop Rpc.Error) Unit) :
    Fallible (Net W M F) (Stop Rpc.Error) Unit := do
  let client ← mapErr .err getLeaderClient
  let result ← attempt (client.mutateState (Net.deliver remote) sql transportable)
  match result with
  | .error (.err (.updateLeader leader)) => do
    liftAct fun w => ((), w.setLeader leader)
    again
  | .error e => throw e
  | .ok () => return ()

theorem exec_executeTurn (remote : Remote W M F) (sql : String)
    (transportable : List TransportableParam)
    (again : Fallible (Net W M F) (Stop Rpc.Error) Unit) (w : Net W M F) :
    (executeTurn remote sql transportable again).run.exec w =
      match getLeaderClient.run.exec w with
      | (.error e, w₁) => (.error (.err e), w₁)
      | (.ok client, w₁) =>
        match (client.mutateState (Net.deliver remote) sql transportable).run.exec w₁ with
        | (.error (.err (.updateLeader leader)), w₂) => again.run.exec (w₂.setLeader leader)
        | (.error e, w₂) => (.error e, w₂)
        | (.ok (), w₂) => (.ok (), w₂) := by
  unfold executeTurn
  rw [exec_run_bind, exec_run_mapErr]
  rcases getLeaderClient.run.exec w with ⟨e | client, w₁⟩
  · rfl
  · show Prog.exec (ExceptT.run (attempt _ >>= _)) w₁ = _
    rw [exec_run_bind, exec_run_attempt]
    show _ = match (client.mutateState (Net.deliver remote) sql transportable).run.exec w₁ with
      | (.error (.err (.updateLeader leader)), w₂) => again.run.exec (w₂.setLeader leader)
      | (.error e, w₂) => (.error e, w₂)
      | (.ok (), w₂) => (.ok (), w₂)
    rcases (client.mutateState (Net.deliver remote) sql transportable).run.exec w₁ with
      ⟨((_ | _ | _ | leader | _) | _) | _, w₂⟩ <;> rfl

theorem exec_executeTurn_ok {remote : Remote W M F} {sql : String}
    {transportable : List TransportableParam}
    {again : Fallible (Net W M F) (Stop Rpc.Error) Unit} {w w₁ w₂ : Net W M F} {client : RpcClient}
    (hget : getLeaderClient.run.exec w = (.ok client, w₁))
    (hwrite : (client.mutateState (Net.deliver remote) sql transportable).run.exec w₁ =
      (.ok (), w₂)) :
    (executeTurn remote sql transportable again).run.exec w = (.ok (), w₂) := by
  rw [exec_executeTurn, hget]
  simp only [hwrite]

/-- The loop, for `n_retry = retries + 1`: a redirect takes one off it, and at 0 the loop ends. -/
def executeLoop (remote : Remote W M F) (sql : String) (transportable : List TransportableParam) :
    Nat → Fallible (Net W M F) (Stop Rpc.Error) Unit
  | 0 => executeTurn remote sql transportable (throw (.err .unknownLeader))
  | retries + 1 =>
    executeTurn remote sql transportable (executeLoop remote sql transportable retries)

def execute (remote : Remote W M F) (sql : String) (params : ParamsValue) :
    Fallible (Net W M F) (Stop Rpc.Error) Unit := do
  let transportable := params.params
  executeLoop remote sql transportable 2

end ReplicatClient

end Replicat
