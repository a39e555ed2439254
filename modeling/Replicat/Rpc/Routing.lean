import Mathlib.Data.List.Basic
import Replicat.Client
import Replicat.Lib.Pool
import Replicat.Storage.Catalog

/-!
# Which address a client is connected to

`RouteCall` are the calls that look a client up in the network and the redirect that changes
the leader; a pool of them covers every sequence and every interleaving of their lock
sections. What a call returns is decided by the state it meets when it looks its node id up,
so `routes_to_requested_iff` reads the addresses off these states.
-/

namespace Replicat

open RpcModels Atomics Atomics.Prog

section Routes

variable {W M F : Type} [UriParser]

inductive RouteCall where
  /-- `get_or_connect_client`. -/
  | connect (nodeId : NodeId) (addr : String)
  /-- `new_client`. -/
  | newClient (nodeId : NodeId) (node : BasicNode)
  /-- `get_leader_client`. -/
  | leaderClient
  /-- The answer `UpdateLeader` to a statement. -/
  | redirect (leader : Node)
  deriving DecidableEq, Repr

namespace RouteCall

/-- The client a call returns, where it returns one. -/
def client : RouteCall → Prog (Net W M F) (Option RpcClient)
  | connect nodeId addr =>
    (ReplicatNetwork.getOrConnectClient nodeId addr).run >>= fun r => .ret r.toOption
  | newClient nodeId node =>
    (ReplicatNetwork.newClient nodeId node).run >>= fun r => .ret (r.toOption.map (·.client))
  | leaderClient => ReplicatClient.getLeaderClient.run >>= fun r => .ret r.toOption
  | redirect leader => .act (Net.setLeader leader) fun _ => .ret none

/-- The node id and the address a call asks for, by the states it meets at its turns. -/
def asks : RouteCall → List (Net W M F) → Option (NodeId × String)
  | connect nodeId addr, _ => some (nodeId, addr)
  | newClient nodeId node, _ => some (nodeId, node.addr)
  | leaderClient, met => met.head?.map (·.leader)
  | redirect _, _ => none

/-- The state in which a call looks its node id up. -/
def sees : RouteCall → List (Net W M F) → Option (Net W M F)
  | connect _ _, met => met.head?
  | newClient _ _, met => met.head?
  | leaderClient, met => met.tail.head?
  | redirect _, _ => none

/-! ## What one call returns -/

theorem client_connect (nodeId : NodeId) (addr : String) :
    (connect nodeId addr).client (W := W) (M := M) (F := F) = .act id fun w =>
      match w.clients nodeId, RpcClient.connect addr with
      | some (_, client), _ => .ret (some client)
      | none, .error _ => .ret none
      | none, .ok client => .act (Net.insertClient nodeId addr client) fun _ => .ret (some client) := by
  show (ReplicatNetwork.getOrConnectClient nodeId addr).run >>= (fun r => .ret r.toOption) = _
  rw [ReplicatNetwork.getOrConnectClient_eq, act_bind]
  refine congrArg (Prog.act id) (funext fun w => ?_)
  rcases w.clients nodeId with _ | ⟨a, client⟩
  · rcases RpcClient.connect addr with e | client <;> rfl
  · rfl

theorem client_newClient (nodeId : NodeId) (node : BasicNode) :
    (newClient nodeId node).client (W := W) (M := M) (F := F) =
      (connect nodeId node.addr).client := by
  show (ReplicatNetwork.newClient nodeId node).run >>=
    (fun r => .ret (r.toOption.map (·.client))) = _
  unfold ReplicatNetwork.newClient
  rw [ExceptT.run_bind, bind_assoc]
  refine congrArg ((ReplicatNetwork.getOrConnectClient nodeId node.addr).run >>= ·)
    (funext fun r => ?_)
  cases r <;> rfl

theorem client_leaderClient :
    leaderClient.client (W := W) (M := M) (F := F) =
      .act id fun w => (connect w.leader.1 w.leader.2).client := by
  show Prog.act id _ = _
  refine congrArg (Prog.act id) (funext fun w => ?_)
  show (mapErr _ (ReplicatNetwork.getOrConnectClient w.leader.1 w.leader.2)).run >>=
    (fun r => .ret r.toOption) = _
  show ((ReplicatNetwork.getOrConnectClient w.leader.1 w.leader.2).run >>= fun r =>
    .ret (r.mapError _)) >>= (fun r => .ret r.toOption) = _
  rw [bind_assoc]
  refine congrArg ((ReplicatNetwork.getOrConnectClient w.leader.1 w.leader.2).run >>= ·)
    (funext fun r => ?_)
  cases r <;> rfl

/-- A call that finds a client for its node id returns it. -/
theorem feed_connect_stored {w : Net W M F} {nodeId : NodeId} {addr stored : String}
    {found : RpcClient} (h : w.clients nodeId = some (stored, found)) (met : List (Net W M F)) :
    (connect nodeId addr).client.feed (w :: met) = .ret (some found) := by
  rw [client_connect, feed_act, h, feed_ret]

/-- A call that finds none returns one for its address. -/
theorem feed_connect_new {w : Net W M F} {nodeId : NodeId} {addr : String} {new : RpcClient}
    {met : List (Net W M F)} (h : w.clients nodeId = none)
    (hret : (connect nodeId addr).client.feed (w :: met) = .ret (some new)) :
    RpcClient.connect addr = .ok new := by
  rw [client_connect, feed_act, h] at hret
  rcases hconnect : RpcClient.connect addr with e | client <;> rw [hconnect] at hret
  · rw [feed_ret] at hret
    cases hret
  · cases met with
    | nil => cases hret
    | cons w' met =>
      rw [feed_act, feed_ret] at hret
      cases hret
      rfl

/-- Every call is the call of `connect` for what it asks, from the state it sees on. -/
theorem feed_client {c : RouteCall} {met : List (Net W M F)} {nodeId : NodeId} {addr : String}
    {w : Net W M F} (hasks : c.asks met = some (nodeId, addr)) (hsees : c.sees met = some w) :
    ∃ rest, c.client.feed met = (connect nodeId addr).client.feed (w :: rest) := by
  cases c with
  | connect n a =>
    obtain ⟨rfl, rfl⟩ : n = nodeId ∧ a = addr := by simpa [asks] using hasks
    obtain ⟨rest, rfl⟩ := List.head?_eq_some_iff.mp hsees
    exact ⟨rest, rfl⟩
  | newClient n node =>
    obtain ⟨rfl, rfl⟩ : n = nodeId ∧ node.addr = addr := by simpa [asks] using hasks
    obtain ⟨rest, rfl⟩ := List.head?_eq_some_iff.mp hsees
    exact ⟨rest, by rw [client_newClient]⟩
  | leaderClient =>
    cases met with
    | nil => cases hasks
    | cons w₀ met =>
      have hleader : w₀.leader = (nodeId, addr) := by simpa [asks] using hasks
      obtain ⟨rest, rfl⟩ : ∃ rest, met = w :: rest := List.head?_eq_some_iff.mp hsees
      refine ⟨rest, ?_⟩
      rw [client_leaderClient, feed_act, hleader]
  | redirect leader => cases hasks

/-- A call that returns a client has looked its node id up. -/
theorem asks_of_returned {c : RouteCall} {met : List (Net W M F)} {found : RpcClient}
    (h : c.client.feed met = .ret (some found)) :
    ∃ nodeId addr w, c.asks met = some (nodeId, addr) ∧ c.sees met = some w := by
  cases c with
  | connect nodeId addr =>
    rw [client_connect] at h
    cases met with
    | nil => cases h
    | cons w met => exact ⟨nodeId, addr, w, rfl, rfl⟩
  | newClient nodeId node =>
    rw [client_newClient, client_connect] at h
    cases met with
    | nil => cases h
    | cons w met => exact ⟨nodeId, node.addr, w, rfl, rfl⟩
  | leaderClient =>
    rw [client_leaderClient] at h
    match met, h with
    | [w], h =>
      rw [feed_act, client_connect] at h
      cases h
    | w :: w' :: met, _ => exact ⟨w.leader.1, w.leader.2, w', rfl, rfl⟩
  | redirect leader =>
    cases met with
    | nil => cases h
    | cons w met =>
      have hnone : (redirect leader).client.feed (w :: met) = .ret none := feed_ret none met
      rw [hnone] at h
      cases h

end RouteCall

/-! ## The network's invariant -/

/-- Every stored client is connected to the address it is stored under. -/
def Net.Sound (w : Net W M F) : Prop :=
  ∀ nodeId addr client, w.clients nodeId = some (addr, client) → RpcClient.connect addr = .ok client

theorem Net.sound_fresh (leader : NodeId × String) : (Net.fresh leader : Net W M F).Sound := by
  intro nodeId addr client h
  cases h

theorem Net.Sound.insertClient {w : Net W M F} (h : w.Sound) {nodeId : NodeId} {addr : String}
    {client : RpcClient} (hclient : RpcClient.connect addr = .ok client) :
    (w.insertClient nodeId addr client).Sound := by
  intro n a c hc
  by_cases hn : n = nodeId
  · subst hn
    obtain ⟨rfl, rfl⟩ : addr = a ∧ client = c := by simpa [Net.insertClient] using hc
    exact hclient
  · refine h n a c ?_
    simpa [Net.insertClient, hn] using hc

theorem RouteCall.within_connect (nodeId : NodeId) (addr : String) :
    ((connect nodeId addr).client (W := W) (M := M) (F := F)).Within (Keeps Net.Sound) := by
  rw [client_connect]
  refine .act (fun w h => h) fun w => ?_
  rcases w.clients nodeId with _ | ⟨a, found⟩
  · rcases hconnect : RpcClient.connect addr with e | client
    · exact .ret _
    · exact .act (fun w h => h.insertClient hconnect) fun w => .ret _
  · exact .ret _

/-- Every call keeps the network sound, action by action. -/
theorem RouteCall.within_client (c : RouteCall) :
    (c.client (W := W) (M := M) (F := F)).Within (Keeps Net.Sound) := by
  cases c with
  | connect nodeId addr => exact within_connect nodeId addr
  | newClient nodeId node =>
    rw [client_newClient]
    exact within_connect nodeId node.addr
  | leaderClient =>
    rw [client_leaderClient]
    exact .act (fun w h => h) fun w => within_connect _ _
  | redirect leader => exact .act (fun w h => h) fun w => .ret _

/-! ## The law -/

section Law

variable {ι : Type} [DecidableEq ι]

/-- A process that has connected to no node yet, and the calls it will make. -/
def routePool (calls : ι → RouteCall) (leader : NodeId × String) :
    Pool ι (Net W M F) fun _ => Option RpcClient where
  threads i := (calls i).client
  state := .fresh leader

variable (W M F)

/-- The states call `i` meets at its turns. -/
def met (calls : ι → RouteCall) (leader : NodeId × String) (sched : List ι) (i : ι) :
    List (Net W M F) :=
  (routePool calls leader).turns i sched

/-- Call `i` has returned `Ok` with this client. -/
def Returned (calls : ι → RouteCall) (leader : NodeId × String) (sched : List ι) (i : ι)
    (client : RpcClient) : Prop :=
  ((routePool (W := W) (M := M) (F := F) calls leader).run sched).threads i = .ret (some client)

variable {W M F}

theorem returned_iff {calls : ι → RouteCall} {leader : NodeId × String} {sched : List ι} {i : ι}
    {client : RpcClient} : Returned W M F calls leader sched i client ↔
      (calls i).client.feed (met W M F calls leader sched i) = .ret (some client) := by
  unfold Returned met
  rw [Pool.run_threads]
  exact Iff.rfl

theorem sound_of_sees {calls : ι → RouteCall} {leader : NodeId × String} {sched : List ι} {i : ι}
    {w : Net W M F} (h : (calls i).sees (met W M F calls leader sched i) = some w) : w.Sound := by
  refine Pool.turns_keep (c := routePool calls leader) (fun j => (calls j).within_client)
    (Net.sound_fresh leader) sched i w ?_
  show w ∈ met W M F calls leader sched i
  cases hcall : calls i with
  | connect nodeId addr => rw [hcall] at h; exact List.mem_of_head? h
  | newClient nodeId node => rw [hcall] at h; exact List.mem_of_head? h
  | leaderClient => rw [hcall] at h; exact List.mem_of_mem_tail (List.mem_of_head? h)
  | redirect leader => rw [hcall] at h; cases h

variable (W M F) in
/-- **Routing**: every client returned is connected to the address asked for exactly where no
call ever finds its node id stored under an address that leads elsewhere. -/
theorem routes_to_requested_iff (calls : ι → RouteCall) (leader : NodeId × String)
    (sched : List ι) :
    (∀ i client, Returned W M F calls leader sched i client →
      ∃ nodeId addr, (calls i).asks (met W M F calls leader sched i) = some (nodeId, addr) ∧
        RpcClient.connect addr = .ok client) ↔
    ∀ i nodeId addr w stored client,
      (calls i).asks (met W M F calls leader sched i) = some (nodeId, addr) →
      (calls i).sees (met W M F calls leader sched i) = some w →
      w.clients nodeId = some (stored, client) →
      RpcClient.connect stored = RpcClient.connect addr := by
  constructor
  · intro h i nodeId addr w stored found hasks hsees hstored
    obtain ⟨rest, hfeed⟩ := RouteCall.feed_client hasks hsees
    have hret : Returned W M F calls leader sched i found := by
      rw [returned_iff, hfeed]
      exact RouteCall.feed_connect_stored hstored rest
    obtain ⟨nodeId', addr', hasks', hconnect⟩ := h i found hret
    rw [hasks] at hasks'
    cases hasks'
    rw [hconnect]
    exact sound_of_sees hsees nodeId stored found hstored
  · intro h i found hret
    rw [returned_iff] at hret
    obtain ⟨nodeId, addr, w, hasks, hsees⟩ := RouteCall.asks_of_returned hret
    refine ⟨nodeId, addr, hasks, ?_⟩
    obtain ⟨rest, hfeed⟩ := RouteCall.feed_client hasks hsees
    rw [hfeed] at hret
    rcases hclients : w.clients nodeId with _ | ⟨stored, client⟩
    · exact RouteCall.feed_connect_new hclients hret
    · rw [RouteCall.feed_connect_stored hclients] at hret
      cases hret
      rw [← h i nodeId addr w stored _ hasks hsees hclients]
      exact sound_of_sees hsees nodeId stored _ hclients

end Law

end Routes

/-- Node 1 is connected to at `a:1`; then a client for `b:2` is asked for, by raft and, after a
redirect, by the client. -/
def movedNode : Fin 4 → RouteCall
  | 0 => .connect 1 "a:1"
  | 1 => .newClient 1 ⟨"b:2"⟩
  | 2 => .redirect ⟨1, "b:2"⟩
  | 3 => .leaderClient

/-- Both are given the client of `a:1`. -/
theorem moved_node_keeps_old_client :
    let sched : List (Fin 4) := [0, 0, 1, 2, 3, 3]
    Returned Unit Unit Unit movedNode (1, "a:1") sched 1 ⟨⟨"http://a:1"⟩⟩ ∧
    Returned Unit Unit Unit movedNode (1, "a:1") sched 3 ⟨⟨"http://a:1"⟩⟩ ∧
    RpcClient.connect "b:2" = .ok ⟨⟨"http://b:2"⟩⟩ ∧
    ¬ ∀ i client, Returned Unit Unit Unit movedNode (1, "a:1") sched i client →
      ∃ nodeId addr, (movedNode i).asks (met Unit Unit Unit movedNode (1, "a:1") sched i) =
        some (nodeId, addr) ∧ RpcClient.connect addr = .ok client := by
  have hraft : Returned Unit Unit Unit movedNode (1, "a:1") [0, 0, 1, 2, 3, 3] 1
      ⟨⟨"http://a:1"⟩⟩ := by rw [Returned]; rfl
  have hclient : Returned Unit Unit Unit movedNode (1, "a:1") [0, 0, 1, 2, 3, 3] 3
      ⟨⟨"http://a:1"⟩⟩ := by rw [Returned]; rfl
  refine ⟨hraft, hclient, rfl, fun h => ?_⟩
  obtain ⟨nodeId, addr, hasks, hconnect⟩ := h 1 _ hraft
  cases hasks
  exact absurd hconnect (by decide)

end Replicat
