import Replicat.Lib.Pool
import Replicat.Rpc.ProposeOnce

/-!
# Clones of one client

`ReplicatClient` is `Clone`: its clones share the leader behind one lock and the network behind
another, and their calls of `execute` run beside each other. What one call learns from a redirect
all of them follow, and they use each other's connections. `shared_client_accounts`: still every
request belongs to one call, no call sends more than three, and no request goes to a node that
nobody named.
-/

namespace Replicat

open RpcModels Atomics Atomics.Prog

section Named

variable {W M F ι : Type} [Serde (List TransportableParam)] (calls : ι → String × ParamsValue)
  (leader : NodeId × String)

/-- The node is the one the client was made with, or the one that the answer to a request of one of the
calls has named. -/
def Named (past : List (Contact W M F)) (node : NodeId × String) : Prop :=
  node = leader ∨ ∃ c ∈ past, ∃ i named, c.request = ⟨(calls i).1, encoded (calls i).2.params⟩ ∧
    c.Names (calls i).1 (calls i).2.params named ∧ (named.id, named.rpcAddr) = node

variable {calls leader} in
theorem Named.mono {past later : List (Contact W M F)} {node : NodeId × String}
    (h : Named calls leader past node) (hlater : past <+: later) : Named calls leader later node := by
  rcases h with h | ⟨c, hc, hnames⟩
  · exact .inl h
  · exact .inr ⟨c, hlater.subset hc, hnames⟩

variable [UriParser]

/-- The client of a named node. -/
def NamedClient (past : List (Contact W M F)) (client : RpcClient) : Prop :=
  ∃ nodeId addr, Named calls leader past (nodeId, addr) ∧ RpcClient.connect addr = .ok client

/-- What the clones know was named to one of them, and what they sent went there. -/
structure Net.Directed (w : Net W M F) : Prop where
  known : Named calls leader w.contacts w.leader
  stored : ∀ nodeId addr client, w.clients nodeId = some (addr, client) →
    Named calls leader w.contacts (nodeId, addr) ∧ RpcClient.connect addr = .ok client
  sent : ∀ past c rest, w.contacts = past ++ c :: rest → NamedClient calls leader past ⟨c.uri⟩

/-- No contact is undone. -/
def Net.Extends (w w' : Net W M F) : Prop := w.contacts <+: w'.contacts

instance : Std.Refl (Net.Extends (W := W) (M := M) (F := F)) := ⟨fun _ => List.prefix_refl _⟩

instance : IsTrans (Net W M F) Net.Extends := ⟨fun _ _ _ h h' => h.trans h'⟩

variable {calls leader}

theorem NamedClient.mono {past later : List (Contact W M F)} {client : RpcClient}
    (h : NamedClient calls leader past client) (hlater : past <+: later) :
    NamedClient calls leader later client := by
  obtain ⟨nodeId, addr, hnamed, hconnect⟩ := h
  exact ⟨nodeId, addr, hnamed.mono hlater, hconnect⟩

namespace Net.Directed

variable {w : Net W M F}

theorem fresh : (Net.fresh leader : Net W M F).Directed calls leader := by
  refine ⟨.inl rfl, fun _ _ _ h => ?_, fun past c rest h => ?_⟩
  · cases h
  · exact absurd h (by simp [Net.fresh])

theorem insertClient (h : w.Directed calls leader) {nodeId : NodeId} {addr : String} {client : RpcClient}
    (hnamed : Named calls leader w.contacts (nodeId, addr)) (hconnect : RpcClient.connect addr = .ok client) :
    (w.insertClient nodeId addr client).Directed calls leader := by
  refine ⟨h.known, fun n a c hc => ?_, h.sent⟩
  by_cases hn : n = nodeId
  · subst hn
    obtain ⟨rfl, rfl⟩ : addr = a ∧ client = c := by simpa [Net.insertClient] using hc
    exact ⟨hnamed, hconnect⟩
  · refine h.stored n a c ?_
    simpa [Net.insertClient, hn] using hc

theorem addContact (h : w.Directed calls leader) {c : Contact W M F}
    (hc : NamedClient calls leader w.contacts ⟨c.uri⟩) : (w.addContact c).Directed calls leader := by
  have hlater : w.contacts <+: (w.addContact c).contacts := List.prefix_append ..
  refine ⟨h.known.mono hlater, fun n a client hclient => ?_, fun past d rest hpast => ?_⟩
  · obtain ⟨hnamed, hconnect⟩ := h.stored n a client hclient
    exact ⟨hnamed.mono hlater, hconnect⟩
  · have hpast : w.contacts ++ [c] = past ++ d :: rest := hpast
    rcases List.eq_nil_or_concat rest with rfl | ⟨rest, e, rfl⟩
    · obtain ⟨rfl, hd⟩ := List.append_inj' hpast rfl
      cases hd
      exact hc
    · rw [List.concat_eq_append, ← List.cons_append, ← List.append_assoc] at hpast
      exact h.sent past d rest (List.append_inj' hpast rfl).1

theorem setLeader (h : w.Directed calls leader) {node : Node}
    (hnamed : Named calls leader w.contacts (node.id, node.rpcAddr)) :
    (w.setLeader node).Directed calls leader := ⟨hnamed, h.stored, h.sent⟩

end Net.Directed

end Named

/-! ## Each call by itself -/

section Call

variable {W M F ι : Type} [UriParser] [Serde W] [Serde M] [Serde F] [Serde (List TransportableParam)]
  {calls : ι → String × ParamsValue} {leader : NodeId × String} {remote : Remote W M F}

open Pool (Guarded)

omit [Serde W] [Serde M] [Serde F] in
/-- A request to a named node leaves the clones directed, and so does following its answer. -/
theorem guarded_requestTurn (i : ι) {again : Fallible (Net W M F) (Stop Rpc.Error) Unit}
    (hagain : ∀ w, Guarded Net.Extends (Net.Directed calls leader) newContacts (fun _ _ => True) again.run w)
    {client : RpcClient} {w : Net W M F} (hclient : NamedClient calls leader w.contacts client) :
    Guarded Net.Extends (Net.Directed calls leader) newContacts (fun _ _ => True)
      (requestTurn remote (calls i).1 (calls i).2.params again client) w := by
  refine .act (fun t ht h => ⟨h.addContact (hclient.mono ht), List.prefix_append ..⟩) fun t ht h => ?_
  obtain ⟨c, hc⟩ : ∃ c, c = requestTo remote (calls i).1 (calls i).2.params client t := ⟨_, rfl⟩
  have hcases : (∃ node, c.Names (calls i).1 (calls i).2.params node ∧ _) ∨ _ := afterRequest_cases c
  rw [← hc]
  rcases hcases with ⟨node, hnames, hnode⟩ | hends
  · rw [hnode]
    refine .act (fun t' ht' h' => ⟨h'.setLeader (.inr ⟨_, ht'.subset ?_, i, node, hc ▸ rfl, hnames, rfl⟩),
      List.prefix_refl _⟩) fun t' _ _ => hagain _
    exact List.mem_append_right _ (hc ▸ List.mem_cons_self)
  · split
    · rename_i node hnode
      exact absurd hnode (hends node)
    · exact .ret trivial

theorem guarded_turn (i : ι) {again : Fallible (Net W M F) (Stop Rpc.Error) Unit}
    (hagain : ∀ w, Guarded Net.Extends (Net.Directed calls leader) newContacts (fun _ _ => True) again.run w)
    (w : Net W M F) :
    Guarded Net.Extends (Net.Directed calls leader) newContacts (fun _ _ => True)
      (ReplicatClient.executeTurn remote (calls i).1 (calls i).2.params again).run w := by
  rw [executeTurn_eq]
  -- the leader is read in `t`, and looked up in `t'`
  refine .act (fun t _ h => ⟨h, List.prefix_refl _⟩) fun t _ h => ?_
  refine .act (fun t' _ h' => ⟨h', List.prefix_refl _⟩) fun t' ht' h' => ?_
  rcases hstored : t'.clients t.leader.1 with _ | ⟨addr, client⟩
  · rcases hconnect : RpcClient.connect t.leader.2 with e | client
    · exact .ret trivial
    · have hnamed : ∀ {t'' : Net W M F}, Net.Extends t' t'' → Named calls leader t''.contacts t.leader :=
        fun ht'' => h.known.mono (ht'.trans ht'')
      refine .act (fun t'' ht'' h'' => ⟨h''.insertClient (hnamed ht'') hconnect, List.prefix_refl _⟩)
        fun t'' ht'' _ => ?_
      exact guarded_requestTurn i hagain ⟨_, _, hnamed ht'', hconnect⟩
  · obtain ⟨hnamed, hconnect⟩ := h'.stored _ _ _ hstored
    exact guarded_requestTurn i hagain ⟨_, _, hnamed, hconnect⟩

theorem guarded_loop (i : ι) (retries : Nat) (w : Net W M F) :
    Guarded Net.Extends (Net.Directed calls leader) newContacts (fun _ _ => True)
      (ReplicatClient.executeLoop remote (calls i).1 (calls i).2.params retries).run w := by
  induction retries generalizing w with
  | zero => exact guarded_turn i (fun _ => .ret trivial) w
  | succ retries ih => exact guarded_turn i ih w

/-- A call adds its contacts, and nothing else, to those that were made. -/
theorem logs_loop (sql : String) (params : List TransportableParam) (retries : Nat) :
    (ReplicatClient.executeLoop remote sql params retries).run.Within fun w w' : Net W M F =>
      w'.contacts = w.contacts ++ newContacts w w' := by
  have hquiet : ∀ {u : Net W M F → Net W M F} {n : Net W M F → Prog (Net W M F) (Except (Stop Rpc.Error) Unit)},
      (∀ w, (u w).contacts = w.contacts) →
      (∀ w, (n w).Within fun w w' => w'.contacts = w.contacts ++ newContacts w w') →
      (Prog.act u n).Within fun w w' => w'.contacts = w.contacts ++ newContacts w w' :=
    fun hu hn => .act (fun w => by simp [newContacts, hu]) hn
  have hturn : ∀ again : Fallible (Net W M F) (Stop Rpc.Error) Unit,
      (again.run.Within fun w w' => w'.contacts = w.contacts ++ newContacts w w') →
      (ReplicatClient.executeTurn remote sql params again).run.Within fun w w' =>
        w'.contacts = w.contacts ++ newContacts w w' := by
    intro again hagain
    refine executeTurn_rule hquiet (.ret _) fun client => ?_
    refine .act (fun w => by simp [newContacts]) fun w => ?_
    split
    · exact hquiet (fun _ => rfl) fun _ => hagain
    · exact .ret _
  induction retries with
  | zero => exact hturn _ (.ret _)
  | succ retries ih => exact hturn _ ih

end Call

/-! ## The clones together -/

section Clones

variable {W M F ι : Type} [UriParser] [Serde W] [Serde M] [Serde F] [Serde (List TransportableParam)]
  (remote : Remote W M F) (calls : ι → String × ParamsValue) (leader : NodeId × String)

/-- One clone for each call. -/
def clones : Pool ι (Net W M F) fun _ => Except (Stop Rpc.Error) Unit :=
  ⟨fun i => (ReplicatClient.execute remote (calls i).1 (calls i).2).run, Net.fresh leader⟩

/-- What the clones have sent, by call: each call by itself, on the states it met. -/
theorem clones_sent [DecidableEq ι] (sched : List ι) :
    ∃ sent : List (ι × Contact W M F),
      sent.map Prod.snd = ((clones remote calls leader).run sched).state.contacts ∧
      ∀ i, (sent.filter (·.1 = i)).map Prod.snd =
        sentBy (ReplicatClient.execute remote (calls i).1 (calls i).2).run
          ((clones remote calls leader).turns i sched) := by
  obtain ⟨sent, hlog, hown⟩ := Pool.run_emits (c := clones remote calls leader)
    (fun i => logs_loop (calls i).1 (calls i).2.params 2) sched
  exact ⟨sent, hlog.symm, hown⟩

/-- **The requests of clones that share a leader and a network**, under every interleaving: each
belongs to the call that sends it on the states it meets, which sends three at most, and another only
after a redirect; and each goes to the first leader, or to a node that the answer to a request of one of
the calls has named before. -/
theorem shared_client_accounts [DecidableEq ι] (sched : List ι) :
    (∃ sent : List (ι × Contact W M F),
      sent.map Prod.snd = ((clones remote calls leader).run sched).state.contacts ∧
      ∀ i, let own := (sent.filter (·.1 = i)).map Prod.snd
        own = sentBy (ReplicatClient.execute remote (calls i).1 (calls i).2).run
          ((clones remote calls leader).turns i sched) ∧
        own.length ≤ 3 ∧ (∀ c ∈ own, c.request = ⟨(calls i).1, encoded (calls i).2.params⟩) ∧
        (∀ past c, own = past ++ [c] → ∀ d ∈ past, ∃ node, d.Names (calls i).1 (calls i).2.params node) ∧
        (((clones remote calls leader).run sched).threads i = .ret (.error (.err .unknownLeader)) →
          own.length = 3 ∧ ∀ c ∈ own, ∃ node, c.Names (calls i).1 (calls i).2.params node)) ∧
    (∀ past c rest, ((clones remote calls leader).run sched).state.contacts = past ++ c :: rest →
      NamedClient calls leader past ⟨c.uri⟩) ∧
    Named calls leader ((clones remote calls leader).run sched).state.contacts
      ((clones remote calls leader).run sched).state.leader := by
  obtain ⟨hdirected, -⟩ := Pool.run_guarded (c := clones remote calls leader)
    (fun i => guarded_loop i 2 _) Net.Directed.fresh sched
  obtain ⟨sent, hlog, hown⟩ := clones_sent remote calls leader sched
  refine ⟨⟨sent, hlog, fun i => ?_⟩, hdirected.sent, hdirected.known⟩
  have hsends := executeLoop_sends remote (calls i).1 (calls i).2.params 2
    ((clones remote calls leader).turns i sched)
  intro own
  have hsent : own = sentBy (ReplicatClient.executeLoop remote (calls i).1 (calls i).2.params 2).run _ := hown i
  rw [hsent, Pool.run_threads]
  exact ⟨rfl, hsends.length, hsends.request, hsends.again, hsends.unknown⟩

end Clones

end Replicat
