import Replicat.Rpc.SharedClient

/-!
# Clones while one node leads

While one node leads, it takes every write that reaches it and the other nodes redirect to it;
requests and replies may still be lost. `settled_calls_end`: however the calls of the clones
interleave, each of them ends with the statement taken, by its second request, unless one of its own
requests is lost. The exception is a client that was given the leader's id with another address: its
calls follow the redirects to the node they have asked before.
-/

namespace Replicat

open RpcModels Atomics Atomics.Prog

section Settled

variable {W M F : Type}

/-- The node at `server` leads. -/
structure Settled (remote : Remote W M F) (node : Node) (server : Uri) : Prop where
  takes : ∀ past req, ∃ res, (remote past server).2.clientWrite req = .ok res
  redirects : ∀ past uri req, uri ≠ server →
    (remote past uri).2.clientWrite req = .error (.forwardToLeader ⟨some node.id, some ⟨node.rpcAddr⟩⟩)

/-- The request or its reply is lost. -/
def Contact.Missed (c : Contact W M F) (status : Status) : Prop :=
  c.passage = .lost status ∨ c.passage = .unheard status

/-- A call that sent these requests and returned `r`: it has sent `k` at most, and returned `expected`
unless one of them was missed. -/
structure Settles (k : Nat) (expected : Except (Stop Rpc.Error) Unit) (sent : List (Contact W M F))
    (r : Except (Stop Rpc.Error) Unit) : Prop where
  length : sent.length ≤ k
  answered : (∀ c ∈ sent, c.passage = .answered) → r = expected
  missed : ∀ c ∈ sent, ∀ status, c.Missed status → r = .error (.err (.networkError status))

namespace Settles

variable {k : Nat} {expected r : Except (Stop Rpc.Error) Unit} {sent : List (Contact W M F)} {c : Contact W M F}

theorem nil : Settles k expected ([] : List (Contact W M F)) expected := ⟨by simp, fun _ => rfl, by simp⟩

theorem cons (h : Settles k expected sent r) (hc : c.passage = .answered) :
    Settles (k + 1) expected (c :: sent) r := by
  refine ⟨by simpa using h.length, fun hall => h.answered fun d hd => hall d (List.mem_cons_of_mem _ hd), ?_⟩
  rintro d (_ | ⟨_, hd⟩) status hmissed
  · rcases hmissed with hmissed | hmissed <;> rw [hc] at hmissed <;> cases hmissed
  · exact h.missed d hd status hmissed

theorem lost {status : Status} (hc : c.Missed status) :
    Settles (k + 1) expected [c] (.error (.err (.networkError status))) := by
  refine ⟨by simp, fun hall => ?_, ?_⟩
  · have hans := hall c List.mem_cons_self
    rcases hc with hc | hc <;> rw [hc] at hans <;> cases hans
  · rintro d hd status' hmissed
    rw [List.mem_singleton.1 hd] at hmissed
    rcases hc with hc | hc <;> rcases hmissed with hmissed | hmissed <;> rw [hc] at hmissed <;> cases hmissed <;> rfl

end Settles

variable [Serde (List TransportableParam)] {remote : Remote W M F} {node : Node} {server : Uri}

/-- How a request ends while the node leads. -/
theorem Settled.outcome (h : Settled remote node server) (sql : String) (params : List TransportableParam)
    (client : RpcClient) (w : Net W M F) :
    ((requestTo remote sql params client w).passage = .answered ∧
      (requestTo remote sql params client w).outcome sql params =
        if client.uri = server then .ok () else .error (.err (.updateLeader node))) ∨
    ∃ status, (requestTo remote sql params client w).Missed status ∧
      (requestTo remote sql params client w).outcome sql params = .error (.err (.networkError status)) := by
  have hreported : reported ((requestTo remote sql params client w).raft.clientWrite (.execute sql params)) =
      if client.uri = server then .ok () else .error (.err (.updateLeader node)) := by
    show reported ((remote w.contacts client.uri).2.clientWrite _) = _
    by_cases huri : client.uri = server
    · obtain ⟨res, hres⟩ := h.takes w.contacts (.execute sql params)
      rw [if_pos huri, huri, hres]
      rfl
    · rw [if_neg huri, h.redirects _ _ _ huri]
      rfl
  unfold Contact.outcome Contact.Missed
  cases (requestTo remote sql params client w).passage with
  | lost status => exact .inr ⟨status, .inl rfl, rfl⟩
  | unheard status => exact .inr ⟨status, .inr rfl, rfl⟩
  | answered => exact .inl ⟨rfl, hreported⟩

end Settled

/-! ## What the clones know -/

section Oriented

variable {W M F : Type} (leader : NodeId × String) (node : Node) (first server : Uri)

/-- The clones take the first leader or `node` for the leader, and the client that is stored for the id
of `node` is that of `node`, but where the first leader has the same id. -/
structure Oriented (w : Net W M F) : Prop where
  known : w.leader = leader ∨
    w.leader = (node.id, node.rpcAddr) ∧ (leader.1 = node.id → (w.clients node.id).isSome)
  stored : ∀ nodeId addr client, w.clients nodeId = some (addr, client) →
    nodeId = leader.1 ∧ client = ⟨first⟩ ∨ nodeId = node.id ∧ leader.1 ≠ node.id ∧ client = ⟨server⟩

/-- What the clones have learned of `node` they still know. -/
structure Later (w w' : Net W M F) : Prop where
  known : w.leader = (node.id, node.rpcAddr) → w'.leader = (node.id, node.rpcAddr)
  stored : (w.clients node.id).isSome → (w'.clients node.id).isSome

instance : Std.Refl (Later (W := W) (M := M) (F := F) node) := ⟨fun _ => ⟨id, id⟩⟩

instance : IsTrans (Net W M F) (Later node) :=
  ⟨fun _ _ _ h h' => ⟨h'.known ∘ h.known, h'.stored ∘ h.stored⟩⟩

/-- Where a statement goes that is sent to the leader with this id. -/
def addressed (nodeId : NodeId) : Uri := if nodeId = leader.1 then first else server

variable {leader node first server} {w : Net W M F}

theorem Oriented.fresh : Oriented leader node first server (Net.fresh leader : Net W M F) :=
  ⟨.inl rfl, fun _ _ _ h => by cases h⟩

theorem Oriented.addContact (h : Oriented leader node first server w) (c : Contact W M F) :
    Oriented leader node first server (w.addContact c) ∧ Later node w (w.addContact c) :=
  ⟨⟨h.known, h.stored⟩, ⟨id, id⟩⟩

theorem Oriented.setLeader (h : Oriented leader node first server w)
    (hstored : leader.1 = node.id → (w.clients node.id).isSome) :
    Oriented leader node first server (w.setLeader node) ∧ Later node w (w.setLeader node) :=
  ⟨⟨.inr ⟨rfl, hstored⟩, h.stored⟩, ⟨fun _ => rfl, id⟩⟩

theorem Oriented.id_cases (h : Oriented leader node first server w) :
    w.leader.1 = leader.1 ∨ w.leader.1 = node.id ∧ leader.1 ≠ node.id := by
  rcases h.known with hknown | ⟨hknown, -⟩
  · exact .inl (congrArg Prod.fst hknown)
  · by_cases hid : leader.1 = node.id
    · exact .inl ((congrArg Prod.fst hknown).trans hid.symm)
    · exact .inr ⟨congrArg Prod.fst hknown, hid⟩

theorem Oriented.insertClient (h : Oriented leader node first server w) {nodeId : NodeId} (addr : String)
    (hid : nodeId = leader.1 ∨ nodeId = node.id ∧ leader.1 ≠ node.id) :
    Oriented leader node first server (w.insertClient nodeId addr ⟨addressed leader first server nodeId⟩) ∧
      Later node w (w.insertClient nodeId addr ⟨addressed leader first server nodeId⟩) := by
  have hkeep : ∀ n, (w.clients n).isSome →
      ((w.insertClient nodeId addr ⟨addressed leader first server nodeId⟩).clients n).isSome := by
    intro n hn
    by_cases hnode : n = nodeId
    · subst hnode
      simp [Net.insertClient]
    · simpa [Net.insertClient, hnode] using hn
  refine ⟨⟨h.known.imp_right fun hn => ⟨hn.1, fun hid => hkeep _ (hn.2 hid)⟩, fun n a c hc => ?_⟩,
    ⟨id, hkeep _⟩⟩
  by_cases hnode : n = nodeId
  · subst hnode
    obtain ⟨-, rfl⟩ : addr = a ∧ (⟨addressed leader first server n⟩ : RpcClient) = c := by
      simpa [Net.insertClient] using hc
    unfold addressed
    rcases hid with rfl | ⟨rfl, hne⟩
    · exact .inl ⟨rfl, by rw [if_pos rfl]⟩
    · exact .inr ⟨rfl, hne, by rw [if_neg (Ne.symm hne)]⟩
  · refine h.stored n a c ?_
    simpa [Net.insertClient, hnode] using hc

/-- The client that is found for the id of the leader. -/
theorem Oriented.found (h : Oriented leader node first server w) {nodeId : NodeId} {addr : String} {client : RpcClient}
    (hclient : w.clients nodeId = some (addr, client)) : client = ⟨addressed leader first server nodeId⟩ := by
  unfold addressed
  rcases h.stored _ _ _ hclient with ⟨rfl, rfl⟩ | ⟨rfl, hne, rfl⟩
  · rw [if_pos rfl]
  · rw [if_neg (Ne.symm hne)]

end Oriented

/-! ## Each call by itself -/

section Call

open Pool (Guarded)

variable {W M F : Type} [UriParser] [Serde W] [Serde M] [Serde F] [Serde (List TransportableParam)]
  {remote : Remote W M F} {leader : NodeId × String} {node : Node} {first server : Uri} {sql : String}
  {params : List TransportableParam} {again : Fallible (Net W M F) (Stop Rpc.Error) Unit} {k : Nat}
  {expected : Except (Stop Rpc.Error) Unit} {w : Net W M F}

/-- The call settles, whatever the others do as long as they leave the clones oriented. -/
abbrev GuardedCall (leader : NodeId × String) (node : Node) (first server : Uri) (k : Nat)
    (expected : Except (Stop Rpc.Error) Unit) (p : Prog (Net W M F) (Except (Stop Rpc.Error) Unit))
    (w : Net W M F) : Prop :=
  Guarded (Later node) (Oriented leader node first server) newContacts (Settles k expected) p w

omit [UriParser] [Serde W] [Serde M] [Serde F] in
/-- A request that reaches its node is answered; what follows a redirect is a call of its own. -/
theorem guarded_request (h : Settled remote node server) {client : RpcClient}
    (htaken : client.uri = server → expected = .ok ())
    (hredirected : client.uri ≠ server → ∀ t, Later node w t → Oriented leader node first server t →
      (leader.1 = node.id → (t.clients node.id).isSome) ∧
      GuardedCall leader node first server k expected again.run (t.setLeader node)) :
    GuardedCall leader node first server (k + 1) expected (requestTurn remote sql params again client) w := by
  refine .act (fun t _ ht => ht.addContact _) fun t hwt _ => ?_
  have hsent : newContacts t (t.addContact (requestTo remote sql params client t)) =
      [requestTo remote sql params client t] := by simp [newContacts]
  rw [hsent]
  rcases h.outcome sql params client t with ⟨hans, houtcome⟩ | ⟨status, hmissed, houtcome⟩ <;> rw [houtcome]
  · by_cases huri : client.uri = server
    · rw [if_pos huri, htaken huri]
      exact .ret (Settles.nil.cons hans)
    · rw [if_neg huri]
      have hsince : ∀ {t'}, Later node (t.addContact (requestTo remote sql params client t)) t' → Later node w t' :=
        fun ht' => trans_of _ hwt (trans_of _ ⟨id, id⟩ ht')
      refine .silent (fun t' => by simp [newContacts]) (fun t' ht' h' => ?_) fun t' ht' h' => ?_
      · exact h'.setLeader (hredirected huri t' (hsince ht') h').1
      · exact (hredirected huri t' (hsince ht') h').2.imp fun sent r hsettles => hsettles.cons hans
  · exact .ret (Settles.lost hmissed)

/-- A turn sends one request to the node that it takes for the leader, whose client is stored by then. -/
theorem guarded_turn_to (hfirst : RpcClient.connect leader.2 = .ok ⟨first⟩)
    (hserver : RpcClient.connect node.rpcAddr = .ok ⟨server⟩)
    (hrequest : ∀ t s, Later node w t → Oriented leader node first server t → Later node t s →
      (leader.1 = node.id → (s.clients node.id).isSome) →
      GuardedCall leader node first server k expected
        (requestTurn remote sql params again ⟨addressed leader first server t.leader.1⟩) s) :
    GuardedCall leader node first server k expected (ReplicatClient.executeTurn remote sql params again).run w := by
  rw [executeTurn_eq]
  have hread : ∀ t : Net W M F, newContacts t (id t) = [] := fun t => by simp [newContacts]
  -- the leader is read in `t`, and looked up in `t'`
  refine .silent hread (fun t _ ht => ⟨ht, refl_of _ t⟩) fun t hwt ht => ?_
  refine .silent hread (fun t' _ ht' => ⟨ht', refl_of _ t'⟩) fun t' htt' ht' => ?_
  rcases hfound : t'.clients t.leader.1 with _ | ⟨addr, client⟩
  · have hconnect : RpcClient.connect t.leader.2 = .ok ⟨addressed leader first server t.leader.1⟩ := by
      unfold addressed
      rcases ht.known with hknown | ⟨hknown, hstored⟩
      · rw [hknown, if_pos rfl, hfirst]
      · rw [hknown] at hfound ⊢
        have hne : node.id ≠ leader.1 := by
          intro hid
          have := htt'.stored (hstored hid.symm)
          rw [hfound] at this
          cases this
        rw [if_neg hne, hserver]
    rw [hconnect]
    refine .silent (fun s => by simp [newContacts]) (fun s _ hs => hs.insertClient _ ht.id_cases) fun s hs h => ?_
    have hinsert := h.insertClient t.leader.2 ht.id_cases
    refine hrequest t _ hwt ht (trans_of _ htt' (trans_of _ hs hinsert.2)) fun hid => ?_
    rcases ht.id_cases with hnode | ⟨-, hne⟩
    · rw [hnode, hid]
      simp [Net.insertClient]
    · exact absurd hid hne
  · rw [ht'.found hfound]
    refine hrequest t t' hwt ht htt' fun hid => ?_
    rcases ht.id_cases with hnode | ⟨-, hne⟩
    · rw [← hid, ← hnode, hfound]
      rfl
    · exact absurd hid hne

/-- With `node` known, the next request goes to it. -/
theorem guarded_turn_known (h : Settled remote node server) (hfirst : RpcClient.connect leader.2 = .ok ⟨first⟩)
    (hserver : RpcClient.connect node.rpcAddr = .ok ⟨server⟩) (hsame : leader.1 = node.id → first = server)
    (hw : w.leader = (node.id, node.rpcAddr)) :
    GuardedCall leader node first server 1 (.ok ()) (ReplicatClient.executeTurn remote sql params again).run w := by
  refine guarded_turn_to hfirst hserver fun t s hwt _ _ _ => ?_
  have huri : addressed leader first server t.leader.1 = server := by
    unfold addressed
    rw [hwt.known hw]
    split
    · exact hsame (Eq.symm ‹_›)
    · rfl
  rw [huri]
  exact guarded_request h (fun _ => rfl) fun hne => absurd rfl hne

/-- The second request of a call goes to `node` if the first one did not. -/
theorem guarded_loop_ok (h : Settled remote node server) (hfirst : RpcClient.connect leader.2 = .ok ⟨first⟩)
    (hserver : RpcClient.connect node.rpcAddr = .ok ⟨server⟩) (hsame : leader.1 = node.id → first = server)
    (retries : Nat) : GuardedCall leader node first server 2 (.ok ())
      (ReplicatClient.executeLoop remote sql params (retries + 1)).run w := by
  refine guarded_turn_to hfirst hserver fun t s hwt _ hts hs => ?_
  refine guarded_request h (fun _ => rfl) fun huri t' ht' h' => ⟨fun hid => ht'.stored (hs hid), ?_⟩
  cases retries with
  | zero => exact guarded_turn_known h hfirst hserver hsame rfl
  | succ retries => exact guarded_turn_known h hfirst hserver hsame rfl

/-- A client with another address for the id of `node` is redirected to the node that redirects it. -/
theorem guarded_loop_unknown (h : Settled remote node server) (hfirst : RpcClient.connect leader.2 = .ok ⟨first⟩)
    (hserver : RpcClient.connect node.rpcAddr = .ok ⟨server⟩) (hid : leader.1 = node.id) (hother : first ≠ server)
    (retries : Nat) : GuardedCall leader node first server (retries + 1) (.error (.err .unknownLeader))
      (ReplicatClient.executeLoop remote sql params retries).run w := by
  have hturn : ∀ {k : Nat} {again : Fallible (Net W M F) (Stop Rpc.Error) Unit} {w : Net W M F},
      (∀ w, GuardedCall leader node first server k (.error (.err .unknownLeader)) again.run w) →
      GuardedCall leader node first server (k + 1) (.error (.err .unknownLeader))
        (ReplicatClient.executeTurn remote sql params again).run w := by
    intro k again w hagain
    refine guarded_turn_to hfirst hserver fun t s _ ht _ hs => ?_
    have huri : addressed leader first server t.leader.1 = first := by
      unfold addressed
      rcases ht.id_cases with hnode | ⟨-, hne⟩
      · exact if_pos hnode
      · exact absurd hid hne
    rw [huri]
    exact guarded_request h (fun heq => absurd heq hother) fun _ t' ht' _ =>
      ⟨fun _ => ht'.stored (hs hid), hagain _⟩
  induction retries generalizing w with
  | zero => exact hturn fun _ => .ret .nil
  | succ retries ih => exact hturn fun _ => ih

end Call

/-! ## The clones together -/

section Clones

variable {W M F ι : Type} [DecidableEq ι] [UriParser] [Serde W] [Serde M] [Serde F]
  [Serde (List TransportableParam)] {remote : Remote W M F} {leader : NodeId × String} {node : Node}
  {first server : Uri}

/-- **Calls while one node leads.** Every call that has had its turns has returned. It returned `Ok`
after two requests at most, or the error of a request of its own that was lost; but where the client was
given the id of the leader with another address, no call finds the leader. -/
theorem settled_calls_end (calls : ι → String × ParamsValue) (h : Settled remote node server)
    (hfirst : RpcClient.connect leader.2 = .ok ⟨first⟩) (hserver : RpcClient.connect node.rpcAddr = .ok ⟨server⟩)
    {sched : List ι} {i : ι} (hturns : 15 ≤ sched.count i) :
    let own := sentBy (ReplicatClient.execute remote (calls i).1 (calls i).2).run
      ((clones remote calls leader).turns i sched)
    ∃ r, ((clones remote calls leader).run sched).threads i = .ret r ∧
      ((leader.1 = node.id → first = server) → Settles 2 (.ok ()) own r) ∧
      (leader.1 = node.id → first ≠ server → Settles 3 (.error (.err .unknownLeader)) own r) := by
  obtain ⟨r, hr⟩ : ∃ r, ((clones remote calls leader).run sched).threads i = .ret r := by
    rw [Pool.run_threads]
    refine executeLoop_endsIn remote (calls i).1 (calls i).2.params 2 _ ?_
    rw [Pool.length_turns]
    exact hturns
  refine ⟨r, hr, fun hsame => ?_, fun hid hother => ?_⟩
  · exact (Pool.run_guarded (c := clones remote calls leader)
      (fun _ => guarded_loop_ok h hfirst hserver hsame 1) .fresh sched).2.2 i r hr
  · exact (Pool.run_guarded (c := clones remote calls leader)
      (fun _ => guarded_loop_unknown h hfirst hserver hid hother 2) .fresh sched).2.2 i r hr

end Clones

/-! ### The second of two nodes leads -/

def acceptingRaft : ReplicatRaft Unit Unit Unit where
  clientWrite _ := .ok ()
  changeMembership _ _ _ := .ok ()

def secondUri : Uri := ⟨"http://" ++ "b:1"⟩

def secondLeads : Remote Unit Unit Unit := fun _ uri =>
  (.answered, if uri = secondUri then acceptingRaft else redirectingRaft)

theorem settled_secondLeads : Settled secondLeads ⟨2, "b:1"⟩ secondUri := by
  refine ⟨fun past req => ⟨(), ?_⟩, fun past uri req huri => ?_⟩
  · unfold secondLeads
    rw [if_pos rfl]
    rfl
  · unfold secondLeads
    rw [if_neg huri]
    rfl

def twoClones : Pool Bool (Net Unit Unit Unit) fun _ => Except (Stop Rpc.Error) Unit :=
  clones secondLeads (fun _ => (createNotes, .unit)) (1, "a:1")

/-- Clones that were given the first node: the second of two calls that follow each other. -/
theorem settled_calls_end_second :
    let sched := List.replicate 15 false ++ List.replicate 15 true
    ∃ r, (twoClones.run sched).threads true = .ret r ∧
      Settles 2 (.ok ()) (sentBy (ReplicatClient.execute secondLeads createNotes .unit).run
        (twoClones.turns true sched)) r := by
  have hfirst : RpcClient.connect ((1, "a:1") : NodeId × String).2 = .ok ⟨⟨"http://" ++ "a:1"⟩⟩ := rfl
  have hturns : 15 ≤ (List.replicate 15 false ++ List.replicate 15 true).count true := by decide
  obtain ⟨r, hr, hsettles, -⟩ := settled_calls_end (fun _ => (createNotes, .unit)) settled_secondLeads hfirst rfl hturns
  exact ⟨r, hr, hsettles fun hid => absurd hid (by decide)⟩

end Replicat
