import Replicat.Rpc.WriteOutcome

/-!
# How often one call proposes its statement

`ReplicatClient::execute` sends its statement again only after a redirect, and three times at
most. Other calls may move the leader and the cache between any two of its actions, so a call is
run on whatever states it meets. `executed_at_most_once`: a node that redirects proposes
nothing, so of the requests of one call only the last may have been proposed.
-/

namespace Replicat

open RpcModels Atomics Atomics.Prog

variable {W M F : Type}

section Requests

variable (sql : String) (params : List TransportableParam)

/-- The contacts that one action makes. -/
def newContacts (w w' : Net W M F) : List (Contact W M F) := w'.contacts.drop w.contacts.length

/-- The requests a call has sent when it has met these states. -/
def sentBy {α : Type} (call : Prog (Net W M F) α) (met : List (Net W M F)) : List (Contact W M F) :=
  call.emits newContacts met

/-- The node answered with a redirect to `node`. -/
def Contact.Names (c : Contact W M F) (node : Node) : Prop :=
  c.passage = .answered ∧ ∃ leader, c.raft.clientWrite (.execute sql params) = .error (.forwardToLeader leader) ∧
    (ClientWriteError.forwardToLeader leader : ClientWriteError M F).leader? = some node

theorem reported_updateLeader {r : Except (ClientWriteError M F) W} {node : Node} :
    reported r = .error (.err (.updateLeader node)) ↔
      ∃ leader, r = .error (.forwardToLeader leader) ∧
        (ClientWriteError.forwardToLeader leader : ClientWriteError M F).leader? = some node := by
  rcases r with (leader | error | error) | res
  · unfold reported
    rcases h : (ClientWriteError.forwardToLeader leader : ClientWriteError M F).leader? with _ | node' <;> simp [h]
  · simp [reported]
  · simp [reported]
  · simp [reported]

/-- No call of `mutate_state` returns `UnknownLeader`. -/
theorem reported_ne_unknownLeader (r : Except (ClientWriteError M F) W) :
    reported r ≠ .error (.err .unknownLeader) := by
  intro h
  have hne : reported r ≠ .ok () := fun hok => by
    rw [hok] at h
    cases h
  rcases (reported_ne_ok hne).2 with ⟨node, hnode⟩ | hpanic
  · rw [hnode] at h
    cases h
  · rw [hpanic] at h
    cases h

variable [Serde (List TransportableParam)]

/-- What a call that may send `k` more requests has sent, and what is left of it. -/
structure SendsAtMost (k : Nat) (cs : List (Contact W M F))
    (left : Prog (Net W M F) (Except (Stop Rpc.Error) Unit)) : Prop where
  length : cs.length ≤ k
  request : ∀ c ∈ cs, c.request = ⟨sql, encoded params⟩
  again : ∀ past c, cs = past ++ [c] → ∀ d ∈ past, ∃ node, d.Names sql params node
  unknown : left = .ret (.error (.err .unknownLeader)) →
    cs.length = k ∧ ∀ c ∈ cs, ∃ node, c.Names sql params node

/-- Whatever states it meets. -/
def AlwaysSends (k : Nat) (p : Prog (Net W M F) (Except (Stop Rpc.Error) Unit)) : Prop :=
  ∀ met, SendsAtMost sql params k (sentBy p met) (p.feed met)

variable {sql params} {k : Nat}

theorem alwaysSends_unknownLeader :
    AlwaysSends sql params 0 (.ret (.error (.err .unknownLeader)) : Prog (Net W M F) _) :=
  fun met => ⟨Nat.le_refl 0, fun c hc => (nomatch hc), fun past c h => absurd h (by simp [sentBy]),
    fun _ => ⟨rfl, fun c hc => (nomatch hc)⟩⟩

/-- A program that has returned something else sends nothing. -/
theorem alwaysSends_ret {r : Except (Stop Rpc.Error) Unit} (hr : r ≠ .error (.err .unknownLeader)) :
    AlwaysSends sql params k (.ret r : Prog (Net W M F) _) := by
  intro met
  refine ⟨Nat.zero_le k, fun c hc => (nomatch hc), fun past c h => absurd h (by simp [sentBy]), fun h => ?_⟩
  rw [feed_ret] at h
  exact absurd (Prog.ret.inj h) hr

/-- An action that sends nothing. -/
theorem AlwaysSends.quiet {u : Net W M F → Net W M F}
    {n : Net W M F → Prog (Net W M F) (Except (Stop Rpc.Error) Unit)}
    (hu : ∀ w, (u w).contacts = w.contacts) (h : ∀ w, AlwaysSends sql params k (n w)) :
    AlwaysSends sql params k (.act u n) := by
  intro met
  cases met with
  | nil =>
    exact ⟨Nat.zero_le k, fun c hc => (nomatch hc), fun past c h => absurd h (by simp [sentBy]),
      fun h => nomatch h⟩
  | cons w met =>
    have hnone : newContacts w (u w) = [] := by simp [newContacts, hu]
    have hsent : sentBy (.act u n) (w :: met) = sentBy (n w) met := by simp [sentBy, hnone]
    rw [hsent]
    exact h w met

/-- An action that sends the request: only a redirect is followed by another. -/
theorem AlwaysSends.send {u : Net W M F → Net W M F} {c : Net W M F → Contact W M F}
    {n : Net W M F → Prog (Net W M F) (Except (Stop Rpc.Error) Unit)}
    (hu : ∀ w, (u w).contacts = w.contacts ++ [c w]) (hreq : ∀ w, (c w).request = ⟨sql, encoded params⟩)
    (h : ∀ w, (∃ r, n w = .ret r ∧ r ≠ .error (.err .unknownLeader)) ∨
      (∃ node, (c w).Names sql params node) ∧ AlwaysSends sql params k (n w)) :
    AlwaysSends sql params (k + 1) (.act u n) := by
  intro met
  cases met with
  | nil =>
    exact ⟨Nat.zero_le _, fun c hc => (nomatch hc), fun past c h => absurd h (by simp [sentBy]),
      fun h => nomatch h⟩
  | cons w met =>
    have hone : newContacts w (u w) = [c w] := by simp [newContacts, hu]
    have hsent : sentBy (.act u n) (w :: met) = c w :: sentBy (n w) met := by simp [sentBy, hone]
    rw [hsent, feed_act]
    rcases h w with ⟨r, hr, hne⟩ | ⟨hnames, hrest⟩
    · -- the call has ended
      rw [hr, feed_ret]
      refine ⟨by simp [sentBy], fun d hd => ?_, fun past d hpast e he => ?_, fun h => absurd (Prog.ret.inj h) hne⟩
      · rw [show d = c w by simpa [sentBy] using hd]
        exact hreq w
      · obtain ⟨rfl, -⟩ : past = [] ∧ d = c w := by
          cases past with
          | nil => exact ⟨rfl, by simpa [sentBy, eq_comm] using hpast⟩
          | cons => simp [sentBy] at hpast
        cases he
    · obtain ⟨hlength, hrequest, hagain, hunknown⟩ := hrest met
      refine ⟨by simpa using hlength, ?_, ?_, fun h => ?_⟩
      · rintro d (_ | ⟨_, hd⟩)
        · exact hreq w
        · exact hrequest d hd
      · intro past d hpast e he
        cases past with
        | nil => cases he
        | cons e' past =>
          obtain ⟨rfl, htail⟩ := List.cons.inj hpast
          rcases List.mem_cons.1 he with rfl | he
          · exact hnames
          · exact hagain past d htail e he
      · obtain ⟨hlen, hall⟩ := hunknown h
        refine ⟨by simp [hlen], ?_⟩
        rintro d (_ | ⟨_, hd⟩)
        · exact hnames
        · exact hall d hd

end Requests

/-! ## One turn of the loop, action by action -/

section Turn

variable [UriParser] [Serde W] [Serde M] [Serde F] [Serde (List TransportableParam)]
  (remote : Remote W M F) (sql : String) (params : List TransportableParam)

/-- What `mutate_state` returns after this contact. -/
def Contact.outcome (c : Contact W M F) : Except (Stop Rpc.Error) Unit :=
  match c.passage with
  | .lost status => .error (.err (.networkError status))
  | .unheard status => .error (.err (.networkError status))
  | .answered => reported (c.raft.clientWrite (.execute sql params))

/-- The request of the statement to the node of `client`. -/
def requestTo (client : RpcClient) (w : Net W M F) : Contact W M F :=
  w.nextContact remote client.uri ⟨sql, encoded params⟩

omit [UriParser] in
theorem deliver_eq (uri : Uri) (request : MutateRequest) :
    (Net.deliver remote uri request).run =
      .act (fun w => w.addContact (w.nextContact remote uri request)) fun w =>
        .ret ((Net.deliver remote uri request).run.exec w).1 := by
  refine congrArg (Prog.act _) (funext fun w => ?_)
  rw [exec_deliver]
  unfold Net.nextContact
  show Prog.bind (.ret (Except.ok (w.nextContact remote uri request))) _ = _
  unfold Net.nextContact
  rcases remote w.contacts uri with ⟨_ | _ | _, raft⟩ <;> rfl

omit [UriParser] in
theorem mutateState_eq (client : RpcClient) :
    (client.mutateState (Net.deliver remote) sql params).run =
      .act (fun w => w.addContact (requestTo remote sql params client w))
        fun w => .ret ((requestTo remote sql params client w).outcome sql params) := by
  have hprog : (client.mutateState (Net.deliver remote) sql params).run =
      (((Net.deliver remote client.uri ⟨sql, encoded params⟩).run >>= fun r =>
        Prog.ret (r.mapError fun e => Stop.err (Rpc.Error.networkError e))) >>= fun r =>
          Prog.ret (Except.bind r RpcClient.writeResult)) := by
    unfold RpcClient.mutateState
    rw [toBytes_eq]
    show Prog.bind ((Net.deliver remote client.uri ⟨sql, encoded params⟩).run >>= fun r =>
      Prog.ret (r.mapError fun e => Stop.err (Rpc.Error.networkError e))) _ = _
    refine congrArg (Prog.bind _) (funext fun r => ?_)
    rcases r with e | resp
    · rfl
    · show ExceptT.run (ite _ _ _) = Prog.ret (RpcClient.writeResult resp)
      unfold RpcClient.writeResult
      split
      · cases resp.leader <;> rfl
      · rfl
  have hexec := exec_mutateState_deliver remote client sql params
  rw [hprog, deliver_eq] at hexec ⊢
  refine congrArg (Prog.act _) (funext fun w => ?_)
  exact congrArg Prog.ret (congrArg Prod.fst (hexec w))

omit [Serde W] [Serde M] [Serde F] [Serde (List TransportableParam)] in
theorem getLeaderClient_eq :
    (ReplicatClient.getLeaderClient : Fallible (Net W M F) Rpc.Error RpcClient).run =
      .act id fun w => .act id fun w' =>
        match w'.clients w.leader.1, RpcClient.connect w.leader.2 with
        | some (_, client), _ => .ret (.ok client)
        | none, .error _ => .ret (.error (.networkError (.unavailable "Unable to connect to remote client")))
        | none, .ok client => .act (Net.insertClient w.leader.1 w.leader.2 client) fun _ => .ret (.ok client) := by
  refine congrArg (Prog.act id) (funext fun w => ?_)
  show (ReplicatNetwork.getOrConnectClient w.leader.1 w.leader.2).run >>= (fun r => .ret (r.mapError _)) = _
  rw [ReplicatNetwork.getOrConnectClient_eq, act_bind]
  refine congrArg (Prog.act id) (funext fun w' => ?_)
  rcases w'.clients w.leader.1 with _ | ⟨a, client⟩
  · rcases RpcClient.connect w.leader.2 with e | client <;> rfl
  · rfl

/-- The rest of a turn once there is a client. -/
def requestTurn (again : Fallible (Net W M F) (Stop Rpc.Error) Unit) (client : RpcClient) :
    Prog (Net W M F) (Except (Stop Rpc.Error) Unit) :=
  .act (fun w => w.addContact (requestTo remote sql params client w)) fun w =>
    match (requestTo remote sql params client w).outcome sql params with
    | .error (.err (.updateLeader node)) => .act (fun w => w.setLeader node) fun _ => again.run
    | r => .ret r

omit [Serde W] [Serde M] [Serde F] [Serde (List TransportableParam)] in
/-- What a turn does with the client of the leader it knows. -/
theorem leaderClient_then {request : RpcClient → Fallible (Net W M F) (Stop Rpc.Error) Unit}
    {rest : RpcClient → Prog (Net W M F) (Except (Stop Rpc.Error) Unit)}
    (hrequest : ∀ client, (request client).run = rest client) :
    (mapErr Stop.err (ReplicatClient.getLeaderClient : Fallible (Net W M F) Rpc.Error RpcClient) >>= request).run =
      .act id fun w => .act id fun w' =>
        match w'.clients w.leader.1, RpcClient.connect w.leader.2 with
        | some (_, client), _ => rest client
        | none, .error _ =>
          .ret (.error (.err (.networkError (.unavailable "Unable to connect to remote client"))))
        | none, .ok client => .act (Net.insertClient w.leader.1 w.leader.2 client) fun _ => rest client := by
  show ((ReplicatClient.getLeaderClient : Fallible (Net W M F) Rpc.Error RpcClient).run >>= fun r =>
    Prog.ret (r.mapError Stop.err)) >>= _ = _
  rw [getLeaderClient_eq, act_bind, act_bind]
  refine congrArg (Prog.act id) (funext fun w => ?_)
  rw [act_bind, act_bind]
  refine congrArg (Prog.act id) (funext fun w' => ?_)
  rcases w'.clients w.leader.1 with _ | ⟨a, client⟩
  · rcases RpcClient.connect w.leader.2 with e | client
    · rfl
    · exact congrArg (Prog.act _) (funext fun _ => hrequest client)
  · exact hrequest client

theorem executeTurn_eq (again : Fallible (Net W M F) (Stop Rpc.Error) Unit) :
    (ReplicatClient.executeTurn remote sql params again).run =
      .act id fun w => .act id fun w' =>
        match w'.clients w.leader.1, RpcClient.connect w.leader.2 with
        | some (_, client), _ => requestTurn remote sql params again client
        | none, .error _ =>
          .ret (.error (.err (.networkError (.unavailable "Unable to connect to remote client"))))
        | none, .ok client =>
          .act (Net.insertClient w.leader.1 w.leader.2 client) fun _ => requestTurn remote sql params again client := by
  unfold ReplicatClient.executeTurn
  refine leaderClient_then fun client => ?_
  show ((client.mutateState (Net.deliver remote) sql params).run >>= fun r => Prog.ret (Except.ok r)) >>= _ = _
  rw [mutateState_eq, act_bind, act_bind]
  refine congrArg (Prog.act _) (funext fun w => ?_)
  rcases (requestTo remote sql params client w).outcome sql params with ((_ | _ | _ | leader | _) | _) | _ <;> rfl

omit [UriParser] [Serde W] [Serde M] [Serde F] [Serde (List TransportableParam)] in
theorem outcome_updateLeader {c : Contact W M F} {node : Node} :
    c.outcome sql params = .error (.err (.updateLeader node)) ↔ c.Names sql params node := by
  unfold Contact.outcome Contact.Names
  rcases c.passage with status | status | _
  · simp
  · simp
  · simpa using reported_updateLeader

omit [UriParser] [Serde W] [Serde M] [Serde F] [Serde (List TransportableParam)] in
theorem outcome_ne_unknownLeader (c : Contact W M F) : c.outcome sql params ≠ .error (.err .unknownLeader) := by
  unfold Contact.outcome
  rcases c.passage with status | status | _
  · simp
  · simp
  · exact reported_ne_unknownLeader _

variable {remote sql params} {k : Nat} {again : Fallible (Net W M F) (Stop Rpc.Error) Unit}

omit [UriParser] [Serde W] [Serde M] [Serde F] [Serde (List TransportableParam)] in
/-- What a request turn does once it has its answer. -/
theorem afterRequest_cases (c : Contact W M F) :
    (∃ node, c.Names sql params node ∧ c.outcome sql params = .error (.err (.updateLeader node))) ∨
    (∀ node, c.outcome sql params ≠ .error (.err (.updateLeader node))) := by
  by_cases h : ∃ node, c.outcome sql params = .error (.err (.updateLeader node))
  · obtain ⟨node, hnode⟩ := h
    exact .inl ⟨node, (outcome_updateLeader sql params).1 hnode, hnode⟩
  · exact .inr fun node hnode => h ⟨node, hnode⟩

/-- What holds of a turn: before its request it makes no contact, and it may find no way to the
leader. -/
theorem executeTurn_rule {P : Prog (Net W M F) (Except (Stop Rpc.Error) Unit) → Prop}
    (hquiet : ∀ {u : Net W M F → Net W M F} {n : Net W M F → Prog (Net W M F) (Except (Stop Rpc.Error) Unit)},
      (∀ w, (u w).contacts = w.contacts) → (∀ w, P (n w)) → P (.act u n))
    (hunavailable : P (.ret (.error (.err (.networkError (.unavailable "Unable to connect to remote client"))))))
    (hsend : ∀ client, P (requestTurn remote sql params again client)) :
    P (ReplicatClient.executeTurn remote sql params again).run := by
  rw [executeTurn_eq]
  refine hquiet (fun _ => rfl) fun w => hquiet (fun _ => rfl) fun w' => ?_
  rcases w'.clients w.leader.1 with _ | ⟨a, client⟩
  · rcases RpcClient.connect w.leader.2 with e | client
    · exact hunavailable
    · exact hquiet (fun _ => rfl) fun _ => hsend client
  · exact hsend client

theorem AlwaysSends.turn (h : AlwaysSends sql params k again.run) :
    AlwaysSends sql params (k + 1) (ReplicatClient.executeTurn remote sql params again).run := by
  refine executeTurn_rule .quiet (alwaysSends_ret nofun) fun client => ?_
  refine .send (fun w => rfl) (fun w => rfl) fun w => ?_
  rcases afterRequest_cases (requestTo remote sql params client w) with ⟨node, hnames, hnode⟩ | hends
  · rw [hnode]
    exact .inr ⟨⟨node, hnames⟩, .quiet (fun _ => rfl) fun _ => h⟩
  · refine .inl ⟨_, ?_, outcome_ne_unknownLeader sql params (requestTo remote sql params client w)⟩
    split
    · rename_i node hnode
      exact absurd hnode (hends node)
    · rfl

theorem endsIn_turn (h : again.run.EndsIn k) :
    (ReplicatClient.executeTurn remote sql params again).run.EndsIn (k + 5) := by
  have hsend : ∀ client, (requestTurn remote sql params again client).EndsIn (k + 2) := by
    refine fun client => .act fun w => ?_
    split
    · exact .act fun _ => h
    · exact endsIn_ret _ _
  rw [executeTurn_eq]
  refine .act fun w => .act fun w' => ?_
  rcases w'.clients w.leader.1 with _ | ⟨a, client⟩
  · rcases RpcClient.connect w.leader.2 with e | client
    · exact endsIn_ret _ _
    · exact .act fun _ => hsend client
  · exact (hsend client).mono (Nat.le_succ _)

/-! ## The loop -/

variable (remote sql params) in
theorem executeLoop_sends (retries : Nat) :
    AlwaysSends sql params (retries + 1) (ReplicatClient.executeLoop remote sql params retries).run := by
  induction retries with
  | zero => exact AlwaysSends.turn alwaysSends_unknownLeader
  | succ retries ih => exact ih.turn

variable (remote sql params) in
theorem executeLoop_endsIn (retries : Nat) :
    (ReplicatClient.executeLoop remote sql params retries).run.EndsIn (5 * (retries + 1)) := by
  induction retries with
  | zero => exact endsIn_turn (endsIn_ret _ 0)
  | succ retries ih => exact endsIn_turn ih

/-- A turn that ends with `UnknownLeader` was redirected, and has set the leader. -/
theorem exec_turn_unknown {w w' : Net W M F}
    (h : (ReplicatClient.executeTurn remote sql params again).run.exec w = (.error (.err .unknownLeader), w')) :
    ∃ w₁ c node, c.Names sql params node ∧ w₁.contacts = w.contacts ++ [c] ∧
      w₁.leader = (node.id, node.rpcAddr) ∧ again.run.exec w₁ = (.error (.err .unknownLeader), w') := by
  have hsend : ∀ client w₀, w₀.contacts = w.contacts →
      (requestTurn remote sql params again client).exec w₀ = (.error (.err .unknownLeader), w') →
      ∃ w₁ c node, c.Names sql params node ∧ w₁.contacts = w.contacts ++ [c] ∧
        w₁.leader = (node.id, node.rpcAddr) ∧ again.run.exec w₁ = (.error (.err .unknownLeader), w') := by
    intro client w₀ hcontacts hexec
    rw [requestTurn, exec_act] at hexec
    rcases afterRequest_cases (requestTo remote sql params client w₀) with ⟨node, hnames, hnode⟩ | hends
    · rw [hnode] at hexec
      exact ⟨_, _, node, hnames, congrArg (· ++ [_]) hcontacts, rfl, hexec⟩
    · split at hexec
      · rename_i node hnode
        exact absurd hnode (hends node)
      · exact absurd (Prod.ext_iff.1 hexec).1 (outcome_ne_unknownLeader sql params _)
  rw [executeTurn_eq, exec_act, exec_act] at h
  simp only [id_eq] at h
  rcases hclient : w.clients w.leader.1 with _ | ⟨a, client⟩
  · rcases hconnect : RpcClient.connect w.leader.2 with e | client <;> rw [hclient, hconnect] at h
    · cases h
    · exact hsend client (w.insertClient w.leader.1 w.leader.2 client) rfl h
  · rw [hclient] at h
    exact hsend client w rfl h

/-- **Alone**, a call that ends with `UnknownLeader` leaves the leader that the last reply named. -/
theorem exec_loop_unknown {retries : Nat} {w w' : Net W M F}
    (h : (ReplicatClient.executeLoop remote sql params retries).run.exec w = (.error (.err .unknownLeader), w')) :
    ∃ past c node, w'.contacts = w.contacts ++ past ++ [c] ∧ c.Names sql params node ∧
      w'.leader = (node.id, node.rpcAddr) := by
  induction retries generalizing w with
  | zero =>
    obtain ⟨w₁, c, node, hnames, hcontacts, hleader, hrest⟩ := exec_turn_unknown h
    obtain rfl : w₁ = w' := (Prod.ext_iff.1 hrest).2
    exact ⟨[], c, node, by rw [List.append_nil]; exact hcontacts, hnames, hleader⟩
  | succ retries ih =>
    obtain ⟨w₁, c₁, node₁, -, hcontacts₁, -, hrest⟩ := exec_turn_unknown h
    obtain ⟨past, c, node, hcontacts, hnames, hleader⟩ := ih hrest
    exact ⟨c₁ :: past, c, node, by rw [hcontacts, hcontacts₁]; simp, hnames, hleader⟩

end Turn

/-- **A statement is proposed at most once.** Whatever states the call meets, it ends within
fifteen actions and three requests, and only the last request may have been proposed. -/
theorem executed_at_most_once [UriParser] [Serde W] [Serde M] [Serde F] [Serde (List TransportableParam)]
    (remote : Remote W M F) (sql : String) (params : ParamsValue) (proposes : Contact W M F → Bool)
    (hforward : ∀ c leader, c.raft.clientWrite (.execute sql params.params) = .error (.forwardToLeader leader) →
      proposes c = false) :
    (∀ met, let call := (ReplicatClient.execute remote sql params).run
      let sent := sentBy call met
      (15 ≤ met.length → ∃ r, call.feed met = .ret r) ∧
      sent.length ≤ 3 ∧ (∀ c ∈ sent, c.request = ⟨sql, encoded params.params⟩) ∧
      (∀ past c, sent = past ++ [c] → ∀ d ∈ past, ∃ node, d.Names sql params.params node) ∧
      sent.countP proposes ≤ 1 ∧
      (call.feed met = .ret (.error (.err .unknownLeader)) →
        sent.length = 3 ∧ ∀ c ∈ sent, (∃ node, c.Names sql params.params node) ∧ proposes c = false)) ∧
    ∀ w w', (ReplicatClient.execute remote sql params).run.exec w = (.error (.err .unknownLeader), w') →
      ∃ past c node, w'.contacts = w.contacts ++ past ++ [c] ∧ c.Names sql params.params node ∧
        w'.leader = (node.id, node.rpcAddr) := by
  have hnamed : ∀ c : Contact W M F, (∃ node, c.Names sql params.params node) → proposes c = false := by
    rintro c ⟨node, -, leader, hleader, -⟩
    exact hforward c leader hleader
  refine ⟨fun met => ?_, fun w w' h => exec_loop_unknown h⟩
  obtain ⟨hlength, hrequest, hagain, hunknown⟩ := executeLoop_sends remote sql params.params 2 met
  refine ⟨executeLoop_endsIn remote sql params.params 2 met, hlength, hrequest, hagain, ?_, fun h => ?_⟩
  · rcases List.eq_nil_or_concat (sentBy (ReplicatClient.execute remote sql params).run met) with
      hnil | ⟨past, c, hconcat⟩
    · rw [hnil]
      exact Nat.zero_le 1
    · have hpast := hconcat.trans List.concat_eq_append
      have hnone : past.countP proposes = 0 :=
        List.countP_eq_zero.2 fun d hd => by rw [hnamed d (hagain past c hpast d hd)]; exact Bool.false_ne_true
      rw [hpast, List.countP_append, hnone, Nat.zero_add]
      exact List.countP_le_length
  · obtain ⟨hlen, hall⟩ := hunknown h
    exact ⟨hlen, fun c hc => ⟨hall c hc, hnamed c (hall c hc)⟩⟩

/-- A raft core that takes the node 2 for the leader. -/
def redirectingRaft : ReplicatRaft Unit Unit Unit where
  clientWrite _ := .error (.forwardToLeader ⟨some 2, some ⟨"b:1"⟩⟩)
  changeMembership _ _ _ := .error (.forwardToLeader ⟨some 2, some ⟨"b:1"⟩⟩)

/-- A node that handles a request proposes the statement unless it redirects. -/
def proposesOnArrival (sql : String) (c : Contact Unit Unit Unit) : Bool :=
  match c.passage, c.raft.clientWrite (.execute sql []) with
  | .lost _, _ => false
  | _, .error (.forwardToLeader _) => false
  | _, _ => true

/-- Every node redirects: nothing is proposed, and the call ends. -/
theorem executed_at_most_once_redirected :
    let call := (ReplicatClient.execute (fun _ _ => (.answered, redirectingRaft)) createNotes .unit).run
    let met := List.replicate 15 (Net.fresh (1, "a:1"))
    (∃ r, call.feed met = .ret r) ∧ (sentBy call met).length ≤ 3 ∧
      (sentBy call met).countP (proposesOnArrival createNotes) ≤ 1 := by
  have hforward : ∀ (c : Contact Unit Unit Unit) leader,
      c.raft.clientWrite (.execute createNotes []) = .error (.forwardToLeader leader) →
        proposesOnArrival createNotes c = false := by
    intro c leader h
    unfold proposesOnArrival
    rw [h]
    cases c.passage <;> rfl
  obtain ⟨hends, hlength, -, -, hcount, -⟩ := (executed_at_most_once (fun _ _ => (.answered, redirectingRaft))
    createNotes .unit (proposesOnArrival createNotes) hforward).1 (List.replicate 15 (Net.fresh (1, "a:1")))
  exact ⟨hends (by simp), hlength, hcount⟩

end Replicat
