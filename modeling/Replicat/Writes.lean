import Replicat.Rpc.Handlers
import Replicat.Rpc.StableLeader
import Replicat.Storage.Replicas

/-!
# From a call of `execute` to the tables

Processes with clients, each with calls of `execute` beside each other, a network that may lose
any request or reply, a raft core that writes a log of what it is sent, and replicas that apply the
log and exchange snapshots. A request is sent again only after a redirect, and a node that
redirects writes nothing, so the log has one entry of a call at most: `executed_exactly_once`.
-/

namespace Replicat

open RpcModels Sqlite Atomics Atomics.Prog

variable {W M F U : Type}

/-! ## The statements of a log -/

def Entry.statement? (e : Entry) : Option Request :=
  match e.payload with
  | .normal req => some req
  | _ => none

/-- The statements of a log, in order. -/
def statementsOf (log : List Entry) : List Request := log.filterMap Entry.statement?

theorem execEntries_eq (effect : Request → U → U) (tables : U) (log : List Entry) :
    execEntries effect tables log = (statementsOf log).foldl (fun tables req => effect req tables) tables := by
  unfold execEntries statementsOf
  induction log generalizing tables with
  | nil => rfl
  | cons e log ih =>
    rw [List.foldl_cons, ih]
    unfold execEntry Entry.statement?
    cases hpayload : e.payload <;> simp [hpayload]

/-- The statements of a prefix of a log are the first of its statements. -/
theorem exists_take_statementsOf (log : List Entry) (k : Nat) :
    ∃ n, statementsOf (log.take k) = (statementsOf log).take n := by
  refine ⟨(statementsOf (log.take k)).length, ?_⟩
  have hsplit : statementsOf log = statementsOf (log.take k) ++ statementsOf (log.drop k) := by
    unfold statementsOf
    rw [← List.filterMap_append, List.take_append_drop]
  rw [hsplit, List.take_left]

/-! ## How a call ends -/

section Concludes

variable (sql : String) (params : List TransportableParam)

/-- A call that has returned `Ok` had that for its last answer, whatever states it met. -/
def AlwaysConcludes (p : Prog (Net W M F) (Except (Stop Rpc.Error) Unit)) : Prop :=
  ∀ met, p.feed met = .ret (.ok ()) → ∃ past c, sentBy p met = past ++ [c] ∧ c.outcome sql params = .ok ()

variable {sql params}

theorem alwaysConcludes_ret {r : Except (Stop Rpc.Error) Unit} (hr : r ≠ .ok ()) :
    AlwaysConcludes sql params (.ret r : Prog (Net W M F) _) := by
  intro met h
  rw [feed_ret] at h
  exact absurd (Prog.ret.inj h) hr

theorem AlwaysConcludes.quiet {u : Net W M F → Net W M F}
    {n : Net W M F → Prog (Net W M F) (Except (Stop Rpc.Error) Unit)}
    (hu : ∀ w, (u w).contacts = w.contacts) (h : ∀ w, AlwaysConcludes sql params (n w)) :
    AlwaysConcludes sql params (.act u n) := by
  intro met hret
  cases met with
  | nil => cases hret
  | cons w met =>
    have hsent : sentBy (.act u n) (w :: met) = sentBy (n w) met := by simp [sentBy, newContacts, hu]
    rw [hsent]
    exact h w met hret

variable [UriParser] [Serde W] [Serde M] [Serde F] [Serde (List TransportableParam)] {remote : Remote W M F}
  {again : Fallible (Net W M F) (Stop Rpc.Error) Unit}

omit [UriParser] [Serde W] [Serde M] [Serde F] in
theorem AlwaysConcludes.requestTurn (h : AlwaysConcludes sql params again.run) (client : RpcClient) :
    AlwaysConcludes sql params (requestTurn remote sql params again client) := by
  intro met hret
  cases met with
  | nil => cases hret
  | cons w met =>
    have hsent : sentBy (Replicat.requestTurn remote sql params again client) (w :: met) =
        requestTo remote sql params client w ::
          sentBy ((Replicat.requestTurn remote sql params again client).feed [w]) met := by
      have hone : newContacts w (w.addContact (requestTo remote sql params client w)) =
          [requestTo remote sql params client w] := by simp [newContacts]
      rw [sentBy, Replicat.requestTurn, emits_act, hone, feed_act, feed_nil]
      rfl
    have hleft : ((Replicat.requestTurn remote sql params again client).feed [w]).feed met = .ret (.ok ()) := by
      rw [← feed_append]
      exact hret
    rw [hsent]
    rcases afterRequest_cases (requestTo remote sql params client w) with ⟨node, -, hnode⟩ | hends
    · have hrest : (Replicat.requestTurn remote sql params again client).feed [w] =
          .act (fun w => w.setLeader node) fun _ => again.run := by
        rw [Replicat.requestTurn, feed_act, feed_nil, hnode]
      rw [hrest] at hleft ⊢
      have hrest' : AlwaysConcludes sql params
          (.act (fun w : Net W M F => w.setLeader node) fun _ => again.run) := .quiet (fun _ => rfl) fun _ => h
      obtain ⟨past, d, hpast, hd⟩ := hrest' met hleft
      exact ⟨_ :: past, d, congrArg _ hpast, hd⟩
    · have hrest : (Replicat.requestTurn remote sql params again client).feed [w] =
          .ret ((requestTo remote sql params client w).outcome sql params) := by
        rw [Replicat.requestTurn, feed_act, feed_nil]
        split
        · rename_i node hnode
          exact absurd hnode (hends node)
        · rfl
      rw [hrest] at hleft ⊢
      rw [feed_ret] at hleft
      exact ⟨[], _, rfl, Prog.ret.inj hleft⟩

theorem AlwaysConcludes.turn (h : AlwaysConcludes sql params again.run) :
    AlwaysConcludes sql params (ReplicatClient.executeTurn remote sql params again).run :=
  executeTurn_rule .quiet (alwaysConcludes_ret nofun) fun client => h.requestTurn client

variable (remote sql params) in
theorem executeLoop_concludes (retries : Nat) :
    AlwaysConcludes sql params (ReplicatClient.executeLoop remote sql params retries).run := by
  induction retries with
  | zero => exact AlwaysConcludes.turn (alwaysConcludes_ret nofun)
  | succ retries ih => exact ih.turn

end Concludes

/-! ## The requests of a process -/

/-- The request reached the node. -/
def Contact.Arrived (c : Contact W M F) : Prop := ∀ status, c.passage ≠ .lost status

/-- The node was asked for this, and did not redirect. -/
def Contact.Asks [Serde (List TransportableParam)] (c : Contact W M F) (req : Request) : Prop :=
  c.Arrived ∧ c.request.DecodesTo req ∧ ∀ leader, c.raft.clientWrite req ≠ .error (.forwardToLeader leader)

/-- What is reported done was answered with `Ok`, unless an error was taken for success. -/
theorem outcome_eq_ok {sql : String} {params : List TransportableParam} {c : Contact W M F}
    (h : c.outcome sql params = .ok ()) (hread : ¬ c.Misread sql params) :
    c.passage = .answered ∧ ∃ res, c.raft.clientWrite (.execute sql params) = .ok res := by
  unfold Contact.outcome at h
  rcases hpassage : c.passage with status | status | _ <;> rw [hpassage] at h
  · cases h
  · cases h
  · refine ⟨rfl, (reported_eq_ok.1 h).resolve_right fun hu => hread ⟨hpassage, hu⟩⟩

section Process

variable {ι : Type} [DecidableEq ι] [UriParser] [Serde W] [Serde M] [Serde F] [Serde (List TransportableParam)]
  (remote : Remote W M F) (calls : ι → String × ParamsValue) (leader : NodeId × String)

/-- The requests of a process by call. -/
structure Sent (sched : List ι) (sent : List (ι × Contact W M F)) : Prop where
  contacts : sent.map Prod.snd = ((clones remote calls leader).run sched).state.contacts
  request : ∀ i c, (i, c) ∈ sent → c.request = ⟨(calls i).1, encoded (calls i).2.params⟩
  again : ∀ i past c, (sent.filter (·.1 = i)).map Prod.snd = past ++ [c] →
    ∀ d ∈ past, ∃ node, d.Names (calls i).1 (calls i).2.params node
  done : ∀ i, ((clones remote calls leader).run sched).threads i = .ret (.ok ()) →
    ∃ c, (i, c) ∈ sent ∧ c.outcome (calls i).1 (calls i).2.params = .ok ()

omit [UriParser] [Serde W] [Serde M] [Serde F] [Serde (List TransportableParam)] in
theorem mem_own {sent : List (ι × Contact W M F)} {i : ι} {c : Contact W M F} :
    c ∈ (sent.filter (·.1 = i)).map Prod.snd ↔ (i, c) ∈ sent := by
  simp

theorem exists_sent (sched : List ι) : ∃ sent, Sent remote calls leader sched sent := by
  obtain ⟨sent, hcontacts, hown⟩ := clones_sent remote calls leader sched
  refine ⟨sent, hcontacts, fun i c hc => ?_, fun i past c hpast => ?_, fun i hret => ?_⟩
  · have hsends := executeLoop_sends remote (calls i).1 (calls i).2.params 2
      ((clones remote calls leader).turns i sched)
    refine hsends.request c ?_
    exact hown i ▸ mem_own.2 hc
  · have hsends := executeLoop_sends remote (calls i).1 (calls i).2.params 2
      ((clones remote calls leader).turns i sched)
    exact hsends.again past c ((hown i).symm.trans hpast)
  · rw [Pool.run_threads] at hret
    obtain ⟨past, c, hpast, hc⟩ := executeLoop_concludes (calls i).1 (calls i).2.params remote 2 _ hret
    refine ⟨c, mem_own.1 ?_, hc⟩
    rw [hown i]
    exact hpast ▸ List.mem_append_right past List.mem_cons_self

variable {remote calls leader} {sched : List ι} {sent : List (ι × Contact W M F)}

/-- A request that was not the last of its call was redirected. -/
theorem Sent.redirected (h : Sent remote calls leader sched sent) {i : ι} {n m : Nat} {c d : Contact W M F}
    (hn : sent[n]? = some (i, c)) (hm : sent[m]? = some (i, d)) (hnm : n < m) :
    ∃ node, c.Names (calls i).1 (calls i).2.params node := by
  have hc : c ∈ ((sent.take m).filter (·.1 = i)).map Prod.snd := by
    refine mem_own.2 (List.mem_iff_getElem?.2 ⟨n, ?_⟩)
    rw [List.getElem?_take_of_lt hnm, hn]
  have hd : d ∈ ((sent.drop m).filter (·.1 = i)).map Prod.snd := by
    refine mem_own.2 (List.mem_iff_getElem?.2 ⟨0, ?_⟩)
    rw [List.getElem?_drop, Nat.add_zero, hm]
  obtain ⟨rest, last, hrest⟩ := List.eq_nil_or_concat _ |>.resolve_left (List.ne_nil_of_mem hd)
  refine h.again i (((sent.take m).filter (·.1 = i)).map Prod.snd ++ rest) last ?_ c
    (List.mem_append_left _ hc)
  rw [List.append_assoc, ← List.concat_eq_append, ← hrest, ← List.map_append, ← List.filter_append,
    List.take_append_drop]

/-- A node is asked for the statement of the call. -/
theorem Sent.asked (h : Sent remote calls leader sched sent) {i : ι} {n : Nat} {c : Contact W M F} {req : Request}
    (hn : sent[n]? = some (i, c)) (hreq : c.request.DecodesTo req) :
    req = .execute (calls i).1 (calls i).2.params := by
  obtain ⟨params, hparams, rfl⟩ := hreq
  have hrequest := h.request i c (List.mem_of_getElem? hn)
  rw [hrequest, fromBytes_encoded] at hparams
  cases hparams
  rw [hrequest]

/-- Of the requests of one call, one at most is not redirected. -/
theorem Sent.unique (h : Sent remote calls leader sched sent) {i : ι} {n m : Nat} {c d : Contact W M F}
    {req req' : Request} (hn : sent[n]? = some (i, c)) (hm : sent[m]? = some (i, d)) (hc : c.Asks req)
    (hd : d.Asks req') : n = m := by
  have hlast : ∀ {n m : Nat} {c d : Contact W M F} {req : Request}, sent[n]? = some (i, c) →
      sent[m]? = some (i, d) → c.Asks req → ¬ n < m := by
    intro n m c d req hn hm hc hlt
    obtain ⟨node, -, leader, hforward, -⟩ := h.redirected hn hm hlt
    rw [← h.asked hn hc.2.1] at hforward
    exact hc.2.2 leader hforward
  have := hlast hn hm hc
  have := hlast hm hn hd
  omega

end Process

/-! ## The log and the replicas -/

section Cluster

variable {π : Type} {ι : π → Type} [∀ p, DecidableEq (ι p)] [UriParser] [Serde W] [Serde M] [Serde F]
  [Serde (List TransportableParam)]

/-- What raft promises of its log: a statement in it is there for a request of its own, of which the
node that was asked did not redirect it; and what a node has answered with `Ok` is in it. -/
def Commits (contacts : π → List (Contact W M F)) (log : List Entry) : Prop :=
  ∃ sources : List (π × Nat), sources.Nodup ∧
    List.Forall₂ (fun source req => ∃ c, (contacts source.1)[source.2]? = some c ∧ c.Asks req) sources
      (statementsOf log) ∧
    ∀ p n c req res, (contacts p)[n]? = some c → c.Arrived → c.request.DecodesTo req →
      c.raft.clientWrite req = .ok res → (p, n) ∈ sources

variable {remote : π → Remote W M F} {calls : ∀ p, ι p → String × ParamsValue} {leader : π → NodeId × String}
  {sched : ∀ p, List (ι p)}

/-- The statement of a call. -/
def statementOf (calls : ∀ p, ι p → String × ParamsValue) (m : Σ p, ι p) : Request :=
  .execute (calls m.1 m.2).1 (calls m.1 m.2).2.params

/-- The call that made a request. -/
def madeBy (sent : ∀ p, List (ι p × Contact W M F)) (source : π × Nat) : Option (Σ p, ι p) :=
  (sent source.1)[source.2]?.map fun x => ⟨source.1, x.1⟩

omit [∀ p, DecidableEq (ι p)] [UriParser] [Serde W] [Serde M] [Serde F] [Serde (List TransportableParam)] in
theorem madeBy_eq_some {sent : ∀ p, List (ι p × Contact W M F)} {p : π} {n : Nat} {m : Σ p, ι p} :
    madeBy sent (p, n) = some m ↔ ∃ i c, (sent p)[n]? = some (i, c) ∧ m = ⟨p, i⟩ := by
  unfold madeBy
  rw [Option.map_eq_some_iff]
  constructor
  · rintro ⟨⟨i, c⟩, hn, rfl⟩
    exact ⟨i, c, hn, rfl⟩
  · rintro ⟨i, c, hn, rfl⟩
    exact ⟨(i, c), hn, rfl⟩

variable {sent : ∀ p, List (ι p × Contact W M F)}

/-- The statements of a log are those of the calls that made its requests. -/
theorem statements_made (hsent : ∀ p, Sent (remote p) (calls p) (leader p) (sched p) (sent p))
    {sources : List (π × Nat)} {reqs : List Request}
    (h : List.Forall₂ (fun source req => ∃ c, ((sent source.1).map Prod.snd)[source.2]? = some c ∧ c.Asks req)
      sources reqs) : reqs = (sources.filterMap (madeBy sent)).map (statementOf calls) := by
  induction h with
  | nil => rfl
  | @cons source req sources reqs hsource _ ih =>
    obtain ⟨c, hc, hasks⟩ := hsource
    rw [List.getElem?_map, Option.map_eq_some_iff] at hc
    obtain ⟨⟨i, c⟩, hn, rfl⟩ := hc
    rw [List.filterMap_cons_some (madeBy_eq_some.2 ⟨i, c, hn, rfl⟩), List.map_cons, ← ih,
      (hsent source.1).asked hn hasks.2.1]
    rfl

/-- No call has two requests in the log. -/
theorem nodup_made (hsent : ∀ p, Sent (remote p) (calls p) (leader p) (sched p) (sent p))
    {sources : List (π × Nat)} (hnodup : sources.Nodup)
    (hasks : ∀ s ∈ sources, ∃ c req, ((sent s.1).map Prod.snd)[s.2]? = some c ∧ c.Asks req) :
    (sources.filterMap (madeBy sent)).Nodup := by
  refine List.pairwise_filterMap.2 (hnodup.imp_of_mem ?_)
  rintro ⟨p, n⟩ ⟨q, m⟩ hs ht hne made hmade made' hmade' rfl
  obtain ⟨i, c, hn, rfl⟩ := madeBy_eq_some.1 hmade
  obtain ⟨j, d, hm, heq⟩ := madeBy_eq_some.1 hmade'
  cases heq
  obtain ⟨c', req, hc, hcasks⟩ := hasks _ hs
  obtain ⟨d', req', hd, hdasks⟩ := hasks _ ht
  rw [List.getElem?_map, hn] at hc
  rw [List.getElem?_map, hm] at hd
  cases hc
  cases hd
  exact hne (Prod.ext rfl ((hsent p).unique hn hm hcasks hdasks))

variable [Serde LogId] [Serde EffectiveMembership] [Serde SnapshotMeta] {κ : Type} [DecidableEq κ] {env : Env U}
  {effect : Request → U → U} {log : List Entry} {stateStore : κ → Option StateStore} {nodes : Cluster κ U}

/-- **From the calls to the tables.** The log has one statement at most of each call of each
client, with the text and the parameters that the call was given, and none of anybody else; it has one
of each call that returned `Ok`, unless an error of the core was taken for success; and every
replica's tables are what these statements make of empty ones, up to some point of the log. -/
theorem executed_exactly_once
    (hcommits : Commits (fun p => ((clones (remote p) (calls p) (leader p)).run (sched p)).state.contacts) log)
    (hlog : log.Pairwise (·.logId.index < ·.logId.index)) (hc : Confined env effect env.emptyUser log)
    (hload : ∀ k, stateStore k = none → ∀ d, env.loads (env.serialize .wal d))
    (hnodes : ClusterReachable env stateStore log CachedFresh nodes) :
    ∃ made : List (Σ p, ι p), made.Nodup ∧ statementsOf log = made.map (statementOf calls) ∧
      (∀ p i, ((clones (remote p) (calls p) (leader p)).run (sched p)).threads i = .ret (.ok ()) →
        (∀ c ∈ ((clones (remote p) (calls p) (leader p)).run (sched p)).state.contacts,
          c.request = ⟨(calls p i).1, encoded (calls p i).2.params⟩ →
            ¬ c.Misread (calls p i).1 (calls p i).2.params) → ⟨p, i⟩ ∈ made) ∧
      ∀ k, ∃ n d, (nodes.node k).Reads (dataHandle (stateStore k)) d ∧
        d.user = (made.take n).foldl (fun tables m => effect (statementOf calls m) tables) env.emptyUser := by
  choose sent hsent using fun p => exists_sent (remote p) (calls p) (leader p) (sched p)
  obtain ⟨sources, hnodup, hforall, hanswered⟩ := hcommits
  simp only [← (hsent _).contacts] at hforall hanswered ⊢
  have hmade := statements_made hsent hforall
  refine ⟨sources.filterMap (madeBy sent), ?_, hmade, fun p i hret hread => ?_, fun k => ?_⟩
  · refine nodup_made hsent hnodup ?_
    exact ((List.forall₂_and_left _ _).1
      (hforall.imp (S := fun s _ => (∃ c req, ((sent s.1).map Prod.snd)[s.2]? = some c ∧ c.Asks req) ∧ True)
        fun s req ⟨c, hc⟩ => ⟨⟨c, req, hc⟩, trivial⟩)).1
  · obtain ⟨c, hmem, hdone⟩ := (hsent p).done i hret
    obtain ⟨n, hn⟩ := List.mem_iff_getElem?.1 hmem
    have hcontact : ((sent p).map Prod.snd)[n]? = some c := by rw [List.getElem?_map, hn]; rfl
    have hrequest := (hsent p).request i c hmem
    obtain ⟨hans, res, hres⟩ := outcome_eq_ok hdone (hread c (List.mem_of_getElem? hcontact) hrequest)
    refine List.mem_filterMap.2 ⟨(p, n), hanswered p n c _ res hcontact ?_ ?_ hres, madeBy_eq_some.2 ⟨i, c, hn, rfl⟩⟩
    · intro status
      rw [hans]
      nofun
    · exact ⟨_, by rw [hrequest]; exact fromBytes_encoded _, by rw [hrequest]⟩
  · obtain ⟨v, hv, htables, -⟩ := (hnodes.inv hlog hc hload).nodes k
    obtain ⟨d, t, hr, -, hd⟩ := hv.reads
    obtain ⟨n, hn⟩ := exists_take_statementsOf log (nodes.position k)
    refine ⟨n, d, hr, (hd.tables.trans htables).trans ?_⟩
    show execEntries effect env.emptyUser (log.take (nodes.position k)) = _
    rw [execEntries_eq, hn, hmade, ← List.map_take, List.foldl_map]

end Cluster

/-! ### Two calls, one of which is redirected -/

/-- The first node that is asked redirects to the leader. -/
def movedLeader : Remote Unit Unit Unit
  | [], _ => (.answered, redirectingRaft)
  | _ :: _, _ => (.answered, acceptingRaft)

def twoWrites : Unit → Bool → String × ParamsValue
  | _, false => (createNotes, .unit)
  | _, true => (createUsers, .unit)

/-- The first call is redirected, and the second goes on with what it has learned. -/
def twoWritesRun : Pool Bool (Net Unit Unit Unit) fun _ => Except (Stop Rpc.Error) Unit :=
  (clones movedLeader (twoWrites ()) (1, "a:1")).run
    [false, false, false, false, false, true, true, false, false, false, false, true, true, true]

/-- A request for a statement without parameters. -/
def bareRequest (uri sql : String) (raft : ReplicatRaft Unit Unit Unit) : Contact Unit Unit Unit :=
  ⟨⟨uri⟩, ⟨sql, encoded ([] : List TransportableParam)⟩, .answered, raft⟩

theorem ran_twoWrites : twoWritesRun.state.contacts =
      [bareRequest "http://a:1" createNotes redirectingRaft, bareRequest "http://b:1" createNotes acceptingRaft,
        bareRequest "http://b:1" createUsers acceptingRaft] ∧
    ∀ i, twoWritesRun.threads i = .ret (.ok ()) := by
  unfold twoWritesRun clones
  simp only [ReplicatClient.execute, ReplicatClient.executeLoop, executeTurn_eq, requestTurn]
  exact ⟨rfl, Bool.forall_bool.2 ⟨rfl, rfl⟩⟩

/-- The log has what the leader has taken. -/
theorem commits_twoWrites :
    Commits (fun _ : Unit => twoWritesRun.state.contacts) [notesEntry 1, usersEntry 2] := by
  have hasks : ∀ uri sql, (bareRequest uri sql acceptingRaft).Asks (.execute sql []) :=
    fun uri sql => ⟨nofun, ⟨[], fromBytes_encoded _, rfl⟩, nofun⟩
  refine ⟨[((), 1), ((), 2)], by decide, ?_, fun p n c req res hn _ _ hres => ?_⟩
  · rw [ran_twoWrites.1]
    exact .cons ⟨_, rfl, hasks "http://b:1" createNotes⟩ (.cons ⟨_, rfl, hasks "http://b:1" createUsers⟩ .nil)
  · rw [ran_twoWrites.1] at hn
    match n, hn with
    | 0, hn =>
      obtain rfl : _ = c := Option.some.inj hn
      cases hres
    | 1, _ => exact List.mem_cons_self
    | 2, _ => exact List.mem_cons_of_mem _ List.mem_cons_self

/-- No answer of theirs is taken for another. -/
theorem read_twoWrites (sql : String) (params : List TransportableParam) :
    ∀ c ∈ twoWritesRun.state.contacts, ¬ c.Misread sql params := by
  intro c hc hmis
  rw [ran_twoWrites.1] at hc
  rcases List.mem_cons.1 hc with rfl | hc
  · exact hmis.2
  · rcases List.mem_pair.1 hc with rfl | rfl
    · exact hmis.2
    · exact hmis.2

theorem confined_twoWrites : Confined catalogEnv catalogEffect [] [notesEntry 1, usersEntry 2] := by
  refine confined_catalog (fun e he req hreq => ?_) _
  rcases List.mem_pair.1 he with rfl | rfl
  · exact .inl (EntryPayload.normal.inj hreq).symm
  · exact .inr (EntryPayload.normal.inj hreq).symm

/-- Each of the two statements is in the log once. -/
theorem executed_exactly_once_redirected : ∃ made : List (Σ _ : Unit, Bool), made.Nodup ∧
    statementsOf [notesEntry 1, usersEntry 2] = made.map (statementOf twoWrites) ∧
    (∀ i, ⟨(), i⟩ ∈ made) := by
  have hnodes : ClusterReachable catalogEnv (fun _ : Unit => some StateStore.file) [notesEntry 1, usersEntry 2]
      CachedFresh _ := .step .new (.apply (i := ()) 2 rfl)
  obtain ⟨made, hnodup, hmade, hdone, -⟩ :=
    executed_exactly_once commits_twoWrites (by decide) confined_twoWrites nofun hnodes
  exact ⟨made, hnodup, hmade, fun i => hdone () i (ran_twoWrites.2 i) fun c hc _ => read_twoWrites _ _ c hc⟩

end Replicat
