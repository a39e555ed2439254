import Replicat.Client
import Replicat.Storage.Catalog

/-!
# What a client reports of a write

The server answers a failed write with a code inside a successful call, and the client looks
at one of the codes only. `Unchecked` are the results of a raft call whose code nobody looks
at; `write_reported_done_iff` says that a write is reported done without having been committed
exactly where such a result is met.
-/

namespace Replicat

open RpcModels Atomics Atomics.Prog

variable {W M F : Type}

/-- The results of a raft call that reach the client under a code it does not look at. -/
def Unchecked : Except (ClientWriteError M F) W → Prop
  | .error (.changeMembershipError _) => True
  | .error (.fatal _) => True
  | _ => False

/-- What `RpcClient::mutate_state` returns when the raft call of the node returned this. -/
def reported : Except (ClientWriteError M F) W → Except (Stop Rpc.Error) Unit
  | .error (.forwardToLeader leader) =>
    match (ClientWriteError.forwardToLeader leader : ClientWriteError M F).leader? with
    | some leader => .error (.err (.updateLeader leader))
    | none => .error .panic
  | _ => .ok ()

theorem reported_eq_ok {r : Except (ClientWriteError M F) W} :
    reported r = .ok () ↔ (∃ res, r = .ok res) ∨ Unchecked r := by
  rcases r with (leader | error | error) | res
  · rcases leader with ⟨_ | id, _ | node⟩ <;> simp [reported, Unchecked, ClientWriteError.leader?]
  · simp [reported, Unchecked]
  · simp [reported, Unchecked]
  · simp [reported]

/-- What is not reported as a success is a redirect: to a leader, or to none, on which the
client panics. -/
theorem reported_ne_ok {r : Except (ClientWriteError M F) W} (h : reported r ≠ .ok ()) :
    (∃ leader, r = .error (.forwardToLeader leader)) ∧
      ((∃ node, reported r = .error (.err (.updateLeader node))) ∨ reported r = .error .panic) := by
  rcases r with (leader | error | error) | res
  · refine ⟨⟨leader, rfl⟩, ?_⟩
    rcases leader with ⟨_ | id, _ | node⟩
    · exact .inr rfl
    · exact .inr rfl
    · exact .inr rfl
    · exact .inl ⟨_, rfl⟩
  · exact absurd rfl h
  · exact absurd rfl h
  · exact absurd rfl h

theorem Unchecked.ne_ok {r : Except (ClientWriteError M F) W} (h : Unchecked r) :
    ¬ ∃ res, r = .ok res := by
  rintro ⟨res, rfl⟩
  exact h

/-- A report of success is a report of a commit exactly where the result is checked. -/
theorem reported_sound_iff {r : Except (ClientWriteError M F) W} :
    (reported r = .ok () → ∃ res, r = .ok res) ↔ ¬ Unchecked r := by
  rw [reported_eq_ok]
  constructor
  · intro h hu
    exact hu.ne_ok (h (.inr hu))
  · rintro h (hok | hu)
    · exact hok
    · exact absurd hu h

/-! ## The handler and the method together -/

section Compose

variable [Serde W] [Serde M] [Serde F]

/-- The client's view of the reply to a write is `reported`. -/
theorem writeResult_reply (r : Except (ClientWriteError M F) W) :
    (match (match r with
        | .ok res => RpcResponse.ok res
        | .error error => clientWriteResp error : Except Status RpcResponse) with
      | .ok resp => RpcClient.writeResult resp
      | .error e => .error (.err (.networkError e))) = reported r := by
  rcases r with e | res
  · obtain ⟨resp, hresp, herror, hleader⟩ := clientWriteResp_error e
    show (match clientWriteResp e with
      | .ok resp => RpcClient.writeResult resp
      | .error e => .error (.err (.networkError e))) = _
    rw [hresp]
    show RpcClient.writeResult resp = _
    unfold RpcClient.writeResult
    rw [herror, hleader]
    cases e with
    | forwardToLeader leader => rfl
    | changeMembershipError error => rfl
    | fatal error => rfl
  · show (match RpcResponse.ok res with
      | .ok resp => RpcClient.writeResult resp
      | .error e => .error (.err (.networkError e))) = _
    unfold RpcResponse.ok
    rw [dataResp_eq]
    rfl

variable [Serde (List TransportableParam)]

theorem exec_mutateState_server {σ : Type} (server : RpcServer W M F) (client : RpcClient)
    (sql : String) (params : List TransportableParam) (w : σ) :
    (client.mutateState (fun _ req => liftResult (server.mutateState req)) sql params).run.exec w =
      (reported (server.raft.clientWrite (.execute sql params)), w) := by
  rw [RpcClient.exec_mutateState, exec_run_liftResult, RpcServer.mutateState_encoded]
  exact Prod.ext (writeResult_reply _) rfl

omit [Serde W] [Serde (List TransportableParam)] in
/-- `RpcClient::change_membership` takes every reply for success. -/
theorem exec_changeMembership_server {σ : Type} [Serde W] (server : RpcServer W M F)
    (client : RpcClient) (members : List NodeId) (w : σ) :
    (client.changeMembership (fun _ req => liftResult (server.changeMembership req))
      members).run.exec w = (.ok (), w) := by
  have hreply : ∃ resp, server.changeMembership ⟨members⟩ = .ok resp := by
    unfold RpcServer.changeMembership
    rcases server.raft.changeMembership members true true with e | res
    · obtain ⟨resp, hresp, -, -⟩ := clientWriteResp_error e
      exact ⟨resp, hresp⟩
    · exact ⟨_, dataResp_eq _ _ res⟩
  obtain ⟨resp, hresp⟩ := hreply
  unfold RpcClient.changeMembership
  rw [exec_run_bind, exec_run_mapErr, exec_run_liftResult, hresp]
  rfl

/-- A request that is not answered fails; the answer to one that is says what is `reported`. -/
theorem exec_mutateState_deliver (remote : Remote W M F) (client : RpcClient) (sql : String)
    (params : List TransportableParam) (w : Net W M F) :
    (client.mutateState (Net.deliver remote) sql params).run.exec w =
      ((match (remote w.contacts client.uri).1 with
        | .lost status => .error (.err (.networkError status))
        | .unheard status => .error (.err (.networkError status))
        | .answered => reported ((remote w.contacts client.uri).2.clientWrite (.execute sql params))),
       w.addContact (w.nextContact remote client.uri ⟨sql, encoded params⟩)) := by
  rw [RpcClient.exec_mutateState, exec_deliver, RpcServer.mutateState_encoded, ← writeResult_reply]
  unfold Net.nextContact
  rcases remote w.contacts client.uri with ⟨_ | _ | _, raft⟩ <;> rfl

end Compose

/-! ## The retry loop -/

section Loop

variable (sql : String) (params : List TransportableParam)

/-- The node committed the statement. -/
def Contact.Committed [Serde (List TransportableParam)] (c : Contact W M F) : Prop :=
  c.request = ⟨sql, encoded params⟩ ∧ (∀ status, c.passage ≠ .lost status) ∧
    ∃ res, c.raft.clientWrite (.execute sql params) = .ok res

/-- The node did not commit the statement and its answer goes unchecked. -/
def Contact.Misread (c : Contact W M F) : Prop :=
  c.passage = .answered ∧ Unchecked (c.raft.clientWrite (.execute sql params))

/-- The node's answer is a redirect. -/
def Contact.Redirects (c : Contact W M F) : Prop :=
  ∃ leader, c.raft.clientWrite (.execute sql params) = .error (.forwardToLeader leader)

variable {sql params}

theorem Contact.Redirects.not_misread {c : Contact W M F} (h : c.Redirects sql params) :
    ¬ c.Misread sql params := by
  obtain ⟨leader, hl⟩ := h
  rintro ⟨-, hu⟩
  rw [hl] at hu
  exact hu

theorem Contact.Redirects.not_committed [Serde (List TransportableParam)] {c : Contact W M F}
    (h : c.Redirects sql params) : ¬ c.Committed sql params := by
  obtain ⟨leader, hl⟩ := h
  rintro ⟨-, -, res, hres⟩
  rw [hl] at hres
  cases hres

variable [UriParser] [Serde W] [Serde M] [Serde F] [Serde (List TransportableParam)]

variable (sql params) in
/-- How a run of the loop that made the contacts `new` may end: with success, which the last
node reported and all before it redirected, or without. -/
def Reports (new : List (Contact W M F)) (r : Except (Stop Rpc.Error) Unit) : Prop :=
  (r = .ok () ∧ ∃ past c, new = past ++ [c] ∧ (∀ d ∈ past, d.Redirects sql params) ∧
    c.request = ⟨sql, encoded params⟩ ∧ c.passage = .answered ∧
    reported (c.raft.clientWrite (.execute sql params)) = .ok ()) ∨
  (r ≠ .ok () ∧ ∀ d ∈ new, ¬ d.Misread sql params)

omit [UriParser] [Serde W] [Serde M] [Serde F] in
theorem Reports.cons {c : Contact W M F} {new : List (Contact W M F)}
    {r : Except (Stop Rpc.Error) Unit} (hc : c.Redirects sql params) (h : Reports sql params new r) :
    Reports sql params (c :: new) r := by
  rcases h with ⟨hr, past, d, rfl, hpast, hd⟩ | ⟨hr, hnew⟩
  · refine .inl ⟨hr, c :: past, d, rfl, ?_, hd⟩
    rintro e (_ | ⟨_, he⟩)
    · exact hc
    · exact hpast e he
  · refine .inr ⟨hr, ?_⟩
    rintro e (_ | ⟨_, he⟩)
    · exact hc.not_misread
    · exact hnew e he

omit [UriParser] [Serde W] [Serde M] [Serde F] in
/-- Success is reported of a committed statement exactly where no answer is misread. -/
theorem Reports.sound_iff {new : List (Contact W M F)} {r : Except (Stop Rpc.Error) Unit}
    (h : Reports sql params new r) :
    (r = .ok () → ∃ c ∈ new, c.Committed sql params) ↔ ∀ c ∈ new, ¬ c.Misread sql params := by
  rcases h with ⟨hr, past, d, rfl, hpast, hreq, hans, hrep⟩ | ⟨hr, hnew⟩
  · have hlost : ∀ status, d.passage ≠ .lost status := by
      rw [hans]
      exact fun status => nofun
    constructor
    · intro hsound c hc hmis
      have hcd : c = d := by
        rcases List.mem_append.mp hc with hp | hp
        · exact absurd hmis (hpast c hp).not_misread
        · exact List.mem_singleton.mp hp
      subst hcd
      obtain ⟨e, he, hcom⟩ := hsound hr
      rcases List.mem_append.mp he with hp | hp
      · exact (hpast e hp).not_committed hcom
      · rw [List.mem_singleton.mp hp] at hcom
        exact hmis.2.ne_ok hcom.2.2
    · intro hmis _
      refine ⟨d, by simp, hreq, hlost, ?_⟩
      rcases reported_eq_ok.mp hrep with hok | hu
      · exact hok
      · exact absurd ⟨hans, hu⟩ (hmis d (by simp))
  · exact ⟨fun _ => hnew, fun _ hok => absurd hok hr⟩

variable (remote : Remote W M F)

variable (sql params) in
/-- Every run of the program reports what the requests it sends are answered. -/
def AlwaysReports (p : Fallible (Net W M F) (Stop Rpc.Error) Unit) : Prop :=
  ∀ w, ∃ new, (p.run.exec w).2.contacts = w.contacts ++ new ∧
    Reports sql params new (p.run.exec w).1

omit [UriParser] [Serde W] [Serde M] [Serde F] in
/-- A program that sends nothing and fails. -/
theorem alwaysReports_throw (e : Stop Rpc.Error) :
    AlwaysReports (W := W) (M := M) (F := F) sql params (throw e) :=
  fun w => ⟨[], by simp, .inr ⟨nofun, by simp⟩⟩

/-- What one turn of the loop adds to what follows it. -/
theorem AlwaysReports.turn {again : Fallible (Net W M F) (Stop Rpc.Error) Unit}
    (h : AlwaysReports sql params again) :
    AlwaysReports sql params (ReplicatClient.executeTurn remote sql params again) := by
  intro w
  have hkeep := ReplicatClient.getLeaderClient_contacts w
  rw [ReplicatClient.exec_executeTurn]
  rcases hget : ReplicatClient.getLeaderClient.run.exec w with ⟨e | client, w₁⟩ <;> rw [hget] at hkeep
  · exact ⟨[], by simpa using hkeep, .inr ⟨nofun, by simp⟩⟩
  simp only [exec_mutateState_deliver, Net.nextContact]
  rcases remote w₁.contacts client.uri with ⟨passage, raft⟩
  have hsent : ∀ c : Contact W M F, (w₁.addContact c).contacts = w.contacts ++ [c] := by
    intro c
    rw [Net.addContact_contacts, hkeep]
  -- An error that is not a redirect ends the loop, and an unanswered request is not misread.
  cases passage with
  | lost status => exact ⟨_, hsent _, .inr ⟨nofun, by simp [Contact.Misread]⟩⟩
  | unheard status => exact ⟨_, hsent _, .inr ⟨nofun, by simp [Contact.Misread]⟩⟩
  | answered =>
    by_cases hreported : reported (raft.clientWrite (.execute sql params)) = .ok ()
    · rw [hreported]
      exact ⟨_, hsent _, .inl ⟨rfl, [], _, rfl, by simp, rfl, rfl, hreported⟩⟩
    · obtain ⟨hredirect, hrest⟩ := reported_ne_ok hreported
      let c : Contact W M F := ⟨client.uri, ⟨sql, encoded params⟩, .answered, raft⟩
      have hc : c.Redirects sql params := hredirect
      rcases hrest with ⟨node, hnode⟩ | hpanic
      · rw [hnode]
        obtain ⟨new, hnew, hreports⟩ := h ((w₁.addContact c).setLeader node)
        refine ⟨c :: new, ?_, hreports.cons hc⟩
        show (again.run.exec ((w₁.addContact c).setLeader node)).2.contacts = _
        rw [hnew, Net.setLeader_contacts, hsent, List.append_assoc, List.singleton_append]
      · rw [hpanic]
        refine ⟨[c], hsent c, .inr ⟨nofun, ?_⟩⟩
        intro d hd
        rw [List.mem_singleton.mp hd]
        exact hc.not_misread

variable (sql params) in
theorem executeLoop_reports (retries : Nat) :
    AlwaysReports sql params (ReplicatClient.executeLoop remote sql params retries) := by
  induction retries with
  | zero => exact (alwaysReports_throw _).turn remote
  | succ retries ih => exact ih.turn remote

end Loop

section Main

variable [UriParser] [Serde W] [Serde M] [Serde F] [Serde (List TransportableParam)]

/-- The requests that `execute` sends. -/
def executeContacts (remote : Remote W M F) (w : Net W M F) (sql : String) (params : ParamsValue) :
    List (Contact W M F) :=
  ((ReplicatClient.execute remote sql params).run.exec w).2.contacts.drop w.contacts.length

theorem execute_reports (remote : Remote W M F) (w : Net W M F) (sql : String)
    (params : ParamsValue) :
    Reports sql params.params (executeContacts remote w sql params)
      ((ReplicatClient.execute remote sql params).run.exec w).1 := by
  obtain ⟨new, hnew, hreports⟩ := executeLoop_reports sql params.params remote 2 w
  have hcontacts : executeContacts remote w sql params = new := by
    show ((ReplicatClient.executeLoop remote sql params.params 2).run.exec w).2.contacts.drop _ = new
    rw [hnew, List.drop_left]
  rw [hcontacts]
  exact hreports

/-- A first request whose answer is taken for success is the only one. -/
theorem executeContacts_fresh (remote : Remote W M F) (leader : NodeId × String)
    (client : RpcClient) (raft : ReplicatRaft W M F) (sql : String) (params : ParamsValue)
    (hconnect : RpcClient.connect leader.2 = .ok client)
    (hremote : remote [] client.uri = (.answered, raft))
    (hreported : reported (raft.clientWrite (.execute sql params.params)) = .ok ()) :
    ((ReplicatClient.execute remote sql params).run.exec (.fresh leader)).1 = .ok () ∧
      executeContacts remote (.fresh leader) sql params =
        [⟨client.uri, ⟨sql, encoded params.params⟩, .answered, raft⟩] := by
  let w : Net W M F := .fresh leader
  have hnone : w.clients w.leader.1 = none := rfl
  have hconnect' : RpcClient.connect w.leader.2 = .ok client := hconnect
  have hexec : (ReplicatClient.execute remote sql params).run.exec w = (.ok (),
      (w.insertClient leader.1 leader.2 client).addContact
        ⟨client.uri, ⟨sql, encoded params.params⟩, .answered, raft⟩) := by
    have hget : ReplicatClient.getLeaderClient.run.exec w =
        (.ok client, w.insertClient leader.1 leader.2 client) := by
      rw [ReplicatClient.exec_getLeaderClient, hnone, hconnect']
      rfl
    have hanswer : (client.mutateState (Net.deliver remote) sql params.params).run.exec
        (w.insertClient leader.1 leader.2 client) = (.ok (), (w.insertClient leader.1 leader.2
          client).addContact ⟨client.uri, ⟨sql, encoded params.params⟩, .answered, raft⟩) := by
      rw [exec_mutateState_deliver, ← hreported]
      unfold Net.nextContact
      rw [Net.insertClient_contacts, show w.contacts = [] from rfl, hremote]
    show (ReplicatClient.executeLoop remote sql params.params 2).run.exec w = _
    unfold ReplicatClient.executeLoop
    exact ReplicatClient.exec_executeTurn_ok hget hanswer
  unfold executeContacts
  rw [hexec]
  exact ⟨rfl, rfl⟩

/-- **What a report of success says**: `mutate_state` returns `Ok` only for a committed write
exactly where the raft call's result is one it checks, `change_membership` exactly where the
raft call succeeds, and `execute` exactly where no node's answer is misread. -/
theorem write_reported_done_iff :
    (∀ (server : RpcServer W M F) (client : RpcClient) (sql : String)
        (params : List TransportableParam),
      (((client.mutateState (fun _ req => liftResult (server.mutateState req)) sql
          params).run.exec ()).1 = .ok () →
        ∃ res, server.raft.clientWrite (.execute sql params) = .ok res) ↔
      ¬ Unchecked (server.raft.clientWrite (.execute sql params))) ∧
    (∀ (server : RpcServer W M F) (client : RpcClient) (members : List NodeId),
      (((client.changeMembership (fun _ req => liftResult (server.changeMembership req))
          members).run.exec ()).1 = .ok () →
        ∃ res, server.raft.changeMembership members true true = .ok res) ↔
      ∀ error, server.raft.changeMembership members true true ≠ .error error) ∧
    (∀ (remote : Remote W M F) (w : Net W M F) (sql : String) (params : ParamsValue),
      (((ReplicatClient.execute remote sql params).run.exec w).1 = .ok () →
        ∃ c ∈ executeContacts remote w sql params, c.Committed sql params.params) ↔
      ∀ c ∈ executeContacts remote w sql params, ¬ c.Misread sql params.params) := by
  refine ⟨fun server client sql params => ?_, fun server client members => ?_,
    fun remote w sql params => (execute_reports remote w sql params).sound_iff⟩
  · rw [exec_mutateState_server]
    exact reported_sound_iff
  · rw [exec_changeMembership_server]
    rcases server.raft.changeMembership members true true with error | res
    · simp
    · simp

end Main

/-- A raft core that has stopped: every call returns `Fatal`. -/
def stoppedRaft : ReplicatRaft Unit Unit Unit where
  clientWrite _ := .error (.fatal ())
  changeMembership _ _ _ := .error (.fatal ())

/-- A stopped leader commits nothing, and all three calls return `Ok(())`. -/
theorem stopped_leader_reports_done :
    (((RpcClient.mutateState (fun _ req => liftResult (RpcServer.mutateState ⟨stoppedRaft⟩ req))
        ⟨⟨"http://a:1"⟩⟩ createNotes []).run.exec ()).1 = .ok () ∧
      ¬ ∃ res, stoppedRaft.clientWrite (.execute createNotes []) = .ok res) ∧
    (((RpcClient.changeMembership
        (fun _ req => liftResult (RpcServer.changeMembership ⟨stoppedRaft⟩ req))
        ⟨⟨"http://a:1"⟩⟩ [1, 2]).run.exec ()).1 = .ok () ∧
      ¬ ∃ res, stoppedRaft.changeMembership [1, 2] true true = .ok res) ∧
    ((ReplicatClient.execute (fun _ _ => (.answered, stoppedRaft)) createNotes
        .unit).run.exec (Net.fresh (1, "a:1"))).1 = .ok () ∧
      ¬ ∃ c ∈ executeContacts (fun _ _ => (.answered, stoppedRaft)) (Net.fresh (1, "a:1"))
          createNotes .unit,
        c.Committed createNotes [] := by
  have hstopped : ∀ req, ¬ ∃ res, stoppedRaft.clientWrite req = .ok res := by
    rintro req ⟨res, hres⟩
    cases hres
  have hrun := executeContacts_fresh (fun _ _ => (.answered, stoppedRaft)) (1, "a:1")
    ⟨⟨"http://a:1"⟩⟩ stoppedRaft createNotes .unit rfl rfl rfl
  refine ⟨⟨?_, hstopped _⟩, ⟨?_, ?_⟩, ?_, ?_⟩
  · rw [exec_mutateState_server]
    rfl
  · rw [exec_changeMembership_server]
  · rintro ⟨res, hres⟩
    cases hres
  · exact hrun.1
  · rw [hrun.2]
    rintro ⟨c, hc, -, -, hcommitted⟩
    rw [List.mem_singleton.mp hc] at hcommitted
    exact hstopped _ hcommitted

end Replicat
