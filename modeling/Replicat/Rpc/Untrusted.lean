import Replicat.Lib.Pool
import Replicat.Rpc.Handlers
import Replicat.Rpc.Service

/-!
# Whatever arrives

Nothing says that what a server is sent comes from a client of this crate. Of any bytes on any
path it either makes one call of the raft core or none, and which of the two does not depend on the
core, so requests that come in at once are served as if one after the other: `served_any_bytes`.
-/

namespace Replicat

open RpcModels Atomics Atomics.Prog
open Proto3 (Bytes Message)

/-! ## What is refused -/

/-- The body is a message to a peer method in which no vote is. -/
def Voteless (path : String) (body : Bytes) : Prop :=
  (path = "/rpc_models.ClusterRpc/append_entries" ∧
    ∃ request, AppendEntriesRequest.message.decode body = some request ∧ request.vote = none) ∨
  (path = "/rpc_models.ClusterRpc/install_snapshot" ∧
    ∃ request, InstallSnapshotRequest.message.decode body = some request ∧ request.vote = none) ∨
  (path = "/rpc_models.ClusterRpc/vote" ∧
    ∃ request, VoteRequest.message.decode body = some request ∧ request.vote = none)

theorem read_eq_panic {Req α : Type} {undecodable : Status} {message : Message Req}
    {rpc : Req → Except (Stop Status) α} {body : Bytes} (f : α → CoreCall) :
    ((message.decode body).elim (.error (.err undecodable)) rpc).map f = .error .panic ↔
      ∃ request, message.decode body = some request ∧ rpc request = .error .panic := by
  rcases message.decode body with _ | request
  · exact ⟨nofun, nofun⟩
  · rw [Option.elim_some]
    rcases hrpc : rpc request with e | a
    · constructor
      · intro h
        cases h
        exact ⟨request, rfl, hrpc⟩
      · rintro ⟨_, ⟨⟩, h⟩
        rw [hrpc] at h
        cases h
        rfl
    · refine ⟨nofun, ?_⟩
      rintro ⟨_, ⟨⟩, h⟩
      rw [hrpc] at h
      cases h

theorem asked_eq_panic_iff [Serde (List Entry)] [Serde SnapshotMeta] [Serde (List TransportableParam)]
    (undecodable : Status) (path : String) (body : Bytes) :
    ClusterRpcServer.asked undecodable path body = .error .panic ↔ Voteless path body := by
  have hvote : ∀ {Req α : Type} {message : Message Req} {rpc : Req → Except (Stop Status) α}
      {vote : Req → Option RpcModels.Vote}, (∀ request, rpc request ≠ .error .panic ↔ (vote request).isSome) →
      ((∃ request, message.decode body = some request ∧ rpc request = .error .panic) ↔
        ∃ request, message.decode body = some request ∧ vote request = none) := by
    intro Req α message rpc vote h
    refine exists_congr fun request => and_congr_right fun _ => ?_
    rw [← not_iff_not, ← ne_eq, h, Option.isSome_iff_ne_none]
  unfold ClusterRpcServer.asked Voteless
  split
  · rw [read_eq_panic, hvote appendEntriesRpc_survives]
    simp
  · rw [read_eq_panic, hvote installSnapshotRpc_survives]
    simp
  · rw [read_eq_panic, hvote voteRpc_survives]
    simp
  · rw [read_eq_panic]
    simp
  · rw [read_eq_panic]
    simp
  · rw [read_eq_panic]
    simp
  · rw [read_eq_panic]
    simp [mutateRpc_survives]
  · simp_all

section Served

variable {σ A V I L W R M N F : Type} [Serde A] [Serde V] [Serde I] [Serde L] [Serde W] [Serde R] [Serde M]
  [Serde N] [Serde F] [Serde SnapshotMismatch]

/-- What the core answers is replied, and the core has moved. -/
def CoreCall.act (core : RaftCore σ A V I L W R M N F) (call : CoreCall) (s : σ) :
    Except Status RpcResponse × σ :=
  match call with
  | appendEntries rpc => (core.appendEntries rpc s).map RpcServer.appendEntriesAnswer id
  | installSnapshot rpc => (core.installSnapshot rpc s).map RpcServer.installSnapshotAnswer id
  | vote rpc => (core.vote rpc s).map RpcServer.voteAnswer id
  | addLearner nodeId node => (core.addLearner nodeId node false s).map addLearnerAnswer id
  | changeMembership members => (core.changeMembership members true true s).map RpcServer.mutateAnswer id
  | metrics => (RpcResponse.ok (core.metrics s), s)
  | clientWrite req => (core.clientWrite req s).map RpcServer.mutateAnswer id

/-- The result a request has from the start, or what is done for it. -/
def CoreCall.served (core : RaftCore σ A V I L W R M N F) :
    Except (Stop Status) CoreCall → Except (Except (Stop Status) Bytes) (σ → Except (Stop Status) Bytes × σ)
  | .error e => .error (.error e)
  | .ok call => .ok fun s => (call.act core s).map replyBytes id

theorem serveUnary_oneShot {Req α β : Type} {core : RaftCore σ A V I L W R M N F} {undecodable : Status}
    {message : Message Req} {g : Req → Except (Stop Status) α} {k : α → σ → β × σ}
    {answer : β → Except Status RpcResponse} {body : Bytes} (f : α → CoreCall)
    (hact : ∀ a s, (f a).act core s = (k a s).map answer id) :
    (serveUnary undecodable message (fun req => ClusterRpc.handler (g req) k answer) body).run =
      Pool.oneShot (CoreCall.served core
        (((message.decode body).elim (.error (.err undecodable)) g).map f)) := by
  rcases hbody : message.decode body with _ | req
  · unfold serveUnary
    rw [hbody]
    rfl
  · rcases hg : g req with e | a
    · unfold serveUnary ClusterRpc.handler
      rw [hbody]
      show ((liftResult (g req) >>= fun rpc => _ : Fallible σ (Stop Status) RpcResponse) >>= _).run = _
      rw [Option.elim_some, hg]
      rfl
    · rw [serveUnary_eq hbody hg, Option.elim_some, hg]
      show Prog.act _ _ = Prog.act _ _
      simp only [hact]
      rfl

/-- What a request does to the core. -/
def CoreCall.moved (core : RaftCore σ A V I L W R M N F) : Except (Stop Status) CoreCall → σ → σ
  | .error _, s => s
  | .ok call, s => (call.act core s).2

theorem CoreCall.moved_eq_shot (core : RaftCore σ A V I L W R M N F) (asked : Except (Stop Status) CoreCall)
    (s : σ) : moved core asked s = Pool.shot (served core asked) s := by
  rcases asked with e | call <;> rfl

/-- A reply with one of the codes, that names a leader only where it redirects. -/
def Coded (res : Except Status RpcResponse) : Prop :=
  ∃ resp code, res = .ok resp ∧ resp.error = RpcError.toI32 code ∧
    (resp.leader.isSome → code = .forwardToLeader)

omit [Serde A] [Serde V] [Serde I] [Serde L] [Serde R] [Serde N] [Serde SnapshotMismatch] in
theorem coded_mutateAnswer (res : Except (ClientWriteError M F) W) : Coded (RpcServer.mutateAnswer res) := by
  rcases res with e | res
  · obtain ⟨resp, hresp, herror, hleader⟩ := clientWriteResp_error e
    refine ⟨resp, e.rpcError, hresp, herror, fun h => ?_⟩
    rw [hleader] at h
    cases e with
    | forwardToLeader leader => rfl
    | changeMembershipError error => cases h
    | fatal error => cases h
  · exact ⟨_, .none, dataResp_eq _ _ res, rfl, nofun⟩

/-- Every answer of the core can be replied. -/
theorem CoreCall.coded_act (core : RaftCore σ A V I L W R M N F) (call : CoreCall) (s : σ) :
    Coded (call.act core s).1 := by
  have hdata : ∀ {α : Type} [Serde α] (code : RpcError) (text : String) (data : α),
      Coded (dataResp code text data) := fun code text data => ⟨_, code, dataResp_eq code text data, rfl, nofun⟩
  cases call with
  | appendEntries rpc =>
    show Coded (RpcServer.appendEntriesAnswer (core.appendEntries rpc s).1)
    rcases (core.appendEntries rpc s).1 with ⟨⟨error⟩⟩ | res
    · exact hdata _ _ error
    · exact hdata _ _ res
  | installSnapshot rpc =>
    show Coded (RpcServer.installSnapshotAnswer (core.installSnapshot rpc s).1)
    rcases (core.installSnapshot rpc s).1 with (error | error) | res
    · exact hdata _ _ error
    · exact hdata _ _ error
    · exact hdata _ _ res
  | vote rpc =>
    show Coded (RpcServer.voteAnswer (core.vote rpc s).1)
    rcases (core.vote rpc s).1 with ⟨⟨error⟩⟩ | res
    · exact hdata _ _ error
    · exact hdata _ _ res
  | addLearner nodeId node =>
    show Coded (addLearnerAnswer (core.addLearner nodeId node false s).1)
    rcases (core.addLearner nodeId node false s).1 with (leader | error | error) | res
    · exact ⟨_, .forwardToLeader, rfl, rfl, fun _ => rfl⟩
    · exact hdata _ _ error
    · exact hdata _ _ error
    · exact hdata _ _ res
  | changeMembership members => exact coded_mutateAnswer _
  | metrics => exact hdata _ _ (core.metrics s)
  | clientWrite req => exact coded_mutateAnswer _

variable [Serde (List Entry)] [Serde SnapshotMeta] [Serde (List TransportableParam)]

/-- **The server on any bytes**: it refuses them whatever the core does, or calls the core once. -/
theorem ClusterRpcServer.call_eq_oneShot (core : RaftCore σ A V I L W R M N F) (undecodable : Status)
    (path : String) (body : Bytes) : (call core undecodable path body).run =
      Pool.oneShot (CoreCall.served core (asked undecodable path body)) := by
  unfold call asked
  split
  · exact serveUnary_oneShot .appendEntries fun _ _ => rfl
  · exact serveUnary_oneShot .installSnapshot fun _ _ => rfl
  · exact serveUnary_oneShot .vote fun _ _ => rfl
  · exact serveUnary_oneShot (fun node : Node => .addLearner node.id ⟨node.rpcAddr⟩) fun _ _ => rfl
  · exact serveUnary_oneShot (fun request : ChangeMembershipRequest => .changeMembership request.members)
      fun _ _ => rfl
  · exact serveUnary_oneShot (fun _ : MetricsRequest => .metrics) fun _ _ => rfl
  · exact serveUnary_oneShot .clientWrite fun _ _ => rfl
  · rfl

/-! ### Requests beside each other -/

section Beside

variable {ι : Type} (core : RaftCore σ A V I L W R M N F) (undecodable : Status) (requests : ι → String × Bytes)

/-- One handler for each request. -/
def ClusterRpcServer.serving (s₀ : σ) : Pool ι σ fun _ => Except (Stop Status) Bytes :=
  ⟨fun i => (call core undecodable (requests i).1 (requests i).2).run, s₀⟩

/-- The core after these requests, one after the other. -/
def ClusterRpcServer.coreAfter (order : List ι) (s₀ : σ) : σ :=
  order.foldl (fun s i => CoreCall.moved core (asked undecodable (requests i).1 (requests i).2) s) s₀

theorem coreAfter_eq_settle (order : List ι) (s₀ : σ) :
    ClusterRpcServer.coreAfter core undecodable requests order s₀ =
      Pool.settle (fun i => CoreCall.served core
        (ClusterRpcServer.asked undecodable (requests i).1 (requests i).2)) order s₀ := by
  unfold ClusterRpcServer.coreAfter Pool.settle
  refine congrArg (fun f => order.foldl f s₀) (funext fun s => funext fun i => ?_)
  exact CoreCall.moved_eq_shot core _ s

/-- **Whatever arrives**, on whatever paths, from however many clients at once: a request is
refused whatever the core does, with a panic exactly where a vote is missing, or it calls the core once,
all of them in some order, and is replied what the core answered there. -/
theorem served_any_bytes [DecidableEq ι] (s₀ : σ) (sched : List ι) : ∃ order : List ι, order.Nodup ∧
    ((ClusterRpcServer.serving core undecodable requests s₀).run sched).state =
      ClusterRpcServer.coreAfter core undecodable requests order s₀ ∧
    ∀ i r, ((ClusterRpcServer.serving core undecodable requests s₀).run sched).threads i = .ret r →
      (∃ e, ClusterRpcServer.asked undecodable (requests i).1 (requests i).2 = .error e ∧ r = .error e ∧
        (e = .panic ↔ Voteless (requests i).1 (requests i).2)) ∨
      ∃ before rest call resp, order = before ++ i :: rest ∧
        ClusterRpcServer.asked undecodable (requests i).1 (requests i).2 = .ok call ∧
        (call.act core (ClusterRpcServer.coreAfter core undecodable requests before s₀)).1 = .ok resp ∧
        r = .ok (RpcResponse.codec.encode resp) := by
  have hpool : ClusterRpcServer.serving core undecodable requests s₀ =
      ⟨fun i => Pool.oneShot (CoreCall.served core
        (ClusterRpcServer.asked undecodable (requests i).1 (requests i).2)), s₀⟩ := by
    unfold ClusterRpcServer.serving
    simp only [ClusterRpcServer.call_eq_oneShot]
  rw [hpool]
  obtain ⟨order, hnodup, hstate, hthreads⟩ := Pool.run_oneShot (fun i => CoreCall.served core
    (ClusterRpcServer.asked undecodable (requests i).1 (requests i).2)) s₀ sched
  refine ⟨order, hnodup, hstate.trans (coreAfter_eq_settle core undecodable requests order s₀).symm,
    fun i r hr => ?_⟩
  rcases hthreads i with ⟨-, hti⟩ | ⟨before, rest, f, horder, hf, hti⟩
  · -- a request that has not called the core and has a result was refused
    rcases hasked : ClusterRpcServer.asked undecodable (requests i).1 (requests i).2 with e | call
    · rw [hr, hasked] at hti
      cases hti
      refine .inl ⟨e, rfl, rfl, ?_⟩
      rw [← asked_eq_panic_iff undecodable, hasked]
      exact ⟨fun h => h ▸ rfl, fun h => Except.error.inj h⟩
    · rw [hr, hasked] at hti
      cases hti
  · rcases hasked : ClusterRpcServer.asked undecodable (requests i).1 (requests i).2 with e | call
    · rw [hasked] at hf
      cases hf
    · rw [hasked] at hf
      cases hf
      obtain ⟨resp, -, hresp, -⟩ := call.coded_act core
        (ClusterRpcServer.coreAfter core undecodable requests before s₀)
      refine .inr ⟨before, rest, call, resp, horder, rfl, hresp, ?_⟩
      rw [hr] at hti
      rw [coreAfter_eq_settle] at hresp
      obtain rfl : r = _ := Prog.ret.inj hti
      show replyBytes (call.act core _).1 = _
      rw [hresp]
      rfl

end Beside

end Served

end Replicat
