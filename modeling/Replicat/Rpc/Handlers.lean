import Replicat.Rpc.Arrival
import Replicat.Storage.Catalog

/-!
# Messages with parts missing

In proto3 any message field may be absent. The handlers of the peer calls unwrap the vote of a
request; everything else that is missing or cannot be decoded becomes a default or a `Status`.
`handlers_survive_iff`: a handler gets through a message exactly when its vote is there.
-/

namespace Replicat

open RpcModels

/-- The handler does not panic: it calls the raft core with a request that `decoded` describes, or
returns a status, whatever the core. -/
structure Survives {ρ Req : Type} (decoded : Req → Prop) (answer : ρ → Req → Except Status RpcResponse)
    (handler : ρ → Except (Stop Status) RpcResponse) (raft : ρ) : Prop where
  noPanic : handler raft ≠ .error .panic
  decides : (∃ req, decoded req ∧ ∀ raft, handler raft = (answer raft req).mapError .err) ∨
    ∃ status, ∀ raft, handler raft = .error (.err status)

/-- A handler that rebuilds a request and passes it on panics where the rebuilding does. -/
theorem survives_iff {ρ Req : Type} {decoded : Req → Prop} {answer : ρ → Req → Except Status RpcResponse}
    {handler : ρ → Except (Stop Status) RpcResponse} {rebuilt : Except (Stop Status) Req}
    (hhandler : ∀ raft, handler raft = rebuilt.bind fun req => (answer raft req).mapError .err)
    (hdecoded : ∀ req, rebuilt = .ok req → decoded req) (raft : ρ) :
    Survives decoded answer handler raft ↔ rebuilt ≠ .error .panic := by
  rcases rebuilt with (status | _) | req
  · exact ⟨fun _ => nofun, fun _ => ⟨by rw [hhandler]; exact nofun, .inr ⟨status, hhandler⟩⟩⟩
  · exact ⟨fun h => absurd (hhandler raft) h.noPanic, fun h => absurd rfl h⟩
  · refine ⟨fun _ => nofun, fun _ => ⟨?_, .inl ⟨req, hdecoded req rfl, hhandler⟩⟩⟩
    rw [hhandler]
    show (answer raft req).mapError Stop.err ≠ .error .panic
    cases answer raft req <;> exact nofun

/-! ## What the requests are decoded to -/

namespace RpcModels

def AppendEntriesRequest.DecodesTo [Serde (List Entry)] (request : AppendEntriesRequest)
    (rpc : Raft.AppendEntriesRequest) : Prop :=
  request.vote.map .ofMessage = some rpc.vote ∧ request.prevLogId.map .ofMessage = rpc.prevLogId ∧
    fromBytes request.entries = .ok rpc.entries ∧ request.leaderCommit.map .ofMessage = rpc.leaderCommit

def InstallSnapshotRequest.DecodesTo [Serde SnapshotMeta] (request : InstallSnapshotRequest)
    (rpc : Raft.InstallSnapshotRequest) : Prop :=
  request.vote.map .ofMessage = some rpc.vote ∧ fromBytes request.metadata = .ok rpc.metadata ∧
    request.offset = rpc.offset ∧ request.data = rpc.data ∧ request.done = rpc.done

def VoteRequest.DecodesTo (request : VoteRequest) (rpc : Raft.VoteRequest) : Prop :=
  request.vote.map .ofMessage = some rpc.vote ∧ request.lastLogId.map .ofMessage = rpc.lastLogId

def MutateRequest.DecodesTo [Serde (List TransportableParam)] (request : MutateRequest) (req : Request) :
    Prop :=
  ∃ params, fromBytes request.parameters = .ok params ∧ req = .execute request.sql params

end RpcModels

section Rebuilt

open RpcServer

theorem appendEntriesRpc_decodesTo [Serde (List Entry)] {request : AppendEntriesRequest}
    {rpc : Raft.AppendEntriesRequest} (h : appendEntriesRpc request = .ok rpc) : request.DecodesTo rpc := by
  rcases request with ⟨_ | vote, prevLogId, entries, leaderCommit⟩
  · cases h
  · unfold appendEntriesRpc at h
    rcases hentries : (fromBytes entries : Except DecodeError (List Entry)) with e | es
    · rw [hentries] at h
      cases h
    · rw [hentries] at h
      cases h
      exact ⟨rfl, rfl, hentries, rfl⟩

theorem installSnapshotRpc_decodesTo [Serde SnapshotMeta] {request : InstallSnapshotRequest}
    {rpc : Raft.InstallSnapshotRequest} (h : installSnapshotRpc request = .ok rpc) :
    request.DecodesTo rpc := by
  rcases request with ⟨_ | vote, metadata, offset, data, done⟩
  · cases h
  · unfold installSnapshotRpc at h
    rcases hmetadata : (fromBytes metadata : Except DecodeError SnapshotMeta) with e | m
    · rw [hmetadata] at h
      cases h
    · rw [hmetadata] at h
      cases h
      exact ⟨rfl, hmetadata, rfl, rfl, rfl⟩

theorem voteRpc_decodesTo {request : VoteRequest} {rpc : Raft.VoteRequest}
    (h : voteRpc request = .ok rpc) : request.DecodesTo rpc := by
  rcases request with ⟨_ | vote, lastLogId⟩
  · cases h
  · cases h
    exact ⟨rfl, rfl⟩

theorem mutateRpc_decodesTo [Serde (List TransportableParam)] {request : MutateRequest} {req : Request}
    (h : mutateRpc request = .ok req) : request.DecodesTo req := by
  unfold mutateRpc at h
  rcases hparams : (fromBytes request.parameters : Except DecodeError (List TransportableParam)) with e | ps
  · rw [hparams] at h
    cases h
  · rw [hparams] at h
    cases h
    exact ⟨ps, hparams, rfl⟩

/-- The vote is unwrapped first, and nothing after it panics. -/
theorem unwrapVote_then {Req : Type} (vote : Option RpcModels.Vote)
    {rest : RpcModels.Vote → Except (Stop Status) Req} (hrest : ∀ v, rest v ≠ .error .panic) :
    (unwrapVote vote).bind rest ≠ .error .panic ↔ vote.isSome := by
  cases vote with
  | none => exact ⟨fun h => absurd rfl h, nofun⟩
  | some v => exact ⟨fun _ => rfl, fun _ => hrest v⟩

/-- Decoding a field returns a status at worst. -/
theorem decoded_ne_panic {α Req : Type} (r : Except DecodeError α) (f : α → Req) :
    ((r.mapError fun e => Stop.err (internalDecode e)).bind fun a => .ok (f a)) ≠ .error .panic := by
  cases r <;> exact nofun

theorem appendEntriesRpc_survives [Serde (List Entry)] (request : AppendEntriesRequest) :
    appendEntriesRpc request ≠ .error .panic ↔ request.vote.isSome :=
  unwrapVote_then request.vote fun _ => decoded_ne_panic _ _

theorem installSnapshotRpc_survives [Serde SnapshotMeta] (request : InstallSnapshotRequest) :
    installSnapshotRpc request ≠ .error .panic ↔ request.vote.isSome :=
  unwrapVote_then request.vote fun _ => decoded_ne_panic _ _

theorem voteRpc_survives (request : VoteRequest) : voteRpc request ≠ .error .panic ↔ request.vote.isSome :=
  unwrapVote_then request.vote fun _ => nofun

theorem mutateRpc_survives [Serde (List TransportableParam)] (request : MutateRequest) :
    mutateRpc request ≠ .error .panic := decoded_ne_panic _ _

end Rebuilt

section Handlers

variable {A V I W M F : Type} [Serde A] [Serde V] [Serde I] [Serde W] [Serde M] [Serde F]
  [Serde (List Entry)] [Serde SnapshotMeta] [Serde SnapshotMismatch] [Serde (List TransportableParam)]

/-- **Which messages the handlers survive**: those of the peers with a vote, and every write. -/
theorem handlers_survive_iff (raft : PeerRaft A V I F) (core : ReplicatRaft W M F) :
    (∀ request : AppendEntriesRequest,
      Survives request.DecodesTo (fun raft rpc => RpcServer.appendEntriesAnswer (raft.appendEntries rpc))
        (fun raft : PeerRaft A V I F => RpcServer.appendEntries raft request) raft ↔ request.vote.isSome) ∧
    (∀ request : InstallSnapshotRequest,
      Survives request.DecodesTo (fun raft rpc => RpcServer.installSnapshotAnswer (raft.installSnapshot rpc))
        (fun raft : PeerRaft A V I F => RpcServer.installSnapshot raft request) raft ↔ request.vote.isSome) ∧
    (∀ request : VoteRequest,
      Survives request.DecodesTo (fun raft rpc => RpcServer.voteAnswer (raft.vote rpc))
        (fun raft : PeerRaft A V I F => RpcServer.vote raft request) raft ↔ request.vote.isSome) ∧
    ∀ request : MutateRequest,
      Survives request.DecodesTo (fun core req => RpcServer.mutateAnswer (core.clientWrite req))
        (fun core : ReplicatRaft W M F => (RpcServer.mutateState ⟨core⟩ request).mapError .err) core := by
  refine ⟨fun request => ?_, fun request => ?_, fun request => ?_, fun request => ?_⟩
  · refine (survives_iff (fun _ => rfl) (fun _ => appendEntriesRpc_decodesTo) raft).trans ?_
    exact appendEntriesRpc_survives request
  · refine (survives_iff (fun _ => rfl) (fun _ => installSnapshotRpc_decodesTo) raft).trans ?_
    exact installSnapshotRpc_survives request
  · refine (survives_iff (fun _ => rfl) (fun _ => voteRpc_decodesTo) raft).trans ?_
    exact voteRpc_survives request
  · refine (survives_iff (fun core => RpcServer.mutateState_eq ⟨core⟩ request)
      (fun _ => mutateRpc_decodesTo) core).2 ?_
    exact mutateRpc_survives request

end Handlers

/-- A message of no bytes is a request of a peer without its vote, and a handler panics on it. -/
theorem empty_messages_panic :
    AppendEntriesRequest.message.decode [] = some ⟨none, none, [], none⟩ ∧
    InstallSnapshotRequest.message.decode [] = some ⟨none, [], 0, [], false⟩ ∧
    VoteRequest.message.decode [] = some ⟨none, none⟩ ∧
    ∀ raft : PeerRaft Unit Unit Unit Unit,
      RpcServer.appendEntries raft ⟨none, none, [], none⟩ = .error .panic ∧
      RpcServer.vote raft ⟨none, none⟩ = .error .panic :=
  ⟨rfl, rfl, rfl, fun _ => ⟨rfl, rfl⟩⟩

end Replicat
