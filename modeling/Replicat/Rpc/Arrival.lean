import Replicat.Lib.Proto3
import Replicat.Rpc.PeerOutcome

/-!
# Requests arrive as sent

The messages of `rpc/rpc_models.rs` in proto3, and what becomes of a request that one node's
client is given: flattened into a message, written, read, and rebuilt for the raft core of the
other node. A `Relay` is one kind of request by these steps.
-/

namespace Replicat

open RpcModels
open Proto3 (Message Tag Field Merges uint64)

/-! ## The messages on the wire -/

namespace RpcModels

namespace Vote

def encodeRaw (m : RpcModels.Vote) : List Field :=
  uint64.encode (.of 1) m.term ++ uint64.encode (.of 2) m.nodeId ++
    Proto3.bool.encode (.of 3) m.committed

def mergeField (_ : Nat) (m : RpcModels.Vote) (field : Field) : Option RpcModels.Vote :=
  match field.tag.number with
  | 1 => (uint64.read field.payload).map ({ m with term := · })
  | 2 => (uint64.read field.payload).map ({ m with nodeId := · })
  | 3 => (Proto3.bool.read field.payload).map ({ m with committed := · })
  | _ => some m

theorem merges (levels : Nat) (m : RpcModels.Vote) : Merges (mergeField levels) ⟨0, 0, false⟩ m.encodeRaw m := by
  refine .append (.append (uint64.merges (mk · 0 false) ?_) (uint64.merges (mk m.term · false) ?_))
    (Proto3.bool.merges (mk m.term m.nodeId ·) ?_)
  · simp [mergeField, Tag.of]
  · simp [mergeField, Tag.of]
  · simp [mergeField, Tag.of]

def message : Message RpcModels.Vote := ⟨⟨0, 0, false⟩, encodeRaw, mergeField, merges⟩

end Vote

namespace LogId

def encodeRaw (m : RpcModels.LogId) : List Field :=
  uint64.encode (.of 1) m.term ++ uint64.encode (.of 2) m.nodeId ++
    uint64.encode (.of 3) m.index

def mergeField (_ : Nat) (m : RpcModels.LogId) (field : Field) : Option RpcModels.LogId :=
  match field.tag.number with
  | 1 => (uint64.read field.payload).map ({ m with term := · })
  | 2 => (uint64.read field.payload).map ({ m with nodeId := · })
  | 3 => (uint64.read field.payload).map ({ m with index := · })
  | _ => some m

theorem merges (levels : Nat) (m : RpcModels.LogId) : Merges (mergeField levels) ⟨0, 0, 0⟩ m.encodeRaw m := by
  refine .append (.append (uint64.merges (mk · 0 0) ?_) (uint64.merges (mk m.term · 0) ?_))
    (uint64.merges (mk m.term m.nodeId ·) ?_)
  · simp [mergeField, Tag.of]
  · simp [mergeField, Tag.of]
  · simp [mergeField, Tag.of]

def message : Message RpcModels.LogId := ⟨⟨0, 0, 0⟩, encodeRaw, mergeField, merges⟩

end LogId

namespace AppendEntriesRequest

def encodeRaw (m : RpcModels.AppendEntriesRequest) : List Field :=
  Vote.message.encodeOptional (.of 1) m.vote ++ LogId.message.encodeOptional (.of 2) m.prevLogId ++
    Proto3.bytes.encode (.of 3) m.entries ++ LogId.message.encodeOptional (.of 4) m.leaderCommit

def mergeField (levels : Nat) (m : RpcModels.AppendEntriesRequest) (field : Field) :
    Option RpcModels.AppendEntriesRequest :=
  match field.tag.number with
  | 1 => (Vote.message.readOptional levels m.vote field.payload).map ({ m with vote := · })
  | 2 => (LogId.message.readOptional levels m.prevLogId field.payload).map ({ m with prevLogId := · })
  | 3 => (Proto3.bytes.read field.payload).map ({ m with entries := · })
  | 4 => (LogId.message.readOptional levels m.leaderCommit field.payload).map ({ m with leaderCommit := · })
  | _ => some m

theorem merges (levels : Nat) (m : RpcModels.AppendEntriesRequest) :
    Merges (mergeField levels) ⟨none, none, [], none⟩ m.encodeRaw m := by
  refine .append (.append (.append
    (Vote.message.mergesOptional (mk · none [] none) fun vote => ?_)
    (LogId.message.mergesOptional (mk m.vote · [] none) fun prevLogId => ?_))
    (Proto3.bytes.merges (mk m.vote m.prevLogId · none) ?_))
    (LogId.message.mergesOptional (mk m.vote m.prevLogId m.entries ·) fun leaderCommit => ?_)
  · simp [mergeField, Tag.of]
  · simp [mergeField, Tag.of]
  · simp [mergeField, Tag.of]
  · simp [mergeField, Tag.of]

def message : Message RpcModels.AppendEntriesRequest :=
  ⟨⟨none, none, [], none⟩, encodeRaw, mergeField, merges⟩

end AppendEntriesRequest

namespace InstallSnapshotRequest

def encodeRaw (m : RpcModels.InstallSnapshotRequest) : List Field :=
  Vote.message.encodeOptional (.of 1) m.vote ++ Proto3.bytes.encode (.of 2) m.metadata ++
    uint64.encode (.of 3) m.offset ++ Proto3.bytes.encode (.of 4) m.data ++
    Proto3.bool.encode (.of 5) m.done

def mergeField (levels : Nat) (m : RpcModels.InstallSnapshotRequest) (field : Field) :
    Option RpcModels.InstallSnapshotRequest :=
  match field.tag.number with
  | 1 => (Vote.message.readOptional levels m.vote field.payload).map ({ m with vote := · })
  | 2 => (Proto3.bytes.read field.payload).map ({ m with metadata := · })
  | 3 => (uint64.read field.payload).map ({ m with offset := · })
  | 4 => (Proto3.bytes.read field.payload).map ({ m with data := · })
  | 5 => (Proto3.bool.read field.payload).map ({ m with done := · })
  | _ => some m

theorem merges (levels : Nat) (m : RpcModels.InstallSnapshotRequest) :
    Merges (mergeField levels) ⟨none, [], 0, [], false⟩ m.encodeRaw m := by
  refine .append (.append (.append (.append
    (Vote.message.mergesOptional (mk · [] 0 [] false) fun vote => ?_)
    (Proto3.bytes.merges (mk m.vote · 0 [] false) ?_))
    (uint64.merges (mk m.vote m.metadata · [] false) ?_))
    (Proto3.bytes.merges (mk m.vote m.metadata m.offset · false) ?_))
    (Proto3.bool.merges (mk m.vote m.metadata m.offset m.data ·) ?_)
  · simp [mergeField, Tag.of]
  · simp [mergeField, Tag.of]
  · simp [mergeField, Tag.of]
  · simp [mergeField, Tag.of]
  · simp [mergeField, Tag.of]

def message : Message RpcModels.InstallSnapshotRequest :=
  ⟨⟨none, [], 0, [], false⟩, encodeRaw, mergeField, merges⟩

end InstallSnapshotRequest

namespace VoteRequest

def encodeRaw (m : RpcModels.VoteRequest) : List Field :=
  Vote.message.encodeOptional (.of 1) m.vote ++ LogId.message.encodeOptional (.of 2) m.lastLogId

def mergeField (levels : Nat) (m : RpcModels.VoteRequest) (field : Field) : Option RpcModels.VoteRequest :=
  match field.tag.number with
  | 1 => (Vote.message.readOptional levels m.vote field.payload).map ({ m with vote := · })
  | 2 => (LogId.message.readOptional levels m.lastLogId field.payload).map ({ m with lastLogId := · })
  | _ => some m

theorem merges (levels : Nat) (m : RpcModels.VoteRequest) : Merges (mergeField levels) ⟨none, none⟩ m.encodeRaw m := by
  refine .append (Vote.message.mergesOptional (mk · none) fun vote => ?_)
    (LogId.message.mergesOptional (mk m.vote ·) fun lastLogId => ?_)
  · simp [mergeField, Tag.of]
  · simp [mergeField, Tag.of]

def message : Message RpcModels.VoteRequest := ⟨⟨none, none⟩, encodeRaw, mergeField, merges⟩

end VoteRequest

namespace MutateRequest

def encodeRaw (m : RpcModels.MutateRequest) : List Field :=
  Proto3.string.encode (.of 1) m.sql ++ Proto3.bytes.encode (.of 2) m.parameters

def mergeField (_ : Nat) (m : RpcModels.MutateRequest) (field : Field) : Option RpcModels.MutateRequest :=
  match field.tag.number with
  | 1 => (Proto3.string.read field.payload).map ({ m with sql := · })
  | 2 => (Proto3.bytes.read field.payload).map ({ m with parameters := · })
  | _ => some m

theorem merges (levels : Nat) (m : RpcModels.MutateRequest) : Merges (mergeField levels) ⟨"", []⟩ m.encodeRaw m := by
  refine .append (Proto3.string.merges (mk · []) ?_) (Proto3.bytes.merges (mk m.sql ·) ?_)
  · simp [mergeField, Tag.of]
  · simp [mergeField, Tag.of]

def message : Message RpcModels.MutateRequest := ⟨⟨"", []⟩, encodeRaw, mergeField, merges⟩

end MutateRequest

structure MetricsRequest where
  deriving DecidableEq, Repr

namespace Node

def encodeRaw (m : Node) : List Field :=
  uint64.encode (.of 1) m.id ++ Proto3.string.encode (.of 2) m.rpcAddr

def mergeField (_ : Nat) (m : Node) (field : Field) : Option Node :=
  match field.tag.number with
  | 1 => (uint64.read field.payload).map ({ m with id := · })
  | 2 => (Proto3.string.read field.payload).map ({ m with rpcAddr := · })
  | _ => some m

theorem merges (levels : Nat) (m : Node) : Merges (mergeField levels) ⟨0, ""⟩ m.encodeRaw m := by
  refine .append (uint64.merges (mk · "") ?_) (Proto3.string.merges (mk m.id ·) ?_)
  · simp [mergeField, Tag.of]
  · simp [mergeField, Tag.of]

def message : Message Node := ⟨⟨0, ""⟩, encodeRaw, mergeField, merges⟩

end Node

namespace RpcResponse

def encodeRaw (m : RpcResponse) : List Field :=
  Proto3.int32.encode (.of 1) m.error ++ Node.message.encodeOptional (.of 2) m.leader ++
    Proto3.string.encode (.of 3) m.message ++ Proto3.bytes.encode (.of 4) m.additionalData

def mergeField (levels : Nat) (m : RpcResponse) (field : Field) : Option RpcResponse :=
  match field.tag.number with
  | 1 => (Proto3.int32.read field.payload).map ({ m with error := · })
  | 2 => (Node.message.readOptional levels m.leader field.payload).map ({ m with leader := · })
  | 3 => (Proto3.string.read field.payload).map ({ m with message := · })
  | 4 => (Proto3.bytes.read field.payload).map ({ m with additionalData := · })
  | _ => some m

theorem merges (levels : Nat) (m : RpcResponse) : Merges (mergeField levels) ⟨0, none, "", []⟩ m.encodeRaw m := by
  refine .append (.append (.append
    (Proto3.int32.merges (mk · none "" []) ?_)
    (Node.message.mergesOptional (mk m.error · "" []) fun leader => ?_))
    (Proto3.string.merges (mk m.error m.leader · []) ?_))
    (Proto3.bytes.merges (mk m.error m.leader m.message ·) ?_)
  · simp [mergeField, Tag.of]
  · simp [mergeField, Tag.of]
  · simp [mergeField, Tag.of]
  · simp [mergeField, Tag.of]

def codec : Message RpcResponse := ⟨⟨0, none, "", []⟩, encodeRaw, mergeField, merges⟩

end RpcResponse

namespace ChangeMembershipRequest

def encodeRaw (m : ChangeMembershipRequest) : List Field := Proto3.encodeRepeated (.of 1) m.members

def mergeField (_ : Nat) (m : ChangeMembershipRequest) (field : Field) : Option ChangeMembershipRequest :=
  match field.tag.number with
  | 1 => (Proto3.readRepeated m.members field.payload).map ({ m with members := · })
  | _ => some m

theorem merges (levels : Nat) (m : ChangeMembershipRequest) : Merges (mergeField levels) ⟨[]⟩ m.encodeRaw m := by
  refine Proto3.mergesRepeated mk ?_
  simp [mergeField, Tag.of]

def message : Message ChangeMembershipRequest := ⟨⟨[]⟩, encodeRaw, mergeField, merges⟩

end ChangeMembershipRequest

namespace MetricsRequest

/-- There is no field. -/
def message : Message MetricsRequest := ⟨⟨⟩, fun _ => [], fun _ m _ => some m, fun _ _ => rfl⟩

end MetricsRequest

end RpcModels

/-! ## Relays -/

/-- One kind of request on its way: the message the client makes of it, and the request the
server makes of the message. -/
structure Relay (Req : Type) where
  Msg : Type
  message : Message Msg
  flatten : Req → Except EncodeError Msg
  rebuild : Msg → Except (Stop Status) Req

namespace Relay

variable {Req : Type} (p : Relay Req)

/-- The bytes a request is sent as. -/
def sent (req : Req) : Except EncodeError Proto3.Bytes := (p.flatten req).map p.message.encode

/-- The request is sent as bytes that are a message again; the server rebuilds the request of
it, and the handler answers the message as the raft core's `answer` to the request. -/
def Arrives (handler : p.Msg → Except (Stop Status) RpcResponse)
    (answer : Req → Except Status RpcResponse) (req : Req) : Prop :=
  ∃ bytes message, p.sent req = .ok bytes ∧ p.message.decode bytes = some message ∧
    p.rebuild message = .ok req ∧ handler message = (answer req).mapError .err

variable {p}

/-- What is rebuilt as it was flattened arrives: nothing is lost in the bytes. -/
theorem arrives {handler : p.Msg → Except (Stop Status) RpcResponse}
    {answer : Req → Except Status RpcResponse} {req : Req} {message : p.Msg}
    (hflatten : p.flatten req = .ok message) (hrebuild : p.rebuild message = .ok req)
    (hhandler : handler message = (answer req).mapError .err) : p.Arrives handler answer req := by
  refine ⟨p.message.encode message, message, ?_, p.message.decode_encode message, hrebuild,
    hhandler⟩
  rw [sent, hflatten]
  rfl

/-- Requests that arrive differ in their bytes where they differ at all. -/
theorem sent_injective (h : ∀ req, ∃ message, p.flatten req = .ok message ∧
    p.rebuild message = .ok req) : Function.Injective p.sent := by
  intro a b hab
  obtain ⟨ma, hma, hra⟩ := h a
  obtain ⟨mb, hmb, hrb⟩ := h b
  have hbytes : p.message.encode ma = p.message.encode mb := by
    rw [sent, sent, hma, hmb] at hab
    exact Except.ok.inj hab
  rw [p.message.encode_inj hbytes] at hra
  exact Except.ok.inj (hra.symm.trans hrb)

end Relay

def appendEntriesRelay [Serde (List Entry)] : Relay Raft.AppendEntriesRequest :=
  ⟨_, AppendEntriesRequest.message, RpcClient.appendEntriesMessage, RpcServer.appendEntriesRpc⟩

def installSnapshotRelay [Serde SnapshotMeta] : Relay Raft.InstallSnapshotRequest :=
  ⟨_, InstallSnapshotRequest.message, RpcClient.installSnapshotMessage,
    RpcServer.installSnapshotRpc⟩

def voteRelay : Relay Raft.VoteRequest :=
  ⟨_, VoteRequest.message, fun req => .ok (RpcClient.voteMessage req), RpcServer.voteRpc⟩

def mutateRelay [Serde (List TransportableParam)] : Relay Request :=
  ⟨_, MutateRequest.message, fun | .execute sql params => RpcClient.mutateMessage sql params,
    RpcServer.mutateRpc⟩

/-! ## Arrival -/

section Arrival

variable {A V I W M F : Type} [Serde A] [Serde V] [Serde I] [Serde W] [Serde M] [Serde F]
  [Serde (List Entry)] [Serde SnapshotMeta] [Serde SnapshotMismatch]
  [Serde (List TransportableParam)]

/-- What `mutate_state` replies to the answer of the raft core. -/
def RpcServer.mutateAnswer : Except (ClientWriteError M F) W → Except Status RpcResponse
  | .ok res => RpcResponse.ok res
  | .error error => clientWriteResp error

omit [Serde A] [Serde V] [Serde I] [Serde (List Entry)] [Serde SnapshotMeta]
  [Serde SnapshotMismatch] in
/-- The handler of `mutate_state` in the shape of the handlers of the peer calls. -/
theorem RpcServer.mutateState_eq (server : RpcServer W M F) (message : MutateRequest) :
    (server.mutateState message).mapError Stop.err =
      (do
        let req ← mutateRpc message
        (mutateAnswer (server.raft.clientWrite req)).mapError .err) := by
  unfold mutateState mutateRpc
  rcases (fromBytes message.parameters : Except DecodeError (List TransportableParam)) with
    e | params <;> rfl

/-- **Requests arrive as sent**: every request of the four kinds is what the handler calls the
raft core with, and requests that differ differ on the wire. -/
theorem requests_arrive_as_sent (raft : PeerRaft A V I F) (server : RpcServer W M F) :
    ((∀ req, appendEntriesRelay.Arrives (RpcServer.appendEntries raft)
        (fun req => RpcServer.appendEntriesAnswer (raft.appendEntries req)) req) ∧
      Function.Injective appendEntriesRelay.sent) ∧
    ((∀ req, installSnapshotRelay.Arrives (RpcServer.installSnapshot raft)
        (fun req => RpcServer.installSnapshotAnswer (raft.installSnapshot req)) req) ∧
      Function.Injective installSnapshotRelay.sent) ∧
    ((∀ req, voteRelay.Arrives (RpcServer.vote raft)
        (fun req => RpcServer.voteAnswer (raft.vote req)) req) ∧
      Function.Injective voteRelay.sent) ∧
    ((∀ req, mutateRelay.Arrives (fun message => (server.mutateState message).mapError Stop.err)
        (fun req => RpcServer.mutateAnswer (server.raft.clientWrite req)) req) ∧
      Function.Injective mutateRelay.sent) := by
  refine ⟨⟨fun req => ?_, ?_⟩, ⟨fun req => ?_, ?_⟩, ⟨fun req => ?_, ?_⟩, fun req => ?_, ?_⟩
  · obtain ⟨message, hmessage, hrpc⟩ := appendEntriesMessage_rpc req
    refine Relay.arrives hmessage hrpc ?_
    unfold RpcServer.appendEntries
    rw [hrpc]
    rfl
  · exact Relay.sent_injective (p := appendEntriesRelay) appendEntriesMessage_rpc
  · obtain ⟨message, hmessage, hrpc⟩ := installSnapshotMessage_rpc req
    refine Relay.arrives hmessage hrpc ?_
    unfold RpcServer.installSnapshot
    rw [hrpc]
    rfl
  · exact Relay.sent_injective (p := installSnapshotRelay) installSnapshotMessage_rpc
  · refine Relay.arrives rfl (voteMessage_rpc req) ?_
    unfold RpcServer.vote
    rw [voteMessage_rpc]
    rfl
  · exact Relay.sent_injective (p := voteRelay) fun req => ⟨_, rfl, voteMessage_rpc req⟩
  · obtain ⟨sql, params⟩ := req
    obtain ⟨message, hmessage, hrpc⟩ := mutateMessage_rpc sql params
    refine Relay.arrives hmessage hrpc ?_
    show (server.mutateState message).mapError Stop.err = _
    rw [RpcServer.mutateState_eq, hrpc]
    rfl
  · refine Relay.sent_injective (p := mutateRelay) fun req => ?_
    obtain ⟨sql, params⟩ := req
    exact mutateMessage_rpc sql params

end Arrival

end Replicat
