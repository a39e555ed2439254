import Replicat.Rpc.Peers
import Replicat.Storage.Catalog

/-!
# What a peer's answer becomes

A peer's raft core answers `append_entries`, `install_snapshot` or `vote` with a value or with
an error of its own; the server turns either into an `RpcResponse`, and the client decodes the
additional data of every response at the type of the value. Values arrive. An error arrives as
whatever its bytes mean at that type, or as a network failure: never as a remote error.
-/

namespace Replicat

open RpcModels Atomics Atomics.Prog

variable {A V I F : Type}

/-- What the caller of a handler is given. Of a handler that panics the transport says
`broken`. -/
def replied (broken : Status) : Except (Stop Status) RpcResponse → Except Status RpcResponse
  | .ok resp => .ok resp
  | .error (.err status) => .error status
  | .error .panic => .error broken

/-- The result of a send is the outcome of the remote call: its value, or a remote error that
carries its error. -/
def Transmitted {ε α : Type} (outcome : Except ε α) (result : Except (RPCError ε) α) : Prop :=
  match outcome with
  | .ok value => result = .ok value
  | .error error => ∃ target, result = .error (.remoteError target error)

/-- The value a reply is taken for, whatever its code. -/
def taken {ε α β : Type} [Serde α] [Serde β] (data : β) : Except (RPCError ε) α :=
  ((fromBytes (encoded data)).mapError Rpc.Error.deserializationError).mapError .network

theorem taken_self {ε α : Type} [Serde α] (value : α) :
    taken value = (.ok value : Except (RPCError ε) α) := by
  unfold taken
  rw [fromBytes_encoded]
  rfl

/-- No reply is taken for a remote error. -/
theorem taken_ne_remoteError {ε α β : Type} [Serde α] [Serde β] (data : β) (target : NodeId)
    (error : ε) : (taken data : Except (RPCError ε) α) ≠ .error (.remoteError target error) := by
  unfold taken
  rcases (fromBytes (encoded data) : Except DecodeError α) with e | value
  · simp [Except.mapError]
  · simp [Except.mapError]

/-- A call whose values are taken for themselves and whose errors are taken for something
transmits exactly the values. -/
theorem transmitted_iff {ε α : Type} [Serde α] {outcome : Except ε α}
    {result : Except (RPCError ε) α} (hvalue : ∀ value, outcome = .ok value → result = taken value)
    (herror : ∀ error, outcome = .error error →
      ∀ target e, result ≠ .error (.remoteError target e)) :
    Transmitted outcome result ↔ ∃ value, outcome = .ok value := by
  rcases outcome with error | value
  · constructor
    · rintro ⟨target, htarget⟩
      exact absurd htarget (herror error rfl target error)
    · rintro ⟨value, hvalue⟩
      cases hvalue
  · refine ⟨fun _ => ⟨value, rfl⟩, fun _ => ?_⟩
    show result = .ok value
    rw [hvalue value rfl, taken_self]

/-- A reply made of a value is taken for the value, whatever its code. -/
theorem read_dataResp {ε α β : Type} [Serde α] [Serde β] (broken : Status) (code : RpcError)
    (message : String) (data : β) :
    (((replied broken ((dataResp code message data).mapError .err)).mapError
      Rpc.Error.networkError >>= RpcClient.decodeReply).mapError .network :
        Except (RPCError ε) α) = taken data := by
  rw [dataResp_eq]
  rfl

/-! ## The client's methods on a reply -/

namespace RpcClient

variable {σ : Type} (self : RpcClient) (s : σ)

/-- The tail the methods share. -/
theorem exec_decodeReply {α : Type} [Serde α] (call : Fallible σ Status RpcResponse) :
    (do
      let resp ← mapErr .networkError call
      liftResult (decodeReply resp) : Fallible σ Rpc.Error α).run.exec s =
      ((call.run.exec s).1.mapError .networkError >>= decodeReply, (call.run.exec s).2) := by
  rw [exec_run_bind, exec_run_mapErr]
  rcases call.run.exec s with ⟨e | resp, t⟩ <;> rfl

theorem exec_appendEntries [Serde (List Entry)] [Serde A]
    (stub : Uri → AppendEntriesRequest → Fallible σ Status RpcResponse)
    {req : Raft.AppendEntriesRequest} {message : AppendEntriesRequest}
    (h : appendEntriesMessage req = .ok message) :
    (self.appendEntries stub req : Fallible σ Rpc.Error A).run.exec s =
      (((stub self.uri message).run.exec s).1.mapError .networkError >>= decodeReply,
        ((stub self.uri message).run.exec s).2) := by
  unfold appendEntries
  rw [h]
  exact exec_decodeReply s _

theorem exec_installSnapshot [Serde SnapshotMeta] [Serde I]
    (stub : Uri → InstallSnapshotRequest → Fallible σ Status RpcResponse)
    {req : Raft.InstallSnapshotRequest} {message : InstallSnapshotRequest}
    (h : installSnapshotMessage req = .ok message) :
    (self.installSnapshot stub req : Fallible σ Rpc.Error I).run.exec s =
      (((stub self.uri message).run.exec s).1.mapError .networkError >>= decodeReply,
        ((stub self.uri message).run.exec s).2) := by
  unfold installSnapshot
  rw [h]
  exact exec_decodeReply s _

theorem exec_vote [Serde V] (stub : Uri → VoteRequest → Fallible σ Status RpcResponse)
    (req : Raft.VoteRequest) :
    (self.vote stub req : Fallible σ Rpc.Error V).run.exec s =
      (((stub self.uri (voteMessage req)).run.exec s).1.mapError .networkError >>= decodeReply,
        ((stub self.uri (voteMessage req)).run.exec s).2) :=
  exec_decodeReply s _

end RpcClient

/-! ## The three calls -/

section Calls

variable [Serde F] {σ : Type} (raft : PeerRaft A V I F) (broken : Status)
  (connection : NetworkConnection) (s : σ)

/-- The result of `send_append_entries` to a node with this raft core. -/
def appendEntriesResult [Serde (List Entry)] [Serde A] (rpc : Raft.AppendEntriesRequest) :
    Except (RPCError (AppendEntriesError F)) A :=
  ((connection.sendAppendEntries
    (fun _ req => liftResult (replied broken (RpcServer.appendEntries raft req))) rpc).run.exec s).1

/-- The result of `send_install_snapshot` to a node with this raft core. -/
def installSnapshotResult [Serde SnapshotMeta] [Serde I] [Serde SnapshotMismatch]
    (rpc : Raft.InstallSnapshotRequest) : Except (RPCError (InstallSnapshotError F)) I :=
  ((connection.sendInstallSnapshot
    (fun _ req => liftResult (replied broken (RpcServer.installSnapshot raft req)))
    rpc).run.exec s).1

/-- The result of `send_vote` to a node with this raft core. -/
def voteResult [Serde V] (rpc : Raft.VoteRequest) : Except (RPCError (VoteError F)) V :=
  ((connection.sendVote
    (fun _ req => liftResult (replied broken (RpcServer.vote raft req))) rpc).run.exec s).1

theorem appendEntriesResult_eq [Serde (List Entry)] [Serde A] (rpc : Raft.AppendEntriesRequest) :
    appendEntriesResult raft broken connection s rpc =
      match raft.appendEntries rpc with
      | .ok value => taken value
      | .error (.fatal error) => taken error := by
  obtain ⟨message, hmessage, hrpc⟩ := appendEntriesMessage_rpc rpc
  unfold appendEntriesResult NetworkConnection.sendAppendEntries
  rw [exec_run_mapErr, RpcClient.exec_appendEntries _ _ _ hmessage, exec_run_liftResult]
  unfold RpcServer.appendEntries
  rw [hrpc]
  show Except.mapError _ (Except.mapError _ (replied broken
    ((RpcServer.appendEntriesAnswer (raft.appendEntries rpc)).mapError .err)) >>= _) = _
  rcases raft.appendEntries rpc with ⟨⟨error⟩⟩ | value
  · exact read_dataResp broken _ _ error
  · exact read_dataResp broken _ _ value

theorem installSnapshotResult_eq [Serde SnapshotMeta] [Serde I] [Serde SnapshotMismatch]
    (rpc : Raft.InstallSnapshotRequest) :
    installSnapshotResult raft broken connection s rpc =
      match raft.installSnapshot rpc with
      | .ok value => taken value
      | .error (.snapshotMismatch error) => taken error
      | .error (.fatal error) => taken error := by
  obtain ⟨message, hmessage, hrpc⟩ := installSnapshotMessage_rpc rpc
  unfold installSnapshotResult NetworkConnection.sendInstallSnapshot
  rw [exec_run_mapErr, RpcClient.exec_installSnapshot _ _ _ hmessage, exec_run_liftResult]
  unfold RpcServer.installSnapshot
  rw [hrpc]
  show Except.mapError _ (Except.mapError _ (replied broken
    ((RpcServer.installSnapshotAnswer (raft.installSnapshot rpc)).mapError .err)) >>= _) = _
  rcases raft.installSnapshot rpc with (error | error) | value
  · exact read_dataResp broken _ _ error
  · exact read_dataResp broken _ _ error
  · exact read_dataResp broken _ _ value

theorem voteResult_eq [Serde V] (rpc : Raft.VoteRequest) :
    voteResult raft broken connection s rpc =
      match raft.vote rpc with
      | .ok value => taken value
      | .error (.fatal error) => taken error := by
  unfold voteResult NetworkConnection.sendVote
  rw [exec_run_mapErr, RpcClient.exec_vote, exec_run_liftResult]
  unfold RpcServer.vote
  rw [voteMessage_rpc]
  show Except.mapError _ (Except.mapError _ (replied broken
    ((RpcServer.voteAnswer (raft.vote rpc)).mapError .err)) >>= _) = _
  rcases raft.vote rpc with ⟨⟨error⟩⟩ | value
  · exact read_dataResp broken _ _ error
  · exact read_dataResp broken _ _ value

/-- **Values are transmitted and errors are not**: for every raft core and request the outcome
of the remote call reaches the sender exactly where it is a value. -/
theorem peer_outcome_transmitted_iff [Serde (List Entry)] [Serde SnapshotMeta]
    [Serde SnapshotMismatch] [Serde A] [Serde V] [Serde I] :
    (∀ rpc, Transmitted (raft.appendEntries rpc) (appendEntriesResult raft broken connection s rpc) ↔
      ∃ value, raft.appendEntries rpc = .ok value) ∧
    (∀ rpc, Transmitted (raft.installSnapshot rpc)
        (installSnapshotResult raft broken connection s rpc) ↔
      ∃ value, raft.installSnapshot rpc = .ok value) ∧
    (∀ rpc, Transmitted (raft.vote rpc) (voteResult raft broken connection s rpc) ↔
      ∃ value, raft.vote rpc = .ok value) := by
  refine ⟨fun rpc => ?_, fun rpc => ?_, fun rpc => ?_⟩
  · refine transmitted_iff (fun value hvalue => ?_) fun error herror => ?_
    · rw [appendEntriesResult_eq, hvalue]
    · rw [appendEntriesResult_eq, herror]
      exact taken_ne_remoteError _
  · refine transmitted_iff (fun value hvalue => ?_) fun error herror => ?_
    · rw [installSnapshotResult_eq, hvalue]
    · rw [installSnapshotResult_eq, herror]
      cases error with
      | snapshotMismatch error => exact taken_ne_remoteError _
      | fatal error => exact taken_ne_remoteError _
  · refine transmitted_iff (fun value hvalue => ?_) fun error herror => ?_
    · rw [voteResult_eq, hvalue]
    · rw [voteResult_eq, herror]
      exact taken_ne_remoteError _

end Calls

/-! ## A stopped peer -/

deriving instance Encodable for SnapshotSegmentId
deriving instance Encodable for SnapshotMismatch

/-- The segment that was to come, and the one that came. -/
def lateSegment : SnapshotMismatch := ⟨⟨"s", 0⟩, ⟨"s", 9⟩⟩

/-- A raft core that has stopped in the middle of a snapshot. Each of its answers would be
made of a vote. -/
def stoppedPeer : PeerRaft Vote Vote Vote Unit where
  appendEntries _ := .error (.fatal ())
  vote _ := .error (.fatal ())
  installSnapshot _ := .error (.snapshotMismatch lateSegment)

def peerConnection : NetworkConnection := ⟨2, ⟨⟨"http://b:2"⟩⟩⟩

def brokenPipe : Status := .unavailable "broken pipe"

def heartbeatRpc : Raft.AppendEntriesRequest := ⟨⟨1, 1, true⟩, none, [], none⟩

def segmentRpc : Raft.InstallSnapshotRequest :=
  ⟨⟨1, 1, true⟩, ⟨some (logIdAt 4), default, "s"⟩, 9, [], true⟩

def ballotRpc : Raft.VoteRequest := ⟨⟨2, 1, false⟩, some (logIdAt 4)⟩

/-- Bytes that mean nothing at the type of the answer are a network failure. -/
theorem taken_unread {ε α β : Type} [Encodable α] [Encodable β] {data : β}
    (h : (Encodable.decode (Encodable.encode data) : Option α) = none) :
    (taken data : Except (RPCError ε) α) =
      .error (.network (.deserializationError ⟨"invalid value"⟩)) := by
  have hread : (Codec.read (Codec.write data) : Option α) = none := by
    rw [Codec.read, Codec.write, Codec.natOfBytes_bytesOfNat, h]
  have hbytes : encoded data = Codec.write data := rfl
  unfold taken
  rw [hbytes]
  show Except.mapError _ (Except.mapError _ ((Codec.read (Codec.write data)).elim _ _)) = _
  rw [hread]
  rfl

/-- A stopped peer and a mismatched segment reach the sender as network failures. -/
theorem stopped_peer_looks_unreachable :
    let append := appendEntriesResult stoppedPeer brokenPipe peerConnection () heartbeatRpc
    let segment := installSnapshotResult stoppedPeer brokenPipe peerConnection () segmentRpc
    let ballot := voteResult stoppedPeer brokenPipe peerConnection () ballotRpc
    (¬ Transmitted (stoppedPeer.appendEntries heartbeatRpc) append ∧
      ∃ e, append = .error (.network e)) ∧
    (stoppedPeer.installSnapshot segmentRpc = .error (.snapshotMismatch lateSegment) ∧
      ¬ Transmitted (stoppedPeer.installSnapshot segmentRpc) segment ∧
      ∃ e, segment = .error (.network (.deserializationError e))) ∧
    (¬ Transmitted (stoppedPeer.vote ballotRpc) ballot ∧ ∃ e, ballot = .error (.network e)) := by
  have hfatal : (Encodable.decode (Encodable.encode ()) : Option Vote) = none := by decide +kernel
  have hlate : (Encodable.decode (Encodable.encode lateSegment) : Option Vote) = none := by
    decide +kernel
  intro append segment ballot
  have happend : append = .error (.network (.deserializationError ⟨"invalid value"⟩)) :=
    (appendEntriesResult_eq ..).trans (taken_unread hfatal)
  have hsegment : segment = .error (.network (.deserializationError ⟨"invalid value"⟩)) :=
    (installSnapshotResult_eq ..).trans (taken_unread hlate)
  have hballot : ballot = .error (.network (.deserializationError ⟨"invalid value"⟩)) :=
    (voteResult_eq ..).trans (taken_unread hfatal)
  rw [happend, hsegment, hballot]
  refine ⟨⟨?_, _, rfl⟩, ⟨rfl, ?_, _, rfl⟩, ?_, _, rfl⟩
  · rintro ⟨target, htarget⟩
    cases htarget
  · rintro ⟨target, htarget⟩
    cases htarget
  · rintro ⟨target, htarget⟩
    cases htarget

end Replicat
