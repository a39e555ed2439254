import Replicat.Rpc.Arrival

/-!
# The service on the wire

All seven methods of `ClusterRpc`, from the client's call to the raft core and back: the path and
the bytes of a request, the handler behind the path, the bytes of the reply and what the client
makes of them. The core is a state that each call moves, so a node that is called over the wire
can be compared with one that is called directly: `wire_call_eq_direct`.
-/

namespace Replicat

open RpcModels Atomics Atomics.Prog
open Proto3 (Bytes Message)

/-! ## The raft core -/

/-- `openraft::error::AddLearnerError`. -/
inductive AddLearnerError (N F : Type) where
  | forwardToLeader (leader : ForwardToLeader)
  | networkError (error : N)
  | fatal (error : F)
  deriving DecidableEq, Repr

/-- A raft core: what each call answers, and the state it leaves. -/
structure RaftCore (σ A V I L W R M N F : Type) where
  appendEntries : Raft.AppendEntriesRequest → σ → Except (AppendEntriesError F) A × σ
  installSnapshot : Raft.InstallSnapshotRequest → σ → Except (InstallSnapshotError F) I × σ
  vote : Raft.VoteRequest → σ → Except (VoteError F) V × σ
  addLearner : NodeId → BasicNode → Bool → σ → Except (AddLearnerError N F) L × σ
  changeMembership : List NodeId → Bool → Bool → σ → Except (ClientWriteError M F) W × σ
  metrics : σ → R
  clientWrite : Request → σ → Except (ClientWriteError M F) W × σ

/-! ## The handlers, and what serves them

`impl ClusterRpc for RpcServer`, with a core that moves. -/

section Handlers

variable {σ A V I L W R M N F : Type} [Serde A] [Serde V] [Serde I] [Serde L] [Serde W] [Serde R] [Serde M]
  [Serde N] [Serde F] [Serde (List Entry)] [Serde SnapshotMeta] [Serde SnapshotMismatch]
  [Serde (List TransportableParam)]

def networkErrorResp (error : N) : Except Status RpcResponse :=
  dataResp .network "A network error has occurred." error

/-- What `add_learner` replies to the answer of the raft core. -/
def addLearnerAnswer : Except (AddLearnerError N F) L → Except Status RpcResponse
  | .ok res => RpcResponse.ok res
  | .error (.forwardToLeader leader) => forwardToLeaderResp leader
  | .error (.networkError error) => networkErrorResp error
  | .error (.fatal error) => fatalResp error

namespace ClusterRpc

variable (core : RaftCore σ A V I L W R M N F)

/-- A handler: the core is called with what is made of the request, and its answer is replied. -/
def handler {α β : Type} (rpc : Except (Stop Status) α) (call : α → σ → β × σ)
    (answer : β → Except Status RpcResponse) : Fallible σ (Stop Status) RpcResponse := do
  let rpc ← liftResult rpc
  let res ← liftAct (call rpc)
  liftResult ((answer res).mapError .err)

def appendEntries (request : AppendEntriesRequest) : Fallible σ (Stop Status) RpcResponse :=
  handler (RpcServer.appendEntriesRpc request) core.appendEntries RpcServer.appendEntriesAnswer

def installSnapshot (request : InstallSnapshotRequest) : Fallible σ (Stop Status) RpcResponse :=
  handler (RpcServer.installSnapshotRpc request) core.installSnapshot RpcServer.installSnapshotAnswer

def vote (request : VoteRequest) : Fallible σ (Stop Status) RpcResponse :=
  handler (RpcServer.voteRpc request) core.vote RpcServer.voteAnswer

def addLearner (node : Node) : Fallible σ (Stop Status) RpcResponse :=
  handler (.ok node) (fun node => core.addLearner node.id ⟨node.rpcAddr⟩ false) addLearnerAnswer

def changeMembership (request : ChangeMembershipRequest) : Fallible σ (Stop Status) RpcResponse :=
  handler (.ok request) (fun request => core.changeMembership request.members true true)
    RpcServer.mutateAnswer

def getMetrics (request : MetricsRequest) : Fallible σ (Stop Status) RpcResponse :=
  handler (.ok request) (fun _ s => (core.metrics s, s)) RpcResponse.ok

def mutateState (request : MutateRequest) : Fallible σ (Stop Status) RpcResponse :=
  handler (RpcServer.mutateRpc request) core.clientWrite RpcServer.mutateAnswer

end ClusterRpc

variable (core : RaftCore σ A V I L W R M N F)

/-- `Grpc::unary`: of a body that is no message tonic says `undecodable`. -/
def serveUnary {Req : Type} (undecodable : Status) (message : Message Req)
    (method : Req → Fallible σ (Stop Status) RpcResponse) (body : Bytes) :
    Fallible σ (Stop Status) Bytes := do
  let request ← liftResult ((message.decode body).elim (.error (.err undecodable)) .ok)
  let resp ← method request
  return RpcResponse.codec.encode resp

/-- `Service::call`: the handler is found by the path. -/
def ClusterRpcServer.call (undecodable : Status) (path : String) (body : Bytes) :
    Fallible σ (Stop Status) Bytes :=
  match path with
  | "/rpc_models.ClusterRpc/append_entries" =>
    serveUnary undecodable AppendEntriesRequest.message (ClusterRpc.appendEntries core) body
  | "/rpc_models.ClusterRpc/install_snapshot" =>
    serveUnary undecodable InstallSnapshotRequest.message (ClusterRpc.installSnapshot core) body
  | "/rpc_models.ClusterRpc/vote" =>
    serveUnary undecodable VoteRequest.message (ClusterRpc.vote core) body
  | "/rpc_models.ClusterRpc/add_learner" =>
    serveUnary undecodable Node.message (ClusterRpc.addLearner core) body
  | "/rpc_models.ClusterRpc/change_membership" =>
    serveUnary undecodable ChangeMembershipRequest.message (ClusterRpc.changeMembership core) body
  | "/rpc_models.ClusterRpc/get_metrics" =>
    serveUnary undecodable MetricsRequest.message (ClusterRpc.getMetrics core) body
  | "/rpc_models.ClusterRpc/mutate_state" =>
    serveUnary undecodable MutateRequest.message (ClusterRpc.mutateState core) body
  | _ => throw (.err ⟨.unimplemented, ""⟩)

end Handlers

/-! ### What is asked for -/

/-- A call that a handler makes of the core. -/
inductive CoreCall where
  | appendEntries (rpc : Raft.AppendEntriesRequest)
  | installSnapshot (rpc : Raft.InstallSnapshotRequest)
  | vote (rpc : Raft.VoteRequest)
  | addLearner (nodeId : NodeId) (node : BasicNode)
  | changeMembership (members : List NodeId)
  | metrics
  | clientWrite (req : Request)
  deriving DecidableEq, Repr

/-- What a body asks for at a path, if it is not refused. -/
def ClusterRpcServer.asked [Serde (List Entry)] [Serde SnapshotMeta] [Serde (List TransportableParam)]
    (undecodable : Status) (path : String) (body : Bytes) : Except (Stop Status) CoreCall :=
  let read {Req α : Type} (message : Message Req) (rpc : Req → Except (Stop Status) α) (call : α → CoreCall) :=
    ((message.decode body).elim (.error (.err undecodable)) rpc).map call
  match path with
  | "/rpc_models.ClusterRpc/append_entries" =>
    read AppendEntriesRequest.message RpcServer.appendEntriesRpc .appendEntries
  | "/rpc_models.ClusterRpc/install_snapshot" =>
    read InstallSnapshotRequest.message RpcServer.installSnapshotRpc .installSnapshot
  | "/rpc_models.ClusterRpc/vote" => read VoteRequest.message RpcServer.voteRpc .vote
  | "/rpc_models.ClusterRpc/add_learner" =>
    read Node.message .ok fun node => .addLearner node.id ⟨node.rpcAddr⟩
  | "/rpc_models.ClusterRpc/change_membership" =>
    read ChangeMembershipRequest.message .ok fun request => .changeMembership request.members
  | "/rpc_models.ClusterRpc/get_metrics" => read MetricsRequest.message .ok fun _ => .metrics
  | "/rpc_models.ClusterRpc/mutate_state" => read MutateRequest.message RpcServer.mutateRpc .clientWrite
  | _ => .error (.err ⟨.unimplemented, ""⟩)

/-! ## The client's side -/

section Client

variable {σ : Type}

namespace RpcClient

def addLearner {L : Type} [Serde L] (stub : Uri → Node → Fallible σ Status RpcResponse) (self : RpcClient)
    (nodeId : NodeId) (addr : String) : Fallible σ Rpc.Error L := do
  let req := { id := nodeId, rpcAddr := addr : Node }
  let resp ← mapErr .networkError (stub self.uri req)
  liftResult (decodeReply resp)

def getMetrics {R : Type} [Serde R] (stub : Uri → MetricsRequest → Fallible σ Status RpcResponse)
    (self : RpcClient) : Fallible σ Rpc.Error R := do
  let resp ← mapErr .networkError (stub self.uri {})
  liftResult (decodeReply resp)

end RpcClient

/-- What the transport says of a handler that panics, and of bytes that are no message. -/
structure Transport where
  broken : Status
  undecodable : Status

/-- What answers a path and a body. -/
abbrev WireServer (σ : Type) := String → Bytes → Fallible σ (Stop Status) Bytes

/-- `Grpc::unary` of the client, to a server that is reached. -/
def Transport.unary {Req : Type} (transport : Transport) (server : WireServer σ) (path : String)
    (message : Message Req) (req : Req) : Fallible σ Status RpcResponse := do
  let reply ← mapErr (fun | .err status => status | .panic => transport.broken)
    (server path (message.encode req))
  liftResult ((RpcResponse.codec.decode reply).elim (.error transport.undecodable) .ok)

namespace ClusterRpcClient

variable (transport : Transport) (server : Uri → WireServer σ) (uri : Uri)

def appendEntries (request : AppendEntriesRequest) : Fallible σ Status RpcResponse :=
  transport.unary (server uri) "/rpc_models.ClusterRpc/append_entries" AppendEntriesRequest.message request

def installSnapshot (request : InstallSnapshotRequest) : Fallible σ Status RpcResponse :=
  transport.unary (server uri) "/rpc_models.ClusterRpc/install_snapshot" InstallSnapshotRequest.message request

def vote (request : VoteRequest) : Fallible σ Status RpcResponse :=
  transport.unary (server uri) "/rpc_models.ClusterRpc/vote" VoteRequest.message request

def addLearner (request : Node) : Fallible σ Status RpcResponse :=
  transport.unary (server uri) "/rpc_models.ClusterRpc/add_learner" Node.message request

def changeMembership (request : ChangeMembershipRequest) : Fallible σ Status RpcResponse :=
  transport.unary (server uri) "/rpc_models.ClusterRpc/change_membership" ChangeMembershipRequest.message
    request

def getMetrics (request : MetricsRequest) : Fallible σ Status RpcResponse :=
  transport.unary (server uri) "/rpc_models.ClusterRpc/get_metrics" MetricsRequest.message request

def mutateState (request : MutateRequest) : Fallible σ Status RpcResponse :=
  transport.unary (server uri) "/rpc_models.ClusterRpc/mutate_state" MutateRequest.message request

end ClusterRpcClient

end Client

/-! ## Calls over the wire, and direct ones -/

/-- A call of a method of `RpcClient`. -/
inductive ClientCall where
  | appendEntries (req : Raft.AppendEntriesRequest)
  | installSnapshot (req : Raft.InstallSnapshotRequest)
  | vote (req : Raft.VoteRequest)
  | addLearner (nodeId : NodeId) (addr : String)
  | changeMembership (members : List NodeId)
  | getMetrics
  | mutateState (sql : String) (params : List TransportableParam)
  deriving DecidableEq, Repr

inductive ClientReply (A V I L R : Type) where
  | appendEntries (resp : A)
  | installSnapshot (resp : I)
  | vote (resp : V)
  | addLearner (resp : L)
  | getMetrics (resp : R)
  | done

section Calls

variable {σ A V I L W R M N F : Type} [Serde A] [Serde V] [Serde I] [Serde L] [Serde W] [Serde R] [Serde M]
  [Serde N] [Serde F] [Serde (List Entry)] [Serde SnapshotMeta] [Serde SnapshotMismatch]
  [Serde (List TransportableParam)]

/-- The value that the bytes of another are taken for. -/
def readAs {α β : Type} [Serde α] [Serde β] (data : β) : Except Rpc.Error α :=
  (fromBytes (encoded data)).mapError .deserializationError

/-- What the client reports of the answer to `append_entries`. -/
def appendEntriesReported : Except (AppendEntriesError F) A → Except Rpc.Error A
  | .ok res => .ok res
  | .error (.fatal error) => readAs error

def installSnapshotReported : Except (InstallSnapshotError F) I → Except Rpc.Error I
  | .ok res => .ok res
  | .error (.snapshotMismatch error) => readAs error
  | .error (.fatal error) => readAs error

def voteReported : Except (VoteError F) V → Except Rpc.Error V
  | .ok res => .ok res
  | .error (.fatal error) => readAs error

/-- A redirect has no additional data to be read. -/
def addLearnerReported : Except (AddLearnerError N F) L → Except Rpc.Error L
  | .ok res => .ok res
  | .error (.forwardToLeader _) => (fromBytes []).mapError .deserializationError
  | .error (.networkError error) => readAs error
  | .error (.fatal error) => readAs error

/-- Of a failed write only a redirect is reported. -/
def mutateReported : Except (ClientWriteError M F) W → Except (Stop Rpc.Error) Unit
  | .error (.forwardToLeader ⟨some id, some node⟩) => .error (.err (.updateLeader ⟨id, node.addr⟩))
  | .error (.forwardToLeader _) => .error .panic
  | _ => .ok ()

/-- The server of this core, at whatever address it is reached. -/
def servedBy (core : RaftCore σ A V I L W R M N F) (transport : Transport) (_ : Uri) : WireServer σ :=
  ClusterRpcServer.call core transport.undecodable

namespace ClientCall

variable (core : RaftCore σ A V I L W R M N F)

/-- The call through the client, the bytes, and the server. -/
def wire (transport : Transport) (client : RpcClient) :
    ClientCall → Fallible σ (Stop Rpc.Error) (ClientReply A V I L R)
  | appendEntries req => do
    let resp ← mapErr .err (client.appendEntries
      (ClusterRpcClient.appendEntries transport (servedBy core transport)) req)
    return .appendEntries resp
  | installSnapshot req => do
    let resp ← mapErr .err (client.installSnapshot
      (ClusterRpcClient.installSnapshot transport (servedBy core transport)) req)
    return .installSnapshot resp
  | vote req => do
    let resp ← mapErr .err (client.vote
      (ClusterRpcClient.vote transport (servedBy core transport)) req)
    return .vote resp
  | addLearner nodeId addr => do
    let resp ← mapErr .err (client.addLearner
      (ClusterRpcClient.addLearner transport (servedBy core transport)) nodeId addr)
    return .addLearner resp
  | changeMembership members => do
    client.changeMembership
      (ClusterRpcClient.changeMembership transport (servedBy core transport)) members
    return .done
  | getMetrics => do
    let resp ← mapErr .err (client.getMetrics
      (ClusterRpcClient.getMetrics transport (servedBy core transport)))
    return .getMetrics resp
  | mutateState sql params => do
    client.mutateState
      (ClusterRpcClient.mutateState transport (servedBy core transport)) sql params
    return .done

/-- The call of the raft core itself, and what is reported of its answer. -/
def direct : ClientCall → Fallible σ (Stop Rpc.Error) (ClientReply A V I L R)
  | appendEntries req => do
    let res ← liftAct (core.appendEntries req)
    let resp ← liftResult ((appendEntriesReported res).mapError .err)
    return .appendEntries resp
  | installSnapshot req => do
    let res ← liftAct (core.installSnapshot req)
    let resp ← liftResult ((installSnapshotReported res).mapError .err)
    return .installSnapshot resp
  | vote req => do
    let res ← liftAct (core.vote req)
    let resp ← liftResult ((voteReported res).mapError .err)
    return .vote resp
  | addLearner nodeId addr => do
    let res ← liftAct (core.addLearner nodeId ⟨addr⟩ false)
    let resp ← liftResult ((addLearnerReported res).mapError .err)
    return .addLearner resp
  | changeMembership members => do
    let _ ← liftAct (core.changeMembership members true true)
    return .done
  | getMetrics => do
    let resp ← liftAct fun s => (core.metrics s, s)
    return .getMetrics resp
  | mutateState sql params => do
    let res ← liftAct (core.clientWrite (.execute sql params))
    liftResult (mutateReported res)
    return .done

end ClientCall

end Calls

/-! ### One call in the core -/

section OneCall

variable {σ Req α β γ : Type}

/-- A handler's result on its way back. -/
def replyBytes (res : Except Status RpcResponse) : Except (Stop Status) Bytes :=
  (res.map RpcResponse.codec.encode).mapError .err

/-- What the client's transport makes of it. -/
def Transport.received (transport : Transport) (bytes : Except (Stop Status) Bytes) :
    Except Status RpcResponse := do
  let reply ← bytes.mapError fun | .err status => status | .panic => transport.broken
  (RpcResponse.codec.decode reply).elim (.error transport.undecodable) .ok

theorem Transport.received_replyBytes (transport : Transport) (res : Except Status RpcResponse) :
    transport.received (replyBytes res) = res := by
  rcases res with status | resp
  · rfl
  · show (RpcResponse.codec.decode (RpcResponse.codec.encode resp)).elim _ _ = _
    rw [RpcResponse.codec.decode_encode]
    rfl

/-- Bytes that are a message call the core once, and the answer is written. -/
theorem serveUnary_eq {undecodable : Status} {message : Message Req} {g : Req → Except (Stop Status) α}
    {k : α → σ → β × σ} {answer : β → Except Status RpcResponse} {body : Bytes} {req : Req} {a : α}
    (hbody : message.decode body = some req) (hg : g req = .ok a) :
    serveUnary undecodable message (fun req => ClusterRpc.handler (g req) k answer) body = (do
      let res ← liftAct (k a)
      liftResult (replyBytes (answer res)) : Fallible σ (Stop Status) Bytes) := by
  have hencode : ∀ res : Except Status RpcResponse, (do
      let resp ← liftResult (res.mapError .err)
      return RpcResponse.codec.encode resp : Fallible σ (Stop Status) Bytes).run = .ret (replyBytes res) := by
    rintro (status | resp) <;> rfl
  unfold serveUnary ClusterRpc.handler
  rw [hbody]
  show (liftResult (g req) >>= fun rpc => _ : Fallible σ (Stop Status) RpcResponse) >>= _ = _
  rw [hg]
  apply ExceptT.ext
  show Prog.act _ _ = Prog.act _ _
  congr 1
  funext s
  exact hencode (answer (k a s).1)

/-- What is sent to a handler ends up in the core, once, and its answer comes back. -/
theorem unary_eq {transport : Transport} {server : WireServer σ} {path : String} {message : Message Req}
    {g : Req → Except (Stop Status) α} {k : α → σ → β × σ} {answer : β → Except Status RpcResponse}
    {req : Req} {a : α}
    (hserver : server path = serveUnary transport.undecodable message fun req =>
      ClusterRpc.handler (g req) k answer) (hg : g req = .ok a) :
    transport.unary server path message req = (do
      let res ← liftAct (k a)
      liftResult (answer res) : Fallible σ Status RpcResponse) := by
  have hreceived : ∀ bytes : Except (Stop Status) Bytes, (do
      let reply ← mapErr (fun | .err status => status | .panic => transport.broken) (liftResult bytes)
      liftResult ((RpcResponse.codec.decode reply).elim (.error transport.undecodable) .ok) :
        Fallible σ Status RpcResponse).run = .ret (transport.received bytes) := by
    rintro ((status | _) | bytes) <;> rfl
  unfold Transport.unary
  rw [hserver, serveUnary_eq (message.decode_encode req) hg]
  apply ExceptT.ext
  show Prog.act _ _ = Prog.act _ _
  congr 1
  funext s
  have hlast := hreceived (replyBytes (answer (k a s).1))
  rw [transport.received_replyBytes] at hlast
  exact hlast

/-- What a method makes of the reply to such a call is what is reported of the core's answer. -/
theorem reported_eq {ε : Type} {call : σ → β × σ} {answer : β → Except Status RpcResponse}
    {stub : Fallible σ Status RpcResponse} (hstub : stub = do
      let res ← liftAct call
      liftResult (answer res))
    (f : Status → ε) {see : RpcResponse → Except ε α} {reported : β → Except ε α}
    (hreported : ∀ res, ((answer res).mapError f >>= see) = reported res) :
    (mapErr f stub >>= fun resp => liftResult (see resp) : Fallible σ ε α) = (do
      let res ← liftAct call
      liftResult (reported res)) := by
  have hread : ∀ res : Except Status RpcResponse, (do
      let resp ← liftResult (res.mapError f)
      liftResult (see resp) : Fallible σ ε α).run = .ret (res.mapError f >>= see) := by
    rintro (status | resp) <;> rfl
  rw [hstub]
  apply ExceptT.ext
  show Prog.act _ _ = Prog.act _ _
  congr 1
  funext s
  show _ = Prog.ret (reported (call s).1)
  rw [← hreported]
  exact hread (answer (call s).1)

theorem RpcClient.mutateState_writeResult [Serde (List TransportableParam)] (self : RpcClient)
    (stub : Uri → MutateRequest → Fallible σ Status RpcResponse) {sql : String}
    {params : List TransportableParam} {message : MutateRequest} (h : mutateMessage sql params = .ok message) :
    self.mutateState stub sql params =
      (mapErr (fun e => .err (.networkError e)) (stub self.uri message) >>= fun resp =>
        liftResult (writeResult resp)) := by
  unfold mutateMessage at h
  rw [toBytes_eq] at h
  cases h
  unfold mutateState
  rw [toBytes_eq]
  show mapErr _ (stub self.uri ⟨sql, encoded params⟩) >>= _ = _
  refine congrArg _ (funext fun resp => ?_)
  show (ite _ _ _ : Fallible σ _ _) = _
  unfold writeResult
  split
  · cases resp.leader <;> rfl
  · rfl

theorem decodeReply_dataResp [Serde α] [Serde β] (code : RpcError) (text : String) (data : β) :
    ((dataResp code text data).mapError .networkError >>= RpcClient.decodeReply : Except Rpc.Error α) =
      readAs data := by
  rw [dataResp_eq]
  rfl

theorem decodeReply_ok [Serde α] (data : α) :
    ((RpcResponse.ok data).mapError .networkError >>= RpcClient.decodeReply : Except Rpc.Error α) =
      .ok data := by
  unfold RpcResponse.ok
  rw [decodeReply_dataResp]
  unfold readAs
  rw [fromBytes_encoded]
  rfl

/-- The methods that decode the reply. -/
theorem decoded_eq [Serde α] {call : σ → β × σ} {answer : β → Except Status RpcResponse}
    {stub : Fallible σ Status RpcResponse} (hstub : stub = do
      let res ← liftAct call
      liftResult (answer res))
    {reported : β → Except Rpc.Error α} (f : α → γ)
    (hreported : ∀ res, ((answer res).mapError .networkError >>= RpcClient.decodeReply) = reported res) :
    (do
      let resp ← mapErr Stop.err (do
        let resp ← mapErr Rpc.Error.networkError stub
        liftResult (RpcClient.decodeReply resp))
      return f resp : Fallible σ (Stop Rpc.Error) γ) = (do
        let res ← liftAct call
        let resp ← liftResult ((reported res).mapError Stop.err)
        return f resp) := by
  rw [reported_eq hstub Rpc.Error.networkError hreported]
  rfl

end OneCall

section Calls

variable {σ A V I L W R M N F : Type} [Serde A] [Serde V] [Serde I] [Serde L] [Serde W] [Serde R] [Serde M]
  [Serde N] [Serde F] [Serde (List Entry)] [Serde SnapshotMeta] [Serde SnapshotMismatch]
  [Serde (List TransportableParam)]

section Stubs

variable (core : RaftCore σ A V I L W R M N F) (transport : Transport) (uri : Uri)

namespace ClusterRpcClient

theorem appendEntries_eq {request : AppendEntriesRequest} {req : Raft.AppendEntriesRequest}
    (h : RpcServer.appendEntriesRpc request = .ok req) :
    appendEntries transport (servedBy core transport) uri request = (do
      let res ← liftAct (core.appendEntries req)
      liftResult (RpcServer.appendEntriesAnswer res)) :=
  unary_eq (g := RpcServer.appendEntriesRpc) rfl h

theorem installSnapshot_eq {request : InstallSnapshotRequest} {req : Raft.InstallSnapshotRequest}
    (h : RpcServer.installSnapshotRpc request = .ok req) :
    installSnapshot transport (servedBy core transport) uri request = (do
      let res ← liftAct (core.installSnapshot req)
      liftResult (RpcServer.installSnapshotAnswer res)) :=
  unary_eq (g := RpcServer.installSnapshotRpc) rfl h

theorem vote_eq {request : VoteRequest} {req : Raft.VoteRequest} (h : RpcServer.voteRpc request = .ok req) :
    vote transport (servedBy core transport) uri request = (do
      let res ← liftAct (core.vote req)
      liftResult (RpcServer.voteAnswer res)) :=
  unary_eq (g := RpcServer.voteRpc) rfl h

theorem addLearner_eq (node : Node) :
    addLearner transport (servedBy core transport) uri node = (do
      let res ← liftAct (core.addLearner node.id ⟨node.rpcAddr⟩ false)
      liftResult (addLearnerAnswer res)) :=
  unary_eq (g := .ok) (k := fun node : Node => core.addLearner node.id ⟨node.rpcAddr⟩ false) rfl rfl

theorem changeMembership_eq (request : ChangeMembershipRequest) :
    changeMembership transport (servedBy core transport) uri request = (do
      let res ← liftAct (core.changeMembership request.members true true)
      liftResult (RpcServer.mutateAnswer res)) :=
  unary_eq (g := .ok)
    (k := fun request : ChangeMembershipRequest => core.changeMembership request.members true true) rfl rfl

theorem getMetrics_eq (request : MetricsRequest) :
    getMetrics transport (servedBy core transport) uri request = (do
      let res ← liftAct fun s => (core.metrics s, s)
      liftResult (RpcResponse.ok res)) :=
  unary_eq (g := .ok) (k := fun (_ : MetricsRequest) s => (core.metrics s, s)) rfl rfl

theorem mutateState_eq {request : MutateRequest} {req : Request} (h : RpcServer.mutateRpc request = .ok req) :
    mutateState transport (servedBy core transport) uri request = (do
      let res ← liftAct (core.clientWrite req)
      liftResult (RpcServer.mutateAnswer res)) :=
  unary_eq (g := RpcServer.mutateRpc) rfl h

end ClusterRpcClient

end Stubs

section Reported

omit [Serde (List Entry)] [Serde SnapshotMeta] [Serde SnapshotMismatch] [Serde (List TransportableParam)]

/-- Of the reply to a write only a redirect is looked at. -/
theorem writeResult_answer (res : Except (ClientWriteError M F) W) :
    ((RpcServer.mutateAnswer res).mapError (fun e => Stop.err (Rpc.Error.networkError e)) >>=
      RpcClient.writeResult) = mutateReported res := by
  rcases res with (⟨_ | id, _ | node⟩ | error | error) | res
  · rfl
  · rfl
  · rfl
  · rfl
  · show ((dataResp _ _ error).mapError _ >>= _) = _
    rw [dataResp_eq]
    rfl
  · show ((dataResp _ _ error).mapError _ >>= _) = _
    rw [dataResp_eq]
    rfl
  · show ((dataResp _ _ res).mapError _ >>= _) = _
    rw [dataResp_eq]
    rfl

/-- Of the reply to a change of membership, nothing is. -/
theorem done_answer (res : Except (ClientWriteError M F) W) :
    ((RpcServer.mutateAnswer res).mapError (fun e => Stop.err (Rpc.Error.networkError e)) >>= fun _ => .ok ()) =
      .ok () := by
  rcases res with e | res
  · obtain ⟨resp, hresp, -⟩ := clientWriteResp_error e
    show ((clientWriteResp e).mapError _ >>= _) = _
    rw [hresp]
    rfl
  · show ((dataResp _ _ res).mapError _ >>= _) = _
    rw [dataResp_eq]
    rfl

end Reported

/-- **Over the wire as beside it**: every call, on every core, is one call of the core with the
client's own arguments, and what is reported of its answer. -/
theorem wire_call_eq_direct (core : RaftCore σ A V I L W R M N F) (transport : Transport) (client : RpcClient)
    (call : ClientCall) : call.wire core transport client = call.direct core := by
  cases call with
  | appendEntries req =>
    obtain ⟨message, hmessage, hrpc⟩ := appendEntriesMessage_rpc req
    simp only [ClientCall.wire, ClientCall.direct, RpcClient.appendEntries, hmessage]
    refine decoded_eq (ClusterRpcClient.appendEntries_eq core transport client.uri hrpc)
      ClientReply.appendEntries fun res => ?_
    rcases res with ⟨⟨error⟩⟩ | res
    · exact decodeReply_dataResp ..
    · exact decodeReply_ok res
  | installSnapshot req =>
    obtain ⟨message, hmessage, hrpc⟩ := installSnapshotMessage_rpc req
    simp only [ClientCall.wire, ClientCall.direct, RpcClient.installSnapshot, hmessage]
    refine decoded_eq (ClusterRpcClient.installSnapshot_eq core transport client.uri hrpc)
      ClientReply.installSnapshot fun res => ?_
    rcases res with (error | error) | res
    · exact decodeReply_dataResp ..
    · exact decodeReply_dataResp ..
    · exact decodeReply_ok res
  | vote req =>
    refine decoded_eq (ClusterRpcClient.vote_eq core transport client.uri (voteMessage_rpc req))
      ClientReply.vote fun res => ?_
    rcases res with ⟨⟨error⟩⟩ | res
    · exact decodeReply_dataResp ..
    · exact decodeReply_ok res
  | addLearner nodeId addr =>
    refine decoded_eq (ClusterRpcClient.addLearner_eq core transport client.uri ⟨nodeId, addr⟩)
      ClientReply.addLearner fun res => ?_
    rcases res with (leader | error | error) | res
    · rfl
    · exact decodeReply_dataResp ..
    · exact decodeReply_dataResp ..
    · exact decodeReply_ok res
  | changeMembership members =>
    have hcall := reported_eq (ClusterRpcClient.changeMembership_eq core transport client.uri ⟨members⟩) _
      done_answer
    show (mapErr _ _ >>= fun _ => liftResult (.ok ())) >>= _ = _
    rw [hcall]
    rfl
  | getMetrics =>
    exact decoded_eq (ClusterRpcClient.getMetrics_eq core transport client.uri ⟨⟩) ClientReply.getMetrics
      fun res => decodeReply_ok res
  | mutateState sql params =>
    obtain ⟨message, hmessage, hrpc⟩ := mutateMessage_rpc sql params
    have hcall := reported_eq (ClusterRpcClient.mutateState_eq core transport client.uri hrpc) _
      writeResult_answer
    simp only [ClientCall.wire, ClientCall.direct, client.mutateState_writeResult _ hmessage, hcall]
    rfl

end Calls

end Replicat
