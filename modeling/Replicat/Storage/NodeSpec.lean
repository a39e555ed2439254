import Replicat.Lib.Trace
import Replicat.Storage.LogWrites

/-!
# What a node's store is for

`NodeData` is a node as its raft core and its clients rely on it: a hard state, and a state
machine with its rows and its cached fields. `nodeSpec` is the system of the calls on it, said
without databases: a call that returns `Ok` has done everything it is for, a call that fails or
is cut off has done a first part of it, and opening the store again loses what is cached, and
the state machine too if that is in memory. `nodeSystem` is the system of the code.
-/

namespace Replicat

open Sqlite Atomics Atomics.Prog LogWrite

variable {U : Type}

/-! ## The specification -/

structure NodeData (U : Type) where
  hard : HardState
  applied : Applied U

/-- One thing a call does. -/
inductive NodeAct where
  | log (a : LogWrite)
  | state (st : ApplyStep)
  deriving DecidableEq, Repr

def NodeAct.on (effect : Request → U → U) : NodeAct → NodeData U → NodeData U
  | log a, n => { n with hard := a.onHard n.hard }
  | state st, n => { n with applied := st.onApplied effect n.applied }

namespace NodeData

/-- The node after these acts. -/
def after (effect : Request → U → U) (n : NodeData U) (acts : List NodeAct) : NodeData U :=
  acts.foldl (fun n act => act.on effect n) n

variable (effect : Request → U → U) (n : NodeData U)

/-- Writes of the log half leave the state machine. -/
theorem after_log (as : List LogWrite) :
    n.after effect (as.map .log) = { n with hard := n.hard.after as } := by
  induction as generalizing n with
  | nil => rfl
  | cons a as ih => exact ih _

/-- The fields are read back from the rows; in memory there are none to read. -/
def restarted (env : Env U) (stateStore : Option StateStore) : NodeData U :=
  { n with applied := match stateStore with
      | some .memory => unapplied env
      | _ => { n.applied with
          log := n.applied.logRow
          membership := n.applied.membershipRow.getD default } }

theorem fields_restarted (env : Env U) (stateStore : Option StateStore) :
    (n.restarted env stateStore).applied.log = (n.restarted env stateStore).applied.logRow ∧
      (n.restarted env stateStore).applied.membership =
        (n.restarted env stateStore).applied.membershipRow.getD default := by
  rcases stateStore with _ | _ | _ <;> exact ⟨rfl, rfl⟩

end NodeData

/-- What a call is for, in order. A snapshot changes neither half. -/
def StoreCall.acts : StoreCall → List NodeAct
  | applyToStateMachine entries => (entries.flatMap stepsOf).map .state
  | call => call.writes.map .log

theorem StoreCall.acts_eq_writes {call : StoreCall} (h : call.onLogHalf = true) :
    call.acts = call.writes.map .log := by
  cases call <;> first | rfl | cases h

/-- The calls that read. -/
inductive ReadCall where
  | readVote
  | getLogState
  /-- With the overflow checks of the build. -/
  | tryGetLogEntries (checks : Bool) (startBound endBound : Bound)
  | lastAppliedState
  deriving DecidableEq, Repr

inductive ReadReply where
  | vote (vote : Option Vote)
  | logState (state : LogState)
  | entries (entries : List Entry)
  | applied (log : Option LogId) (membership : EffectiveMembership)
  deriving DecidableEq, Repr

/-- The id that stands for the end of the log: of its last entry, or of the purge if it is empty. -/
def AbstractLog.IsLast (l : AbstractLog) (last : Option LogId) : Prop :=
  (l.Empty ∧ last = l.purged) ∨
    ∃ i e, l.entries i = some e ∧ (∀ j, l.Holds j → j ≤ i) ∧ last = some e.logId

/-- What a call that reads answers. -/
def ReadCall.Answers (n : NodeData U) : ReadCall → ReadReply → Prop
  | readVote, reply => reply = .vote n.hard.vote
  | getLogState, reply => ∃ last, n.hard.log.IsLast last ∧ reply = .logState ⟨n.hard.log.purged, last⟩
  | tryGetLogEntries _ startBound endBound, reply => ∃ es, reply = .entries es ∧
      ∀ i e, (e ∈ es ∧ e.index = i) ↔ (n.hard.log.entries i = some e ∧ InRange startBound endBound i)
  | lastAppliedState, reply => reply = .applied n.applied.log n.applied.membership

inductive StoreEvent where
  | call (call : StoreCall) (r : Except StorageError Unit)
  | read (call : ReadCall) (r : Except StorageError ReadReply)
  /-- The process ends in the middle of the call, and the store is opened again. -/
  | cutOff (call : StoreCall)
  | restart

/-- One event of the specification. -/
inductive SpecStep (env : Env U) (effect : Request → U → U) (stateStore : Option StateStore) :
    NodeData U → StoreEvent → NodeData U → Prop where
  | done {n} (call : StoreCall) : SpecStep env effect stateStore n (.call call (.ok ())) (n.after effect call.acts)
  | failed {n} (call : StoreCall) (e : StorageError) (m : Nat) :
      SpecStep env effect stateStore n (.call call (.error e)) (n.after effect (call.acts.take m))
  | read {n} {call : ReadCall} {reply : ReadReply} : call.Answers n reply →
      SpecStep env effect stateStore n (.read call (.ok reply)) n
  | readFailed {n} (call : ReadCall) (e : StorageError) :
      SpecStep env effect stateStore n (.read call (.error e)) n
  | cutOff {n} (call : StoreCall) (m : Nat) :
      SpecStep env effect stateStore n (.cutOff call) ((n.after effect (call.acts.take m)).restarted env stateStore)
  | restart {n} : SpecStep env effect stateStore n .restart (n.restarted env stateStore)

/-- A node starts with nothing. -/
def nodeSpec (env : Env U) (effect : Request → U → U) (stateStore : Option StateStore) :
    Lts (NodeData U) StoreEvent where
  start n := n = ⟨.empty, unapplied env⟩
  step := SpecStep env effect stateStore

/-! ## The code -/

section Code

variable [Serde LogId] [Serde Vote] [Serde Entry] [Serde EffectiveMembership] [Serde SnapshotMeta]

/-- `none` when the call panics. -/
def ReadCall.run (env : Env U) (store : RaftStore) : ReadCall → Option (StorageResult U ReadReply)
  | readVote => some do
    let vote ← store.readVote
    pure (.vote vote)
  | getLogState => some do
    let state ← store.getLogState
    pure (.logState state)
  | tryGetLogEntries checks startBound endBound =>
    (store.tryGetLogEntries env checks startBound endBound).map fun p => do
      let es ← p
      pure (.entries es)
  | lastAppliedState => some do
    let (log, membership) ← RaftStore.lastAppliedState
    pure (.applied log membership)

/-- One event of the code: the storage fails what it likes, and the process may end between any
two actions. A store that cannot be opened is not there. -/
inductive StoreStep (env : Env U) (stateStore : Option StateStore) : World U → StoreEvent → World U → Prop where
  | call {w w' r} (call : StoreCall) (faults : List Bool) :
      (call.run env (storeOf stateStore)).run.exec (w.withFaults faults) = (r, w') →
      StoreStep env stateStore w (.call call r) w'
  | read {w w' p r} (call : ReadCall) (faults : List Bool) : call.run env (storeOf stateStore) = some p →
      p.run.exec (w.withFaults faults) = (r, w') → StoreStep env stateStore w (.read call r) w'
  | cutOff {w w' store} (call : StoreCall) (faults faults' : List Bool) (n : Nat) :
      (RaftStore.openStore env stateStore).run.exec
        ((((call.run env (storeOf stateStore)).run.after n (w.withFaults faults)).crash).withFaults faults') =
          (.ok store, w') → StoreStep env stateStore w (.cutOff call) w'
  | restart {w w' store} (faults : List Bool) :
      (RaftStore.openStore env stateStore).run.exec (w.crash.withFaults faults) = (.ok store, w') →
      StoreStep env stateStore w .restart w'

/-- A store opened on an empty disk. -/
def nodeSystem (env : Env U) (stateStore : Option StateStore) : Lts (World U) StoreEvent where
  start w := ∃ faults store,
    (RaftStore.openStore env stateStore).run.exec (World.fresh.withFaults faults) = (.ok store, w)
  step := StoreStep env stateStore

end Code

/-! ## The events that are specified -/

/-- The statements of the entries have the effects they are for on the tables they meet, and no
snapshot is installed. -/
def StoreCall.Plain (env : Env U) (effect : Request → U → U) (tables : U) : StoreCall → Prop
  | applyToStateMachine entries => Confined env effect tables entries
  | installSnapshot _ _ => False
  | _ => True

/-- The specified calls are those of the log half, an apply and a build. -/
theorem StoreCall.plain_cases {env : Env U} {effect : Request → U → U} {tables : U} {call : StoreCall}
    (h : call.Plain env effect tables) : call.onLogHalf = true ∨
      (∃ entries, call = .applyToStateMachine entries ∧ Confined env effect tables entries) ∨
      call = .buildSnapshot := by
  cases call with
  | saveVote | appendToLog | deleteConflictLogsSince | purgeLogsUpto => exact .inl rfl
  | applyToStateMachine entries => exact .inr (.inl ⟨entries, rfl, h⟩)
  | buildSnapshot => exact .inr (.inr rfl)
  | installSnapshot => exact h.elim

/-- Nor is a query asked for that selects no index at all. -/
def StoreEvent.Plain (env : Env U) (effect : Request → U → U) (tables : U) : StoreEvent → Prop
  | call c _ | cutOff c => c.Plain env effect tables
  | read (.tryGetLogEntries _ startBound endBound) _ => ∃ i, i < 2 ^ 64 ∧ InRange startBound endBound i
  | read _ _ | restart => True

/-- A condition on an event and the client tables it meets in a world. -/
def MetIn (stateStore : Option StateStore) (ok : U → StoreEvent → Prop) (w : World U) (e : StoreEvent) : Prop :=
  ∀ d : Database U, w.Reads (dataHandle stateStore) d → ok d.user e

/-- The same of a node. -/
def MetBy (ok : U → StoreEvent → Prop) (n : NodeData U) (e : StoreEvent) : Prop := ok n.applied.tables e

end Replicat
