import Replicat.Storage.Catalog
import Replicat.Storage.Faults

/-!
# Local reads

`ReplicatClient` of `client.rs` holds the data handle of its node, and `fetch_one` and
`fetch_all` run whatever statement they are given on it. Calls of `apply_to_state_machine` and
fetches interleave task by task. `local_reads_harmless_iff`: the node stays where the apply calls
alone take it exactly as long as each fetch leaves the session it meets.
-/

namespace Replicat

open Sqlite Atomics Atomics.Prog

variable {U T α : Type}

namespace ReplicatClient

/-- `P: Params` is the list of values it binds. -/
def fetchOne (env : Env U) (localData : StorageHandle) (sql : String) (params : List Value)
    (fromRow : Row → Except SqlError T) : StoreM U SqlError (Option T) :=
  localData.fetchOne (env.client sql params) fromRow

def fetchAll (env : Env U) (localData : StorageHandle) (sql : String) (params : List Value)
    (fromRow : Row → Except SqlError T) : StoreM U SqlError (List T) :=
  localData.fetchAll (env.client sql params) fromRow

end ReplicatClient

/-! ## Turns -/

/-- A fetch, with its statement text and parameters. -/
inductive Fetch (T : Type) where
  | one (sql : String) (params : List Value) (fromRow : Row → Except SqlError T)
  | all (sql : String) (params : List Value) (fromRow : Row → Except SqlError T)

namespace Fetch

def stmt (env : Env U) : Fetch T → Prepared (Database U)
  | one sql params _ | all sql params _ => env.client sql params

/-- What the call does to the node. -/
def effect (env : Env U) (localData : StorageHandle) (w : World U) : Fetch T → World U
  | one sql params fromRow => ((ReplicatClient.fetchOne env localData sql params fromRow).run.exec w).2
  | all sql params fromRow => ((ReplicatClient.fetchAll env localData sql params fromRow).run.exec w).2

end Fetch

/-- The apply calls perform their next action, or a fetch runs; and whether the storage fails
the task. -/
inductive ReadTurn (T : Type) where
  | apply (fails : Bool)
  | fetch (call : Fetch T) (fails : Bool)

def ReadTurn.isApply : ReadTurn T → Bool
  | apply _ => true
  | fetch _ _ => false

/-- A node, and what is left of the calls that run on it. -/
structure Replica (U α : Type) where
  calls : Prog (World U) α
  world : World U

namespace Replica

def turn (env : Env U) (localData : StorageHandle) (c : Replica U α) : ReadTurn T → Replica U α
  | .apply fails =>
    match c.calls with
    | .ret a => ⟨.ret a, c.world⟩
    | .act upd next =>
      ⟨next (c.world.withFaults [fails]), (upd (c.world.withFaults [fails])).withFaults []⟩
  | .fetch call fails =>
    ⟨c.calls, (call.effect env localData (c.world.withFaults [fails])).withFaults []⟩

def turns (env : Env U) (localData : StorageHandle) (c : Replica U α) (ts : List (ReadTurn T)) : Replica U α :=
  ts.foldl (turn env localData) c

end Replica

/-- Calls of `apply_to_state_machine`, one after the other. -/
def RaftStore.applyCalls [Serde LogId] [Serde EffectiveMembership] (env : Env U) (store : RaftStore) :
    List (List Entry) → Prog (World U) (List (Except StorageError (List Response)))
  | [] => .ret []
  | entries :: rest => do
    let res ← (store.applyToStateMachine env entries).run
    let others ← applyCalls env store rest
    .ret (res :: others)

/-! ## What a fetch does -/

section Effect

variable {env : Env U} {h : StorageHandle} {w : World U} {c : Replica U α}

/-- A fetch steps its statement, whatever it reads off the rows. -/
theorem Fetch.effect_eq (call : Fetch T) (w : World U) :
    call.effect env h w =
      if w.nextFault.1 then w.nextFault.2
      else w.nextFault.2.setConn h ((w.conn h).step (call.stmt env)).1 := by
  have hsplit : ∀ {β : Type} (r : Except SqlError β) (c : Connection (Database U)),
      (if w.nextFault.1 then (Except.error ioFailure, w.nextFault.2) else (r, w.nextFault.2.setConn h c)).2 =
        if w.nextFault.1 then w.nextFault.2 else w.nextFault.2.setConn h c := by
    intro β r c
    split <;> rfl
  cases call <;> exact hsplit _ _

/-- The session is as it was. -/
def Leaves (env : Env U) (h : StorageHandle) (w : World U) (call : Fetch T) : Prop :=
  ∀ s, (w.conn h).session = some s → (call.stmt env s).1 = s

theorem step_eq_self {c : Connection (Database U)} {stmt : Prepared (Database U)} :
    (c.step stmt).1 = c ↔ ∀ s, c.session = some s → (stmt s).1 = s := by
  constructor
  · intro hstep s hs
    have hsession := congrArg Connection.session hstep
    rw [Connection.step_some hs, hs] at hsession
    exact Option.some.inj hsession
  · intro hleaves
    cases hs : c.session with
    | none => rw [Connection.step, hs]
    | some s =>
      rw [Connection.step_some hs, hleaves s hs, ← hs]

/-- **A fetch that the storage does not fail** leaves the node exactly when it leaves the session. -/
theorem turn_fetch_eq_self (call : Fetch T) (hf : c.world.faults = []) :
    c.turn env h (.fetch call false) = c ↔ Leaves env h c.world call := by
  have hworld : (call.effect env h (c.world.withFaults [false])).withFaults [] =
      c.world.setConn h ((c.world.conn h).step (call.stmt env)).1 := by
    rw [Fetch.effect_eq, World.conn_withFaults]
    show ((c.world.withFaults []).setConn h _).withFaults [] = _
    rw [World.withFaults_self hf]
    exact World.withFaults_self (by rw [World.faults_setConn, hf])
  rw [Replica.turn, hworld, Leaves, ← step_eq_self]
  constructor
  · intro heq
    have hconn := congrArg (fun c => c.world.conn h) heq
    simpa using hconn
  · intro heq
    rw [heq, World.setConn_conn]

theorem turn_fetch_fails (call : Fetch T) (hf : c.world.faults = []) :
    c.turn env h (.fetch call true) = c := by
  rw [Replica.turn, Fetch.effect_eq]
  show (⟨c.calls, (c.world.withFaults []).withFaults []⟩ : Replica U α) = c
  rw [World.withFaults_self hf, World.withFaults_self hf]

end Effect

/-! ## Interleavings -/

section Interleavings

variable {env : Env U} {h : StorageHandle} {c : Replica U α}

theorem turns_append (env : Env U) (h : StorageHandle) (c : Replica U α) (p q : List (ReadTurn T)) :
    c.turns env h (p ++ q) = (c.turns env h p).turns env h q := List.foldl_append ..

/-- A turn ends with its own faults. -/
theorem turn_faults (t : ReadTurn T) (hf : c.world.faults = []) : (c.turn env h t).world.faults = [] := by
  cases t with
  | fetch => rfl
  | apply fails =>
    unfold Replica.turn
    cases c.calls with
    | ret => exact hf
    | act => rfl

theorem turns_faults (ts : List (ReadTurn T)) (hf : c.world.faults = []) :
    (c.turns env h ts).world.faults = [] := by
  induction ts generalizing c with
  | nil => exact hf
  | cons t ts ih => exact ih (turn_faults t hf)

/-- The fetches of a schedule leave the sessions they meet. -/
def FetchesLeave (env : Env U) (h : StorageHandle) (c : Replica U α) (ts : List (ReadTurn T)) : Prop :=
  ∀ p call, p ++ [.fetch call false] <+: ts → Leaves env h (c.turns env h p).world call

/-- The node is where the turns of the apply calls take it. -/
def AsApplied (env : Env U) (h : StorageHandle) (c : Replica U α) (ts : List (ReadTurn T)) : Prop :=
  c.turns env h ts = c.turns env h (ts.filter ReadTurn.isApply)

theorem asApplied_apply {p : List (ReadTurn T)} (fails : Bool) (hp : AsApplied env h c p) :
    AsApplied env h c (p ++ [.apply fails]) := by
  unfold AsApplied at hp ⊢
  rw [List.filter_append, turns_append, turns_append, hp]
  rfl

/-- After a fetch the node is still there exactly if the fetch changed nothing. -/
theorem asApplied_fetch {p : List (ReadTurn T)} {call : Fetch T} {fails : Bool} (hp : AsApplied env h c p) :
    AsApplied env h c (p ++ [.fetch call fails]) ↔
      (c.turns env h p).turn env h (.fetch call fails) = c.turns env h p := by
  unfold AsApplied at hp ⊢
  rw [List.filter_append, turns_append, show List.filter _ [ReadTurn.fetch call fails] = [] from rfl,
    List.append_nil, ← hp]
  rfl

theorem asApplied_of_leave {ts : List (ReadTurn T)} (hf : c.world.faults = [])
    (hleave : FetchesLeave env h c ts) : AsApplied env h c ts := by
  induction ts using List.reverseRecOn with
  | nil => rfl
  | append_singleton p t ih =>
    have hp : AsApplied env h c p :=
      ih fun q call hq => hleave q call (hq.trans (List.prefix_append ..))
    cases t with
    | apply fails => exact asApplied_apply fails hp
    | fetch call fails =>
      refine (asApplied_fetch hp).2 ?_
      cases fails with
      | true => exact turn_fetch_fails call (turns_faults p hf)
      | false => exact (turn_fetch_eq_self call (turns_faults p hf)).2 (hleave p call (List.prefix_refl _))

/-- **Interleavings.** In every state reached the node is where the apply calls alone take it,
exactly when each fetch leaves the session it meets. -/
theorem asApplied_iff {ts : List (ReadTurn T)} (hf : c.world.faults = []) :
    (∀ p, p <+: ts → AsApplied env h c p) ↔ FetchesLeave env h c ts := by
  constructor
  · intro hall p call hpre
    have hp : AsApplied env h c p := hall p ((List.prefix_append ..).trans hpre)
    exact (turn_fetch_eq_self call (turns_faults p hf)).1 ((asApplied_fetch hp).1 (hall _ hpre))
  · intro hleave p hpre
    exact asApplied_of_leave hf fun q call hq => hleave q call (hq.trans hpre)

end Interleavings

/-- **Local reads** beside any calls of `apply_to_state_machine`. -/
theorem local_reads_harmless_iff [Serde LogId] [Serde EffectiveMembership] (env : Env U) (store : RaftStore)
    (w : World U) (calls : List (List Entry)) (ts : List (ReadTurn T)) :
    let node : Replica U _ := ⟨store.applyCalls env calls, w.withFaults []⟩
    (∀ p, p <+: ts → node.turns env store.data p = node.turns env store.data (p.filter ReadTurn.isApply)) ↔
      ∀ p call, p ++ [.fetch call false] <+: ts → ∀ s,
        ((node.turns env store.data p).world.conn store.data).session = some s → (call.stmt env s).1 = s :=
  asApplied_iff rfl

/-- One replica's `fetch_one` creates a table that no entry created. -/
theorem local_read_diverges :
    let node : Replica Catalog _ :=
      ⟨(storeOf (some .file)).applyCalls catalogEnv [[notesEntry 1]],
        (opened catalogEnv (some .file) (Applied.at catalogEffect [] []) World.fresh).withFaults []⟩
    let ts : List (ReadTurn Unit) := [.fetch (.one createUsers [] fun _ => .ok ()) false]
    ((node.turns catalogEnv .stateDb ts).world.stateDb.session.map (·.main.user)) = some ["users"] ∧
    ((node.turns catalogEnv .stateDb (ts.filter ReadTurn.isApply)).world.stateDb.session.map (·.main.user)) =
      some [] :=
  ⟨rfl, rfl⟩

end Replicat
