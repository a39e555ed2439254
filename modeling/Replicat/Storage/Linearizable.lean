import Replicat.Lib.Actor
import Replicat.Storage.Catalog

/-!
# The storage handle and its thread

`submit_task` sends a closure over a bounded channel to the thread that owns the connection
(`run_tasks`), and waits on a channel of its own for the result. `storage_handle_linearizable`:
over any clones of a handle and any interleaving of their calls with the thread, the calls take
effect one at a time, in the order in which their tasks were accepted. `outcomes_program` says
that this is what the programs of the store take a task for: one atomic action.
-/

namespace Replicat

open Sqlite Atomics Atomics.Prog

variable {U : Type}

/-- The methods of `StorageHandle` that submit a task. -/
inductive HandleCall (U : Type) : Type → Type 1 where
  | execute (stmt : Prepared (Database U)) : HandleCall U Nat
  | fetchOne {α : Type} (stmt : Prepared (Database U)) (fromRow : Row → Except SqlError α) : HandleCall U (Option α)
  | fetchAll {α : Type} (stmt : Prepared (Database U)) (fromRow : Row → Except SqlError α) : HandleCall U (List α)
  | loadFromSerialized (mem : Bytes) : HandleCall U Unit

namespace HandleCall

variable {α : Type}

/-- The closure that is sent. -/
def task (env : Env U) : HandleCall U α → Connection (Database U) → Connection (Database U) × Except SqlError α
  | execute stmt => fun conn => conn.execute stmt
  | fetchOne stmt fromRow => fun conn => conn.queryRow stmt fromRow
  | fetchAll stmt fromRow => fun conn => conn.query stmt fromRow
  | loadFromSerialized mem => StorageHandle.deserializeDb env mem

/-- The call as the programs of the store make it. -/
def program (env : Env U) (h : StorageHandle) : HandleCall U α → StoreM U SqlError α
  | execute stmt => h.execute stmt
  | fetchOne stmt fromRow => h.fetchOne stmt fromRow
  | fetchAll stmt fromRow => h.fetchAll stmt fromRow
  | loadFromSerialized mem => StorageHandle.loadFromSerialized env h mem

theorem program_eq (env : Env U) (h : StorageHandle) (call : HandleCall U α) :
    call.program env h = h.submitTask (call.task env) := by
  cases call <;> rfl

end HandleCall

/-- `CAPACITY`. -/
def capacity : Nat := 10

section Calls

variable {ι H : Type} [DecidableEq ι] [DecidableEq H] {R : ι → Type}

/-- The tasks of these calls. -/
def tasksOf (env : Env U) (calls : (k : ι) → HandleCall U (R k)) (k : ι) (conn : Connection (Database U)) :
    Connection (Database U) × Except SqlError (R k) := (calls k).task env conn

/-- A handle with its thread, which owns `conn`. -/
abbrev HandleThread (ι H U : Type) (R : ι → Type) : Type :=
  Actor ι H (Connection (Database U)) fun k => Except SqlError (R k)

omit [DecidableEq ι] in
/-- **The thread and the atomic tasks agree**: on a storage that does not fail, the programs of
the calls, one after the other, get the results and leave the connection that the thread does. -/
theorem outcomes_program (env : Env U) (calls : (k : ι) → HandleCall U (R k)) (h : StorageHandle) {w : World U}
    (hf : w.faults = []) (ks : List ι) :
    let step := fun k w => Prod.swap (((calls k).program env h).run.exec w)
    Actor.outcomes step w ks = Actor.outcomes (tasksOf env calls) (w.conn h) ks ∧
      Actor.stateAfter step w ks = w.setConn h (Actor.stateAfter (tasksOf env calls) (w.conn h) ks) := by
  intro step
  have hstep : ∀ k (w : World U), w.faults = [] → step k w =
      (w.setConn h (tasksOf env calls k (w.conn h)).1, (tasksOf env calls k (w.conn h)).2) := by
    intro k w hf
    show Prod.swap (((calls k).program env h).run.exec w) = _
    rw [HandleCall.program_eq, StorageHandle.exec_submitTask hf]
    rfl
  induction ks generalizing w with
  | nil => exact ⟨rfl, (World.setConn_conn w h).symm⟩
  | cons k ks ih =>
    have hnext : (step k w).1 = w.setConn h (tasksOf env calls k (w.conn h)).1 := by rw [hstep k w hf]
    obtain ⟨houtcomes, hstate⟩ := ih (w := (step k w).1) (by rw [hnext, World.faults_setConn, hf])
    rw [hnext, World.conn_setConn_self] at houtcomes hstate
    constructor
    · show ⟨k, (step k w).2⟩ :: Actor.outcomes step (step k w).1 ks = _
      rw [hnext, houtcomes, hstep k w hf]
      rfl
    · show Actor.stateAfter step (step k w).1 ks = _
      rw [hnext, hstate, World.setConn_setConn]
      rfl

/-- **`StorageHandle` is linearizable**, and its thread ends with every accepted task run. -/
theorem storage_handle_linearizable (env : Env U) (calls : (k : ι) → HandleCall U (R k))
    (conn : Connection (Database U)) (first : H) {c : HandleThread ι H U R}
    (hrun : Actor.Steps (tasksOf env calls) capacity (.spawned conn first) c) :
    -- a task is accepted once, and run in its turn, on what the tasks before it left
    (c.accepted.Nodup ∧ (∃ rest, c.accepted = c.ran.map Sigma.fst ++ rest) ∧
      c.ran = Actor.outcomes (tasksOf env calls) conn (c.ran.map Sigma.fst) ∧
      c.state = Actor.stateAfter (tasksOf env calls) conn (c.ran.map Sigma.fst)) ∧
    -- a call that has returned has the result of its own task
    (∀ k r, c.phase k = .returned r → (c.ran.map Sigma.fst).count k = 1 ∧
      ∃ before after, c.accepted = before ++ k :: after ∧
        r = (tasksOf env calls k (Actor.stateAfter (tasksOf env calls) conn before)).2) ∧
    -- in real time
    (∀ k r k' c', c.phase k = .returned r → c.phase k' = .unborn →
      Actor.Steps (tasksOf env calls) capacity c c' → k' ∈ c'.accepted →
      ∃ before between after, c'.accepted = before ++ k :: (between ++ k' :: after)) ∧
    -- no call meets a closed channel, and none is left without a reply
    ((∀ k h, (c.phase k).Borrows h → c.worker ≠ .ended) ∧ ∀ k h, c.phase k = .waiting h →
      k ∈ c.worker.holding ++ c.queue ∨ (∃ r, c.worker = .replying k r) ∨ ∃ r, c.reply k = some r) ∧
    -- the drain
    (c.worker = .ended → c.ran.map Sigma.fst = c.accepted) ∧
    ((∀ h, c.live h = false) →
      (∀ c', Actor.Step (tasksOf env calls) capacity c c' → c'.backlog < c.backlog) ∧
      ∃ c', Actor.Steps (tasksOf env calls) capacity c c' ∧ c'.worker = .ended ∧
        c'.ran.map Sigma.fst = c.accepted) := by
  have hc : Actor.Consistent (tasksOf env calls) capacity conn c := (Actor.consistent_spawned first).steps hrun
  refine ⟨⟨hc.nodup, ⟨_, hc.order⟩, hc.results, hc.state⟩, fun k r hk => hc.returned_once hk,
    fun k r k' c' hk hk' hsteps hmem => hc.in_real_time hk hk' hsteps hmem, ⟨fun k h hb hw => ?_, hc.pending⟩,
    hc.ended_ran, fun hlive => ⟨fun c' hstep => (hc.drains_step hlive hstep).2.2, hc.drains hlive⟩⟩
  have hlive := hc.borrowed k h hb
  rw [(hc.ended hw).2 h] at hlive
  cases hlive

end Calls

/-- One `execute` from its start to its return. -/
theorem storage_handle_linearizable_execute :
    ∃ (c : HandleThread Unit Unit Catalog fun _ => Nat) (r : Except SqlError Nat),
      c.phase () = .returned r ∧ (c.ran.map Sigma.fst).count () = 1 ∧ r = .ok 0 := by
  let calls : (k : Unit) → HandleCall Catalog Nat := fun _ => .execute (catalogEnv.client createNotes [])
  let conn : Connection (Database Catalog) := .openMemory (.empty catalogEnv)
  let start : HandleThread Unit Unit Catalog fun _ => Nat := .spawned conn ()
  have hrun : ∃ c, Actor.Steps (tasksOf catalogEnv calls) capacity start c ∧ c.phase () = .returned (.ok 0) := by
    refine ⟨_, .tail (.tail (.tail (.tail (.tail (.tail .refl (.start (k := ()) (h := ()) rfl rfl))
      (.send (k := ()) (h := ()) rfl (by decide) nofun)) (.recv (k := ()) rfl rfl)) (.run (k := ()) rfl))
      (.answer (k := ()) rfl)) (.return (k := ()) (h := ()) rfl rfl), rfl⟩
  obtain ⟨c, hsteps, hreturned⟩ := hrun
  exact ⟨c, .ok 0, hreturned,
    ((storage_handle_linearizable catalogEnv calls conn () hsteps).2.1 () _ hreturned).1, rfl⟩

end Replicat
