import Replicat.Lib.Prog
import Replicat.Storage.Database

/-!
# The node and its storage handles

`World` is what one node's process and disk hold: the connection each background thread
owns, the two fields of `StateMachine` behind their locks, the snapshot file. A
`StorageHandle` names a background thread; `submitTask` runs one task on its connection, as
one atomic action, so a program of the store is a sequence of tasks and memory accesses.
`faults` lists what the storage underneath does to the coming tasks: a task that meets a
fault fails and changes nothing.
-/

namespace Replicat

open Sqlite Atomics Atomics.Prog

inductive IoError where
  | notFound
  | other (message : String)
  deriving DecidableEq, Repr

/-- `anyhow::Error` and `openraft::AnyError`: any error, boxed. -/
inductive AnyError where
  | sql (e : SqlError)
  | encode (e : EncodeError)
  | decode (e : DecodeError)
  | io (e : IoError)
  deriving DecidableEq, Repr

/-- The threads that own the connections to `log.db` and to the state store. -/
inductive StorageHandle where
  | logDb
  | stateDb
  deriving DecidableEq, Repr

structure World (U : Type) where
  logDb : Connection (Database U)
  stateDb : Connection (Database U)
  lastAppliedLog : Option LogId
  lastMembership : EffectiveMembership
  snapshotFile : Option Bytes
  /-- Whether the storage fails the next tasks, in order; afterwards it fails none. -/
  faults : List Bool
  deriving DecidableEq

abbrev StoreM (U ε α : Type) := Fallible (World U) ε α

namespace World

variable {U : Type}

def conn (w : World U) : StorageHandle → Connection (Database U)
  | .logDb => w.logDb
  | .stateDb => w.stateDb

def setConn (w : World U) (h : StorageHandle) (c : Connection (Database U)) : World U :=
  match h with
  | .logDb => { w with logDb := c }
  | .stateDb => { w with stateDb := c }

@[simp] theorem conn_setConn_self (w : World U) (h : StorageHandle) (c) :
    (w.setConn h c).conn h = c := by
  cases h <;> rfl

theorem conn_setConn_ne (w : World U) {h h' : StorageHandle} (hne : h ≠ h') (c) :
    (w.setConn h c).conn h' = w.conn h' := by
  cases h <;> cases h' <;> first | rfl | exact absurd rfl hne

@[simp] theorem lastAppliedLog_setConn (w : World U) (h : StorageHandle) (c) :
    (w.setConn h c).lastAppliedLog = w.lastAppliedLog := by
  cases h <;> rfl

@[simp] theorem lastMembership_setConn (w : World U) (h : StorageHandle) (c) :
    (w.setConn h c).lastMembership = w.lastMembership := by
  cases h <;> rfl

@[simp] theorem snapshotFile_setConn (w : World U) (h : StorageHandle) (c) :
    (w.setConn h c).snapshotFile = w.snapshotFile := by
  cases h <;> rfl

@[simp] theorem faults_setConn (w : World U) (h : StorageHandle) (c) :
    (w.setConn h c).faults = w.faults := by
  cases h <;> rfl

@[simp] theorem setConn_setConn (w : World U) (h : StorageHandle) (c c') :
    (w.setConn h c).setConn h c' = w.setConn h c' := by
  cases h <;> rfl

@[simp] theorem setConn_conn (w : World U) (h : StorageHandle) : w.setConn h (w.conn h) = w := by
  cases h <;> rfl

@[simp] theorem conn_faults (w : World U) (faults : List Bool) (h : StorageHandle) :
    ({ w with faults } : World U).conn h = w.conn h := by
  cases h <;> rfl

/-- Whether the storage fails the next task, and the world the task then starts from. -/
def nextFault (w : World U) : Bool × World U :=
  match w.faults with
  | [] => (false, w)
  | b :: rest => (b, { w with faults := rest })

@[simp] theorem conn_nextFault (w : World U) (h : StorageHandle) :
    w.nextFault.2.conn h = w.conn h := by
  unfold nextFault
  cases w.faults <;> cases h <;> rfl

theorem nextFault_nil {w : World U} (h : w.faults = []) : w.nextFault = (false, w) := by
  simp [nextFault, h]

theorem with_faults_nil {w : World U} (h : w.faults = []) : ({ w with faults := [] } : World U) = w := by
  cases w
  cases h
  rfl

/-- The process is gone, and with it the connections and the fields. The files stay. -/
def crash (w : World U) : World U :=
  { w with
    logDb := w.logDb.close
    stateDb := w.stateDb.close
    lastAppliedLog := none
    lastMembership := default }

end World

variable {U α : Type}

/-- What a task gets when the storage fails. -/
def ioFailure : SqlError := .sqliteFailure .ioErr (some "disk I/O error")

namespace StorageHandle

def submitTask (h : StorageHandle)
    (task : Connection (Database U) → Connection (Database U) × Except SqlError α) :
    StoreM U SqlError α :=
  ExceptT.mk <| atomic fun w =>
    if w.nextFault.1 then (.error ioFailure, w.nextFault.2)
    else ((task (w.conn h)).2, w.nextFault.2.setConn h (task (w.conn h)).1)

def execute (h : StorageHandle) (stmt : Prepared (Database U)) : StoreM U SqlError Nat :=
  h.submitTask fun conn => conn.execute stmt

def fetchOne (h : StorageHandle) (stmt : Prepared (Database U))
    (fromRow : Row → Except SqlError α) : StoreM U SqlError (Option α) :=
  h.submitTask fun conn => conn.queryRow stmt fromRow

def fetchAll (h : StorageHandle) (stmt : Prepared (Database U))
    (fromRow : Row → Except SqlError α) : StoreM U SqlError (List α) :=
  h.submitTask fun conn => conn.query stmt fromRow

/-- `serialize_db`: the image of the main database, uncommitted changes included. -/
def serializeDb (env : Env U) (conn : Connection (Database U)) :
    Connection (Database U) × Except SqlError Bytes :=
  match conn.session with
  | none => (conn, .error notADb)
  | some s => (conn, .ok (env.serialize conn.journalMode s.main))

def noMemory : SqlError :=
  .sqliteFailure .noMem (some "Failed to allocate buffer, is the system out of memory?")

def serialize (env : Env U) (h : StorageHandle) : StoreM U SqlError (Option Bytes) := do
  let name ← h.fetchOne (.onMain (selectSqliteMaster env)) fromRowText
  if name.isNone then pure none
  else
    let mem ← h.submitTask (serializeDb env)
    pure (some mem)

/-- `SqliteMemory::from_slice`: `sqlite3_malloc64(0)` returns null. -/
def fromSlice (buf : Bytes) : Except SqlError Bytes :=
  if buf.isEmpty then .error noMemory else .ok buf

def deserializeDb (env : Env U) (mem : Bytes) (conn : Connection (Database U)) :
    Connection (Database U) × Except SqlError Unit :=
  if (conn.deserialize (env.deserialize mem)).2 then
    ((conn.deserialize (env.deserialize mem)).1, .ok ())
  else (conn, .error (.sqliteFailure .busy (some "Unable to create memory view for database")))

def loadFromSerialized (env : Env U) (h : StorageHandle) (mem : Bytes) : StoreM U SqlError Unit :=
  h.submitTask (deserializeDb env mem)

/-! ## One task -/

/-- A task meets the next fault, or runs. -/
theorem exec_submitTask_eq (h : StorageHandle)
    (task : Connection (Database U) → Connection (Database U) × Except SqlError α) (w : World U) :
    (h.submitTask task).run.exec w = if w.nextFault.1 then (.error ioFailure, w.nextFault.2)
      else ((task (w.conn h)).2, w.nextFault.2.setConn h (task (w.conn h)).1) := rfl

theorem exec_submitTask {h : StorageHandle}
    {task : Connection (Database U) → Connection (Database U) × Except SqlError α} {w : World U}
    (hf : w.faults = []) :
    (h.submitTask task).run.exec w = ((task (w.conn h)).2, w.setConn h (task (w.conn h)).1) := by
  rw [exec_submitTask_eq, World.nextFault_nil hf]
  rfl

theorem exec_submitTask_ok {h : StorageHandle}
    {task : Connection (Database U) → Connection (Database U) × Except SqlError α} {w : World U}
    {c : Connection (Database U)} {a : α} (hf : w.faults = []) (ht : task (w.conn h) = (c, .ok a)) :
    (h.submitTask task).run.exec w = (.ok a, w.setConn h c) := by
  rw [exec_submitTask hf, ht]

theorem exec_submitTask_eq_ok {h : StorageHandle}
    {task : Connection (Database U) → Connection (Database U) × Except SqlError α} {w w' : World U}
    {a : α} (hx : (h.submitTask task).run.exec w = (.ok a, w')) :
    (task (w.conn h)).2 = .ok a ∧ w' = w.nextFault.2.setConn h (task (w.conn h)).1 := by
  rw [exec_submitTask_eq] at hx
  split at hx
  · cases hx
  · exact ⟨congrArg Prod.fst hx, (congrArg Prod.snd hx).symm⟩

/-- What a task may do to the world: use up a fault, and change its own connection. -/
theorem within_submitTask {R : World U → World U → Prop} {h : StorageHandle}
    {task : Connection (Database U) → Connection (Database U) × Except SqlError α}
    (hfail : ∀ w, R w w.nextFault.2)
    (hrun : ∀ w, R w (w.nextFault.2.setConn h (task (w.conn h)).1)) :
    (h.submitTask task).run.Within R := by
  refine within_atomic fun w => ?_
  split
  · exact hfail w
  · exact hrun w

/-- A task that leaves its connection can only use up a fault. -/
theorem within_still {R : World U → World U → Prop} {h : StorageHandle}
    {task : Connection (Database U) → Connection (Database U) × Except SqlError α}
    (hfault : ∀ w, R w w.nextFault.2) (ht : ∀ conn, (task conn).1 = conn) : (h.submitTask task).run.Within R := by
  refine within_submitTask hfault fun w => ?_
  rw [ht, ← World.conn_nextFault w h, World.setConn_conn]
  exact hfault w

theorem follows_submitTask {I : World U → Prop} {h : StorageHandle}
    {task : Connection (Database U) → Connection (Database U) × Except SqlError α} {Q : α → Prop}
    {f : World U → World U} (hI : ∀ w, I w → w.faults = [])
    (htask : ∀ w, I w → OkAnd Q (task (w.conn h)).2 ∧ w.setConn h (task (w.conn h)).1 = f w) :
    (h.submitTask task).run.Follows [⟨I, f⟩] (OkAnd Q) := by
  refine follows_atomic fun w hw => ?_
  rw [World.nextFault_nil (hI w hw)]
  exact htask w hw

end StorageHandle

end Replicat
