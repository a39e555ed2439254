import Mathlib.Data.List.AList
import Replicat.Lib.RowidTable
import Replicat.Basic

/-!
# The main database of a store

`Database U` is the contents of one SQLite database as a connection sees them: the two
`replicat_` tables, the client's own tables `U`, which the crate never looks into, and what a
client's statements have put in the way of the store's writes. Below it is every statement
that `storage/raft.rs` prepares, under the name of its constant or of the function it is in,
and `Env`, what the crate gets from outside: SQLite running a client's statement, the image
format of `sqlite3_serialize`, and the order in which an unordered query visits its rows.
-/

namespace Replicat

open Sqlite

def snapshotMetaKey : String := "snapshot_meta"
def lastMembershipKey : String := "last_membership"
def lastLogKey : String := "last_applied_log"
def voteKey : String := "vote"
def snapshotIndexKey : String := "snapshot_index"
def lastPurgedIdKey : String := "last_purged_id"

/-- The rows of `replicat_kv_states`: `key` is its primary key. -/
abbrev KvTable := AList fun _ : String => Value

/-- The columns of `replicat_raft_logs` besides `log_index`, its primary key. -/
structure LogRecord where
  nodeId : Int
  term : Int
  entry : Bytes
  deriving DecidableEq, Repr

abbrev LogTable := RowidTable LogRecord

/-- What a trigger, a TEMP object or a setting of a client makes of the store's writes of a row. -/
structure Hindrance where
  /-- The row of `replicat_kv_states`, or the table `replicat_raft_logs`. -/
  key : String
  /-- The error of the write. `none`: it is reported as done, and what else happens, or happens
  in its place, is not described here. -/
  error : Option SqlError
  /-- Whether it is in the file, and not of one connection. -/
  lasting : Bool
  deriving DecidableEq

structure Database (U : Type) where
  kvTable : Option KvTable
  logTable : Option LogTable
  user : U
  hindrances : List Hindrance
  own : Own
  deriving DecidableEq

namespace Database

variable {U : Type}

/-- The rows of `replicat_kv_states`, when nothing hinders the store from writing them. -/
def kvStates (d : Database U) : Option KvTable := if d.hindrances = [] then d.kvTable else none

/-- The rows of `replicat_raft_logs`, when nothing hinders the store from writing them. -/
def raftLogs (d : Database U) : Option LogTable := if d.hindrances = [] then d.logTable else none

theorem kvStates_eq_some {d : Database U} {t : KvTable} :
    d.kvStates = some t ↔ d.hindrances = [] ∧ d.kvTable = some t := by
  unfold kvStates
  split <;> simp_all

theorem raftLogs_eq_some {d : Database U} {t : LogTable} :
    d.raftLogs = some t ↔ d.hindrances = [] ∧ d.logTable = some t := by
  unfold raftLogs
  split <;> simp_all

theorem kvStates_congr {d d' : Database U} (hhindrances : d'.hindrances = d.hindrances)
    (htable : d'.kvTable = d.kvTable) : d'.kvStates = d.kvStates := by
  unfold kvStates
  rw [hhindrances, htable]

theorem raftLogs_congr {d d' : Database U} (hhindrances : d'.hindrances = d.hindrances)
    (htable : d'.logTable = d.logTable) : d'.raftLogs = d.raftLogs := by
  unfold raftLogs
  rw [hhindrances, htable]

/-- The error that a write of the row `key` meets. -/
def refusal (d : Database U) (key : String) : Option SqlError :=
  d.hindrances.findSome? fun h => if h.key = key then h.error else none

theorem refusal_of_clear {d : Database U} (h : d.hindrances = []) (key : String) :
    d.refusal key = none := by
  rw [refusal, h]
  rfl

end Database

/-- TEMP objects, settings and counters are the connection's and go with it. -/
instance {U : Type} : Contents (Database U) where
  atRest d := { d with hindrances := d.hindrances.filter (·.lasting), own := .fresh }
  atRest_atRest d := by simp
  replace d image :=
    { image with hindrances := image.hindrances ++ d.hindrances.filter (!·.lasting), own := d.own }

namespace Database

variable {U : Type}

theorem atRest_hindrances (d : Database U) : (atRest d).hindrances = d.hindrances.filter (·.lasting) := rfl

/-- What is in nobody's way is so in the file. -/
theorem clear_atRest {d : Database U} (h : d.hindrances = []) : (atRest d).hindrances = [] := by
  rw [atRest_hindrances, h]
  rfl

/-- Contents replaced where nothing is in the way. -/
theorem clear_replace {d image : Database U} (h : d.hindrances = []) :
    (Contents.replace d image).hindrances = image.hindrances := by
  show image.hindrances ++ d.hindrances.filter _ = _
  rw [h]
  exact List.append_nil _

theorem kvStates_replace {d image : Database U} {t : KvTable} (h : d.hindrances = [])
    (ht : image.kvStates = some t) : (Contents.replace d image).kvStates = some t :=
  kvStates_eq_some.2 ⟨(clear_replace h).trans (kvStates_eq_some.1 ht).1, (kvStates_eq_some.1 ht).2⟩

theorem kvStates_atRest {d : Database U} {t : KvTable} (h : d.kvStates = some t) :
    (atRest d).kvStates = some t :=
  kvStates_eq_some.2 ⟨clear_atRest (kvStates_eq_some.1 h).1, (kvStates_eq_some.1 h).2⟩

theorem raftLogs_atRest {d : Database U} {t : LogTable} (h : d.raftLogs = some t) :
    (atRest d).raftLogs = some t :=
  raftLogs_eq_some.2 ⟨clear_atRest (raftLogs_eq_some.1 h).1, (raftLogs_eq_some.1 h).2⟩

end Database

structure Env (U : Type) where
  /-- The client tables of a new database. -/
  emptyUser : U
  /-- The names the client's tables add to `sqlite_master`. -/
  schemaNames : U → List String
  /-- What SQLite does with a client's statement text and parameters. -/
  client : String → List Value → Prepared (Database U)
  /-- The image of a database. That of one in WAL mode says so. -/
  serialize : JournalMode → Database U → Bytes
  /-- The database an image is of. -/
  contents : Bytes → Option (Database U)
  /-- Whether a connection can use an image that it goes on over in memory. -/
  loads : Bytes → Bool
  contents_serialize : ∀ mode d, contents (serialize mode d) = some (atRest d)
  loads_serialize : ∀ mode d, mode ≠ .wal → loads (serialize mode d)
  serialize_ne_nil : ∀ mode d, serialize mode d ≠ []
  scanOrder : ScanOrder
  /-- `Display` of openraft's `LeaderId`. -/
  displayLeaderId : LeaderId → String

/-- What a connection shows once it has deserialized the buffer. -/
def Env.deserialize {U : Type} (env : Env U) (buf : Bytes) : Option (Database U) :=
  if env.loads buf then env.contents buf else none

variable {U : Type}

/-- The effect of a statement on the main database. -/
abbrev Stmt (U : Type) := Database U → Except SqlError (Database U × Output)

def noSuchTable (name : String) : SqlError :=
  .sqliteFailure .error (some ("no such table: " ++ name))

def kvTableName : String := "replicat_kv_states"
def raftLogsTableName : String := "replicat_raft_logs"

def Database.empty (env : Env U) : Database U := ⟨none, none, env.emptyUser, [], .fresh⟩

/-! ## `replicat_kv_states` -/

/-- The contents after a write that takes the rows `t` of `replicat_kv_states` to `t'`. A new row
gets the rowid behind those of the rows before it. -/
def Database.withKvRows (d : Database U) (t t' : KvTable) (out : Output) : Database U :=
  { d with
    kvTable := some t'
    own := d.own.wrote out.changes
      (if t.entries.length < t'.entries.length then some t'.entries.length else none) }

/-- A query of `replicat_kv_states`. -/
def fromKv (f : KvTable → List Row) : Stmt U := fun d =>
  match d.kvTable with
  | none => .error (noSuchTable kvTableName)
  | some t => .ok (d, ⟨f t, 0⟩)

/-- A write of the row `key` of `replicat_kv_states`. -/
def onKv (key : String) (f : KvTable → Except SqlError (KvTable × Output)) : Stmt U := fun d =>
  match d.kvTable with
  | none => .error (noSuchTable kvTableName)
  | some t => (f t).bind fun (t', out) =>
    (d.refusal key).elim (.ok (d.withKvRows t t' out, out)) .error

def replicatKvTable : Stmt U := fun d =>
  .ok ({ d with kvTable := some (d.kvTable.getD ∅) }, ⟨[], 0⟩)

def replicatKvSelectValue (key : String) : Stmt U :=
  fromKv fun t => (t.lookup key).toList.map ([·])

def replicatKvUpsert (key : String) (value : Value) : Stmt U :=
  onKv key fun t => .ok (t.insert key value, ⟨[], 1⟩)

/-- `UPDATE replicat_kv_states SET value = value + 1 WHERE key = ? RETURNING value`. -/
def incSnapshotIndex : Stmt U :=
  onKv snapshotIndexKey fun t =>
    match t.lookup snapshotIndexKey with
    | none => .ok (t, ⟨[], 0⟩)
    | some v => .ok (t.insert snapshotIndexKey v.plusOne, ⟨[[v.plusOne]], 1⟩)

/-- `INSERT INTO replicat_kv_states (key, value) VALUES (?, 0)`. -/
def insertSnapshotIndex : Stmt U :=
  onKv snapshotIndexKey fun t =>
    if (t.lookup snapshotIndexKey).isSome then
      .error (.sqliteFailure .constraint (some "UNIQUE constraint failed: replicat_kv_states.key"))
    else .ok (t.insert snapshotIndexKey (.integer 0), ⟨[], 1⟩)

/-! ## `replicat_raft_logs` -/

/-- The contents after a write that takes the rows `t` of `replicat_raft_logs` to `t'`. -/
def Database.withLogRows (d : Database U) (t t' : LogTable) (out : Output) : Database U :=
  { d with
    logTable := some t'
    own := d.own.wrote out.changes (if t.rows.length < t'.rows.length then some t.nextRowid else none) }

/-- A query of `replicat_raft_logs`. -/
def fromLogs (f : LogTable → List Row) : Stmt U := fun d =>
  match d.logTable with
  | none => .error (noSuchTable raftLogsTableName)
  | some t => .ok (d, ⟨f t, 0⟩)

/-- A write of rows of `replicat_raft_logs`. -/
def onLogs (f : LogTable → Except SqlError (LogTable × Output)) : Stmt U := fun d =>
  match d.logTable with
  | none => .error (noSuchTable raftLogsTableName)
  | some t => (f t).bind fun (t', out) =>
    (d.refusal raftLogsTableName).elim (.ok (d.withLogRows t t' out, out)) .error

def replicatRaftLogsTable : Stmt U := fun d =>
  .ok ({ d with logTable := some (d.logTable.getD .empty) }, ⟨[], 0⟩)

/-- Binding a `u64` parameter: it is bound as an `i64`, a larger value is an error. -/
def bindU64 (v : UInt64) : Except SqlError Int :=
  if v.toNat < 2 ^ 63 then .ok v.toNat else .error .toSqlConversionFailure

/-- The upsert of `append_to_log`, with its parameters in the order they are bound. -/
def insertLog (nodeId logIndex term : UInt64) (entry : Bytes) : Stmt U :=
  onLogs fun t => do
    let nodeId ← bindU64 nodeId
    let logIndex ← bindU64 logIndex
    let term ← bindU64 term
    pure (t.upsert logIndex ⟨nodeId, term, entry⟩, ⟨[], 1⟩)

/-- `DELETE FROM replicat_raft_logs WHERE` a comparison of `log_index` with a parameter. -/
def deleteLogs (cmp : Int → Int → Bool) (index : UInt64) : Stmt U :=
  onLogs fun t => do
    let index ← bindU64 index
    let t' := t.deleteWhere fun logIndex => cmp logIndex index
    pure (t', ⟨[], t.rows.length - t'.rows.length⟩)

/-- `DELETE FROM replicat_raft_logs WHERE log_index >= ?`. -/
def deleteLogsSince (index : UInt64) : Stmt U := deleteLogs (fun a b => b ≤ a) index

/-- `DELETE FROM replicat_raft_logs WHERE log_index <= ?`. -/
def deleteLogsUpto (index : UInt64) : Stmt U := deleteLogs (fun a b => a ≤ b) index

/-- `SELECT node_id, log_index, term FROM replicat_raft_logs ORDER BY log_index DESC LIMIT 1`. -/
def selectLastLog : Stmt U :=
  fromLogs fun t => t.last?.toList.map fun r =>
    [.integer r.val.nodeId, .integer r.key, .integer r.val.term]

/-- `SELECT entry FROM replicat_raft_logs WHERE log_index >= start AND log_index <= end`. The
bounds are literals of the query text; one above `i64::MAX` is read as a float that is above
every stored index. -/
def selectLogs (env : Env U) (bounds : Nat × Nat) : Stmt U :=
  fromLogs fun t => ((t.scan env.scanOrder).filter fun r =>
    decide ((bounds.1 : Int) ≤ r.key ∧ r.key ≤ (bounds.2 : Int))).map fun r => [.blob r.val.entry]

/-! ## The schema and the pragmas -/

/-- `SELECT name FROM sqlite_master`. -/
def selectSqliteMaster (env : Env U) : Stmt U := fun d =>
  .ok (d, ⟨((d.kvTable.toList.map fun _ => kvTableName) ++
    (d.logTable.toList.map fun _ => raftLogsTableName) ++ env.schemaNames d.user).map
      fun name => [.text name], 0⟩)

/-! ## Reading a row -/

/-- `(Vec<u8>,)::from_row`. -/
def fromRowBlob : Row → Except SqlError Bytes
  | .blob v :: _ => .ok v
  | _ => .error (.invalidColumnType 0)

/-- `(String,)::from_row`. -/
def fromRowText : Row → Except SqlError String
  | .text v :: _ => .ok v
  | _ => .error (.invalidColumnType 0)

/-- `(i64,)::from_row`. -/
def fromRowInt : Row → Except SqlError Int
  | .integer v :: _ => .ok v
  | _ => .error (.invalidColumnType 0)

/-- `(i64, i64, i64)::from_row`. -/
def fromRowInts : Row → Except SqlError (Int × Int × Int)
  | .integer a :: .integer b :: .integer c :: _ => .ok (a, b, c)
  | .integer _ :: .integer _ :: _ => .error (.invalidColumnType 2)
  | .integer _ :: _ => .error (.invalidColumnType 1)
  | _ => .error (.invalidColumnType 0)

end Replicat
