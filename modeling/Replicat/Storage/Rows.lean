import Replicat.Storage.HardState

/-!
# Reading a row back

What a query of one of the bookkeeping rows returns, whatever state its connection is in. A
query changes nothing, and its answer depends on the row and on whether there is a table.
-/

namespace Replicat

open Sqlite Atomics Atomics.Prog

variable {U α ε : Type}

/-- What a query of the row under `key` returns on a database. -/
def readKv (key : String) (d : Database U) : Except SqlError (Option Bytes) :=
  (replicatKvSelectValue key d).bind fun r => Connection.firstRow fromRowBlob r.2.rows

theorem readKv_of_some {d : Database U} {t : KvTable} (h : d.kvTable = some t) (key : String) :
    readKv key d = Connection.firstRow fromRowBlob ((d.kv key).toList.map ([·])) := by
  unfold readKv
  rw [replicatKvSelectValue_of_table h]
  rfl

theorem readKv_congr {d d' : Database U} {key : String} (ht : d'.kvTable.isSome = d.kvTable.isSome)
    (hkv : d'.kv key = d.kv key) : readKv key d' = readKv key d := by
  rcases h : d.kvTable with _ | t <;> rcases h' : d'.kvTable with _ | t' <;> rw [h, h'] at ht
  · simp [readKv, replicatKvSelectValue, fromKv, h, h', Except.bind]
  · cases ht
  · cases ht
  · rw [readKv_of_some h, readKv_of_some h', hkv]

/-- The row as a connection reads it. -/
def rowIn (key : String) (c : Connection (Database U)) : Except SqlError (Option Bytes) :=
  match c.session with
  | none => .error notADb
  | some s => readKv key s.main

theorem queryRow_rowIn (c : Connection (Database U)) (key : String) :
    c.queryRow (.onMain (replicatKvSelectValue key)) fromRowBlob = (c, rowIn key c) := by
  unfold Connection.queryRow rowIn readKv
  rcases hs : c.session with _ | s
  · simp [Connection.step, hs, Connection.firstOf]
  · rw [Connection.step_some hs]
    show _ = (c, (replicatKvSelectValue key s.main).bind _)
    unfold Prepared.onMain
    cases hd : replicatKvSelectValue key s.main with
    | error e => exact Prod.ext (by rw [← hs]) rfl
    | ok r =>
      have hsame : r.1 = s.main := replicatKvSelectValue_same hd
      refine Prod.ext ?_ rfl
      show { c with session := some { s with main := r.1 } } = c
      rw [hsame, ← hs]

/-- A row that was read, decoded. -/
def decodeRow [Serde α] : Except SqlError (Option Bytes) → Except AnyError (Option α)
  | .error e => .error (.sql e)
  | .ok none => .ok none
  | .ok (some data) => ((fromBytes data).mapError .decode).map some

@[simp] theorem decodeRow_encoded [Serde α] (v : Option α) :
    decodeRow (.ok (v.map encoded)) = .ok v := by
  cases v with
  | none => rfl
  | some a =>
    show ((fromBytes (encoded a)).mapError AnyError.decode).map some = _
    rw [fromBytes_encoded]
    rfl

theorem decodeOption_run [Serde α] (f : AnyError → ε) (data : Option Bytes) :
    (decodeOption f data : StoreM U ε (Option α)).run =
      .ret ((decodeRow (.ok data)).mapError f) := by
  cases data with
  | none => rfl
  | some data =>
    show (some <$> liftResult _ : StoreM U ε (Option α)).run =
      .ret ((((fromBytes data).mapError AnyError.decode).map some).mapError f)
    rcases (fromBytes data : Except DecodeError α) with e | a <;> rfl

/-- Reading a row and decoding it, with the errors mapped by `f`. -/
theorem exec_readRow [Serde α] (f : AnyError → ε) {h : StorageHandle} {w : World U}
    (hf : w.faults = []) (key : String) :
    (do
      let data ← task f (h.fetchOne (.onMain (replicatKvSelectValue key)) fromRowBlob)
      decodeOption f data : StoreM U ε (Option α)).run.exec w =
      ((decodeRow (rowIn key (w.conn h))).mapError f, w) := by
  have hfetch : (h.fetchOne (.onMain (replicatKvSelectValue key)) fromRowBlob).run.exec w =
      (rowIn key (w.conn h), w) := by
    rw [StorageHandle.fetchOne, StorageHandle.exec_submitTask hf, queryRow_rowIn, World.setConn_conn]
  unfold task
  rw [exec_run_bind, exec_run_mapErr, hfetch]
  rcases rowIn key (w.conn h) with e | data
  · rfl
  · exact congrArg (Prog.exec · w) (decodeOption_run f data)

end Replicat
