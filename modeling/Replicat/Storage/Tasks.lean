import Replicat.Storage.Raft

/-!
# What single tasks do

One lemma a task, for a storage that does not fail and a connection that is outside a
transaction. `Stored v d` says the bookkeeping rows and the client tables of the database
`d` are those of `v`; `Shows` adds the two cached fields of the state machine.
-/

namespace Replicat

open Sqlite Atomics Atomics.Prog

variable {U α ε : Type}

namespace World

/-- The connection `h` reads `d`, outside a transaction. -/
def Reads (w : World U) (h : StorageHandle) (d : Database U) : Prop :=
  (w.conn h).session = some ⟨d, none⟩

/-- The world after a task on `h` committed the contents `d`. -/
def setDb (w : World U) (h : StorageHandle) (d : Database U) : World U :=
  w.setConn h { w.conn h with session := some ⟨d, none⟩ }

/-- The world after a statement that changes the contents of `h` by `f`. -/
def mapDb (h : StorageHandle) (f : Database U → Database U) (w : World U) : World U :=
  w.setConn h { w.conn h with session := (w.conn h).session.map fun s => { s with main := f s.main } }

/-- The world after a statement is executed on `h`, whatever it returns. -/
def runOn (h : StorageHandle) (stmt : Prepared (Database U)) (w : World U) : World U :=
  w.setConn h ((w.conn h).step stmt).1

variable {w : World U} {h : StorageHandle} {d : Database U}

theorem reads_setDb (w : World U) (h : StorageHandle) (d : Database U) : (w.setDb h d).Reads h d := by
  simp [Reads, setDb]

theorem Reads.setDb_ne (hr : w.Reads h d) {h' : StorageHandle} (hne : h' ≠ h) (d' : Database U) :
    (w.setDb h' d').Reads h d := by
  unfold Reads setDb
  rw [conn_setConn_ne w hne]
  exact hr

theorem Reads.mapDb_eq (hr : w.Reads h d) (f : Database U → Database U) :
    mapDb h f w = w.setDb h (f d) := by
  unfold mapDb setDb
  rw [show (w.conn h).session = some ⟨d, none⟩ from hr]
  rfl

/-- Committing what is already there changes nothing. -/
theorem Reads.setDb_self (hr : w.Reads h d) : w.setDb h d = w := by
  unfold setDb
  rw [show { w.conn h with session := some ⟨d, none⟩ } = w.conn h by rw [← hr]]
  exact setConn_conn w h

@[simp] theorem faults_setDb : (w.setDb h d).faults = w.faults := by simp [setDb]
@[simp] theorem lastAppliedLog_setDb : (w.setDb h d).lastAppliedLog = w.lastAppliedLog := by
  simp [setDb]
@[simp] theorem lastMembership_setDb : (w.setDb h d).lastMembership = w.lastMembership := by
  simp [setDb]
@[simp] theorem backing_setDb (h' : StorageHandle) :
    ((w.setDb h d).conn h').backing = (w.conn h').backing := by
  by_cases hh : h = h'
  · subst hh; simp [setDb]
  · rw [setDb, conn_setConn_ne w hh]

end World

/-! ## Running one task -/

section
variable {w : World U} {h : StorageHandle} {d d' : Database U} {out : Output}

theorem exec_execute {f : Stmt U} (hf : w.faults = []) (hr : w.Reads h d)
    (hs : f d = .ok (d', out)) (hrows : out.rows = []) :
    (h.execute (.onMain f)).run.exec w = (.ok out.changes, w.setDb h d') := by
  rw [StorageHandle.execute, StorageHandle.exec_submitTask hf]
  simp [Connection.execute, Connection.step_onMain hr hs, Connection.executed, hrows, World.setDb]

theorem exec_fetchOne {f : Stmt U} {fromRow : Row → Except SqlError α} (hf : w.faults = [])
    (hr : w.Reads h d) (hs : f d = .ok (d', out)) :
    (h.fetchOne (.onMain f) fromRow).run.exec w =
      (Connection.firstRow fromRow out.rows, w.setDb h d') := by
  rw [StorageHandle.fetchOne, StorageHandle.exec_submitTask hf]
  simp [Connection.queryRow, Connection.step_onMain hr hs, Connection.firstOf, World.setDb]

theorem exec_fetchAll {f : Stmt U} {fromRow : Row → Except SqlError α} (hf : w.faults = [])
    (hr : w.Reads h d) (hs : f d = .ok (d', out)) :
    (h.fetchAll (.onMain f) fromRow).run.exec w = (out.rows.mapM fromRow, w.setDb h d') := by
  rw [StorageHandle.fetchAll, StorageHandle.exec_submitTask hf]
  simp [Connection.query, Connection.step_onMain hr hs, Connection.allOf, World.setDb]

theorem exec_task {f : AnyError → ε} {x : StoreM U SqlError α} {a : α} {w' : World U}
    (hx : x.run.exec w = (.ok a, w')) : (task f x).run.exec w = (.ok a, w') := by
  simp [task, hx, Except.mapError]

@[simp] theorem exec_encode [Serde α] (f : AnyError → ε) (v : α) (w : World U) :
    (encode f v : StoreM U ε Bytes).run.exec w = (.ok (encoded v), w) := by
  simp [encode, Except.mapError]

@[simp] theorem exec_decodeOption [Serde α] (f : AnyError → ε) (v : Option α) (w : World U) :
    (decodeOption f (v.map encoded) : StoreM U ε (Option α)).run.exec w = (.ok v, w) := by
  cases v with
  | none => rfl
  | some v =>
    simp only [decodeOption, Option.map_some, decode, fromBytes_encoded, Except.mapError]
    rfl

end

theorem within_decodeOption [Serde α] {R : World U → World U → Prop} (f : AnyError → ε)
    (data : Option Bytes) : (decodeOption f data : StoreM U ε (Option α)).run.Within R := by
  cases data with
  | none => exact within_run_pure none
  | some data => exact (within_run_liftResult _).run_bind fun _ => within_run_pure _

/-! ## The bookkeeping rows -/

namespace Database

/-- The contents after a row of `replicat_kv_states` is written. -/
def putKv (key : String) (v : Value) (d : Database U) : Database U :=
  d.kvTable.elim d fun t => d.withKvRows t (t.insert key v) ⟨[], 1⟩

/-- The contents after an update that finds no row. -/
def untouched (d : Database U) : Database U := { d with own := d.own.wrote 0 none }

/-- The value under a key; a missing table holds none. -/
def kv (d : Database U) (key : String) : Option Value := d.kvTable.bind (·.lookup key)

theorem kvTable_putKv (d : Database U) (key : String) (v : Value) :
    (d.putKv key v).kvTable = d.kvTable.map (·.insert key v) := by
  unfold putKv
  cases h : d.kvTable <;> simp [withKvRows, h]

@[simp] theorem user_putKv (d : Database U) (key : String) (v : Value) :
    (d.putKv key v).user = d.user := by
  unfold putKv
  cases d.kvTable <;> rfl

@[simp] theorem logTable_putKv (d : Database U) (key : String) (v : Value) :
    (d.putKv key v).logTable = d.logTable := by
  unfold putKv
  cases d.kvTable <;> rfl

@[simp] theorem hindrances_putKv (d : Database U) (key : String) (v : Value) :
    (d.putKv key v).hindrances = d.hindrances := by
  unfold putKv
  cases d.kvTable <;> rfl

theorem objects_putKv (d : Database U) (key : String) (v : Value) :
    (d.putKv key v).own.objects = d.own.objects := by
  unfold putKv
  cases d.kvTable <;> rfl

@[simp] theorem raftLogs_putKv (d : Database U) (key : String) (v : Value) :
    (d.putKv key v).raftLogs = d.raftLogs := by
  simp [raftLogs]

theorem kv_putKv_self_of_table {d : Database U} {t : KvTable} (h : d.kvTable = some t) (key : String)
    (v : Value) : (d.putKv key v).kv key = some v := by
  simp [kv, kvTable_putKv, h]

theorem kv_putKv_self {d : Database U} {t : KvTable} (h : d.kvStates = some t) (key : String)
    (v : Value) : (d.putKv key v).kv key = some v :=
  kv_putKv_self_of_table (kvStates_eq_some.1 h).2 key v

theorem kv_putKv_ne (d : Database U) {key k : String} (hne : k ≠ key) (v : Value) :
    (d.putKv key v).kv k = d.kv k := by
  unfold kv
  rw [kvTable_putKv]
  cases d.kvTable with
  | none => rfl
  | some t => exact AList.lookup_insert_ne hne

/-- Writing a row neither creates the table nor drops it. -/
theorem isSome_kvTable_putKv (d : Database U) (key : String) (v : Value) :
    (d.putKv key v).kvTable.isSome = d.kvTable.isSome := by
  simp [kvTable_putKv]

theorem isSome_kvStates_putKv (d : Database U) (key : String) (v : Value) :
    (d.putKv key v).kvStates.isSome = d.kvStates.isSome := by
  unfold kvStates
  rw [hindrances_putKv]
  split
  · exact isSome_kvTable_putKv d key v
  · rfl

theorem isSome_putKv {d : Database U} {t : KvTable} (h : d.kvStates = some t) (key : String)
    (v : Value) : (d.putKv key v).kvStates.isSome := by
  rw [isSome_kvStates_putKv, h]
  rfl

theorem kvStates_putKv {d : Database U} {t : KvTable} (h : d.kvStates = some t) (key : String)
    (v : Value) : (d.putKv key v).kvStates = some (t.insert key v) := by
  obtain ⟨hclear, ht⟩ := kvStates_eq_some.1 h
  exact kvStates_eq_some.2 ⟨by simpa using hclear, by simp [kvTable_putKv, ht]⟩

/-! ### Log rows -/

theorem raftLogs_withLogRows {d : Database U} (h : d.hindrances = []) (t t' : LogTable) (out : Output) :
    (d.withLogRows t t' out).raftLogs = some t' := raftLogs_eq_some.2 ⟨h, rfl⟩

end Database

/-- What a write of log rows does on a database that lets it happen. -/
theorem onLogs_eq {d : Database U} {t : LogTable} (ht : d.logTable = some t)
    (h : d.refusal raftLogsTableName = none) (f : LogTable → Except SqlError (LogTable × Output)) :
    onLogs f d = (f t).map fun r => (d.withLogRows t r.1 r.2, r.2) := by
  unfold onLogs
  rw [ht]
  show (f t).bind _ = _
  cases f t with
  | error e => rfl
  | ok r =>
    show (d.refusal raftLogsTableName).elim _ _ = _
    rw [h]
    rfl

/-- What a write of a row does on a database that lets it happen. -/
theorem onKv_eq {d : Database U} {t : KvTable} {key : String} (ht : d.kvTable = some t)
    (h : d.refusal key = none) (f : KvTable → Except SqlError (KvTable × Output)) :
    onKv key f d = (f t).map fun r => (d.withKvRows t r.1 r.2, r.2) := by
  unfold onKv
  rw [ht]
  show (f t).bind _ = _
  cases f t with
  | error e => rfl
  | ok r =>
    show (d.refusal key).elim _ _ = _
    rw [h]
    rfl

theorem onKv_eq_ok {d d' : Database U} {key : String} {f : KvTable → Except SqlError (KvTable × Output)}
    {out : Output} (h : onKv key f d = .ok (d', out)) : ∃ t t', d.kvTable = some t ∧
      d.refusal key = none ∧ f t = .ok (t', out) ∧ d' = d.withKvRows t t' out := by
  unfold onKv at h
  rcases ht : d.kvTable with _ | t <;> simp only [ht] at h
  · cases h
  · rcases hft : f t with e | ⟨t', out'⟩ <;> simp only [hft, Except.bind] at h
    · cases h
    · rcases hr : d.refusal key with _ | e <;> simp only [hr, Option.elim] at h
      · cases h
        exact ⟨t, t', rfl, rfl, hft, rfl⟩
      · cases h

/-- A row can be written: the table is there and nothing refuses the write. -/
def Database.Writable (d : Database U) (key : String) : Prop :=
  d.kvTable.isSome ∧ d.refusal key = none

theorem Database.writable_of_some {d : Database U} {t : KvTable} (h : d.kvStates = some t) (key : String) :
    d.Writable key := by
  obtain ⟨hclear, ht⟩ := kvStates_eq_some.1 h
  exact ⟨by rw [ht]; rfl, refusal_of_clear hclear key⟩

theorem Database.Writable.of_onKv {d : Database U} {key : String}
    {f : KvTable → Except SqlError (KvTable × Output)} {r : Database U × Output} (h : onKv key f d = .ok r) :
    d.Writable key := by
  obtain ⟨t, -, ht, hr, -, -⟩ := onKv_eq_ok h
  exact ⟨by rw [ht]; rfl, hr⟩

/-- What could be written stays so when some row is. -/
theorem Database.Writable.putKv {d : Database U} {key : String} (h : d.Writable key) (k : String) (v : Value) :
    (d.putKv k v).Writable key := by
  refine ⟨(isSome_kvTable_putKv d k v).trans h.1, ?_⟩
  rw [refusal, hindrances_putKv]
  exact h.2

theorem replicatKvUpsert_of_writable {d : Database U} {key : String} (h : d.Writable key) (v : Value) :
    replicatKvUpsert key v d = .ok (d.putKv key v, ⟨[], 1⟩) := by
  obtain ⟨htable, hr⟩ := h
  obtain ⟨t, ht⟩ := Option.isSome_iff_exists.1 htable
  rw [replicatKvUpsert, onKv_eq ht hr, Database.putKv, ht]
  rfl

/-- Two databases that both have the table and meet the same refusal take a row alike. -/
theorem replicatKvUpsert_cases {d d' : Database U} {key : String}
    (hkv : d.kvTable.isSome = d'.kvTable.isSome) (hrefusal : d.refusal key = d'.refusal key) (v : Value) :
    (d.Writable key ∧ d'.Writable key) ∨
      ∃ e, replicatKvUpsert key v d = .error e ∧ replicatKvUpsert key v d' = .error e := by
  by_cases hw : d.Writable key
  · exact .inl ⟨hw, hkv ▸ hw.1, hrefusal ▸ hw.2⟩
  · unfold replicatKvUpsert onKv
    rcases ht : d.kvTable with _ | t <;> rcases ht' : d'.kvTable with _ | t' <;> rw [ht, ht'] at hkv
    · exact .inr ⟨_, rfl, rfl⟩
    · cases hkv
    · cases hkv
    · have htable : d.kvTable.isSome := by
        rw [ht]
        rfl
      obtain ⟨e, he⟩ := Option.ne_none_iff_exists'.1 fun h => hw ⟨htable, h⟩
      refine .inr ⟨e, ?_, ?_⟩ <;> simp [← hrefusal, he, Except.bind]

theorem replicatKvUpsert_eq {d : Database U} {t : KvTable} (h : d.kvStates = some t) (key : String)
    (v : Value) : replicatKvUpsert key v d = .ok (d.putKv key v, ⟨[], 1⟩) :=
  replicatKvUpsert_of_writable (Database.writable_of_some h key) v

theorem replicatKvUpsert_eq_ok {d d' : Database U} {key : String} {v : Value} {out : Output}
    (h : replicatKvUpsert key v d = .ok (d', out)) :
    d' = d.putKv key v ∧ d.Writable key ∧ out = ⟨[], 1⟩ := by
  have hw := Database.Writable.of_onKv h
  rw [replicatKvUpsert_of_writable hw] at h
  cases h
  exact ⟨rfl, hw, rfl⟩

/-- The row cannot be written: the storage fails the next task, or the database does not let it
happen. -/
def PutFails (h : StorageHandle) (key : String) (w : World U) : Prop :=
  w.nextFault.1 = true ∨ ∀ s, (w.conn h).session = some s → ¬ s.main.Writable key

/-- Writing a row: it is written, or nothing is. -/
theorem exec_upsert_cases (h : StorageHandle) (key : String) (v : Value) (w : World U) :
    (∃ s, ¬ PutFails h key w ∧ (w.conn h).session = some s ∧ s.main.Writable key ∧
      (h.execute (.onMain (replicatKvUpsert key v))).run.exec w =
        (.ok 1, w.nextFault.2.setConn h
          { w.conn h with session := some { s with main := s.main.putKv key v } })) ∨
    (PutFails h key w ∧
      ∃ e, (h.execute (.onMain (replicatKvUpsert key v))).run.exec w = (.error e, w.nextFault.2)) := by
  rw [StorageHandle.execute, StorageHandle.exec_submitTask_eq]
  cases hfault : w.nextFault.1 with
  | true => exact .inr ⟨.inl hfault, ioFailure, rfl⟩
  | false =>
    unfold Connection.execute
    rcases Connection.step_onMain_cases (w.conn h) (replicatKvUpsert key v) with
      ⟨s, d, out, hs, hup, hstep⟩ | ⟨e, hstep⟩
    · obtain ⟨rfl, hwritable, rfl⟩ := replicatKvUpsert_eq_ok hup
      refine .inl ⟨s, ?_, hs, hwritable, by rw [hstep]; rfl⟩
      rintro (h' | h')
      · exact absurd (hfault.symm.trans h') (by decide)
      · exact h' s hs hwritable
    · refine .inr ⟨.inr fun s hs hwritable => ?_, e, ?_⟩
      · rw [Connection.step_onMain hs (replicatKvUpsert_of_writable hwritable v)] at hstep
        cases congrArg Prod.snd hstep
      · rw [hstep, ← World.conn_nextFault w h, World.setConn_conn]
        rfl

theorem replicatKvSelectValue_of_table {d : Database U} {t : KvTable} (h : d.kvTable = some t)
    (key : String) :
    replicatKvSelectValue key d = .ok (d, ⟨(d.kv key).toList.map ([·]), 0⟩) := by
  simp only [replicatKvSelectValue, fromKv, Database.kv, h, Option.bind_some]

/-- Reading the row of an encoded value. -/
theorem exec_fetchKv [Serde α] {w : World U} {h : StorageHandle} {d : Database U} {t : KvTable}
    {key : String} {v : Option α} (hf : w.faults = []) (hr : w.Reads h d) (ht : d.kvTable = some t)
    (hv : d.kv key = v.map fun a => .blob (encoded a)) :
    (h.fetchOne (.onMain (replicatKvSelectValue key)) fromRowBlob).run.exec w =
      (.ok (v.map encoded), w) := by
  rw [exec_fetchOne hf hr (replicatKvSelectValue_of_table ht key), hr.setDb_self, hv]
  cases v <;> rfl

/-! ## The snapshot file -/

/-- A change of the snapshot file. -/
def World.mapFile (f : Option Bytes → Option Bytes) (w : World U) : World U :=
  { w with snapshotFile := f w.snapshotFile }

theorem follows_fileTask {f : Option Bytes → Except IoError α × Option Bytes} {Q : α → Prop}
    (hf : ∀ file, OkAnd Q (f file).1) :
    (fileTask f : StoreM U AnyError α).run.Follows
      [⟨fun w => w.faults = [], World.mapFile fun file => (f file).2⟩] (OkAnd Q) := by
  refine follows_atomic fun w hw => ?_
  rw [World.nextFault_nil hw]
  obtain ⟨a, ha, hQ⟩ := hf w.snapshotFile
  refine ⟨⟨a, ?_, hQ⟩, rfl⟩
  simp only [Bool.false_eq_true, if_false, ha]
  rfl

theorem writeAll_follows (pos : Nat) (data : Bytes) :
    ∃ gs : List (Option Bytes → Option Bytes),
      (writeAll pos data : StoreM U AnyError Unit).run.Follows
        (Move.under (fun w => w.faults = []) (gs.map World.mapFile)) (OkAnd fun _ => True) := by
  induction data generalizing pos with
  | nil => exact ⟨[], follows_run_pure trivial⟩
  | cons byte data ih =>
    obtain ⟨gs, hgs⟩ := ih (pos + 1)
    exact ⟨_ :: gs, (follows_fileTask (Q := fun _ => True) fun _ => ⟨(), rfl, trivial⟩).run_bind
      fun _ _ => hgs⟩

/-- Writing the image out changes the file only. -/
theorem writeImage_follows (data : Bytes) :
    ∃ gs : List (Option Bytes → Option Bytes), (do
      openFile
      writeAll 0 data
      syncData
      flush
      pure data : StoreM U AnyError Bytes).run.Follows
      (Move.under (fun w => w.faults = []) (gs.map World.mapFile)) (OkAnd fun r => r = data) := by
  obtain ⟨gs, hgs⟩ := writeAll_follows (U := U) 0 data
  have hone : ∀ f : Option Bytes → Option Bytes,
      (fileTask fun file => (.ok (), f file) : StoreM U AnyError Unit).run.Follows
        (Move.under (fun w => w.faults = []) ([f].map World.mapFile)) (OkAnd fun _ => True) :=
    fun f => follows_fileTask fun _ => ⟨(), rfl, trivial⟩
  refine ⟨[fun file => some (file.getD [])] ++ (gs ++ ([id] ++ ([id] ++ []))), ?_⟩
  simp only [List.map_append, Move.under_append]
  exact (hone _).run_bind fun _ _ => hgs.run_bind fun _ _ => (hone id).run_bind fun _ _ =>
    (hone id).run_bind fun _ _ => follows_run_pure rfl

/-! ### What bounds an image and its file -/

section Image

variable {R : World U → World U → Prop}

/-- Reading the image off leaves the connection. -/
theorem within_serialize_of (hfault : ∀ w, R w w.nextFault.2) (env : Env U) (h : StorageHandle) :
    (h.serialize env).run.Within R := by
  unfold StorageHandle.serialize
  refine Within.run_bind (StorageHandle.within_still hfault fun conn => ?_) fun name => ?_
  · show (conn.step (.onMain (selectSqliteMaster env))).1 = conn
    rcases Connection.step_onMain_cases conn (selectSqliteMaster env) with
      ⟨s, d, out, hs, hstmt, hstep⟩ | ⟨e, hstep⟩
    · cases hstmt
      rw [hstep]
      show { conn with session := some s } = conn
      rw [← hs]
    · rw [hstep]
  · cases name with
    | none => exact within_run_pure none
    | some name =>
      refine Within.run_bind (StorageHandle.within_still hfault fun conn => ?_) fun _ => within_run_pure _
      unfold StorageHandle.serializeDb
      cases conn.session <;> rfl

theorem within_writeAll_of (hfile : ∀ f, (fileTask f : StoreM U AnyError Unit).run.Within R) (pos : Nat)
    (data : Bytes) : (writeAll pos data : StoreM U AnyError Unit).run.Within R := by
  induction data generalizing pos with
  | nil => exact within_run_pure ()
  | cons byte data ih => exact (hfile _).run_bind fun _ => ih (pos + 1)

theorem within_writeImage (hfile : ∀ f, (fileTask f : StoreM U AnyError Unit).run.Within R) (data : Bytes) :
    (do
      openFile
      writeAll 0 data
      syncData
      flush
      pure data : StoreM U AnyError Bytes).run.Within R := by
  refine Within.run_bind (hfile _) fun _ => ?_
  refine Within.run_bind (within_writeAll_of hfile 0 data) fun _ => ?_
  refine Within.run_bind (hfile _) fun _ => ?_
  exact (hfile _).run_bind fun _ => within_run_pure data

end Image

end Replicat
