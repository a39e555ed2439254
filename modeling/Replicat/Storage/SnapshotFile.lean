import Replicat.Lib.Timed
import Replicat.Storage.Durable
import Replicat.Storage.Faults
import Replicat.Storage.Rows

/-!
# Replacing the snapshot

`build_snapshot` commits the row of the new metadata, then writes the image over the file of
the old one. `ReplacedAtomically` is that whoever looks, a caller after a failure, another task
in between or a process after a crash, finds the old snapshot or the new one;
`build_atomic_iff` says when.
-/

namespace Replicat

open Sqlite Atomics Atomics.Prog

variable {U : Type}

/-! ## The snapshot that is there -/

section Current

variable [Serde SnapshotMeta]

/-- What the row `snapshot_meta` of a database is read as. -/
def metaOf (d : Database U) : Except AnyError (Option SnapshotMeta) :=
  decodeRow (readKv snapshotMetaKey d)

def metaIn (c : Connection (Database U)) : Except AnyError (Option SnapshotMeta) :=
  decodeRow (rowIn snapshotMetaKey c)

theorem metaIn_eq (c : Connection (Database U)) :
    metaIn c = (c.session.map fun s => metaOf s.main).getD (.error (.sql notADb)) := by
  unfold metaIn rowIn
  cases c.session <;> rfl

theorem metaOf_putKv {d : Database U} {t : KvTable} (h : d.kvTable = some t)
    (metadata : SnapshotMeta) :
    metaOf (d.putKv snapshotMetaKey (.blob (encoded metadata))) = .ok (some metadata) := by
  have hsome : (d.putKv snapshotMetaKey (.blob (encoded metadata))).kvTable.isSome := by
    rw [Database.isSome_kvTable_putKv, h]
    rfl
  obtain ⟨t', ht'⟩ := Option.isSome_iff_exists.1 hsome
  unfold metaOf
  rw [readKv_of_some ht', Database.kv_putKv_self_of_table h]
  exact decodeRow_encoded (some metadata)

theorem getSnapshotMeta_exec {h : StorageHandle} {w : World U} (hf : w.faults = []) :
    (getSnapshotMeta h : StoreM U AnyError _).run.exec w = (metaIn (w.conn h), w) := by
  refine (exec_readRow id hf snapshotMetaKey).trans (Prod.ext ?_ rfl)
  show (metaIn (w.conn h)).mapError id = _
  cases metaIn (w.conn h) <;> rfl

/-- The metadata row and the file are those of the snapshot. -/
structure Holding (data : StorageHandle) (w : World U) (snap : Snapshot) : Prop where
  row : metaIn (w.conn data) = .ok (some snap.metadata)
  file : w.snapshotFile = some snap.snapshot

theorem Holding.unique {data : StorageHandle} {w : World U} {snap snap' : Snapshot}
    (h : Holding data w snap) (h' : Holding data w snap') : snap = snap' := by
  have hmeta : snap.metadata = snap'.metadata := by simpa using h.row.symm.trans h'.row
  have hbytes : snap.snapshot = snap'.snapshot := by simpa using h.file.symm.trans h'.file
  cases snap
  cases snap'
  cases hmeta
  cases hbytes
  rfl

/-- What a call of `get_current_snapshot` returns when the storage does not fail under it. -/
def currentSnapshot (store : RaftStore) (w : World U) : Except StorageError (Option Snapshot) :=
  resultOf store.getCurrentSnapshot w

theorem currentSnapshot_eq (store : RaftStore) (w : World U) :
    currentSnapshot store w =
      match (metaIn (w.conn store.data)).mapError createSnapshotErr with
      | .error e => .error e
      | .ok none => .ok none
      | .ok (some metadata) => RaftStore.snapshotOfRead metadata
        (match w.snapshotFile with
          | none => .error (.io .notFound)
          | some data => .ok data) := by
  unfold currentSnapshot resultOf RaftStore.getCurrentSnapshot
  rw [exec_run_bind, exec_run_mapErr, getSnapshotMeta_exec rfl, World.conn_faults]
  rcases metaIn (w.conn store.data) with e | _ | metadata
  · rfl
  · rfl
  · show ((readFile.run >>= fun r => .ret (RaftStore.snapshotOfRead metadata r)).exec _).1 = _
    rw [exec_bind]
    rcases w with ⟨a, b, c, d, _ | file, f⟩ <;> rfl

theorem currentSnapshot_eq_some {store : RaftStore} {w : World U} {snap : Snapshot} :
    currentSnapshot store w = .ok (some snap) ↔ Holding store.data w snap := by
  rw [currentSnapshot_eq]
  constructor
  · intro h
    rcases hrow : metaIn (w.conn store.data) with e | _ | metadata <;> rw [hrow] at h
    · cases h
    · cases h
    · rcases hfile : w.snapshotFile with _ | file <;> rw [hfile] at h
      · cases h
      · cases h
        exact ⟨hrow, hfile⟩
  · rintro ⟨hrow, hfile⟩
    rw [hrow, hfile]
    rfl

/-- Two readings, each of a moment at which the snapshot is there. -/
theorem getCurrentSnapshot_follows (store : RaftStore) (snap : Snapshot) :
    (store.getCurrentSnapshot : StorageResult U _).run.Follows
      (Move.under (fun w => w.faults = [] ∧ Holding store.data w snap) [id, id]) fun r => r = .ok (some snap) := by
  have hfetch : (store.data.fetchOne (.onMain (replicatKvSelectValue snapshotMetaKey))
      fromRowBlob).run.Follows [⟨fun w : World U => w.faults = [] ∧ Holding store.data w snap, id⟩]
        (OkAnd fun data => decodeRow (.ok data) = .ok (some snap.metadata)) := by
    refine StorageHandle.follows_submitTask (fun w hw => hw.1) fun w hw => ?_
    have hrow : decodeRow (rowIn snapshotMetaKey (w.conn store.data)) = .ok (some snap.metadata) := hw.2.row
    rw [queryRow_rowIn]
    refine ⟨?_, World.setConn_conn w _⟩
    rcases h : rowIn snapshotMetaKey (w.conn store.data) with e | data <;> rw [h] at hrow
    · cases hrow
    · exact ⟨data, rfl, hrow⟩
  have hdecode : ∀ data, decodeRow (.ok data) = .ok (some snap.metadata) →
      (decodeOption id data : StoreM U AnyError _).run.Follows []
        (OkAnd fun metadata => metadata = some snap.metadata) := by
    intro data hdata
    rw [decodeOption_run, hdata]
    exact .ret ⟨_, rfl, rfl⟩
  have hfile : (readFile : StoreM U AnyError Bytes).run.Follows
      [⟨fun w => w.faults = [] ∧ Holding store.data w snap, id⟩] fun r => r = .ok snap.snapshot := by
    refine follows_atomic fun w hw => ?_
    rw [World.nextFault_nil hw.1]
    obtain ⟨a, b, c, d, file, f⟩ := w
    have hfile : file = some snap.snapshot := hw.2.file
    subst hfile
    exact ⟨rfl, rfl⟩
  unfold RaftStore.getCurrentSnapshot
  change (_ >>= _ : StoreM U StorageError _).run.Follows ([⟨_, id⟩] ++ [⟨_, id⟩]) _
  refine Follows.run_bind (Q := fun metadata => metadata = some snap.metadata) (Follows.run_mapErr ?_) ?_
  · exact Follows.run_bind hfetch.run_mapErr hdecode
  · rintro _ rfl
    rw [← List.append_nil [_]]
    refine hfile.bind ?_
    rintro _ rfl
    exact .ret rfl

/-- On a sound storage nothing is changed. -/
def Unmoved (w w' : World U) : Prop := w.faults = [] → w' = w

instance : Std.Refl (Unmoved (U := U)) := ⟨fun _ _ => rfl⟩

instance : IsTrans (World U) Unmoved := ⟨fun _ _ _ h h' hf => by
  have hw := h hf
  subst hw
  exact h' hf⟩

theorem getCurrentSnapshot_within (store : RaftStore) :
    (store.getCurrentSnapshot : StorageResult U _).run.Within Unmoved := by
  have hrow : (store.data.fetchOne (.onMain (replicatKvSelectValue snapshotMetaKey)) fromRowBlob).run.Within
      (Unmoved (U := U)) := by
    refine within_atomic fun w hf => ?_
    rw [World.nextFault_nil hf]
    show w.setConn store.data (Connection.queryRow _ _ _).1 = w
    rw [queryRow_rowIn]
    exact World.setConn_conn w _
  have hfile : (readFile : StoreM U AnyError Bytes).run.Within Unmoved := by
    refine within_atomic fun w hf => ?_
    rw [World.nextFault_nil hf]
    rcases w with ⟨a, b, c, d, _ | file, f⟩ <;> rfl
  unfold RaftStore.getCurrentSnapshot getSnapshotMeta
  refine Within.run_bind (Within.run_mapErr ?_) fun metadata => ?_
  · exact hrow.run_mapErr.run_bind fun data => within_decodeOption id data
  · cases metadata with
    | none => exact within_run_pure none
    | some metadata => exact hfile.bind fun _ => .ret _

end Current

/-! ## Writing over the file -/

/-- The node with these bytes in the snapshot file. -/
def World.withFile (w : World U) (file : Bytes) : World U := { w with snapshotFile := some file }

@[simp] theorem World.conn_withFile (w : World U) (file : Bytes) (h : StorageHandle) :
    (w.withFile file).conn h = w.conn h := by
  cases h <;> rfl

theorem exec_fileTask {α : Type} {f : Option Bytes → Except IoError α × Option Bytes} {w : World U}
    (hf : w.faults = []) :
    (fileTask f : StoreM U AnyError α).run.exec w =
      ((f w.snapshotFile).1.mapError .io, { w with snapshotFile := (f w.snapshotFile).2 }) := by
  change (if w.nextFault.1 then _ else _) = _
  rw [World.nextFault_nil hf]
  rfl

theorem writeByte_take {pos : Nat} {file : Bytes} (h : pos ≤ file.length) (byte : UInt8) :
    (writeByte pos byte file).take (pos + 1) = file.take pos ++ [byte] := by
  simp [writeByte, List.take_append, h]

theorem writeByte_drop {pos : Nat} {file : Bytes} (h : pos ≤ file.length) (byte : UInt8) (n : Nat) :
    (writeByte pos byte file).drop (pos + 1 + n) = file.drop (pos + 1 + n) := by
  unfold writeByte
  have hlen : (file.take pos).length = pos := List.length_take_of_le h
  rw [List.drop_append, hlen, List.drop_eq_nil_of_le (by rw [hlen]; omega), List.nil_append,
    show pos + 1 + n - pos = n + 1 by omega, List.drop_succ_cons, List.drop_drop]

/-- `write_all` replaces as many bytes as it writes. -/
theorem writeAll_exec (data : Bytes) {w : World U} (hf : w.faults = []) {pos : Nat} {file : Bytes}
    (hfile : w.snapshotFile = some file) (hpos : pos ≤ file.length) :
    (writeAll pos data : StoreM U AnyError Unit).run.exec w =
      (.ok (), w.withFile (file.take pos ++ data ++ file.drop (pos + data.length))) := by
  induction data generalizing pos file w with
  | nil =>
    have hsame : w.withFile (file.take pos ++ [] ++ file.drop (pos + ([] : Bytes).length)) = w := by
      cases w
      simp_all [World.withFile]
    rw [hsame]
    rfl
  | cons byte data ih =>
    have hone : (fileTask fun file => (.ok (), file.map (writeByte pos byte)) :
        StoreM U AnyError Unit).run.exec w = (.ok (), w.withFile (writeByte pos byte file)) := by
      rw [exec_fileTask hf, hfile]
      rfl
    have hlen : pos + 1 ≤ (writeByte pos byte file).length := by simp [writeByte]; omega
    unfold writeAll
    rw [exec_run_bind_ok hone, ih (w := w.withFile (writeByte pos byte file)) hf rfl hlen,
      writeByte_take hpos, writeByte_drop hpos]
    refine Prod.ext rfl (congrArg w.withFile ?_)
    simp [Nat.add_assoc, Nat.add_comm 1]

theorem writeByte_self {pos : Nat} {byte : UInt8} {file rest : Bytes}
    (h : file.drop pos = byte :: rest) : writeByte pos byte file = file := by
  have hrest : file.drop (pos + 1) = rest := by
    rw [← List.drop_drop, h]
    rfl
  unfold writeByte
  rw [hrest, ← h, List.take_append_drop]

/-- A file operation that leaves the node as it is. -/
theorem along_fileTask {α : Type} {f : Option Bytes → Except IoError α × Option Bytes} {w : World U}
    (hf : w.faults = []) (hsame : (f w.snapshotFile).2 = w.snapshotFile) :
    Along (· = w) (fileTask f : StoreM U AnyError α).run w := by
  have hexec : ((fileTask f : StoreM U AnyError α).run.exec w).2 = w := by
    rw [exec_fileTask hf, hsame]
  exact along_atomic rfl hexec

/-- Writing bytes that are there already. -/
theorem writeAll_same (data : Bytes) {w : World U} (hf : w.faults = []) {pos : Nat} {file : Bytes}
    (hfile : w.snapshotFile = some file) (hdata : data <+: file.drop pos) :
    Along (· = w) (writeAll pos data : StoreM U AnyError Unit).run w := by
  induction data generalizing pos with
  | nil => exact along_run_pure rfl
  | cons byte data ih =>
    obtain ⟨rest, hrest⟩ := hdata
    have hbyte : writeByte pos byte file = file := writeByte_self hrest.symm
    have hone : Along (· = w) (fileTask fun file => (.ok (), file.map (writeByte pos byte)) :
        StoreM U AnyError Unit).run w := along_fileTask hf (by rw [hfile]; simp [hbyte])
    unfold writeAll
    refine hone.run_bind fun _ t _ ht => ?_
    subst ht
    refine ih ⟨rest, ?_⟩
    rw [← List.drop_drop, ← hrest]
    rfl

/-- The bytes of a file once `data` is written over its beginning. -/
def writtenOver (data file : Bytes) : Bytes := data ++ file.drop data.length

/-- Nothing is written over where the data are there already. -/
theorem writtenOver_eq_self {data file : Bytes} : writtenOver data file = file ↔ data <+: file := by
  constructor
  · intro h
    exact ⟨_, h⟩
  · rintro ⟨rest, rfl⟩
    simp [writtenOver]

/-! ## What a build writes -/

section Build

variable {env : Env U} {store : RaftStore}

/-- The row `snapshot_index` of the log database. -/
def indexRow (store : RaftStore) (w : World U) : Option Value :=
  (w.conn store.log).session.bind fun s => s.main.kv snapshotIndexKey

/-- What the next build makes of the row. -/
def nextIndexValue : Option Value → Value
  | none => .integer 0
  | some v => v.plusOne

/-- The index the next build gets. -/
def nextIndex (row : Option Value) : UInt64 :=
  match nextIndexValue row with
  | .integer n => UInt64.ofInt n
  | _ => 0

@[simp] theorem World.journalMode_mapDb (h h' : StorageHandle) (f : Database U → Database U) (w : World U) :
    ((mapDb h f w).conn h').journalMode = (w.conn h').journalMode := by
  unfold mapDb
  cases h <;> cases h' <;> rfl

theorem setConn_step {h : StorageHandle} {w : World U} {s : Session (Database U)} {f : Stmt U}
    {g : Database U → Database U} {out : Output} (hs : (w.conn h).session = some s)
    (hf : f s.main = .ok (g s.main, out)) :
    w.setConn h ((w.conn h).step (.onMain f)).1 = World.mapDb h g w := by
  rw [Connection.step_onMain hs hf]
  unfold World.mapDb
  rw [hs]
  rfl

/-- The row that comes after a query that found none is as it would be without it. -/
theorem putKv_untouched {d : Database U} (h : d.kvTable.isSome) (key : String) (v : Value) :
    d.untouched.putKv key v = d.putKv key v := by
  obtain ⟨t, ht⟩ := Option.isSome_iff_exists.1 h
  simp only [Database.putKv, Database.untouched, ht, Option.elim]
  rfl

/-- **The index a build gets** is the one after the row, and the row moves on to it. -/
theorem getAndIncSnapshotIndex_ok {w w' : World U} {index : UInt64} (hf : w.faults = [])
    (hx : (store.getAndIncSnapshotIndex : StorageResult U UInt64).run.exec w = (.ok index, w')) :
    index = nextIndex (indexRow store w) ∧
      w' = World.mapDb store.log
        (Database.putKv snapshotIndexKey (nextIndexValue (indexRow store w))) w := by
  unfold RaftStore.getAndIncSnapshotIndex at hx
  obtain ⟨found, w₁, hfetch, hx⟩ := exec_run_bind_eq_ok hx
  obtain ⟨hfound, rfl⟩ := StorageHandle.exec_submitTask_eq_ok (exec_run_mapErr_eq_ok hfetch)
  rw [World.nextFault_nil hf] at hx
  rcases hs : (w.conn store.log).session with _ | s
  · simp [Connection.queryRow, Connection.firstOf, Connection.step, hs] at hfound
  rcases hinc : incSnapshotIndex s.main with e | r
  · simp [Connection.queryRow, Connection.firstOf, Connection.step_some hs, Prepared.onMain, hinc] at hfound
  have hw : s.main.Writable snapshotIndexKey := .of_onKv hinc
  have hrow : indexRow store w = s.main.kv snapshotIndexKey := by simp [indexRow, hs]
  rw [hrow]
  rcases hk : s.main.kv snapshotIndexKey with _ | v
  · -- There is no row: the first task changes nothing, the second creates it.
    have hinc := incSnapshotIndex_absent hw hk
    have hstep : w.setConn store.log ((w.conn store.log).queryRow (.onMain incSnapshotIndex) fromRowInt).1 =
        World.mapDb store.log Database.untouched w := setConn_step hs hinc
    obtain rfl : none = found := by
      simpa [Connection.queryRow, Connection.step_onMain hs hinc, Connection.firstOf, Connection.firstRow]
        using hfound
    rw [hstep] at hx
    obtain ⟨n, w₂, hinsert, hpure⟩ := exec_run_bind_eq_ok hx
    cases hpure
    obtain ⟨-, rfl⟩ := StorageHandle.exec_submitTask_eq_ok (exec_run_mapErr_eq_ok hinsert)
    have hf' : (World.mapDb store.log Database.untouched w).faults = [] := by simpa [World.mapDb] using hf
    have hs' : ((World.mapDb store.log Database.untouched w).conn store.log).session =
        some { s with main := s.main.untouched } := by simp [World.mapDb, hs]
    have hput : World.mapDb store.log (Database.putKv snapshotIndexKey (.integer 0))
        (World.mapDb store.log Database.untouched w) =
          World.mapDb store.log (Database.putKv snapshotIndexKey (.integer 0)) w := by
      simp [World.mapDb, hs, putKv_untouched hw.1]
    rw [World.nextFault_nil hf']
    exact ⟨rfl, (setConn_step hs' (insertSnapshotIndex_absent hw hk)).trans hput⟩
  · have hinc := incSnapshotIndex_present hw hk
    simp only [Connection.queryRow, Connection.step_onMain hs hinc] at hfound
    rcases hv : v.plusOne with _ | n | _ | _ | _
    all_goals rw [hv] at hfound; cases hfound
    cases hx
    refine ⟨?_, setConn_step hs hinc⟩
    show _ = match v.plusOne with
      | .integer n => UInt64.ofInt n
      | _ => 0
    rw [hv]

/-- A query that only reads. -/
theorem serialize_within (env : Env U) (h : StorageHandle) :
    (h.serialize env).run.Within Unmoved :=
  within_serialize_of (fun w hf => by rw [World.nextFault_nil hf]) env h

variable [Serde SnapshotMeta]

theorem writeSnapshotMeta_eq_ok {h : StorageHandle} {metadata : SnapshotMeta} {w w' : World U}
    (hf : w.faults = [])
    (hx : (writeSnapshotMeta h metadata : StoreM U AnyError Unit).run.exec w = (.ok (), w')) :
    w' = World.mapDb h (Database.putKv snapshotMetaKey (.blob (encoded metadata))) w ∧
      metaIn (w'.conn h) = .ok (some metadata) := by
  rcases writeSnapshotMeta_cases h metadata w with ⟨s, hs, hwritable, hput⟩ | ⟨e, hfail⟩
  · rw [World.nextFault_nil hf] at hput
    have hw : w' = World.mapDb h (Database.putKv snapshotMetaKey (.blob (encoded metadata))) w := by
      cases hx.symm.trans hput
      unfold World.mapDb
      rw [hs]
      rfl
    refine ⟨hw, ?_⟩
    rw [hw, metaIn_eq]
    unfold World.mapDb
    rw [World.conn_setConn_self, hs]
    obtain ⟨t, ht⟩ := Option.isSome_iff_exists.1 hwritable.1
    exact metaOf_putKv ht metadata
  · cases hx.symm.trans hfail

/-- The metadata of the snapshot a build from here on commits. -/
def nextMeta (env : Env U) (store : RaftStore) (w : World U) : SnapshotMeta where
  lastLogId := w.lastAppliedLog
  lastMembership := w.lastMembership
  snapshotId := RaftStore.snapshotId env w.lastAppliedLog (nextIndex (indexRow store w))

/-- The node once a build has written its rows. -/
def rowsWritten (env : Env U) (store : RaftStore) (w : World U) : World U :=
  World.mapDb store.data (Database.putKv snapshotMetaKey (.blob (encoded (nextMeta env store w))))
    (World.mapDb store.log (Database.putKv snapshotIndexKey (nextIndexValue (indexRow store w))) w)

/-- The image a build from here on takes. -/
def nextImage (env : Env U) (store : RaftStore) (w : World U) : Bytes :=
  ((rowsWritten env store w).conn store.data).session.elim [] fun s =>
    env.serialize (w.conn store.data).journalMode s.main

theorem nextImage_eq {w w' : World U} (hw : w' = rowsWritten env store w) {s : Session (Database U)}
    (hs : (w'.conn store.data).session = some s) :
    env.serialize (w'.conn store.data).journalMode s.main = nextImage env store w := by
  unfold nextImage
  rw [← hw, hs, hw, rowsWritten, World.journalMode_mapDb, World.journalMode_mapDb]
  rfl

/-- **What a build on a sound storage does before it touches the file.** -/
theorem buildSnapshot_parts {w w' : World U} {snap : Snapshot} (hf : w.faults = [])
    (hx : (store.buildSnapshot env).run.exec w = (.ok snap, w')) :
    snap = ⟨nextMeta env store w, nextImage env store w⟩ ∧
      ∃ w₁, store.getAndIncSnapshotIndex.run.exec w = (.ok (nextIndex (indexRow store w)), w₁) ∧
        (writeSnapshotMeta store.data (nextMeta env store w)).run.exec w₁ =
          (.ok (), rowsWritten env store w) ∧
        metaIn ((rowsWritten env store w).conn store.data) = .ok (some (nextMeta env store w)) ∧
        (store.data.serialize env).run.exec (rowsWritten env store w) =
          (.ok (some (nextImage env store w)), rowsWritten env store w) := by
  unfold RaftStore.buildSnapshot StateMachine.lastAppliedLog StateMachine.lastMembership at hx
  rw [exec_run_bind_ok (exec_run_liftAct ..), exec_run_bind_ok (exec_run_liftAct ..)] at hx
  obtain ⟨index, w₁, hindex, hx⟩ := exec_run_bind_eq_ok hx
  obtain ⟨rfl, hw₁⟩ := getAndIncSnapshotIndex_ok hf hindex
  have hf₁ : w₁.faults = [] := (failStop_getAndIncSnapshotIndex store).sound_ok hf hindex
  obtain ⟨image, w₂, hcreate, hpure⟩ := exec_run_bind_eq_ok hx
  replace hcreate := exec_run_mapErr_eq_ok hcreate
  unfold createSnapshot at hcreate
  obtain ⟨_, w₃, hmeta, hrest⟩ := exec_run_bind_eq_ok hcreate
  obtain ⟨s, t, hs, ht, -⟩ := writeSnapshotMeta_ok hmeta
  obtain ⟨hw₃, hrow⟩ := writeSnapshotMeta_eq_ok hf₁ hmeta
  have hf₃ : w₃.faults = [] := (failStop_writeSnapshotMeta store.data _).sound_ok hf₁ hmeta
  obtain ⟨data, w₄, hser, hfile⟩ := exec_run_bind_eq_ok hrest
  replace hser := exec_run_mapErr_eq_ok hser
  obtain ⟨rfl, -⟩ := serialize_ok hser hs ht
  have hsame : Unmoved w₃ (_, w₄).2 := hser ▸ (serialize_within env store.data).exec w₃
  obtain rfl : w₄ = w₃ := hsame hf₃
  have hrows : w₄ = rowsWritten env store w := by
    rw [hw₃, hw₁]
    rfl
  have himage := nextImage_eq hrows hs
  have hmetadata : (⟨w.lastAppliedLog, w.lastMembership, RaftStore.snapshotId env w.lastAppliedLog
      (nextIndex (indexRow store w))⟩ : SnapshotMeta) = nextMeta env store w := rfl
  -- Writing the file returns the image.
  have hreturn : image = env.serialize (w₄.conn store.data).journalMode s.main := by
    obtain ⟨_, _, -, hwrite⟩ := exec_run_bind_eq_ok hfile
    obtain ⟨_, _, -, hsync⟩ := exec_run_bind_eq_ok hwrite
    obtain ⟨_, _, -, hflush⟩ := exec_run_bind_eq_ok hsync
    obtain ⟨_, _, -, hlast⟩ := exec_run_bind_eq_ok hflush
    cases hlast
    rfl
  cases hpure
  rw [hmetadata, hrows] at hmeta
  rw [himage] at hser
  rw [hrows] at hrow hser
  exact ⟨by rw [hreturn, himage, hmetadata], w₁, hindex, hmeta, hrow, hser⟩

/-- **The node after a build**: the rows are written, and the image over the file. -/
theorem buildSnapshot_end {w w' : World U} {snap : Snapshot} (hf : w.faults = [])
    (hx : (store.buildSnapshot env).run.exec w = (.ok snap, w')) :
    w' = (rowsWritten env store w).withFile (writtenOver snap.snapshot (w.snapshotFile.getD [])) := by
  obtain ⟨rfl, w₁, hindex, hmeta, -, hser⟩ := buildSnapshot_parts hf hx
  have hf₁ : w₁.faults = [] := (failStop_getAndIncSnapshotIndex store).sound_ok hf hindex
  have hf₂ := (failStop_writeSnapshotMeta store.data _).sound_ok hf₁ hmeta
  have hfile : (rowsWritten env store w).snapshotFile = w.snapshotFile := by
    simp [rowsWritten, World.mapDb]
  have hopen : (openFile : StoreM U AnyError Unit).run.exec (rowsWritten env store w) =
      (.ok (), (rowsWritten env store w).withFile (w.snapshotFile.getD [])) := by
    unfold openFile
    rw [exec_fileTask hf₂, hfile]
    rfl
  have hwrite := writeAll_exec (w := (rowsWritten env store w).withFile (w.snapshotFile.getD []))
    (nextImage env store w) hf₂ rfl (Nat.zero_le _)
  have hsame : ∀ file, (fileTask fun file => (.ok (), file) : StoreM U AnyError Unit).run.exec
      (((rowsWritten env store w).withFile (w.snapshotFile.getD [])).withFile file) =
        (.ok (), ((rowsWritten env store w).withFile (w.snapshotFile.getD [])).withFile file) :=
    fun _ => exec_fileTask hf₂
  unfold RaftStore.buildSnapshot StateMachine.lastAppliedLog StateMachine.lastMembership at hx
  rw [exec_run_bind_ok (exec_run_liftAct ..), exec_run_bind_ok (exec_run_liftAct ..),
    exec_run_bind_ok hindex] at hx
  obtain ⟨image, w₃, hcreate, hpure⟩ := exec_run_bind_eq_ok hx
  cases hpure
  replace hcreate : (createSnapshot env store.data (nextMeta env store w)).run.exec w₁ =
      (.ok _, w') := exec_run_mapErr_eq_ok hcreate
  unfold createSnapshot at hcreate
  rw [exec_run_bind_ok hmeta, exec_run_bind_ok (exec_task hser), exec_run_bind_ok hopen,
    exec_run_bind_ok hwrite] at hcreate
  unfold syncData flush at hcreate
  rw [exec_run_bind_ok (hsame _), exec_run_bind_ok (hsame _), Nat.zero_add] at hcreate
  cases hcreate
  rfl

/-- Writing the image out, with a storage that fails the sync. -/
theorem createSnapshot_sync_fails {h : StorageHandle} {w w₁ : World U} {metadata : SnapshotMeta}
    {image file : Bytes} (hf : w.faults = [])
    (hmeta : (writeSnapshotMeta h metadata).run.exec w = (.ok (), w₁))
    (hser : (h.serialize env).run.exec w₁ = (.ok (some image), w₁))
    (hfile : w₁.snapshotFile = some file) :
    ∃ faults, (createSnapshot env h metadata).run.exec (w.withFaults faults) =
      (.error (.io (.other "Input/output error")), (w₁.withFile (writtenOver image file)).withFaults []) := by
  have hf₁ := (failStop_writeSnapshotMeta h metadata).sound_ok hf hmeta
  have hopen : (openFile : StoreM U AnyError Unit).run.exec w₁ = (.ok (), w₁) := by
    unfold openFile
    rw [exec_fileTask hf₁, hfile]
    refine Prod.ext rfl ?_
    show w₁.withFile file = w₁
    rw [World.withFile, ← hfile]
  have hwrite := writeAll_exec image hf₁ hfile (Nat.zero_le _)
  rw [Nat.zero_add] at hwrite
  obtain ⟨a, ha⟩ := (failStop_writeSnapshotMeta h metadata).padded w hf
  obtain ⟨b, hb⟩ := (failStop_serialize (h := h) env).padded w₁ hf₁
  obtain ⟨c, hc⟩ := FailStop.padded (p := (openFile : StoreM U AnyError Unit).run)
    (failStop_fileTask _) w₁ hf₁
  obtain ⟨d, hd⟩ := (failStop_writeAll 0 image).padded w₁ hf₁
  rw [hmeta] at ha
  rw [hser] at hb
  rw [hopen] at hc
  rw [hwrite] at hd
  -- The tasks up to the last write are spared, the next one fails.
  refine ⟨List.replicate a false ++ (List.replicate b false ++ (List.replicate c false ++
    (List.replicate d false ++ [true]))), ?_⟩
  unfold createSnapshot
  rw [exec_run_bind_ok (ha _), exec_run_bind_ok (exec_task (hb _)), exec_run_bind_ok (hc _),
    exec_run_bind_ok (hd _)]
  exact exec_run_bind_error rfl

/-- **A build whose sync fails** has committed the new metadata and written the new image over
the old file. -/
theorem buildSnapshot_sync_fails {w w' : World U} {snap : Snapshot} {file : Bytes}
    (hf : w.faults = []) (hx : (store.buildSnapshot env).run.exec w = (.ok snap, w'))
    (hfile : w.snapshotFile = some file) :
    ∃ faults e w'', (store.buildSnapshot env).run.exec (w.withFaults faults) = (.error e, w'') ∧
      Holding store.data w'' ⟨snap.metadata, writtenOver snap.snapshot file⟩ := by
  obtain ⟨rfl, w₁, hindex, hmeta, hrow, hser⟩ := buildSnapshot_parts hf hx
  have hf₁ : w₁.faults = [] := (failStop_getAndIncSnapshotIndex store).sound_ok hf hindex
  have hfile₂ : (rowsWritten env store w).snapshotFile = some file := by
    simp [rowsWritten, World.mapDb, hfile]
  obtain ⟨faults, hcreate⟩ := createSnapshot_sync_fails hf₁ hmeta hser hfile₂
  obtain ⟨a, ha⟩ := (failStop_getAndIncSnapshotIndex store).padded w hf
  rw [hindex] at ha
  refine ⟨List.replicate a false ++ faults, createSnapshotErr (.io (.other "Input/output error")),
    ((rowsWritten env store w).withFile (writtenOver (nextImage env store w) file)).withFaults [], ?_,
    by simpa using hrow, rfl⟩
  unfold RaftStore.buildSnapshot StateMachine.lastAppliedLog StateMachine.lastMembership
  rw [exec_run_bind_ok (exec_run_liftAct ..), exec_run_bind_ok (exec_run_liftAct ..),
    exec_run_bind_ok (ha _)]
  refine exec_run_bind_error ?_
  rw [exec_run_mapErr]
  exact congrArg (fun r => (r.1.mapError createSnapshotErr, r.2)) hcreate

end Build

/-! ## Nodes that show the same snapshot -/

section Alike

variable [Serde SnapshotMeta]

/-- The connection after statements that leave what the metadata row is read as. -/
structure AlikeConn (c c' : Connection (Database U)) : Prop where
  quiet : QuietConn c c'
  row : c'.session.map (fun s => metaOf s.main) = c.session.map fun s => metaOf s.main

/-- The node after actions that leave the snapshot that is there, and the contents. -/
structure Alike (w w' : World U) : Prop where
  conn : ∀ h, AlikeConn (w.conn h) (w'.conn h)
  file : w'.snapshotFile = w.snapshotFile

theorem AlikeConn.refl (c : Connection (Database U)) : AlikeConn c c := ⟨.refl c, rfl⟩

theorem AlikeConn.trans {c c' c'' : Connection (Database U)} (h : AlikeConn c c')
    (h' : AlikeConn c' c'') : AlikeConn c c'' := ⟨h.quiet.trans h'.quiet, h'.row.trans h.row⟩

instance : Std.Refl (Alike (U := U)) := ⟨fun _ => ⟨fun _ => .refl _, rfl⟩⟩

instance : IsTrans (World U) Alike :=
  ⟨fun _ _ _ h h' => ⟨fun handle => (h.conn handle).trans (h'.conn handle), h'.file.trans h.file⟩⟩

theorem AlikeConn.metaIn_eq {c c' : Connection (Database U)} (h : AlikeConn c c') :
    metaIn c' = metaIn c := by
  rw [Replicat.metaIn_eq, Replicat.metaIn_eq, h.row]

theorem AlikeConn.of_session {c c' : Connection (Database U)} (hb : c'.backing = c.backing)
    (hj : c'.journalMode = c.journalMode) (hs : c'.session = c.session) : AlikeConn c c' :=
  ⟨⟨hb, hj, fun h => hs.trans h, fun s h => ⟨s, hs.trans h, .refl _, rfl⟩⟩, by rw [hs]⟩

/-- The metadata row of a session is read the same. -/
theorem AlikeConn.session {c c' : Connection (Database U)} (h : AlikeConn c c')
    {s : Session (Database U)} (hs : c.session = some s) :
    ∃ s', c'.session = some s' ∧ SameContents s.main s'.main ∧ metaOf s'.main = metaOf s.main ∧
      s'.saved = s.saved := by
  obtain ⟨s', hs', hsame, hsaved⟩ := h.quiet.session s hs
  have hrow := h.row
  rw [hs, hs'] at hrow
  exact ⟨s', hs', hsame, Option.some.inj hrow, hsaved⟩

theorem AlikeConn.of_contents {c c' : Connection (Database U)} {s s' : Session (Database U)}
    (hb : c'.backing = c.backing) (hj : c'.journalMode = c.journalMode) (hs : c.session = some s)
    (hs' : c'.session = some s') (hsame : SameContents s.main s'.main) (hrow : metaOf s'.main = metaOf s.main)
    (hsaved : s'.saved = s.saved) : AlikeConn c c' := by
  refine ⟨⟨hb, hj, fun h => ?_, fun r hr => ?_⟩, by simp [hs, hs', hrow]⟩
  · rw [hs] at h
    cases h
  · rw [hs] at hr
    cases hr
    exact ⟨s', hs', hsame, hsaved⟩

/-- What is at the path of two such connections. -/
theorem AlikeConn.durable {c c' : Connection (Database U)} (h : AlikeConn c c') :
    c'.durable = c.durable ∨ ∃ d d', c.durable = some d ∧ c'.durable = some d' ∧ SameContents d d' ∧
      metaOf d' = metaOf d := by
  unfold Connection.durable
  rw [h.quiet.backing]
  cases c.backing with
  | memory left => exact .inl rfl
  | disk =>
    rcases hs : c.session with _ | ⟨d, saved⟩
    · rw [h.quiet.closed hs]
      exact .inl rfl
    · obtain ⟨⟨d', saved'⟩, hs', hsame, hrow, hsaved⟩ := h.session hs
      cases hsaved
      rw [hs']
      cases saved with
      | none => exact .inr ⟨d, d', rfl, rfl, hsame, hrow⟩
      | some d₀ => exact .inl rfl

/-- A connection that is closed still finds the row. -/
theorem AlikeConn.close {c c' : Connection (Database U)} (h : AlikeConn c c') :
    AlikeConn c.close c'.close := by
  unfold Connection.close
  rcases h.durable with heq | ⟨d, d', hd, hd', hsame, hrow⟩
  · exact .of_session rfl h.quiet.journalMode (by rw [heq])
  · have hs : c.durable.map (fun d => (⟨d, none⟩ : Session (Database U))) = some ⟨d, none⟩ := by rw [hd]; rfl
    have hs' : c'.durable.map (fun d => (⟨d, none⟩ : Session (Database U))) = some ⟨d', none⟩ := by rw [hd']; rfl
    exact .of_contents rfl h.quiet.journalMode hs hs' hsame hrow rfl

theorem Alike.crash {w w' : World U} (h : Alike w w') : Alike w.crash w'.crash := by
  refine ⟨fun handle => ?_, h.file⟩
  cases handle with
  | logDb => exact (h.conn .logDb).close
  | stateDb => exact (h.conn .stateDb).close

theorem Alike.setConn {w w' : World U} (hw : Alike w w') (h : StorageHandle)
    {c c' : Connection (Database U)} (hc : AlikeConn c c') : Alike (w.setConn h c) (w'.setConn h c') := by
  refine ⟨fun h' => ?_, by simpa using hw.file⟩
  by_cases hh : h = h'
  · subst hh
    simpa using hc
  · rw [World.conn_setConn_ne w hh, World.conn_setConn_ne w' hh]
    exact hw.conn h'

theorem Alike.holding {data : StorageHandle} {w w' : World U} {snap : Snapshot} (h : Alike w w')
    (hw : Holding data w snap) : Holding data w' snap :=
  ⟨(h.conn data).metaIn_eq.trans hw.row, h.file.trans hw.file⟩

/-! ### They cannot be told apart by opening the store -/

/-- Two sound storages that show the same snapshot. -/
def AlikeSound (w w' : World U) : Prop := w.faults = [] ∧ w'.faults = [] ∧ Alike w w'

theorem respects_submitTask_alike {α : Type} {h : StorageHandle}
    {task : Connection (Database U) → Connection (Database U) × Except SqlError α}
    (ht : ∀ c c', AlikeConn c c' → (task c).2 = (task c').2 ∧ AlikeConn (task c).1 (task c').1) :
    (h.submitTask task).run.Respects AlikeSound := by
  refine respects_atomic fun w w' hw => ?_
  obtain ⟨hf, hf', hw⟩ := hw
  rw [World.nextFault_nil hf, World.nextFault_nil hf']
  obtain ⟨hresult, hconn⟩ := ht _ _ (hw.conn h)
  exact ⟨hresult, by simpa using hf, by simpa using hf', hw.setConn h hconn⟩

/-- A statement that does the same to databases with the same contents. -/
theorem step_alike {f : Stmt U} (hf : ∀ d d' : Database U, SameContents d d' → metaOf d' = metaOf d →
      (∃ e, f d = .error e ∧ f d' = .error e) ∨ ∃ a a' out, f d = .ok (a, out) ∧ f d' = .ok (a', out) ∧
        SameContents a a' ∧ metaOf a' = metaOf a)
    {c c' : Connection (Database U)} (hc : AlikeConn c c') :
    (c.step (.onMain f)).2 = (c'.step (.onMain f)).2 ∧
      AlikeConn (c.step (.onMain f)).1 (c'.step (.onMain f)).1 := by
  rcases hs : c.session with _ | s
  · simp only [Connection.step, hs, hc.quiet.closed hs]
    exact ⟨trivial, hc⟩
  · obtain ⟨s', hs', hsame, hrow, hsaved⟩ := hc.session hs
    rcases hf s.main s'.main hsame hrow with ⟨e, he, he'⟩ | ⟨a, a', out, ha, ha', hsame', hrow'⟩
    · rw [Connection.step_some hs, Connection.step_some hs']
      unfold Prepared.onMain
      rw [he, he']
      exact ⟨rfl, .of_contents hc.quiet.backing hc.quiet.journalMode rfl rfl hsame hrow hsaved⟩
    · rw [Connection.step_onMain hs ha, Connection.step_onMain hs' ha']
      exact ⟨rfl, .of_contents hc.quiet.backing hc.quiet.journalMode rfl rfl hsame' hrow' hsaved⟩

variable {env : Env U}

theorem metaOf_atRest (d : Database U) : metaOf (atRest d) = metaOf d :=
  congrArg decodeRow (readKv_congr rfl rfl)

theorem openConn_alike (path : StateStore) {c c' : Connection (Database U)} (hc : AlikeConn c c') :
    AlikeConn (openConn env path c) (openConn env path c') := by
  cases path with
  | memory => exact .refl _
  | file =>
    rcases hc.durable with heq | ⟨d, d', hd, hd', hsame, hrow⟩
    · exact .of_session rfl rfl (by rw [session_openConn, session_openConn, found, found, heq])
    · refine .of_contents rfl rfl (session_openConn ..) (session_openConn ..) ?_ ?_ rfl
      · simpa [found, hd, hd'] using hsame.atRest
      · simpa [found, hd, hd', metaOf_atRest] using hrow

theorem withKv_alike {d d' : Database U} (hsame : SameContents d d') (hrow : metaOf d' = metaOf d) :
    SameContents d.withKv d'.withKv ∧ metaOf d'.withKv = metaOf d.withKv := by
  refine ⟨⟨rfl, fun key hm hi => ?_, hsame.logTable, hsame.user, hsame.hindrances, hsame.objects⟩, ?_⟩
  · rw [Database.kv_withKv, Database.kv_withKv]
    exact hsame.kv key hm hi
  · have hsome := hsame.kvTable
    rcases h : d.kvTable with _ | t <;> rcases h' : d'.kvTable with _ | t' <;> rw [h, h'] at hsome
    · have hkv : d'.withKv.kv snapshotMetaKey = d.withKv.kv snapshotMetaKey := by
        rw [Database.kv_withKv, Database.kv_withKv, Database.kv, Database.kv, h, h']
      exact congrArg decodeRow (readKv_congr rfl hkv)
    · cases hsome
    · cases hsome
    · have hwith : ∀ {d : Database U} {t : KvTable}, d.kvTable = some t →
          metaOf d.withKv = metaOf d := by
        intro d t ht
        exact congrArg decodeRow (readKv_congr (by rw [ht]; rfl) (Database.kv_withKv d _))
      rw [hwith h, hwith h', hrow]

theorem metaOf_withLogs (d : Database U) : metaOf d.withLogs = metaOf d :=
  congrArg decodeRow (readKv_congr rfl rfl)

theorem openHandle_respects (h : StorageHandle) (path : StateStore) :
    (openHandle env h path).run.Respects AlikeSound := by
  rw [openHandle_eq]
  exact respects_submitTask_alike fun c c' hc => ⟨rfl, openConn_alike path hc⟩

theorem execute_respects_alike {h : StorageHandle} {f : Stmt U}
    (hf : ∀ d d' : Database U, SameContents d d' → metaOf d' = metaOf d →
      (∃ e, f d = .error e ∧ f d' = .error e) ∨ ∃ a a' out, f d = .ok (a, out) ∧ f d' = .ok (a', out) ∧
        SameContents a a' ∧ metaOf a' = metaOf a) :
    (h.execute (.onMain f)).run.Respects AlikeSound := by
  refine respects_submitTask_alike fun c c' hc => ?_
  obtain ⟨hresult, hconn⟩ := step_alike hf hc
  exact ⟨by simp only [Connection.execute, hresult], hconn⟩

theorem setupLogStore_respects (h : StorageHandle) :
    (setupLogStore h : StoreM U SqlError Unit).run.Respects AlikeSound := by
  unfold setupLogStore
  refine Respects.run_bind (respects_submitTask_alike fun c c' hc => ?_) fun _ => ?_
  · have hb := hc.quiet.backing
    unfold pragmaJournalModeWal
    rw [hb]
    cases c.backing with
    | memory left => exact ⟨rfl, hc⟩
    | disk => exact ⟨rfl, ⟨rfl, rfl, hc.quiet.closed, hc.quiet.session⟩, hc.row⟩
  refine Respects.run_bind (respects_submitTask_alike fun c c' hc => ?_) fun _ => ?_
  · exact ⟨rfl, ⟨hc.quiet.backing, hc.quiet.journalMode, hc.quiet.closed, hc.quiet.session⟩, hc.row⟩
  refine Respects.run_bind (respects_submitTask_alike fun c c' hc => ⟨rfl, hc⟩) fun _ => ?_
  refine Respects.run_bind (execute_respects_alike fun d d' hsame hrow => ?_) fun _ => ?_
  · refine .inr ⟨_, _, _, replicatRaftLogsTable_eq d, replicatRaftLogsTable_eq d', ?_, ?_⟩
    · refine ⟨hsame.kvTable, hsame.kv, ?_, hsame.user, hsame.hindrances, hsame.objects⟩
      simp [Database.withLogs, hsame.logTable]
    · rw [metaOf_withLogs, metaOf_withLogs, hrow]
  refine Respects.run_bind (execute_respects_alike fun d d' hsame hrow => ?_) fun _ => .ret _
  exact .inr ⟨_, _, _, replicatKvTable_eq d, replicatKvTable_eq d', withKv_alike hsame hrow⟩

/-- Reading a row that is not one of the snapshots'. -/
theorem fetchKv_respects {h : StorageHandle} {key : String} (hm : key ≠ snapshotMetaKey)
    (hi : key ≠ snapshotIndexKey) :
    (h.fetchOne (.onMain (replicatKvSelectValue key)) fromRowBlob).run.Respects
      (AlikeSound (U := U)) := by
  refine respects_submitTask_alike fun c c' hc => ?_
  rw [queryRow_rowIn, queryRow_rowIn]
  refine ⟨?_, hc⟩
  unfold rowIn
  rcases hs : c.session with _ | s
  · rw [hc.quiet.closed hs]
  · obtain ⟨s', hs', hsame, -⟩ := hc.session hs
    rw [hs']
    exact (readKv_congr hsame.kvTable (hsame.kv key hm hi)).symm

variable [Serde LogId] [Serde EffectiveMembership]

theorem createStateMachine_respects (h : StorageHandle) :
    (createStateMachine h : StoreM U AnyError Unit).run.Respects AlikeSound := by
  unfold createStateMachine
  refine Respects.run_bind (Respects.run_mapErr (execute_respects_alike fun d d' hsame hrow => ?_)) fun _ => ?_
  · exact .inr ⟨_, _, _, replicatKvTable_eq d, replicatKvTable_eq d', withKv_alike hsame hrow⟩
  refine Respects.run_bind (fetchKv_respects (by decide) (by decide)).run_mapErr fun log => ?_
  refine Respects.run_bind (respects_decode id log) fun log => ?_
  refine Respects.run_bind (fetchKv_respects (by decide) (by decide)).run_mapErr fun mem => ?_
  refine Respects.run_bind (respects_decode id mem) fun mem => ?_
  refine respects_atomic fun w w' hw => ⟨rfl, hw.1, hw.2.1, fun h => ?_, hw.2.2.file⟩
  cases h with
  | logDb => exact hw.2.2.conn .logDb
  | stateDb => exact hw.2.2.conn .stateDb

/-- **A store that is opened cannot tell them apart.** -/
theorem openStore_respects (stateStore : Option StateStore) :
    (RaftStore.openStore env stateStore).run.Respects AlikeSound := by
  unfold RaftStore.openStore
  refine (openHandle_respects _ _).run_mapErr.run_bind fun log => ?_
  have hrest : ∀ data, (do
      task id (setupLogStore log)
      createStateMachine data
      pure ⟨log, data⟩ : StoreM U AnyError RaftStore).run.Respects AlikeSound :=
    fun data => (setupLogStore_respects log).run_mapErr.run_bind fun _ =>
      (createStateMachine_respects data).run_bind fun _ => .ret _
  cases stateStore with
  | none => exact Respects.run_bind (.ret _) hrest
  | some path => exact (openHandle_respects _ _).run_mapErr.run_bind hrest

end Alike

/-! ## A build that writes what is there -/

section Same

variable [Serde SnapshotMeta] {env : Env U} {store : RaftStore}

theorem within_submitTask_alike {α : Type} {h : StorageHandle}
    {task : Connection (Database U) → Connection (Database U) × Except SqlError α}
    (ht : ∀ c, AlikeConn c (task c).1) : (h.submitTask task).run.Within Alike := by
  have hnext : ∀ w : World U, Alike w w.nextFault.2 := by
    intro w
    refine ⟨fun h => .of_session (by rw [World.conn_nextFault]) (by rw [World.conn_nextFault])
      (by rw [World.conn_nextFault]), ?_⟩
    unfold World.nextFault
    cases w.faults <;> rfl
  refine StorageHandle.within_submitTask hnext fun w => ?_
  have hself : w.setConn h (w.conn h) = w := World.setConn_conn w h
  have hset := (hnext w).setConn h (ht (w.conn h))
  rwa [hself] at hset

/-- A task that runs one statement which keeps the contents and the metadata. -/
theorem within_onMain_alike {α : Type} {h : StorageHandle} {f : Stmt U}
    {task : Connection (Database U) → Connection (Database U) × Except SqlError α}
    (htask : ∀ c, (task c).1 = (c.step (.onMain f)).1)
    (hf : ∀ d d' out, f d = .ok (d', out) → SameContents d d' ∧ metaOf d' = metaOf d) :
    (h.submitTask task).run.Within Alike := by
  refine within_submitTask_alike fun c => ?_
  rw [htask c]
  exact ⟨quietConn_step (fun d d' out hd => (hf d d' out hd).1) c,
    step_keeps (onMain_keeps fun d d' out hd => (hf d d' out hd).2) c⟩

theorem WritesIndex.metaOf {f : Stmt U} (hf : WritesIndex f) {d d' : Database U} {out : Output}
    (h : f d = .ok (d', out)) : metaOf d' = metaOf d := by
  obtain ⟨t, t', ht, hrows, rfl⟩ := hf d d' out h
  refine congrArg decodeRow (readKv_congr (by rw [ht]; rfl) ?_)
  unfold Database.kv
  rw [ht]
  exact hrows snapshotMetaKey (by decide)

theorem getAndIncSnapshotIndex_alike (store : RaftStore) :
    (store.getAndIncSnapshotIndex : StorageResult U UInt64).run.Within Alike := by
  unfold RaftStore.getAndIncSnapshotIndex
  have hfetch : (store.log.fetchOne (.onMain incSnapshotIndex) fromRowInt).run.Within (Alike (U := U)) :=
    within_onMain_alike (fun _ => rfl) fun _ _ _ hd =>
      ⟨incSnapshotIndex_writesIndex.sameContents hd, incSnapshotIndex_writesIndex.metaOf hd⟩
  have hcreate : (store.log.execute (.onMain insertSnapshotIndex)).run.Within (Alike (U := U)) :=
    within_onMain_alike (fun _ => rfl) fun _ _ _ hd =>
      ⟨insertSnapshotIndex_writesIndex.sameContents hd, insertSnapshotIndex_writesIndex.metaOf hd⟩
  refine hfetch.run_mapErr.run_bind fun index => ?_
  cases index with
  | none => exact hcreate.run_mapErr.run_bind fun _ => within_run_pure 0
  | some v => exact within_run_pure _

omit [Serde SnapshotMeta] in
/-- Writing the image out over a file that begins with it. -/
theorem writeImage_same {image file : Bytes} {w : World U} (hf : w.faults = [])
    (hfile : w.snapshotFile = some file) (himage : image <+: file) :
    Along (· = w) (do
      openFile
      writeAll 0 image
      syncData
      flush
      pure image : StoreM U AnyError Bytes).run w := by
  have hopen : Along (· = w) (openFile : StoreM U AnyError Unit).run w :=
    along_fileTask hf (by rw [hfile]; rfl)
  have hsync : Along (· = w) (syncData : StoreM U AnyError Unit).run w := along_fileTask hf rfl
  have hflush : Along (· = w) (flush : StoreM U AnyError Unit).run w := along_fileTask hf rfl
  have hwrite : Along (· = w) (writeAll 0 image : StoreM U AnyError Unit).run w :=
    writeAll_same image hf hfile himage
  refine hopen.run_bind fun _ t _ ht => ?_
  subst ht
  refine hwrite.run_bind fun _ t' _ ht => ?_
  subst ht
  refine hsync.run_bind fun _ t _ ht => ?_
  subst ht
  exact hflush.run_bind fun _ t' _ ht => along_run_pure ht

/-- Writing the metadata that are there already. -/
theorem writeSnapshotMeta_alike {h : StorageHandle} {w : World U} {metadata : SnapshotMeta}
    (hf : w.faults = []) (hrow : metaIn (w.conn h) = .ok (some metadata)) :
    Along (Alike w) (writeSnapshotMeta h metadata : StoreM U AnyError Unit).run w := by
  have hstep : AlikeConn (w.conn h)
      ((w.conn h).step (.onMain (replicatKvUpsert snapshotMetaKey (.blob (encoded metadata))))).1 := by
    rcases Connection.step_onMain_cases (w.conn h) (replicatKvUpsert snapshotMetaKey
      (.blob (encoded metadata))) with ⟨s, d, out, hs, hup, hstep⟩ | ⟨e, hstep⟩
    · obtain ⟨rfl, hwritable, -⟩ := replicatKvUpsert_eq_ok hup
      obtain ⟨t, ht⟩ := Option.isSome_iff_exists.1 hwritable.1
      rw [hstep]
      rw [metaIn_eq, hs] at hrow
      exact .of_contents rfl rfl hs rfl (sameContents_putKv _ (.inl rfl) _)
        ((metaOf_putKv ht metadata).trans hrow.symm) rfl
    · rw [hstep]
      exact .refl _
  have htask : Alike w ((h.execute (.onMain (replicatKvUpsert snapshotMetaKey
      (.blob (encoded metadata))))).run.exec w).2 := by
    rw [StorageHandle.execute, StorageHandle.exec_submitTask hf]
    have hset := (refl_of Alike w).setConn h hstep
    rwa [World.setConn_conn] at hset
  unfold writeSnapshotMeta
  refine Along.run_bind (along_run_liftResult (refl_of Alike w)) fun data t ht _ => ?_
  rw [exec_encode] at ht
  cases ht
  exact Along.run_bind (Along.run_mapErr (along_atomic (refl_of Alike w) htask))
    fun _ _ _ ht => along_run_pure ht

/-- **A build of what is there already** passes through nodes that show the same snapshot. -/
theorem buildSnapshot_same {w : World U} {snap : Snapshot} (hf : w.faults = [])
    (hold : Holding store.data w snap) (hmeta : nextMeta env store w = snap.metadata)
    (himage : nextImage env store w <+: snap.snapshot) :
    Along (Alike w) (store.buildSnapshot env).run w := by
  unfold RaftStore.buildSnapshot StateMachine.lastAppliedLog StateMachine.lastMembership
  refine Along.run_bind (along_run_liftAct (refl_of Alike w) (refl_of Alike w)) fun log t ht _ => ?_
  cases ht
  refine Along.run_bind (along_run_liftAct (refl_of Alike w) (refl_of Alike w)) fun mem t ht _ => ?_
  cases ht
  refine Along.run_bind ((getAndIncSnapshotIndex_alike store).along w) fun index w₁ hindex hlike => ?_
  have hf₁ : w₁.faults = [] := (failStop_getAndIncSnapshotIndex store).sound_ok hf hindex
  obtain ⟨rfl, hw₁⟩ := getAndIncSnapshotIndex_ok hf hindex
  have hcreate : Along (Alike w₁) (createSnapshot env store.data (nextMeta env store w)).run w₁ := by
    have hrow : metaIn (w₁.conn store.data) = .ok (some (nextMeta env store w)) := by
      rw [hmeta]
      exact (hlike.holding hold).row
    unfold createSnapshot
    refine (writeSnapshotMeta_alike hf₁ hrow).run_bind fun _ w₂ hw₂ hlike₂ => ?_
    have hf₂ : w₂.faults = [] := (failStop_writeSnapshotMeta store.data _).sound_ok hf₁ hw₂
    have hfile₂ : w₂.snapshotFile = some snap.snapshot := hlike₂.file.trans (hlike.file.trans hold.file)
    have hrows : w₂ = rowsWritten env store w := by
      rw [(writeSnapshotMeta_eq_ok hf₁ hw₂).1, hw₁]
      rfl
    have hserialize : Along (Alike w₁) (task id (store.data.serialize env) :
        StoreM U AnyError _).run w₂ := by
      refine Along.run_mapErr fun n => ?_
      rw [(serialize_within env store.data).after n w₂ hf₂]
      exact hlike₂
    refine hserialize.run_bind fun image w₃ hw₃ _ => ?_
    obtain ⟨s, t, hs, ht, -⟩ := writeSnapshotMeta_ok hw₂
    have hser := exec_run_mapErr_eq_ok hw₃
    obtain ⟨rfl, -⟩ := serialize_ok hser hs ht
    have hsame : Unmoved w₂ (_, w₃).2 := hser ▸ (serialize_within env store.data).exec w₂
    obtain rfl : w₃ = w₂ := hsame hf₂
    have hbytes := nextImage_eq hrows hs
    intro n
    rw [writeImage_same hf₂ hfile₂ (hbytes ▸ himage) n]
    exact hlike₂
  have hall : Along (Alike w) (mapErr createSnapshotErr (createSnapshot env store.data
      (nextMeta env store w)) : StorageResult U Bytes).run w₁ :=
    Along.run_mapErr fun n => trans_of Alike hlike (hcreate n)
  exact hall.run_bind fun _ _ _ ht => along_run_pure ht

end Same

/-! ## Actions that leave the file -/

def KeepsFile (w w' : World U) : Prop := w'.snapshotFile = w.snapshotFile

instance : Std.Refl (KeepsFile (U := U)) := ⟨fun _ => rfl⟩

instance : IsTrans (World U) KeepsFile := ⟨fun _ _ _ h h' => Eq.trans h' h⟩

section File

theorem keepsFile_nextFault (w : World U) : KeepsFile w w.nextFault.2 := by
  unfold KeepsFile World.nextFault
  cases w.faults <;> rfl

theorem submitTask_file {α : Type} {h : StorageHandle}
    (task : Connection (Database U) → Connection (Database U) × Except SqlError α) :
    (h.submitTask task).run.Within KeepsFile :=
  StorageHandle.within_submitTask keepsFile_nextFault fun w =>
    (World.snapshotFile_setConn ..).trans (keepsFile_nextFault w)

theorem openHandle_file (env : Env U) (h : StorageHandle) (path : StateStore) :
    (openHandle env h path).run.Within KeepsFile := by
  rw [openHandle_eq]
  exact submitTask_file _

theorem setupLogStore_file (h : StorageHandle) :
    (setupLogStore h : StoreM U SqlError Unit).run.Within KeepsFile :=
  setupLogStore_within (submitTask_file _) (submitTask_file _) (submitTask_file _) (submitTask_file _)
    (submitTask_file _)

theorem createStateMachine_file [Serde LogId] [Serde EffectiveMembership] (h : StorageHandle) :
    (createStateMachine h : StoreM U AnyError Unit).run.Within KeepsFile :=
  createStateMachine_within (submitTask_file _) (fun _ => submitTask_file _) fun _ _ _ => rfl

end File

/-! ## Atomic replacement -/

section Atomic

variable [Serde LogId] [Serde EffectiveMembership] [Serde SnapshotMeta]

/-- After a crash the store opens again and has the snapshot. -/
def Retrieves (env : Env U) (stateStore : Option StateStore) (w : World U) (snap : Snapshot) : Prop :=
  ∃ w', (RaftStore.openStore env stateStore).run.exec (w.crash.withFaults []) =
      (.ok (storeOf stateStore), w') ∧
    currentSnapshot (storeOf stateStore) w' = .ok (some snap)

/-- Replacing the snapshot `old` by `new` is atomic: whatever the storage fails, wherever the
build is stopped and whenever someone looks. -/
structure ReplacedAtomically (env : Env U) (stateStore : Option StateStore) (w : World U)
    (old new : Snapshot) : Prop where
  /-- A build that fails leaves the old snapshot. -/
  failed : ∀ faults e w', ((storeOf stateStore).buildSnapshot env).run.exec (w.withFaults faults) =
    (.error e, w') → currentSnapshot (storeOf stateStore) w' = .ok (some old)
  stopped : ∀ faults n, ∃ snap ∈ [old, new], currentSnapshot (storeOf stateStore)
    (((storeOf stateStore).buildSnapshot env).run.after n (w.withFaults faults)) = .ok (some snap)
  crashed : ∀ faults n, ∃ snap ∈ [old, new], Retrieves env stateStore
    (((storeOf stateStore).buildSnapshot env).run.after n (w.withFaults faults)) snap
  /-- A reader whose two readings fall anywhere among the actions of the build. -/
  interleaved : ∀ sched r, ((Pool.pair (storeOf stateStore).getCurrentSnapshot.run
      ((storeOf stateStore).buildSnapshot env).run w).run sched).threads .observed = .ret r →
    ∃ snap ∈ [old, new], r = .ok (some snap)

variable {env : Env U} {stateStore : Option StateStore} {w w' : World U} {old new : Snapshot}

theorem Alike.retrieves {snap : Snapshot} (hw : Alike w w') (h : Retrieves env stateStore w snap) :
    Retrieves env stateStore w' snap := by
  obtain ⟨t, hopen, hcurrent⟩ := h
  have hstart : AlikeSound (w.crash.withFaults []) (w'.crash.withFaults []) := by
    refine ⟨rfl, rfl, fun h => ?_, hw.file⟩
    rw [World.conn_withFaults, World.conn_withFaults]
    exact hw.crash.conn h
  have hrespects : (RaftStore.openStore env stateStore).run.Respects AlikeSound :=
    openStore_respects stateStore
  obtain ⟨hresult, -, -, hend⟩ := hrespects.exec hstart
  rw [hopen] at hresult hend
  refine ⟨((RaftStore.openStore env stateStore).run.exec (w'.crash.withFaults [])).2,
    Prod.ext hresult.symm rfl, ?_⟩
  exact currentSnapshot_eq_some.2 (hend.holding (currentSnapshot_eq_some.1 hcurrent))

omit [Serde SnapshotMeta] in
/-- Opening a store leaves the snapshot file. -/
theorem openStore_file (env : Env U) (stateStore : Option StateStore) :
    (RaftStore.openStore env stateStore).run.Within KeepsFile :=
  openStore_within (openHandle_file env _ _) (fun path _ => openHandle_file env _ path) setupLogStore_file
    createStateMachine_file

/-- A replacement that writes what is there is atomic. -/
theorem replacedAtomically_of_same (hf : w.faults = []) (hold : Holding (storeOf stateStore).data w old)
    (hmeta : nextMeta env (storeOf stateStore) w = old.metadata)
    (himage : nextImage env (storeOf stateStore) w <+: old.snapshot)
    (hopen : Retrieves env stateStore w old) : ReplacedAtomically env stateStore w old new := by
  have hsame := buildSnapshot_same hf hold hmeta himage
  -- Whatever the storage fails, the build passes through states of the sound run.
  have hlike : ∀ faults n, Alike w (((storeOf stateStore).buildSnapshot env).run.after n
      (w.withFaults faults)) := by
    intro faults n
    obtain ⟨m, hm⟩ := (failStop_buildSnapshot env (storeOf stateStore)).stopped w faults n hf
    have hlike := hsame m
    rw [← hm] at hlike
    refine ⟨fun h => ?_, hlike.file⟩
    have hconn := hlike.conn h
    rwa [World.conn_withFaults] at hconn
  refine ⟨fun faults e w' hbuild => ?_, fun faults n => ?_, fun faults n => ?_, fun sched r hret => ?_⟩
  · obtain ⟨n, hn⟩ := exists_after_exec ((storeOf stateStore).buildSnapshot env).run (w.withFaults faults)
    have hend := hlike faults n
    rw [hn, hbuild] at hend
    exact currentSnapshot_eq_some.2 (hend.holding hold)
  · exact ⟨old, by simp, currentSnapshot_eq_some.2 ((hlike faults n).holding hold)⟩
  · exact ⟨old, by simp, (hlike faults n).retrieves hopen⟩
  · have halong : Along (fun t => t.faults = [] ∧ Holding (storeOf stateStore).data t old)
        ((storeOf stateStore).buildSnapshot env).run w :=
      fun n => ⟨((within_buildSnapshot env _).after n w).faults hf, (hsame n).holding hold⟩
    have hturns := Pool.turns_along (i := Side.clock) (c := Pool.pair
      (storeOf stateStore).getCurrentSnapshot.run ((storeOf stateStore).buildSnapshot env).run w) halong
      (fun side hside => by
        cases side with
        | clock => exact absurd rfl hside
        | observed => exact (getCurrentSnapshot_within _).mono fun _ _ hmove hs => hmove hs.1)
      sched .observed
    rw [Pool.run_threads] at hret
    exact ⟨old, by simp, (getCurrentSnapshot_follows _ old).feed hturns hret⟩

/-- A replacement that is atomic even where its sync fails writes what is there. -/
theorem ReplacedAtomically.same (h : ReplacedAtomically env stateStore w old new) (hf : w.faults = [])
    (hold : Holding (storeOf stateStore).data w old)
    (hnew : ((storeOf stateStore).buildSnapshot env).run.exec w = (.ok new, w')) :
    nextMeta env (storeOf stateStore) w = old.metadata ∧
      nextImage env (storeOf stateStore) w <+: old.snapshot := by
  obtain ⟨rfl, -⟩ := buildSnapshot_parts hf hnew
  obtain ⟨faults, e, w'', hfails, hleft⟩ := buildSnapshot_sync_fails hf hnew hold.file
  have hstays := currentSnapshot_eq_some.1 (h.failed faults e w'' hfails)
  have hsame := hleft.unique hstays
  exact ⟨congrArg Snapshot.metadata hsame, writtenOver_eq_self.1 (congrArg Snapshot.snapshot hsame)⟩

/-- **Replacing a snapshot is atomic exactly where there is nothing to replace**: the build
writes the metadata and the bytes that are there, and they are found after a crash. -/
theorem build_atomic_iff (hf : w.faults = [])
    (hold : currentSnapshot (storeOf stateStore) w = .ok (some old))
    (hnew : ((storeOf stateStore).buildSnapshot env).run.exec w = (.ok new, w')) :
    ReplacedAtomically env stateStore w old new ↔
      nextMeta env (storeOf stateStore) w = old.metadata ∧
      nextImage env (storeOf stateStore) w <+: old.snapshot ∧ Retrieves env stateStore w old := by
  have hholding := currentSnapshot_eq_some.1 hold
  constructor
  · intro h
    obtain ⟨hmeta, himage⟩ := h.same hf hholding hnew
    refine ⟨hmeta, himage, ?_⟩
    obtain ⟨snap, hsnap, t, hopen, hcurrent⟩ := h.crashed [] 0
    rcases List.mem_pair.1 hsnap with rfl | rfl
    · exact ⟨t, hopen, hcurrent⟩
    · -- The file is the old one still.
      have hfile : KeepsFile w (_, t).2 := hopen ▸ (openStore_file env stateStore).exec (w.crash.withFaults [])
      obtain ⟨hnext, -⟩ := buildSnapshot_parts hf hnew
      have hthere : Holding (storeOf stateStore).data t ⟨old.metadata, nextImage env (storeOf stateStore) w⟩ := by
        rw [← hmeta, ← hnext]
        exact currentSnapshot_eq_some.1 hcurrent
      have hbytes : some old.snapshot = some (nextImage env (storeOf stateStore) w) :=
        hholding.file.symm.trans (hfile.symm.trans hthere.file)
      rw [← Option.some.inj hbytes] at hthere
      exact ⟨t, hopen, currentSnapshot_eq_some.2 hthere⟩
  · rintro ⟨hmeta, himage, hopen⟩
    exact replacedAtomically_of_same hf hholding hmeta himage hopen

end Atomic

/-! ## A second snapshot -/

/-- The first build of a store creates the row of the index. -/
theorem rowsWritten_index [Serde SnapshotMeta] (env : Env U) {store : RaftStore} {w : World U}
    (hne : store.data ≠ store.log) (hlog : LogReady store.log .absent w) :
    ∃ d t, (rowsWritten env store w).Reads store.log d ∧ d.kvStates = some t ∧
      d.kv snapshotIndexKey = some (.integer 0) := by
  obtain ⟨d, t, hr, ht, hk⟩ := hlog
  obtain ⟨t', ht'⟩ := Option.isSome_iff_exists.1 (Database.isSome_putKv ht snapshotIndexKey (.integer 0))
  have hrow : indexRow store w = none := by
    have hs : (w.conn store.log).session = some ⟨d, none⟩ := hr
    rw [indexRow, hs]
    exact hk
  refine ⟨_, t', ?_, ht', Database.kv_putKv_self ht _ _⟩
  unfold rowsWritten World.mapDb World.Reads
  rw [World.conn_setConn_ne _ hne, World.conn_setConn_self, hr, hrow]
  rfl

/-- A snapshot built on a store just opened, and a second one. -/
theorem catalogOpened_rebuild : ∃ old new w w',
    (RaftStore.buildSnapshot catalogEnv (storeOf (some .file))).run.exec catalogOpened = (.ok old, w) ∧
    w.faults = [] ∧ currentSnapshot (storeOf (some .file)) w = .ok (some old) ∧
    (RaftStore.buildSnapshot catalogEnv (storeOf (some .file))).run.exec w = (.ok new, w') ∧
    nextMeta catalogEnv (storeOf (some .file)) w ≠ old.metadata := by
  obtain ⟨hshows, hready⟩ := catalogOpened_shows
  obtain ⟨old, w, hold⟩ : ∃ snap w, (RaftStore.buildSnapshot catalogEnv (storeOf (some .file))).run.exec
      catalogOpened = (.ok snap, w) := catalogOpened_snapshot
  have hquiet : Quiet catalogOpened w := by
    have h := (within_buildSnapshot catalogEnv (storeOf (some .file))).exec catalogOpened
    rwa [hold] at h
  obtain ⟨hsnap, -, -, -, hrow, -⟩ := buildSnapshot_parts hshows.faults hold
  have hend := buildSnapshot_end hshows.faults hold
  have hcurrent : Holding (storeOf (some .file)).data w old := by
    refine ⟨?_, ?_⟩
    · rw [hend, World.conn_withFile, hrow, hsnap]
    · rw [hend]
      simp [World.withFile, writtenOver, catalogOpened, opened, World.fresh]
  obtain ⟨d, t, hr, ht, hk⟩ := rowsWritten_index catalogEnv
    (show (storeOf (some .file)).data ≠ (storeOf (some .file)).log by decide) hready
  have hindex : w.Reads .logDb d := by
    rw [hend]
    exact hr
  have hnext : indexRow (storeOf (some .file)) w = some (.integer 0) := by
    have hs : (w.conn (storeOf (some .file)).log).session = some ⟨d, none⟩ := hindex
    rw [indexRow, hs]
    exact hk
  obtain ⟨new, w', hnew⟩ := buildSnapshot_exec catalogEnv (storeOf (some .file))
    (k := .integer) (by decide) (hshows.quiet hquiet) ⟨d, t, hindex, ht, 0, hk, by decide⟩
  refine ⟨old, new, w, w', hold, hquiet.faults hshows.faults, currentSnapshot_eq_some.2 hcurrent, hnew, ?_⟩
  -- The two differ in the index that ends their id.
  intro hmeta
  have hid := congrArg SnapshotMeta.snapshotId hmeta
  have hlast : w.lastAppliedLog = none := (hshows.quiet hquiet).log
  have hfirst : old.metadata.snapshotId = "--0" := by
    rw [hsnap]
    decide
  have hsecond : (nextMeta catalogEnv (storeOf (some .file)) w).snapshotId = "--1" := by
    show RaftStore.snapshotId catalogEnv w.lastAppliedLog (nextIndex (indexRow _ w)) = _
    rw [hnext, hlast]
    decide
  rw [hfirst, hsecond] at hid
  exact absurd hid (by decide)

/-- The second build replaces another snapshot than its own. -/
theorem rebuild_not_atomic : ∃ old new w w',
    (RaftStore.buildSnapshot catalogEnv (storeOf (some .file))).run.exec catalogOpened = (.ok old, w) ∧
    currentSnapshot (storeOf (some .file)) w = .ok (some old) ∧
    (RaftStore.buildSnapshot catalogEnv (storeOf (some .file))).run.exec w = (.ok new, w') ∧
    ¬ ReplacedAtomically catalogEnv (some .file) w old new := by
  obtain ⟨old, new, w, w', hold, hf, hcurrent, hnew, hne⟩ := catalogOpened_rebuild
  exact ⟨old, new, w, w', hold, hcurrent, hnew, fun h =>
    hne (h.same hf (currentSnapshot_eq_some.1 hcurrent) hnew).1⟩

theorem build_atomic_iff_rebuild : ∃ old new w w',
    (RaftStore.buildSnapshot catalogEnv (storeOf (some .file))).run.exec w = (.ok new, w') ∧
    (ReplacedAtomically catalogEnv (some .file) w old new ↔
      nextMeta catalogEnv (storeOf (some .file)) w = old.metadata ∧
      nextImage catalogEnv (storeOf (some .file)) w <+: old.snapshot ∧
      Retrieves catalogEnv (some .file) w old) := by
  obtain ⟨old, new, w, w', -, hf, hcurrent, hnew, -⟩ := catalogOpened_rebuild
  exact ⟨old, new, w, w', hnew, build_atomic_iff hf hcurrent hnew⟩

end Replicat
