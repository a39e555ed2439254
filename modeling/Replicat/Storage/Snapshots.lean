import Replicat.Storage.Open

/-!
# Building and installing snapshots

What a whole call of `build_snapshot` or `install_snapshot` does. Building changes the two
rows of the snapshots and the snapshot file and nothing else (`within_buildSnapshot`), and
what it returns is the cached fields and the image of the contents it leaves
(`buildSnapshot_ok`). Installing replaces the contents and leaves the fields alone
(`installSnapshot_exec`).
-/

namespace Replicat

open Sqlite Atomics Atomics.Prog

variable {U : Type}

/-- The same contents but for the rows of the snapshots and the connection's counters. -/
structure SameContents (d d' : Database U) : Prop where
  kvTable : d'.kvTable.isSome = d.kvTable.isSome
  kv : ∀ key, key ≠ snapshotMetaKey → key ≠ snapshotIndexKey → d'.kv key = d.kv key
  logTable : d'.logTable = d.logTable
  user : d'.user = d.user
  hindrances : d'.hindrances = d.hindrances
  objects : d'.own.objects = d.own.objects

theorem SameContents.refl (d : Database U) : SameContents d d := ⟨rfl, fun _ _ _ => rfl, rfl, rfl, rfl, rfl⟩

theorem SameContents.trans {d d' d'' : Database U} (h : SameContents d d') (h' : SameContents d' d'') :
    SameContents d d'' where
  kvTable := h'.kvTable.trans h.kvTable
  kv key hm hi := (h'.kv key hm hi).trans (h.kv key hm hi)
  logTable := h'.logTable.trans h.logTable
  user := h'.user.trans h.user
  hindrances := h'.hindrances.trans h.hindrances
  objects := h'.objects.trans h.objects

theorem SameContents.kvStates {d d' : Database U} (h : SameContents d d') :
    d'.kvStates.isSome = d.kvStates.isSome := by
  unfold Database.kvStates
  rw [h.hindrances]
  split
  · exact h.kvTable
  · rfl

theorem SameContents.raftLogs {d d' : Database U} (h : SameContents d d') : d'.raftLogs = d.raftLogs := by
  unfold Database.raftLogs
  rw [h.hindrances, h.logTable]

theorem SameContents.atRest {d d' : Database U} (h : SameContents d d') : SameContents (atRest d) (atRest d') where
  kvTable := h.kvTable
  kv := h.kv
  logTable := h.logTable
  user := h.user
  hindrances := by rw [Database.atRest_hindrances, Database.atRest_hindrances, h.hindrances]
  objects := rfl

/-- A write of one of the two rows. -/
theorem sameContents_withKvRows {d : Database U} {t t' : KvTable} (ht : d.kvTable = some t)
    (hrows : ∀ key, key ≠ snapshotMetaKey → key ≠ snapshotIndexKey → t'.lookup key = t.lookup key)
    (out : Output) : SameContents d (d.withKvRows t t' out) where
  kvTable := by rw [ht]; rfl
  kv key hm hi := by
    unfold Database.kv
    rw [ht]
    exact hrows key hm hi
  logTable := rfl
  user := rfl
  hindrances := rfl
  objects := rfl

theorem sameContents_putKv (d : Database U) {key : String}
    (hkey : key = snapshotMetaKey ∨ key = snapshotIndexKey) (v : Value) :
    SameContents d (d.putKv key v) where
  kvTable := d.isSome_kvTable_putKv ..
  kv key' hm hi := by
    refine Database.kv_putKv_ne d ?_ v
    rcases hkey with rfl | rfl
    · exact hm
    · exact hi
  logTable := by simp
  user := by simp
  hindrances := by simp
  objects := d.objects_putKv ..

/-- A connection after statements that change the rows of the snapshots only. -/
structure QuietConn (c c' : Connection (Database U)) : Prop where
  backing : c'.backing = c.backing
  journalMode : c'.journalMode = c.journalMode
  closed : c.session = none → c'.session = none
  session : ∀ s, c.session = some s →
    ∃ s', c'.session = some s' ∧ SameContents s.main s'.main ∧ s'.saved = s.saved

theorem QuietConn.refl (c : Connection (Database U)) : QuietConn c c :=
  ⟨rfl, rfl, id, fun s hs => ⟨s, hs, .refl _, rfl⟩⟩

theorem QuietConn.trans {c c' c'' : Connection (Database U)} (h : QuietConn c c')
    (h' : QuietConn c' c'') : QuietConn c c'' := by
  refine ⟨h'.backing.trans h.backing, h'.journalMode.trans h.journalMode,
    fun hc => h'.closed (h.closed hc), fun s hs => ?_⟩
  obtain ⟨s', hs', hsame, hsaved⟩ := h.session s hs
  obtain ⟨s'', hs'', hsame', hsaved'⟩ := h'.session s' hs'
  exact ⟨s'', hs'', hsame.trans hsame', hsaved'.trans hsaved⟩

theorem quietConn_step {f : Stmt U} (hf : ∀ d d' out, f d = .ok (d', out) → SameContents d d')
    (c : Connection (Database U)) : QuietConn c (c.step (.onMain f)).1 := by
  refine ⟨Connection.backing_step c _, Connection.journalMode_step c _, fun hc => ?_, fun s hs => ?_⟩
  · simp [Connection.step, hc]
  · rw [Connection.step_some hs]
    unfold Prepared.onMain
    cases hd : f s.main with
    | ok out => exact ⟨_, rfl, hf _ _ _ hd, rfl⟩
    | error e => exact ⟨s, rfl, .refl _, rfl⟩

/-- The node after actions that change the rows of the snapshots and the snapshot file only. -/
structure Quiet (w w' : World U) : Prop where
  conn : ∀ h, QuietConn (w.conn h) (w'.conn h)
  log : w'.lastAppliedLog = w.lastAppliedLog
  membership : w'.lastMembership = w.lastMembership
  faults : w.faults = [] → w'.faults = []

instance : Std.Refl (Quiet (U := U)) := ⟨fun _ => ⟨fun _ => .refl _, rfl, rfl, id⟩⟩

instance : IsTrans (World U) Quiet := ⟨fun _ _ _ h h' =>
  ⟨fun handle => (h.conn handle).trans (h'.conn handle), h'.log.trans h.log,
    h'.membership.trans h.membership, fun hf => h'.faults (h.faults hf)⟩⟩

theorem quiet_nextFault (w : World U) : Quiet w w.nextFault.2 := by
  unfold World.nextFault
  cases hf : w.faults with
  | nil => exact refl_of Quiet w
  | cons b rest => exact ⟨fun h => by cases h <;> exact .refl _, rfl, rfl, fun hnil => by simp [hf] at hnil⟩

theorem Quiet.setConn {w w' : World U} (hw : Quiet w w') (h : StorageHandle) {c : Connection (Database U)}
    (hc : QuietConn (w.conn h) c) : Quiet w (w'.setConn h c) := by
  refine ⟨fun h' => ?_, by simpa using hw.log, by simpa using hw.membership, by simpa using hw.faults⟩
  by_cases hh : h = h'
  · subst hh
    simpa using hc
  · rw [World.conn_setConn_ne w' hh]
    exact hw.conn h'

/-- The state machine shows the same. -/
theorem Shows.quiet [Serde LogId] [Serde EffectiveMembership] {data : StorageHandle} {v : Applied U}
    {w w' : World U} (h : Shows data v w) (hq : Quiet w w') : Shows data v w' := by
  obtain ⟨d, t, hr, ht, hs⟩ := h.reads
  obtain ⟨⟨d', saved⟩, hs', hsame, hsaved⟩ := (hq.conn data).session _ hr
  cases hsaved
  have hsome : d'.kvStates.isSome := by rw [hsame.kvStates, ht]; rfl
  obtain ⟨t', ht'⟩ := Option.isSome_iff_exists.1 hsome
  refine ⟨hq.faults h.faults, ⟨d', t', hs', ht', ?_⟩, hq.log.trans h.log, hq.membership.trans h.membership⟩
  exact ⟨(hsame.kv _ (by decide) (by decide)).trans hs.logRow,
    (hsame.kv _ (by decide) (by decide)).trans hs.membershipRow, hsame.user.trans hs.tables,
    hsame.hindrances.trans hs.clear, hsame.objects.trans hs.objects⟩

theorem within_submitTask_quiet {α : Type} {h : StorageHandle}
    {task : Connection (Database U) → Connection (Database U) × Except SqlError α}
    (ht : ∀ c, QuietConn c (task c).1) : (h.submitTask task).run.Within Quiet :=
  StorageHandle.within_submitTask quiet_nextFault fun w => (quiet_nextFault w).setConn h (ht _)

theorem within_fileTask {α : Type} (f : Option Bytes → Except IoError α × Option Bytes) :
    (fileTask f : StoreM U AnyError α).run.Within Quiet := by
  refine within_atomic fun w => ?_
  have hw := quiet_nextFault w
  split
  · exact hw
  · exact ⟨fun h => by cases h <;> exact hw.conn _, hw.log, hw.membership, hw.faults⟩

/-! ## Building -/

/-- The row `snapshot_index` is the only one that a statement writes. -/
def WritesIndex (f : Stmt U) : Prop := ∀ d d' out, f d = .ok (d', out) → ∃ t t', d.kvTable = some t ∧
  (∀ key, key ≠ snapshotIndexKey → t'.lookup key = t.lookup key) ∧ d' = d.withKvRows t t' out

theorem incSnapshotIndex_writesIndex : WritesIndex (incSnapshotIndex (U := U)) := by
  intro d d' out h
  obtain ⟨t, t', ht, -, hf, rfl⟩ := onKv_eq_ok h
  refine ⟨t, t', ht, fun key hne => ?_, rfl⟩
  cases hk : t.lookup snapshotIndexKey with
  | none =>
    simp only [hk] at hf
    cases hf
    rfl
  | some v =>
    simp only [hk] at hf
    cases hf
    exact AList.lookup_insert_ne hne

theorem insertSnapshotIndex_writesIndex : WritesIndex (insertSnapshotIndex (U := U)) := by
  intro d d' out h
  obtain ⟨t, t', ht, -, hf, rfl⟩ := onKv_eq_ok h
  refine ⟨t, t', ht, fun key hne => ?_, rfl⟩
  split at hf
  · cases hf
  · cases hf
    exact AList.lookup_insert_ne hne

theorem WritesIndex.sameContents {f : Stmt U} (hf : WritesIndex f) {d d' : Database U} {out : Output}
    (h : f d = .ok (d', out)) : SameContents d d' := by
  obtain ⟨t, t', ht, hrows, rfl⟩ := hf d d' out h
  exact sameContents_withKvRows ht (fun key _ hne => hrows key hne) out

theorem within_execute_quiet {h : StorageHandle} {f : Stmt U}
    (hf : ∀ d d' out, f d = .ok (d', out) → SameContents d d') :
    (h.execute (.onMain f)).run.Within Quiet := within_submitTask_quiet (quietConn_step hf)

theorem within_fetchOne_quiet {α : Type} {h : StorageHandle} {f : Stmt U}
    {fromRow : Row → Except SqlError α} (hf : ∀ d d' out, f d = .ok (d', out) → SameContents d d') :
    (h.fetchOne (.onMain f) fromRow).run.Within Quiet := within_submitTask_quiet (quietConn_step hf)

theorem within_getAndIncSnapshotIndex (store : RaftStore) :
    (store.getAndIncSnapshotIndex : StorageResult U UInt64).run.Within Quiet := by
  unfold RaftStore.getAndIncSnapshotIndex
  refine Within.run_bind (within_fetchOne_quiet fun _ _ _ => incSnapshotIndex_writesIndex.sameContents).run_mapErr
    fun index => ?_
  cases index with
  | none =>
    exact (within_execute_quiet fun _ _ _ => insertSnapshotIndex_writesIndex.sameContents).run_mapErr.run_bind
      fun _ => within_run_pure 0
  | some v => exact within_run_pure _

/-- The connections are the same. -/
def SameConns (w w' : World U) : Prop := ∀ h, w'.conn h = w.conn h

instance : Std.Refl (SameConns (U := U)) := ⟨fun _ _ => rfl⟩

instance : IsTrans (World U) SameConns := ⟨fun _ _ _ h h' handle => (h' handle).trans (h handle)⟩

theorem fileTask_sameConns {α : Type} (f : Option Bytes → Except IoError α × Option Bytes) :
    (fileTask f : StoreM U AnyError α).run.Within SameConns := by
  refine within_atomic fun w h => ?_
  split
  · exact World.conn_nextFault w h
  · have hw := World.conn_nextFault w h
    cases h <;> exact hw

section Build

variable [Serde SnapshotMeta]

theorem within_writeSnapshotMeta (h : StorageHandle) (metadata : SnapshotMeta) :
    (writeSnapshotMeta h metadata : StoreM U AnyError Unit).run.Within Quiet := by
  unfold writeSnapshotMeta
  refine Within.run_bind (within_run_liftResult _) fun data => ?_
  refine Within.run_bind (within_execute_quiet fun d d' out hd => ?_).run_mapErr fun _ => within_run_pure ()
  rw [(replicatKvUpsert_eq_ok hd).1]
  exact sameContents_putKv d (.inl rfl) _

theorem within_createSnapshot (env : Env U) (h : StorageHandle) (metadata : SnapshotMeta) :
    (createSnapshot env h metadata).run.Within Quiet := by
  unfold createSnapshot
  refine Within.run_bind (within_writeSnapshotMeta h metadata) fun _ => ?_
  refine Within.run_bind (within_serialize_of quiet_nextFault env h).run_mapErr fun image => ?_
  cases image with
  | none => exact within_run_pure []
  | some image => exact within_writeImage (fun f => within_fileTask f) image

/-- **Building a snapshot changes the rows of the snapshots and the snapshot file only.** -/
theorem within_buildSnapshot (env : Env U) (store : RaftStore) :
    (store.buildSnapshot env).run.Within Quiet := by
  unfold RaftStore.buildSnapshot
  refine Within.run_bind (within_run_liftAct fun w => refl_of Quiet w) fun log => ?_
  refine Within.run_bind (within_run_liftAct fun w => refl_of Quiet w) fun mem => ?_
  refine Within.run_bind (within_getAndIncSnapshotIndex store) fun index => ?_
  exact (within_createSnapshot env store.data _).run_mapErr.run_bind fun _ => within_run_pure _

/-! ### What it returns -/

/-- The row is written, or nothing is. -/
theorem writeSnapshotMeta_cases (h : StorageHandle) (metadata : SnapshotMeta) (w : World U) :
    (∃ s, (w.conn h).session = some s ∧ s.main.Writable snapshotMetaKey ∧
      (writeSnapshotMeta h metadata : StoreM U AnyError Unit).run.exec w =
        (.ok (), w.nextFault.2.setConn h { w.conn h with
          session := some { s with main := s.main.putKv snapshotMetaKey (.blob (encoded metadata)) } })) ∨
    ∃ e, (writeSnapshotMeta h metadata : StoreM U AnyError Unit).run.exec w = (.error e, w.nextFault.2) := by
  unfold writeSnapshotMeta
  rw [exec_run_bind_ok (exec_encode ..)]
  rcases exec_upsert_cases h snapshotMetaKey (.blob (encoded metadata)) w with
    ⟨s, -, hs, hw, hput⟩ | ⟨-, e, hfail⟩
  · refine .inl ⟨s, hs, hw, ?_⟩
    rw [exec_run_bind_ok (exec_task hput), exec_run_pure]
  · refine .inr ⟨.sql e, exec_run_bind_error ?_⟩
    rw [task, exec_run_mapErr, hfail]
    rfl

theorem writeSnapshotMeta_ok {h : StorageHandle} {metadata : SnapshotMeta} {w w' : World U}
    (hx : (writeSnapshotMeta h metadata : StoreM U AnyError Unit).run.exec w = (.ok (), w')) :
    ∃ s t, (w'.conn h).session = some s ∧ s.main.kvTable = some t ∧
      s.main.kv snapshotMetaKey = some (.blob (encoded metadata)) := by
  rcases writeSnapshotMeta_cases h metadata w with ⟨s, -, hw, hput⟩ | ⟨e, hfail⟩
  · cases hx.symm.trans hput
    rw [World.conn_setConn_self]
    obtain ⟨t, ht⟩ := Option.isSome_iff_exists.1 hw.1
    refine ⟨_, t.insert snapshotMetaKey (.blob (encoded metadata)), rfl, ?_,
      Database.kv_putKv_self_of_table ht ..⟩
    simp [Database.kvTable_putKv, ht]
  · cases hx.symm.trans hfail

omit [Serde SnapshotMeta] in
/-- The image is of what the connection reads; it is there when the key-value table is. -/
theorem serialize_ok {env : Env U} {h : StorageHandle} {image : Option Bytes} {w w' : World U}
    (hx : (h.serialize env).run.exec w = (.ok image, w')) {s : Session (Database U)} {t : KvTable}
    (hs : (w.conn h).session = some s) (ht : s.main.kvTable = some t) :
    image = some (env.serialize (w.conn h).journalMode s.main) ∧ w'.conn h = w.conn h := by
  unfold StorageHandle.serialize at hx
  obtain ⟨name, w₁, hname, hx⟩ := exec_run_bind_eq_ok hx
  obtain ⟨hname', rfl⟩ := StorageHandle.exec_submitTask_eq_ok hname
  have hmaster : selectSqliteMaster env s.main = .ok (s.main, _) := rfl
  have hstep := Connection.step_onMain hs hmaster
  have hread : (w.conn h).queryRow (.onMain (selectSqliteMaster env)) fromRowText =
      (w.conn h, .ok (some kvTableName)) := by
    unfold Connection.queryRow
    rw [hstep]
    refine Prod.ext ?_ ?_
    · show { w.conn h with session := some s } = w.conn h
      rw [← hs]
    · simp only [ht]
      rfl
  rw [hread] at hname'
  cases hname'
  obtain ⟨data, w₂, himage, hpure⟩ := exec_run_bind_eq_ok hx
  cases hpure
  have hser : StorageHandle.serializeDb env (w.conn h) =
      (w.conn h, .ok (env.serialize (w.conn h).journalMode s.main)) := by
    unfold StorageHandle.serializeDb
    rw [hs]
  obtain ⟨hdata, rfl⟩ := StorageHandle.exec_submitTask_eq_ok himage
  rw [World.conn_setConn_self, hread, hser] at hdata
  cases hdata
  refine ⟨rfl, ?_⟩
  rw [World.conn_setConn_self, World.conn_setConn_self, hread, hser]

/-- **What `build_snapshot` returns**: the cached fields, and the image of the contents it
leaves on the data connection. -/
theorem buildSnapshot_ok {env : Env U} {store : RaftStore} {snap : Snapshot} {w w' : World U}
    (hx : (store.buildSnapshot env).run.exec w = (.ok snap, w')) :
    snap.metadata.lastLogId = w.lastAppliedLog ∧ snap.metadata.lastMembership = w.lastMembership ∧
      ∃ s t, (w'.conn store.data).session = some s ∧ s.main.kvTable = some t ∧
        snap.snapshot = env.serialize (w'.conn store.data).journalMode s.main ∧
        s.main.kv snapshotMetaKey = some (.blob (encoded snap.metadata)) := by
  unfold RaftStore.buildSnapshot StateMachine.lastAppliedLog StateMachine.lastMembership at hx
  rw [exec_run_bind_ok (exec_run_liftAct ..), exec_run_bind_ok (exec_run_liftAct ..)] at hx
  obtain ⟨index, w₁, -, hx⟩ := exec_run_bind_eq_ok hx
  obtain ⟨image, w₂, hcreate, hpure⟩ := exec_run_bind_eq_ok hx
  cases hpure
  refine ⟨rfl, rfl, ?_⟩
  have hcreate := exec_run_mapErr_eq_ok hcreate
  unfold createSnapshot at hcreate
  obtain ⟨_, w₃, hmeta, hcreate⟩ := exec_run_bind_eq_ok hcreate
  obtain ⟨s, t, hs, ht, hrow⟩ := writeSnapshotMeta_ok hmeta
  obtain ⟨data, w₄, hser, hcreate⟩ := exec_run_bind_eq_ok hcreate
  obtain ⟨rfl, hs'⟩ := serialize_ok (exec_run_mapErr_eq_ok hser) hs ht
  -- The rest writes the image to the file.
  have hfile := within_writeImage (fun f => fileTask_sameConns (U := U) f)
    (env.serialize (w₃.conn store.data).journalMode s.main)
  have hsame := hfile.exec w₄ store.data
  rw [hcreate] at hsame
  have hconn := Eq.trans hsame hs'
  refine ⟨s, t, by rw [hconn]; exact hs, ht, ?_, hrow⟩
  rw [hconn]
  obtain ⟨_, _, -, hcreate⟩ := exec_run_bind_eq_ok hcreate
  obtain ⟨_, _, -, hcreate⟩ := exec_run_bind_eq_ok hcreate
  obtain ⟨_, _, -, hcreate⟩ := exec_run_bind_eq_ok hcreate
  obtain ⟨_, _, -, hpure⟩ := exec_run_bind_eq_ok hcreate
  cases hpure
  rfl

end Build

/-! ## Installing -/

section Install

variable [Serde SnapshotMeta] {env : Env U} {store : RaftStore} {w : World U}

theorem writeSnapshotMeta_exec {h : StorageHandle} {d : Database U} {t : KvTable}
    {metadata : SnapshotMeta} (hf : w.faults = []) (hr : w.Reads h d) (ht : d.kvStates = some t) :
    (writeSnapshotMeta h metadata : StoreM U AnyError Unit).run.exec w =
      (.ok (), w.setDb h (d.putKv snapshotMetaKey (.blob (encoded metadata)))) := by
  unfold writeSnapshotMeta
  rw [exec_run_bind_ok (exec_encode ..),
    exec_run_bind_ok (exec_task (exec_execute hf hr (replicatKvUpsert_eq ht ..) rfl)), exec_run_pure]

/-- The data connection after an install of an image that shows `d`. -/
def installed (c : Connection (Database U)) (metadata : SnapshotMeta) (d : Database U) :
    Connection (Database U) :=
  { c.replaced (some d) with
    session := (c.replaced (some d)).session.map fun s =>
      { s with main := s.main.putKv snapshotMetaKey (.blob (encoded metadata)) } }

/-- **Installing replaces the contents of the data connection**, which goes on in memory. The
cached fields stay as they are. -/
theorem installSnapshot_exec {d₀ d : Database U} {t : KvTable} {metadata : SnapshotMeta} {buf : Bytes}
    (hf : w.faults = []) (hr : w.Reads store.data d₀) (hne : buf ≠ []) (hload : env.deserialize buf = some d)
    (ht : (Contents.replace d₀ d).kvStates = some t) :
    (store.installSnapshot env metadata buf).run.exec w =
      (.ok (), w.setConn store.data (installed (w.conn store.data) metadata d)) := by
  have hne : buf.isEmpty = false := by rwa [List.isEmpty_eq_false_iff]
  have hslice : (liftResult ((StorageHandle.fromSlice buf).mapError fun e =>
      createSnapshotErr (.sql e)) : StorageResult U Bytes).run.exec w = (.ok buf, w) := by
    simp [StorageHandle.fromSlice, hne, Except.mapError]
  have hload : (StorageHandle.loadFromSerialized env store.data buf).run.exec w =
      (.ok (), w.setConn store.data ((w.conn store.data).replaced (some d))) := by
    refine StorageHandle.exec_submitTask_ok hf ?_
    unfold StorageHandle.deserializeDb
    rw [hload]
    rfl
  have hsession : ((w.conn store.data).replaced (some d)).session =
      some ⟨Contents.replace d₀ d, none⟩ := Connection.replaced_some hr _
  unfold RaftStore.installSnapshot
  rw [exec_run_bind_ok hslice, exec_run_bind_ok (exec_task hload), exec_run_mapErr,
    writeSnapshotMeta_exec (by simpa) (by simpa [World.Reads] using hsession) ht]
  simp [World.setDb, installed, Except.mapError, hsession]

/-- After an install the rows and the tables are those of the image, the cached fields those
from before. -/
theorem Shows.installed [Serde LogId] [Serde EffectiveMembership] {data : StorageHandle}
    {v v' : Applied U} {d : Database U} {t : KvTable} (h : Shows data v w) (metadata : SnapshotMeta)
    (ht : d.kvStates = some t) (hs : Stored v' d) :
    Shows data { v' with log := v.log, membership := v.membership }
      (w.setConn data (installed (w.conn data) metadata d)) := by
  obtain ⟨d₀, -, hr, -, hs₀⟩ := h.reads
  have hkeys : lastLogKey ≠ snapshotMetaKey ∧ lastMembershipKey ≠ snapshotMetaKey := by decide
  have hloaded : Stored v' (Contents.replace d₀ d) :=
    ⟨hs.logRow, hs.membershipRow, hs.tables, (Database.clear_replace hs₀.clear).trans hs.clear, hs₀.objects⟩
  have hd := hloaded.putKv_other hkeys.1 hkeys.2 (.blob (encoded metadata))
  have hsome := Database.isSome_putKv (Database.kvStates_replace hs₀.clear ht) snapshotMetaKey
    (.blob (encoded metadata))
  obtain ⟨t', ht'⟩ := Option.isSome_iff_exists.1 hsome
  have hsession : ((w.conn data).replaced (some d)).session = some ⟨Contents.replace d₀ d, none⟩ :=
    Connection.replaced_some hr _
  refine ⟨by simpa using h.faults, ⟨_, t', ?_, ht', hd.logRow, hd.membershipRow, hd.tables, hd.clear, hd.objects⟩,
    ?_, ?_⟩
  · simp [World.Reads, Replicat.installed, hsession]
  · simpa using h.log
  · simpa using h.membership

end Install

end Replicat
