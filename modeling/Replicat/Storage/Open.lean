import Replicat.Storage.Apply

/-!
# Opening a store

What `open` finds and leaves behind. `openStore_exec` is the whole call on a storage that does
not fail, and `openStore_within` bounds each of its actions, so that what every action
preserves also survives a crash in the middle of the call.
-/

namespace Replicat

open Sqlite Atomics Atomics.Prog

variable {U : Type}

namespace Database

/-- The contents after `REPLICAT_KV_TABLE`. -/
def withKv (d : Database U) : Database U := { d with kvTable := some (d.kvTable.getD ∅) }

/-- The contents after `REPLICAT_RAFT_LOGS_TABLE`. -/
def withLogs (d : Database U) : Database U := { d with logTable := some (d.logTable.getD .empty) }

@[simp] theorem kv_withKv (d : Database U) (key : String) : d.withKv.kv key = d.kv key := by
  unfold kv withKv
  cases d.kvTable with
  | none => exact AList.lookup_empty key
  | some t => rfl

@[simp] theorem kv_withLogs (d : Database U) (key : String) : d.withLogs.kv key = d.kv key := rfl
@[simp] theorem user_withKv (d : Database U) : d.withKv.user = d.user := rfl

/-- With nothing in the way the table is there and can be written. -/
theorem kvStates_withKv {d : Database U} (h : d.hindrances = []) :
    d.withKv.kvStates = some (d.kvTable.getD ∅) := kvStates_eq_some.2 ⟨h, rfl⟩

end Database

theorem replicatKvTable_eq (d : Database U) : replicatKvTable d = .ok (d.withKv, ⟨[], 0⟩) := rfl

theorem replicatRaftLogsTable_eq (d : Database U) :
    replicatRaftLogsTable d = .ok (d.withLogs, ⟨[], 0⟩) := rfl

/-- A node whose disk is empty. -/
def World.fresh : World U := ⟨.absent, .absent, none, default, none, []⟩

/-- The handle the state machine is on. -/
def dataHandle : Option StateStore → StorageHandle
  | none => .logDb
  | some _ => .stateDb

/-- The store `open` returns. -/
def storeOf (stateStore : Option StateStore) : RaftStore := ⟨.logDb, dataHandle stateStore⟩

/-- The connection `open` makes for a path. -/
def openConn (env : Env U) (path : StateStore) (c : Connection (Database U)) :
    Connection (Database U) :=
  match path with
  | .file => .openDisk (Database.empty env) c.durable
  | .memory => .openMemory (Database.empty env)

/-- What a connection opened on a path starts from. -/
def found (env : Env U) (path : StateStore) (c : Connection (Database U)) : Database U :=
  match path with
  | .file => c.durable.elim (Database.empty env) atRest
  | .memory => Database.empty env

theorem atRest_found (env : Env U) (path : StateStore) (c : Connection (Database U)) :
    atRest (found env path c) = found env path c := by
  cases path with
  | memory => rfl
  | file =>
    unfold found
    cases c.durable with
    | none => rfl
    | some d => exact Contents.atRest_atRest d

theorem session_openConn (env : Env U) (path : StateStore) (c : Connection (Database U)) :
    (openConn env path c).session = some ⟨found env path c, none⟩ := by
  cases path <;> rfl

/-! ## The whole call -/

section Exec

variable {env : Env U} {w : World U} {h : StorageHandle} {d : Database U}

/-- An open is a task of its connection. -/
theorem openHandle_eq (env : Env U) (h : StorageHandle) (path : StateStore) :
    openHandle env h path = h.submitTask fun c => (openConn env path c, .ok h) := rfl

theorem openHandle_exec (hf : w.faults = []) (path : StateStore) :
    (openHandle env h path).run.exec w = (.ok h, w.setConn h (openConn env path (w.conn h))) := by
  rw [openHandle_eq, StorageHandle.exec_submitTask hf]

/-- The log connection once it is set up. -/
def setUp (c : Connection (Database U)) (d : Database U) : Connection (Database U) :=
  { c with session := some ⟨d.withLogs.withKv, none⟩, journalMode := .wal, synchronous := .normal }

theorem setupLogStore_exec (hf : w.faults = []) (hb : (w.conn h).backing = .disk)
    (hr : w.Reads h d) :
    (setupLogStore h : StoreM U SqlError Unit).run.exec w =
      (.ok (), w.setConn h (setUp (w.conn h) d)) := by
  have hr : (w.conn h).session = some ⟨d, none⟩ := hr
  have hwal : pragmaJournalModeWal (w.conn h) =
      ({ w.conn h with journalMode := .wal }, .ok (some "wal")) := by
    simp [pragmaJournalModeWal, hb]
  unfold setupLogStore
  rw [exec_run_bind_ok (StorageHandle.exec_submitTask_ok hf hwal),
    exec_run_bind_ok (StorageHandle.exec_submitTask_ok (by simpa) rfl),
    exec_run_bind_ok (StorageHandle.exec_submitTask_ok (by simpa) rfl),
    exec_run_bind_ok (exec_execute (by simpa) ?_ (replicatRaftLogsTable_eq d) rfl),
    exec_run_bind_ok (exec_execute (by simpa) ?_ (replicatKvTable_eq d.withLogs) rfl),
    exec_run_pure]
  · simp [World.setDb, setUp]
  · simp [World.Reads, World.setDb]
  · simp [World.Reads, hr]

variable [Serde LogId] [Serde EffectiveMembership]

theorem createStateMachine_exec {v : Applied U} (hf : w.faults = []) (hr : w.Reads h d)
    (hs : Stored v d) :
    (createStateMachine h : StoreM U AnyError Unit).run.exec w =
      (.ok (), { w.setDb h d.withKv with
        lastAppliedLog := v.logRow, lastMembership := v.membershipRow.getD default }) := by
  have hlog : d.withKv.kv lastLogKey = v.logRow.map fun a => .blob (encoded a) := by
    rw [Database.kv_withKv]; exact hs.logRow
  have hmem : d.withKv.kv lastMembershipKey = v.membershipRow.map fun a => .blob (encoded a) := by
    rw [Database.kv_withKv]; exact hs.membershipRow
  have hf' : (w.setDb h d.withKv).faults = [] := by rwa [World.faults_setDb]
  have hr' := World.reads_setDb w h d.withKv
  unfold createStateMachine
  rw [exec_run_bind_ok (exec_task (exec_execute hf hr (replicatKvTable_eq d) rfl)),
    exec_run_bind_ok (exec_task (exec_fetchKv hf' hr' rfl hlog)),
    exec_run_bind_ok (exec_decodeOption ..),
    exec_run_bind_ok (exec_task (exec_fetchKv hf' hr' rfl hmem)),
    exec_run_bind_ok (exec_decodeOption ..)]
  rfl

/-- The node after `open`, when the rows found are those of `v`. -/
def opened (env : Env U) (stateStore : Option StateStore) (v : Applied U) (w : World U) : World U where
  logDb := setUp (openConn env .file w.logDb) (found env .file w.logDb)
  stateDb := match stateStore with
    | none => w.stateDb
    | some path => { openConn env path w.stateDb with
        session := some ⟨(found env path w.stateDb).withKv, none⟩ }
  lastAppliedLog := v.logRow
  lastMembership := v.membershipRow.getD default
  snapshotFile := w.snapshotFile
  faults := w.faults

/-- What the state machine of a store opened with `stateStore` finds. -/
def foundData (env : Env U) (stateStore : Option StateStore) (w : World U) : Database U :=
  match stateStore with
  | none => found env .file w.logDb
  | some path => found env path w.stateDb

omit [Serde LogId] [Serde EffectiveMembership] in
/-- A connection that is opened has nothing of a client's on it. -/
theorem objects_foundData (env : Env U) (stateStore : Option StateStore) (w : World U) :
    (foundData env stateStore w).own.objects = [] := by
  have hfound : ∀ path (c : Connection (Database U)), (found env path c).own.objects = [] := by
    intro path c
    rw [← atRest_found]
    rfl
  cases stateStore with
  | none => exact hfound .file w.logDb
  | some path => exact hfound path w.stateDb

theorem Stored.withKv {v : Applied U} (h : Stored v d) : Stored v d.withKv where
  logRow := by rw [Database.kv_withKv]; exact h.logRow
  membershipRow := by rw [Database.kv_withKv]; exact h.membershipRow
  tables := h.tables
  clear := h.clear
  objects := h.objects

theorem Stored.withLogs {v : Applied U} (h : Stored v d) : Stored v d.withLogs :=
  ⟨h.logRow, h.membershipRow, h.tables, h.clear, h.objects⟩

/-- What a row shows is not of one connection. -/
theorem Stored.atRest {v : Applied U} (h : Stored v d) : Stored v (atRest d) :=
  ⟨h.logRow, h.membershipRow, h.tables, Database.clear_atRest h.clear, rfl⟩

/-- **`open` reads the state machine back from its rows.** -/
theorem openStore_exec {stateStore : Option StateStore} {v : Applied U} (hf : w.faults = [])
    (hs : Stored v (foundData env stateStore w)) :
    (RaftStore.openStore env stateStore).run.exec w =
      (.ok ⟨.logDb, dataHandle stateStore⟩, opened env stateStore v w) := by
  unfold RaftStore.openStore
  cases stateStore with
  | none =>
    rw [exec_run_bind_ok (exec_task (openHandle_exec hf .file)), exec_run_bind_ok (exec_run_pure ..),
      exec_run_bind_ok (exec_task (setupLogStore_exec (d := found env .file w.logDb) (by simpa) ?_ ?_)),
      exec_run_bind_ok (createStateMachine_exec (d := (found env .file w.logDb).withLogs.withKv)
        (by simpa) ?_ hs.withLogs.withKv)]
    · rfl
    · simp [World.Reads, setUp]
    · rfl
    · exact session_openConn env .file w.logDb
  | some path =>
    rw [exec_run_bind_ok (exec_task (openHandle_exec hf .file)),
      exec_run_bind_ok (exec_task (openHandle_exec (by simpa) path)),
      exec_run_bind_ok (exec_task (setupLogStore_exec (d := found env .file w.logDb) (by simpa) ?_ ?_)),
      exec_run_bind_ok (createStateMachine_exec (d := found env path w.stateDb) (by simpa) ?_ hs)]
    · rfl
    · exact session_openConn env path w.stateDb
    · rfl
    · exact session_openConn env .file w.logDb

end Exec

/-! ## Every action of the call -/

section Bound

variable {R : World U → World U → Prop}

/-- What bounds the five statements bounds the setup. -/
theorem setupLogStore_within {h : StorageHandle} (hjournal : (h.submitTask pragmaJournalModeWal).run.Within R)
    (hsync : (h.submitTask pragmaSynchronousNormal).run.Within R)
    (htemp : (h.submitTask pragmaTempStoreMemory).run.Within R)
    (hlogs : (h.execute (.onMain replicatRaftLogsTable)).run.Within R)
    (hkv : (h.execute (.onMain replicatKvTable)).run.Within R) :
    (setupLogStore h : StoreM U SqlError Unit).run.Within R := by
  unfold setupLogStore
  refine hjournal.run_bind fun _ => ?_
  refine hsync.run_bind fun _ => ?_
  refine htemp.run_bind fun _ => ?_
  refine hlogs.run_bind fun _ => ?_
  exact hkv.run_bind fun _ => within_run_pure ()

variable [Serde LogId] [Serde EffectiveMembership]

/-- The table, the two rows, and the fields they are read into. -/
theorem createStateMachine_within {h : StorageHandle} (hkv : (h.execute (.onMain replicatKvTable)).run.Within R)
    (hselect : ∀ key, (h.fetchOne (.onMain (replicatKvSelectValue key)) fromRowBlob).run.Within R)
    (hfields : ∀ (w : World U) log membership,
      R w { w with lastAppliedLog := log, lastMembership := membership }) :
    (createStateMachine h : StoreM U AnyError Unit).run.Within R := by
  unfold createStateMachine
  refine hkv.run_mapErr.run_bind fun _ => ?_
  refine (hselect lastLogKey).run_mapErr.run_bind fun log => ?_
  refine (within_decodeOption id log).run_bind fun log => ?_
  refine (hselect lastMembershipKey).run_mapErr.run_bind fun membership => ?_
  refine (within_decodeOption id membership).run_bind fun membership => ?_
  exact within_run_liftAct fun w => hfields w _ _

/-- What an open does once it has its connections. -/
theorem openRest_within {log data : StorageHandle}
    (hsetup : (setupLogStore log : StoreM U SqlError Unit).run.Within R)
    (hcreate : (createStateMachine data : StoreM U AnyError Unit).run.Within R) : (do
      task id (setupLogStore log)
      createStateMachine data
      pure ⟨log, data⟩ : StoreM U AnyError RaftStore).run.Within R :=
  hsetup.run_mapErr.run_bind fun _ => hcreate.run_bind fun _ => within_run_pure _

theorem openStore_within {env : Env U} {stateStore : Option StateStore}
    (hlog : (openHandle env .logDb .file).run.Within R)
    (hdata : ∀ path, stateStore = some path → (openHandle env .stateDb path).run.Within R)
    (hsetup : ∀ log, (setupLogStore log : StoreM U SqlError Unit).run.Within R)
    (hcreate : ∀ data, (createStateMachine data : StoreM U AnyError Unit).run.Within R) :
    (RaftStore.openStore env stateStore).run.Within R := by
  unfold RaftStore.openStore
  refine hlog.run_mapErr.run_bind fun log => ?_
  cases stateStore with
  | none =>
    exact (within_run_pure log).run_bind fun data => openRest_within (hsetup log) (hcreate data)
  | some path =>
    exact (hdata path rfl).run_mapErr.run_bind fun data => openRest_within (hsetup log) (hcreate data)

end Bound

section Within

variable {env : Env U} {Q : Database U → Prop}

/-- A statement that keeps `Q` keeps it for what a later open finds. -/
theorem found_step {f : Stmt U} (hf : ∀ d d' out, f d = .ok (d', out) → Q (atRest d) → Q (atRest d'))
    (path : StateStore) {c : Connection (Database U)} (h : Q (found env path c)) :
    Q (found env path (c.step (.onMain f)).1) := by
  rcases c.step_onMain_cases f with ⟨s, d, out, hs, hd, hstep⟩ | ⟨e, hstep⟩ <;> rw [hstep]
  · rcases c with ⟨_, _ | left, journal, sync⟩ <;> cases path <;> try exact h
    cases hs
    rcases s with ⟨d₀, _ | saved⟩
    · exact hf d₀ d out hd h
    · exact h
  · exact h

/-- The storage is sound and what `open` finds satisfies `Q`. -/
def Finds (env : Env U) (stateStore : Option StateStore) (Q : Database U → Prop) (w : World U) :
    Prop :=
  w.faults = [] ∧ Q (foundData env stateStore w)

variable {stateStore : Option StateStore}

/-- A crash leaves what `open` finds. -/
theorem Finds.crash {w : World U} (h : Finds env stateStore Q w) : Finds env stateStore Q w.crash := by
  have hfound : foundData env stateStore w.crash = foundData env stateStore w := by
    rcases stateStore with _ | _ | _ <;> simp [foundData, found, World.crash]
  exact ⟨h.1, by rw [hfound]; exact h.2⟩

theorem Finds.setConn {w : World U} (h : Finds env stateStore Q w) (handle : StorageHandle)
    {c : Connection (Database U)}
    (hc : Q (found env (stateStore.getD .file) (w.conn handle)) →
      Q (found env (stateStore.getD .file) c)) :
    Finds env stateStore Q (w.setConn handle c) := by
  refine ⟨by rw [World.faults_setConn]; exact h.1, ?_⟩
  have hq := h.2
  rcases stateStore with _ | path <;> cases handle
  · exact hc hq
  · exact hq
  · exact hq
  · exact hc hq

theorem within_submitTask_finds {α : Type} {h : StorageHandle}
    {task : Connection (Database U) → Connection (Database U) × Except SqlError α}
    (ht : ∀ path c, Q (found env path c) → Q (found env path (task c).1)) :
    (h.submitTask task).run.Within (Keeps (Finds env stateStore Q)) := by
  refine within_atomic fun w hw => ?_
  rw [World.nextFault_nil hw.1]
  exact hw.setConn h (ht _ _)

theorem within_execute_finds {h : StorageHandle} {f : Stmt U}
    (hf : ∀ d d' out, f d = .ok (d', out) → Q (atRest d) → Q (atRest d')) :
    (h.execute (.onMain f)).run.Within (Keeps (Finds env stateStore Q)) :=
  within_submitTask_finds fun path _ => found_step hf path

theorem within_fetchOne_finds {α : Type} {h : StorageHandle} {f : Stmt U}
    {fromRow : Row → Except SqlError α}
    (hf : ∀ d d' out, f d = .ok (d', out) → Q (atRest d) → Q (atRest d')) :
    (h.fetchOne (.onMain f) fromRow).run.Within (Keeps (Finds env stateStore Q)) :=
  within_submitTask_finds fun path _ => found_step hf path

theorem within_openHandle {h : StorageHandle} {path : StateStore}
    (hp : path = stateStore.getD .file ∨ path = .file) :
    (openHandle env h path).run.Within (Keeps (Finds env stateStore Q)) := by
  refine within_atomic fun w hw => ?_
  rw [World.nextFault_nil hw.1]
  refine hw.setConn h fun hq => ?_
  generalize stateStore.getD .file = found' at hp hq
  have hsame : ∀ c, found env path (openConn env path c) = found env path c := by
    intro c
    rw [← atRest_found env path c]
    cases path <;> rfl
  cases found' with
  | memory => exact hq
  | file =>
    obtain rfl : path = .file := by rcases hp with hp | hp <;> exact hp
    show Q (found env .file (openConn env .file (w.conn h)))
    rwa [hsame]

theorem within_setupLogStore (h : StorageHandle) (hkv : ∀ d, Q d → Q d.withKv)
    (hlogs : ∀ d, Q d → Q d.withLogs) :
    (setupLogStore h : StoreM U SqlError Unit).run.Within (Keeps (Finds env stateStore Q)) := by
  have hfound : ∀ (path : StateStore) (c c' : Connection (Database U)), c'.durable = c.durable →
      Q (found env path c) → Q (found env path c') := by
    intro path c c' hc hq
    cases path with
    | memory => exact hq
    | file => simpa only [found, hc] using hq
  refine setupLogStore_within (within_submitTask_finds fun path c => hfound path c _ ?_)
    (within_submitTask_finds fun path c => hfound path c _ rfl)
    (within_submitTask_finds fun path c => hfound path c _ rfl)
    (within_execute_finds ?_) (within_execute_finds ?_)
  · rcases c with ⟨_, _ | _, _, _⟩ <;> rfl
  · rintro d _ _ ⟨⟩ hq
    exact hlogs (atRest d) hq
  · rintro d _ _ ⟨⟩ hq
    exact hkv (atRest d) hq

theorem replicatKvSelectValue_same {key : String} {d d' : Database U} {out : Output}
    (h : replicatKvSelectValue key d = .ok (d', out)) : d' = d := by
  rcases ht : d.kvTable with _ | t <;> simp only [replicatKvSelectValue, fromKv, ht] at h <;> cases h
  rfl

variable [Serde LogId] [Serde EffectiveMembership]

theorem within_createStateMachine (h : StorageHandle) (hkv : ∀ d, Q d → Q d.withKv) :
    (createStateMachine h : StoreM U AnyError Unit).run.Within (Keeps (Finds env stateStore Q)) := by
  have hselect : ∀ (key : String) (d d' : Database U) (out : Output),
      replicatKvSelectValue key d = .ok (d', out) → Q (atRest d) → Q (atRest d') := by
    intro key d d' out hd hq
    rw [replicatKvSelectValue_same hd]
    exact hq
  refine createStateMachine_within (within_execute_finds ?_) (fun key => within_fetchOne_finds (hselect key))
    fun w _ _ hw => hw
  rintro d _ _ ⟨⟩ hq
  exact hkv (atRest d) hq

/-- **No action of `open` changes what a later `open` finds**, as far as `Q` sees it. -/
theorem within_openStore (hkv : ∀ d, Q d → Q d.withKv) (hlogs : ∀ d, Q d → Q d.withLogs) :
    (RaftStore.openStore env stateStore).run.Within (Keeps (Finds env stateStore Q)) := by
  refine openStore_within (within_openHandle (.inr rfl)) (fun path hpath => ?_)
    (fun log => within_setupLogStore log hkv hlogs) fun data => within_createStateMachine data hkv
  subst hpath
  exact within_openHandle (.inl rfl)

/-- A store just opened shows what its rows say. -/
theorem opened_shows {stateStore : Option StateStore} {v : Applied U} {w : World U}
    (h : Finds env stateStore (Stored v) w) (hl : v.log = v.logRow)
    (hm : v.membership = v.membershipRow.getD default) :
    Shows (dataHandle stateStore) v (opened env stateStore v w) := by
  refine ⟨h.1, ?_, hl.symm, hm.symm⟩
  have hs := h.2
  cases stateStore with
  | none => exact ⟨_, _, rfl, Database.kvStates_withKv hs.clear, hs.withLogs.withKv⟩
  | some path => exact ⟨_, _, rfl, Database.kvStates_withKv hs.clear, hs.withKv⟩

theorem finds_fresh (env : Env U) (effect : Request → U → U) (stateStore : Option StateStore) :
    Finds env stateStore (Stored (Applied.at effect env.emptyUser [])) World.fresh := by
  refine ⟨rfl, ?_⟩
  rcases stateStore with _ | _ | _ <;> exact ⟨rfl, rfl, rfl, rfl, rfl⟩

end Within

end Replicat
